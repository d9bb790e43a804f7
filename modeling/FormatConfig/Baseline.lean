import FormatConfig.Toml.Report
import FormatConfig.Toml.Decode
import FormatConfig.Options
import FormatConfig.Fs.Basic
import FormatConfig.Error

/-!
# The baseline file

`lintfmt.toml` sets the options every file starts from, in its `[format]` table:
`indent_size`, `tab_size`, `indent_style` (`none`, `block` or `smart`), `new_line`
(`lf`, `crlf` or `cr`) and `convert_tabs_to_spaces`. Every key is optional, and so is
the table.

The baseline handed to the option sources takes each of the indentation widths and the
line terminator from the command line if given there, else from the file, else from the
defaults; the indentation style and the indentation character come from the file or the
defaults only.
-/

namespace FormatConfig

/-- The `[format]` table of the baseline file. -/
structure FormatSection where
  indentSize : Option Nat := none
  tabSize : Option Nat := none
  indentStyle : Option IndentStyle := none
  newLine : Option NewLine := none
  convertTabsToSpaces : Option Bool := none
deriving DecidableEq, Repr, Inhabited

/-- Baseline settings given on the command line. -/
structure CommandLineOptions where
  indentSize : Option Nat := none
  tabSize : Option Nat := none
  newLine : Option NewLine := none
deriving DecidableEq, Repr, Inhabited

namespace FormatSection

open Toml

/-- The indentation styles by name. -/
def styleNames : List String := ["none", "block", "smart"]

/-- The line terminators by name. -/
def newLineNames : List String := ["lf", "crlf", "cr"]

/-- The indentation style of a name. -/
def styleOfName : String → IndentStyle
  | "none" => .none
  | "block" => .block
  | _ => .smart

/-- The line terminator of a name. -/
def newLineOfName : String → NewLine
  | "lf" => .lf
  | "crlf" => .crLf
  | _ => .cr

/-- The field names, in declaration order. -/
def fieldNames : List String :=
  ["indent_size", "tab_size", "indent_style", "new_line", "convert_tabs_to_spaces"]

/-- Reads one field; unknown names are skipped. -/
def setField (s : FormatSection) (name : String) (v : Toml.Node) : Except DecodeError FormatSection :=
  match name with
  | "indent_size" => do return { s with indentSize := some (← decodeSize v) }
  | "tab_size" => do return { s with tabSize := some (← decodeSize v) }
  | "indent_style" => do
    return { s with indentStyle := some (styleOfName (← decodeVariant styleNames v)) }
  | "new_line" => do
    return { s with newLine := some (newLineOfName (← decodeVariant newLineNames v)) }
  | "convert_tabs_to_spaces" => do return { s with convertTabsToSpaces := some (← decodeBool v) }
  | _ => .ok s

/-- Reads the fields from the items of an array, in order. -/
def fromItems (span : Option Span) (items : List Toml.Node) : Except DecodeError FormatSection :=
  (fieldNames.zipIdx).foldlM (fun s (name, i) =>
    match items[i]? with
    | some v => atSpan v.span? (s.setField name v)
    | none => .error ⟨"invalid length " ++ toString i ++
        ", expected struct FormatSection with 5 elements", span⟩) {}

/-- Reads the `[format]` table. -/
def decode (n : Toml.Node) : Except DecodeError FormatSection :=
  atSpan n.span? <|
  match n with
  | .table es _ _ _ | .inlineTable es _ _ _ =>
    es.foldlM (fun s (k, v) => atSpan (v.span? <|> some k.span) (s.setField k.name v)) {}
  | .array items sp => fromItems (some sp) items
  | .arrayOfTables tables sp => fromItems sp tables
  | other => .error (invalidType other "struct FormatSection")

/-- Reads the `[format]` table of a document, if it has one. -/
def ofDocument (root : Toml.Node) : Except DecodeError FormatSection :=
  match root.entries.find? (·.1.name == "format") with
  | some (k, v) => atSpan (v.span? <|> some k.span) (decode v)
  | none => .ok {}

end FormatSection

/-- The `[format]` table of a baseline text, or the error shown for it. -/
def FormatSection.ofText (text : String) : Except String FormatSection :=
  match Toml.parse text with
  | .error e => .error (e.render text)
  | .ok root =>
    match FormatSection.ofDocument root with
    | .ok s => .ok s
    | .error e =>
      let mark := e.span.map fun sp =>
        (sp.start, Toml.utf8Width ((text.toList.toArray.extract sp.start sp.stop).toList))
      .error ({ message := e.message, mark : Toml.TomlError }.render text)

namespace FileSystem

/-- Reads a baseline file. -/
def loadBaseline (fs : FileSystem) (p : Path) : Except Error FormatSection :=
  match fs.readText p with
  | .error e => .error (.io p e)
  | .ok text =>
    match FormatSection.ofText text with
    | .ok s => .ok s
    | .error d => .error (.toml p d)

end FileSystem

/-- The options every file starts from: the command line first, then the baseline
file, then the defaults. -/
def mergeBaseline (cli : CommandLineOptions) (file : Option FormatSection) : FormatOptions :=
  let d := FormatOptions.default
  { d with
    indentSize := (cli.indentSize <|> file.bind (·.indentSize)).getD d.indentSize
    tabSize := (cli.tabSize <|> file.bind (·.tabSize)).getD d.tabSize
    newLineCharacter := (cli.newLine <|> file.bind (·.newLine)).getD d.newLineCharacter
    indentStyle := (file.bind (·.indentStyle)).getD d.indentStyle
    convertTabsToSpaces := (file.bind (·.convertTabsToSpaces)).getD d.convertTabsToSpaces }

end FormatConfig
