import FormatConfig.Fs.Basic
import FormatConfig.Error
import FormatConfig.Glob.Match
import FormatConfig.Text.Unicode

/-!
# Editor settings files

An `.editorconfig` file is a list of lines. After trimming white space, empty lines and
lines starting with `#` or `;` are comments; a line in brackets opens a section whose
header is a glob pattern; any other line holding `=` sets a key to a value, both
trimmed and lower-cased. Keys before the first section and keys in sections whose
pattern does not match the file are ignored; later settings win.

A section header may contain one brace group: `*.{ts,tsx}` stands for `*.ts` and
`*.tsx`. Only the first `{` and the first `}` count, and a `}` before the `{` leaves the
header as it is. Patterns are matched against the bare file name.

Four keys are read: `indent_style`, `indent_size`, `tab_width` and `end_of_line`. The
two sizes must be unsigned decimal numbers below `2^64`, possibly with a leading `+`;
any other value leaves the size as it was.
-/

namespace FormatConfig

namespace EditorConfig

/-- The settings of an editor settings file that apply to one file. -/
structure Settings where
  indentStyle : Option String := none
  indentSize : Option Nat := none
  tabWidth : Option Nat := none
  endOfLine : Option String := none
deriving DecidableEq, Repr

/-- The alternatives of a header with one brace group. -/
def expandBraces (header : String) : List String :=
  let cs := header.toList
  match cs.idxOf? '{', cs.idxOf? '}' with
  | some o, some c =>
    if c < o then [header]
    else
      let before := String.ofList (cs.take o)
      let after := String.ofList (cs.drop (c + 1))
      let inside := (cs.drop (o + 1)).take (c - o - 1)
      (inside.splitOn ',').map fun alt => before ++ String.ofList alt ++ after
  | _, _ => [header]

/-- Whether a section header applies to a file name; an alternative that is not a
valid pattern matches nothing. -/
def sectionMatches (header fileName : String) : Bool :=
  (expandBraces header).any fun alt =>
    match Glob.Pattern.compile alt with
    | .ok p => p.matches fileName
    | .error _ => false

/-- Reads an unsigned number below `2^64`: an optional `+` and decimal digits. -/
def parseSize? (s : String) : Option Nat :=
  let digits := match s.toList with
    | '+' :: rest => rest
    | cs => cs
  if digits.isEmpty || !digits.all Char.isDigit then none
  else
    let n := digits.foldl (fun acc c => acc * 10 + (c.toNat - '0'.toNat)) 0
    if n < Nat.pow 2 64 then some n else none

/-- Splits a line at its first `=`. -/
def splitAtEquals (line : String) : Option (String × String) :=
  let cs := line.toList
  match cs.idxOf? '=' with
  | some i => some (String.ofList (cs.take i), String.ofList (cs.drop (i + 1)))
  | none => none

/-- Applies one setting. -/
def Settings.set (s : Settings) (key value : String) : Settings :=
  match key with
  | "indent_style" => { s with indentStyle := some value }
  | "indent_size" =>
    match parseSize? value with
    | some n => { s with indentSize := some n }
    | none => s
  | "tab_width" =>
    match parseSize? value with
    | some n => { s with tabWidth := some n }
    | none => s
  | "end_of_line" => { s with endOfLine := some value }
  | _ => s

/-- The reader's state: the settings so far and whether the current section applies. -/
structure Reader where
  settings : Settings := {}
  inSection : Bool := false

/-- Reads one line of the file for a file name. -/
def Reader.step (fileName : String) (r : Reader) (raw : String) : Reader :=
  let line := Unicode.trim raw
  if line.isEmpty || line.startsWith "#" || line.startsWith ";" then r
  else if line.startsWith "[" && line.endsWith "]" then
    let header := String.ofList (line.toList.drop 1).dropLast
    { r with inSection := sectionMatches header fileName }
  else if !r.inSection then r
  else
    match splitAtEquals line with
    | some (k, v) =>
      { r with settings :=
        r.settings.set (Unicode.toLower (Unicode.trim k)) (Unicode.toLower (Unicode.trim v)) }
    | none => r

/-- The lines of a text: the pieces between line feeds. A carriage return before a line
feed stays on its line, where trimming removes it. -/
def lines (text : String) : List String :=
  (text.toList.splitOn '\n').map String.ofList

/-- The settings a file's text gives to a file name. -/
def settingsFor (text fileName : String) : Settings :=
  ((lines text).foldl (Reader.step fileName) {}).settings

end EditorConfig

namespace FileSystem

/-- The settings an editor settings file gives to a file name. -/
def editorSettings (fs : FileSystem) (config : Path) (fileName : String) :
    Except Error EditorConfig.Settings :=
  match fs.readText config with
  | .ok text => .ok (EditorConfig.settingsFor text fileName)
  | .error e => .error (.io config e)

end FileSystem

end FormatConfig
