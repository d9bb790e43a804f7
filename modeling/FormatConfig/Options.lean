/-!
# Formatter options

The record handed to a code formatter: indentation widths, indentation style, line
terminator, and eleven switches for spacing and brace placement. The record is written
as JSON with the formatter's own field names, the style as its number and the line
terminator as the characters themselves.
-/

namespace FormatConfig

/-- How continuation lines are indented; the formatter knows them as 0, 1 and 2. -/
inductive IndentStyle where
  | none
  | block
  | smart
deriving DecidableEq, Repr, Inhabited

/-- The number a formatter uses for an indentation style. -/
def IndentStyle.code : IndentStyle → Nat
  | .none => 0
  | .block => 1
  | .smart => 2

/-- The line terminator the formatter writes. -/
inductive NewLine where
  | lf
  | crLf
  | cr
deriving DecidableEq, Repr, Inhabited

namespace NewLine

/-- The characters of a line terminator. -/
def chars : NewLine → String
  | .lf => "\n"
  | .crLf => "\r\n"
  | .cr => "\r"

/-- Lower-cases ASCII letters only. -/
def asciiLower (s : String) : String := String.ofList (s.toList.map Char.toLower)

/-- Reads a terminator's name, `lf`, `crlf` or `cr`, in any mix of ASCII case. -/
def ofName? (name : String) : Option NewLine :=
  match asciiLower name with
  | "lf" => some .lf
  | "crlf" => some .crLf
  | "cr" => some .cr
  | _ => none

end NewLine

/-- Whitespace and indentation settings for one file. -/
structure FormatOptions where
  indentSize : Nat := 4
  tabSize : Nat := 4
  indentStyle : IndentStyle := .smart
  newLineCharacter : NewLine := .crLf
  convertTabsToSpaces : Bool := true
  insertSpaceAfterCommaDelimiter : Bool := true
  insertSpaceAfterSemicolonInForStatements : Bool := true
  insertSpaceBeforeAndAfterBinaryOperators : Bool := true
  insertSpaceAfterKeywordsInControlFlowStatements : Bool := true
  insertSpaceAfterFunctionKeywordForAnonymousFunctions : Bool := false
  insertSpaceAfterOpeningAndBeforeClosingNonemptyParenthesis : Bool := false
  insertSpaceAfterOpeningAndBeforeClosingNonemptyBrackets : Bool := false
  insertSpaceAfterOpeningAndBeforeClosingTemplateStringBraces : Bool := false
  placeOpenBraceOnNewLineForFunctions : Bool := false
  placeOpenBraceOnNewLineForControlBlocks : Bool := false
deriving DecidableEq, Repr, Inhabited

/-- A field's value as it is written out. -/
inductive FieldValue where
  | number (n : Nat)
  | text (s : String)
  | flag (b : Bool)
deriving DecidableEq, Repr

/-- Escapes a string for a JSON document. -/
def jsonQuote (s : String) : String :=
  let body := s.toList.foldl (fun acc c =>
    acc ++ match c with
      | '"' => "\\\""
      | '\\' => "\\\\"
      | '\n' => "\\n"
      | '\r' => "\\r"
      | '\t' => "\\t"
      | c => c.toString) ""
  "\"" ++ body ++ "\""

/-- The JSON text of a field value. -/
def FieldValue.json : FieldValue → String
  | .number n => toString n
  | .text s => jsonQuote s
  | .flag b => if b then "true" else "false"

namespace FormatOptions

/-- The options a formatter starts from. -/
def default : FormatOptions := {}

/-- The fields in declaration order, under the formatter's names. -/
def fields (o : FormatOptions) : List (String × FieldValue) :=
  [ ("IndentSize", .number o.indentSize),
    ("TabSize", .number o.tabSize),
    ("IndentStyle", .number o.indentStyle.code),
    ("NewLineCharacter", .text o.newLineCharacter.chars),
    ("ConvertTabsToSpaces", .flag o.convertTabsToSpaces),
    ("InsertSpaceAfterCommaDelimiter", .flag o.insertSpaceAfterCommaDelimiter),
    ("InsertSpaceAfterSemicolonInForStatements", .flag o.insertSpaceAfterSemicolonInForStatements),
    ("InsertSpaceBeforeAndAfterBinaryOperators", .flag o.insertSpaceBeforeAndAfterBinaryOperators),
    ("InsertSpaceAfterKeywordsInControlFlowStatements",
      .flag o.insertSpaceAfterKeywordsInControlFlowStatements),
    ("InsertSpaceAfterFunctionKeywordForAnonymousFunctions",
      .flag o.insertSpaceAfterFunctionKeywordForAnonymousFunctions),
    ("InsertSpaceAfterOpeningAndBeforeClosingNonemptyParenthesis",
      .flag o.insertSpaceAfterOpeningAndBeforeClosingNonemptyParenthesis),
    ("InsertSpaceAfterOpeningAndBeforeClosingNonemptyBrackets",
      .flag o.insertSpaceAfterOpeningAndBeforeClosingNonemptyBrackets),
    ("InsertSpaceAfterOpeningAndBeforeClosingTemplateStringBraces",
      .flag o.insertSpaceAfterOpeningAndBeforeClosingTemplateStringBraces),
    ("PlaceOpenBraceOnNewLineForFunctions", .flag o.placeOpenBraceOnNewLineForFunctions),
    ("PlaceOpenBraceOnNewLineForControlBlocks", .flag o.placeOpenBraceOnNewLineForControlBlocks) ]

/-- Reads an indentation style from its number. -/
def styleOfCode? : Nat → Option IndentStyle
  | 0 => some .none
  | 1 => some .block
  | 2 => some .smart
  | _ => none

/-- Reads a line terminator from its characters. -/
def newLineOfChars? : String → Option NewLine
  | "\n" => some .lf
  | "\r\n" => some .crLf
  | "\r" => some .cr
  | _ => none

/-- Sets the field with the given name; a value of the wrong shape or an unknown name
leaves the options unchanged. -/
def setField (o : FormatOptions) (name : String) (v : FieldValue) : FormatOptions :=
  match name, v with
  | "IndentSize", .number n => { o with indentSize := n }
  | "TabSize", .number n => { o with tabSize := n }
  | "IndentStyle", .number n =>
    match styleOfCode? n with
    | some s => { o with indentStyle := s }
    | none => o
  | "NewLineCharacter", .text s =>
    match newLineOfChars? s with
    | some nl => { o with newLineCharacter := nl }
    | none => o
  | "ConvertTabsToSpaces", .flag b => { o with convertTabsToSpaces := b }
  | "InsertSpaceAfterCommaDelimiter", .flag b => { o with insertSpaceAfterCommaDelimiter := b }
  | "InsertSpaceAfterSemicolonInForStatements", .flag b =>
    { o with insertSpaceAfterSemicolonInForStatements := b }
  | "InsertSpaceBeforeAndAfterBinaryOperators", .flag b =>
    { o with insertSpaceBeforeAndAfterBinaryOperators := b }
  | "InsertSpaceAfterKeywordsInControlFlowStatements", .flag b =>
    { o with insertSpaceAfterKeywordsInControlFlowStatements := b }
  | "InsertSpaceAfterFunctionKeywordForAnonymousFunctions", .flag b =>
    { o with insertSpaceAfterFunctionKeywordForAnonymousFunctions := b }
  | "InsertSpaceAfterOpeningAndBeforeClosingNonemptyParenthesis", .flag b =>
    { o with insertSpaceAfterOpeningAndBeforeClosingNonemptyParenthesis := b }
  | "InsertSpaceAfterOpeningAndBeforeClosingNonemptyBrackets", .flag b =>
    { o with insertSpaceAfterOpeningAndBeforeClosingNonemptyBrackets := b }
  | "InsertSpaceAfterOpeningAndBeforeClosingTemplateStringBraces", .flag b =>
    { o with insertSpaceAfterOpeningAndBeforeClosingTemplateStringBraces := b }
  | "PlaceOpenBraceOnNewLineForFunctions", .flag b =>
    { o with placeOpenBraceOnNewLineForFunctions := b }
  | "PlaceOpenBraceOnNewLineForControlBlocks", .flag b =>
    { o with placeOpenBraceOnNewLineForControlBlocks := b }
  | _, _ => o

/-- The options as an indented JSON object, two spaces per level, fields in
declaration order. -/
def toPrettyJson (o : FormatOptions) : String :=
  let lines := o.fields.map fun (k, v) => "  " ++ jsonQuote k ++ ": " ++ v.json
  "\x7b\n" ++ ",\n".intercalate lines ++ "\n\x7d"

end FormatOptions

end FormatConfig
