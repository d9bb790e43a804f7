/-!
# TOML documents as trees

A TOML document is a table. A table maps keys to items: plain values, tables opened by a
`[header]` or implied by a dotted key, and arrays of tables opened by `[[headers]]`.
Every value remembers its span in the source text, so that an error about it can point
at it; a table remembers the span of its header, stretched to the last value written
under it.

Tables carry two flags. An *implicit* table exists only because a longer header or a
dotted key passes through it, and may still be opened by its own header later. A
*dotted* table was made by a dotted key.
-/

namespace FormatConfig

namespace Toml

/-- A range of character positions, start included, stop excluded. -/
structure Span where
  start : Nat
  stop : Nat
deriving DecidableEq, Repr, Inhabited

/-- A key: its text and where it was written. -/
structure Key where
  name : String
  span : Span
deriving Repr, Inhabited

/-- Characters of a bare key. -/
def isUnquotedKeyChar (c : Char) : Bool :=
  ('A' ≤ c && c ≤ 'Z') || ('a' ≤ c && c ≤ 'z') || c.isDigit || c = '-' || c = '_'

/-- Upper-case hexadecimal digits of a number, at least four. -/
def hexFour (n : Nat) : String :=
  let digits := (Nat.toDigits 16 n).map Char.toUpper
  String.ofList (List.replicate (4 - digits.length) '0' ++ digits)

/-- A character inside a basic string as TOML writes it: short escapes for backspace,
tab, line feed, form feed, carriage return, quote and backslash, `\uXXXX` for other
control characters and delete, and the character itself otherwise. -/
def basicEscape (c : Char) : String :=
  match c with
  | '\x08' => "\\b"
  | '\t' => "\\t"
  | '\n' => "\\n"
  | '\x0c' => "\\f"
  | '\r' => "\\r"
  | '"' => "\\\""
  | '\\' => "\\\\"
  | c => if c.toNat ≤ 0x1F || c.toNat = 0x7F then "\\u" ++ hexFour c.toNat else c.toString

/-- A key as TOML writes it: bare when it is a non-empty run of bare-key characters,
otherwise as a basic string. -/
def keyText (name : String) : String :=
  if !name.isEmpty && name.all isUnquotedKeyChar then name
  else "\"" ++ String.join (name.toList.map basicEscape) ++ "\""

/-- A floating-point literal, read as the sign, digits and power of ten it denotes, or
as one of the special values. -/
inductive FloatLiteral where
  | finite (negative : Bool) (mantissa : Nat) (exponent : Int)
  | infinity (negative : Bool)
  | nan (negative : Bool)
deriving DecidableEq, Repr, Inhabited

/-- Items of a document. -/
inductive Node where
  | string (s : String) (span : Span)
  | integer (n : Int) (span : Span)
  | float (f : FloatLiteral) (span : Span)
  | boolean (b : Bool) (span : Span)
  | datetime (text : String) (span : Span)
  | array (items : List Node) (span : Span)
  /-- An inline table `{ ... }`, or a table a dotted key made inside one. -/
  | inlineTable (entries : List (Key × Node)) (implicit dotted : Bool) (span : Option Span)
  /-- A table opened by a header, implied by one, or made by a dotted key. -/
  | table (entries : List (Key × Node)) (implicit dotted : Bool) (span : Option Span)
  | arrayOfTables (tables : List Node) (span : Option Span)
deriving Repr, Inhabited

namespace Node

/-- The span of an item, when it has one. -/
def span? : Node → Option Span
  | .string _ s | .integer _ s | .float _ s | .boolean _ s | .datetime _ s | .array _ s => some s
  | .inlineTable _ _ _ s | .table _ _ _ s | .arrayOfTables _ s => s

/-- Whether an item is a plain value rather than a table or an array of tables. -/
def isValue : Node → Bool
  | .table .. | .arrayOfTables .. => false
  | _ => true

/-- The name of an item's type, as errors name it. -/
def typeName : Node → String
  | .string .. => "string"
  | .integer .. => "integer"
  | .float .. => "float"
  | .boolean .. => "boolean"
  | .datetime .. => "datetime"
  | .array .. => "array"
  | .inlineTable .. => "inline table"
  | .table .. => "table"
  | .arrayOfTables .. => "array of tables"

end Node

/-- An error found while assembling the document, with the text it is shown as. -/
inductive BuildError where
  /-- A key defined twice; `table` names the table, when known. -/
  | duplicateKey (key : String) (table : Option (List String))
  /-- A dotted key running through something that is not a table. -/
  | extendWrongType (path : List String) (actual : String)
  | outOfRange
  | recursionLimit
deriving DecidableEq, Repr

/-- The text of a `BuildError`. -/
def BuildError.message : BuildError → String
  | .duplicateKey key (some []) => "duplicate key `" ++ key ++ "` in document root"
  | .duplicateKey key (some path) =>
    "duplicate key `" ++ key ++ "` in table `" ++ ".".intercalate path ++ "`"
  | .duplicateKey key none => "duplicate key `" ++ key ++ "`"
  | .extendWrongType path actual =>
    "dotted key `" ++ ".".intercalate path ++ "` attempted to extend non-table type (" ++
      actual ++ ")"
  | .outOfRange => "value is out of range"
  | .recursionLimit => "recursion limit exceeded"

/-- The duplicate-key error for `path[i]` of a header, naming the key as TOML writes it
and the table by the keys before it. -/
def BuildError.duplicateAt (path : List Key) (i : Nat) : BuildError :=
  .duplicateKey ((path[i]?.map fun k => keyText k.name).getD "") (some ((path.take i).map (·.name)))

end Toml

end FormatConfig
