import FormatConfig.Toml.Tables
import FormatConfig.Float64
import FormatConfig.Text.Quote

/-!
# Decoding TOML items into typed values

Typed values are read from items the way a serialisation framework reads them: an
unsigned size from a non-negative integer, a flag from a boolean, a unit enumeration
from a string naming a variant (or from a one-entry table whose key names it and whose
value is empty), and a record from a table, taking its known keys in the order written,
or from an array, taking its items as the fields in order. Unknown keys are skipped.

Every failure names what was found and what was expected, and carries the span of the
innermost item that has one.
-/

namespace FormatConfig

namespace Toml

/-- A decoding failure and the span it concerns, if known. -/
structure DecodeError where
  message : String
  span : Option Span
deriving Repr, Inhabited

/-- Gives a span to a failure that has none. -/
def DecodeError.orAt (e : DecodeError) (span : Option Span) : DecodeError :=
  match e.span with
  | some _ => e
  | none => { e with span }

/-- Gives a span to the failure of a decoding, if it has none. -/
def atSpan {α : Type} (span : Option Span) (r : Except DecodeError α) : Except DecodeError α :=
  r.mapError (·.orAt span)

/-- The value of a floating-point literal. -/
def FloatLiteral.toBinary : FloatLiteral → Float64.Binary64
  | .finite negative m e => Float64.ofDecimal negative m e
  | .infinity negative => .infinity negative
  | .nan _ => .nan

/-- How a decoding failure describes an item it did not expect. -/
def Node.unexpected : Node → String
  | .string s _ => "string " ++ Quote.quoted s
  | .integer n _ => "integer `" ++ toString n ++ "`"
  | .float f _ => "floating point `" ++ Float64.displayWithPoint f.toBinary ++ "`"
  | .boolean b _ => "boolean `" ++ (if b then "true" else "false") ++ "`"
  | .datetime .. | .inlineTable .. | .table .. => "map"
  | .array .. | .arrayOfTables .. => "sequence"

/-- The failure for an item of the wrong type. -/
def invalidType (n : Node) (expected : String) : DecodeError :=
  ⟨"invalid type: " ++ n.unexpected ++ ", expected " ++ expected, n.span?⟩

/-- Names alternatives: "`a`", "`a` or `b`", or "one of `a`, `b`, `c`". -/
def oneOf (names : List String) : String :=
  let ticked := names.map fun n => "`" ++ n ++ "`"
  match ticked with
  | [a] => a
  | [a, b] => a ++ " or " ++ b
  | _ => "one of " ++ ", ".intercalate ticked

/-- The failure for a name that is not a variant. -/
def unknownVariant (name : String) (variants : List String) : String :=
  "unknown variant `" ++ name ++ "`, expected " ++ oneOf variants

/-- An unsigned size. -/
def decodeSize (n : Node) : Except DecodeError Nat :=
  match n with
  | .integer v sp =>
    if 0 ≤ v then .ok v.toNat
    else .error ⟨"invalid value: integer `" ++ toString v ++ "`, expected usize", some sp⟩
  | other => .error (invalidType other "usize")

/-- A flag. -/
def decodeBool (n : Node) : Except DecodeError Bool :=
  match n with
  | .boolean b _ => .ok b
  | other => .error (invalidType other "a boolean")

/-- The value of a variant written as a table entry must be empty. -/
def decodeUnitValue (n : Node) : Except DecodeError Unit :=
  match n with
  | .arrayOfTables ts sp => if ts.isEmpty then .ok () else .error ⟨"expected empty array", sp⟩
  | .array items sp => if items.isEmpty then .ok () else .error ⟨"expected empty array", some sp⟩
  | .table es _ _ sp | .inlineTable es _ _ sp =>
    if es.isEmpty then .ok () else .error ⟨"expected empty table", sp⟩
  | other => .error ⟨"expected table, found " ++ other.typeName, other.span?⟩

/-- A variant named by a table entry. -/
def decodeVariantEntry (variants : List String) (k : Key) (v : Node) :
    Except DecodeError String :=
  if variants.contains k.name then do decodeUnitValue v; return k.name
  else .error ⟨unknownVariant k.name variants, some k.span⟩

/-- A unit enumeration with the given variant names. -/
def decodeVariant (variants : List String) (n : Node) : Except DecodeError String :=
  atSpan n.span? <|
  match n with
  | .string s sp =>
    if variants.contains s then .ok s else .error ⟨unknownVariant s variants, some sp⟩
  | .inlineTable es _ _ sp =>
    match es with
    | [] => .error ⟨"wanted exactly 1 element, found 0 elements", sp⟩
    | [(k, v)] => decodeVariantEntry variants k v
    | _ => .error ⟨"wanted exactly 1 element, more than 1 element", sp⟩
  | .table es _ _ sp =>
    match es with
    | [] => .error ⟨"wanted exactly 1 element, found 0 elements", sp⟩
    | [(k, v)] => decodeVariantEntry variants k v
    | _ => .error ⟨"wanted exactly 1 element, more than 1 element", sp⟩
  | other => .error ⟨"wanted string or table", other.span?⟩

end Toml

end FormatConfig
