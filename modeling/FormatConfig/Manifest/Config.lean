import FormatConfig.Json5.Document
import FormatConfig.Float64
import FormatConfig.Text.Quote

/-!
# The file-selection part of a manifest

A manifest (`tsconfig.json`) selects files with four optional lists of strings:
`files`, `filesGlob`, `include` and `exclude`; every other key is ignored. The lists
are read the way a serialisation framework reads a record from JSON5:

* from an object, key by key in the order written: a known key may appear once, and
  `null` stands for an absent list; unknown keys are still read through, so a bad
  number or string escape inside them is an error;
* from an array, item by item as the four fields in order, an array with fewer than
  four items being too short;
* anything else is the wrong type.

The first failure in document order is the one reported.
-/

namespace FormatConfig

namespace Manifest

open Json5

/-- The lists a manifest selects files with: `files`, `filesGlob`, `include` and
`exclude`. -/
structure Config where
  files : Option (List String) := none
  filesGlob : Option (List String) := none
  includes : Option (List String) := none
  excludes : Option (List String) := none
deriving DecidableEq, Repr, Inhabited

/-- How a number is described when it was not expected. -/
def describeNumber : NumberValue → String
  | .integer n => "integer `" ++ toString n ++ "`"
  | .float d => "floating point `" ++
      Float64.displayWithPoint (Float64.ofDecimal d.negative d.mantissa d.exponent) ++ "`"
  | .infinity negative => "floating point `" ++ (if negative then "-inf" else "inf") ++ "`"
  | .nan => "floating point `NaN`"

/-- How a value is described when it was not expected; reading it may itself fail. -/
def describe : Syntax → Except String String
  | .null => .ok "unit value"
  | .bool b => .ok ("boolean `" ++ (if b then "true" else "false") ++ "`")
  | .string d => d.map fun s => "string " ++ Quote.quoted s
  | .number literal =>
    match readNumber literal with
    | .ok v => .ok (describeNumber v)
    | .error e => .error e.message
  | .array _ => .ok "sequence"
  | .object _ => .ok "map"

/-- The failure for a value of the wrong type. -/
def invalidType {α : Type} (s : Syntax) (expected : String) : Except String α := do
  let found ← describe s
  .error ("invalid type: " ++ found ++ ", expected " ++ expected)

/-- A string. -/
def decodeString (s : Syntax) : Except String String :=
  match s with
  | .string d => d
  | other => invalidType other "a string"

/-- An optional list of strings. -/
def decodeStrings (s : Syntax) : Except String (Option (List String)) :=
  match s with
  | .null => .ok none
  | .array items => some <$> items.mapM decodeString
  | other => invalidType other "a sequence"

mutual

/-- Reads through a value that is not used, failing where reading fails. -/
def skipValue : Syntax → Except String Unit
  | .string d => d.map fun _ => ()
  | .number literal =>
    match readNumber literal with
    | .ok _ => .ok ()
    | .error e => .error e.message
  | .array items => skipItems items
  | .object members => skipMembers members
  | _ => .ok ()

/-- Reads through unused items. -/
def skipItems : List Syntax → Except String Unit
  | [] => .ok ()
  | s :: rest => do skipValue s; skipItems rest

/-- Reads through unused members, keys first. -/
def skipMembers : List (Syntax × Syntax) → Except String Unit
  | [] => .ok ()
  | (k, v) :: rest => do skipValue k; skipValue v; skipMembers rest

end

/-- The field names, in declaration order. -/
def fieldNames : List String := ["files", "filesGlob", "include", "exclude"]

/-- Sets one field. -/
def Config.set (c : Config) (name : String) (v : Option (List String)) : Config :=
  match name with
  | "files" => { c with files := v }
  | "filesGlob" => { c with filesGlob := v }
  | "include" => { c with includes := v }
  | _ => { c with excludes := v }

/-- Reads the members of an object; `seen` holds the fields already read. -/
def decodeMembers (c : Config) (seen : List String) :
    List (Syntax × Syntax) → Except String Config
  | [] => .ok c
  | (k, v) :: rest => do
    let name ← match k with
      | .string d => d
      | _ => .ok ""
    if fieldNames.contains name then
      if seen.contains name then .error ("duplicate field `" ++ name ++ "`")
      else
        let value ← decodeStrings v
        decodeMembers (c.set name value) (name :: seen) rest
    else
      skipValue v
      decodeMembers c seen rest

/-- Reads the fields from the items of an array, in order. -/
def decodeItems (items : List Syntax) : Except String Config :=
  (fieldNames.zipIdx).foldlM (fun c (name, i) =>
    match items[i]? with
    | some v => do return c.set name (← decodeStrings v)
    | none => .error ("invalid length " ++ toString i ++
        ", expected struct TsConfigJson with 4 elements")) {}

/-- Reads a manifest document. -/
def Config.decode (doc : Syntax) : Except String Config :=
  match doc with
  | .object members => decodeMembers {} [] members
  | .array items => decodeItems items
  | other => invalidType other "struct TsConfigJson"

end Manifest

end FormatConfig
