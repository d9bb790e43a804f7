import FormatConfig.Json5.Document

/-!
# JSON values read from JSON5

`Syntax.toValue` reads a parsed document as a plain JSON value. Numbers are read as
integers or floating-point numbers (see `readNumber`); infinities and NaN have no JSON
form and become `null`. Object members are kept sorted by key, and of two members with
the same key the later one wins. Reading goes through the document in order and stops
at the first string or number that cannot be read.
-/

namespace FormatConfig

namespace Json5

/-- A JSON value. -/
inductive JsonValue where
  | null
  | bool (b : Bool)
  /-- An integer or a finite floating-point number. -/
  | number (n : NumberValue)
  | string (s : String)
  | array (items : List JsonValue)
  /-- Members sorted by key, keys distinct. -/
  | object (members : List (String × JsonValue))
deriving Inhabited

/-- Puts a member into a key-sorted list, replacing a member with the same key. -/
def insertMember (k : String) (v : JsonValue) :
    List (String × JsonValue) → List (String × JsonValue)
  | [] => [(k, v)]
  | (k', v') :: rest =>
    if k = k' then (k, v) :: rest
    else if k < k' then (k, v) :: (k', v') :: rest
    else (k', v') :: insertMember k v rest

/-- The text of a key. -/
def keyText : Syntax → Except String String
  | .string d => d
  | _ => .ok ""

mutual

/-- Reads a document as a JSON value. -/
def Syntax.toValue : Syntax → Except String JsonValue
  | .null => .ok .null
  | .bool b => .ok (.bool b)
  | .string d => JsonValue.string <$> d
  | .number literal =>
    match readNumber literal with
    | .ok (.integer n) => .ok (.number (.integer n))
    | .ok (.float d) => .ok (.number (.float d))
    | .ok _ => .ok .null
    | .error e => .error e.message
  | .array items => JsonValue.array <$> itemsToValue items
  | .object members => JsonValue.object <$> membersToValue [] members

/-- Reads the items of an array in order. -/
def itemsToValue : List Syntax → Except String (List JsonValue)
  | [] => .ok []
  | s :: rest => do
    let v ← s.toValue
    let vs ← itemsToValue rest
    return v :: vs

/-- Reads the members of an object in order into a sorted member list. -/
def membersToValue (acc : List (String × JsonValue)) :
    List (Syntax × Syntax) → Except String (List (String × JsonValue))
  | [] => .ok acc
  | (k, v) :: rest => do
    let key ← keyText k
    let value ← v.toValue
    membersToValue (insertMember key value acc) rest

end

namespace JsonValue

/-- The member with a key. -/
def member? (members : List (String × JsonValue)) (k : String) : Option JsonValue :=
  (members.find? (·.1 == k)).map (·.2)

/-- Truthiness as in JavaScript: `null`, `false`, zero and the empty string are false,
every array and object is true. -/
def isTruthy : JsonValue → Bool
  | .null => false
  | .bool b => b
  | .number n => n.isNonzero
  | .string s => !s.isEmpty
  | .array _ => true
  | .object _ => true

/-- The text of a string value. -/
def asString? : JsonValue → Option String
  | .string s => some s
  | _ => none

end JsonValue

end Json5

end FormatConfig
