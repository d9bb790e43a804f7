import FormatConfig.Peg.Report
import FormatConfig.Json5.Grammar
import FormatConfig.Json5.Number

/-!
# JSON5 documents

`Json5.parse` runs the JSON5 grammar over a text and turns the tree of matched rules into
a `Syntax` tree. Strings are decoded here: escapes stand for the characters they name,
`\0` for the null character, and a line continuation (a backslash before a line end)
for nothing. An escape naming a surrogate code point is no character; such a string is
kept as its error, which surfaces only when the string is used. Numbers keep their
literal text, since what they mean depends on the type they are read as.
-/

namespace FormatConfig

namespace Json5

open Peg

/-- A parsed JSON5 value. -/
inductive Syntax where
  | null
  | bool (b : Bool)
  /-- A string or an unquoted key, decoded, or the error of decoding it. -/
  | string (decoded : Except String String)
  /-- A number, as written. -/
  | number (literal : String)
  | array (items : List Syntax)
  /-- An object's members in the order written; keys are strings. -/
  | object (members : List (Syntax × Syntax))
deriving Inhabited

/-- The character a one-letter escape stands for. -/
def escapedChar (s : String) : String :=
  match s with
  | "b" => String.singleton (Char.ofNat 0x08)
  | "f" => String.singleton (Char.ofNat 0x0C)
  | "n" => "\n"
  | "r" => "\r"
  | "t" => "\t"
  | "v" => String.singleton (Char.ofNat 0x0B)
  | c => c

/-- The code a surrogate pair stands for, combined as `(hi - 0xD800) << 10` bitwise-or
`(lo - 0xDC00) + 0x10000`. The two parts overlap in bit 16 when the high surrogate is
0xD840 or above, and the overlap is kept, not carried. -/
def combineSurrogates (hi lo : Nat) : Nat :=
  ((hi - 0xD800) <<< 10) ||| ((lo - 0xDC00) + 0x10000)

/-- A piece of text in front of the rest of a decoded string. -/
def prepend (piece : String) (rest : Except String String) : Except String String :=
  (piece ++ ·) <$> rest

/-- The text of a string from its pieces. A `\u` escape naming a high surrogate takes
the next piece, read as hexadecimal digits, as its low surrogate; the first piece that
cannot be read is the error. -/
def decodeString (input : Array Char) : List (Peg.Tree Rule) → Except String String
  | [] => .ok ""
  | t :: rest =>
    let text := t.text input
    match t.rule with
    | .charLiteral => prepend text (decodeString input rest)
    | .charEscapeSequence => prepend (escapedChar text) (decodeString input rest)
    | .nulEscapeSequence => prepend (String.singleton (Char.ofNat 0)) (decodeString input rest)
    | .hexEscapeSequence =>
      match hexValue? text.toList with
      | some n =>
        if isCharCode n then prepend (String.singleton (Char.ofNat n)) (decodeString input rest)
        else .error "error parsing hex prefix"
      | none => .error "error parsing hex"
    | .unicodeEscapeSequence =>
      match hexValue? text.toList with
      | none => .error "error parsing hex"
      | some n =>
        if 0xDC00 ≤ n ∧ n ≤ 0xDFFF then .error "unexpected unicode trail surrogate"
        else if 0xD800 ≤ n ∧ n ≤ 0xDBFF then
          match rest with
          | [] => .error "missing unicode trail surrogate"
          | next :: more =>
            match hexValue? (next.text input).toList with
            | none => .error "error parsing hex"
            | some lo =>
              if 0xDC00 ≤ lo ∧ lo ≤ 0xDFFF then
                prepend (String.singleton (Char.ofNat (combineSurrogates n lo)))
                  (decodeString input more)
              else .error "expecting unicode trail surrogate"
        else if isCharCode n then
          prepend (String.singleton (Char.ofNat n)) (decodeString input rest)
        else .error "error parsing hex prefix"
    | _ => decodeString input rest

mutual

/-- The syntax of a matched value. -/
def toSyntax (input : Array Char) : Peg.Tree Rule → Syntax
  | .node .null _ _ _ => .null
  | t@(.node .boolean _ _ _) => .bool (t.text input == "true")
  | .node .string _ _ pieces => .string (decodeString input pieces)
  | .node .identifier _ _ pieces => .string (decodeString input pieces)
  | t@(.node .number _ _ _) => .number (t.text input)
  | .node .array _ _ items => .array (itemsSyntax input items)
  | .node .object _ _ members => .object (membersSyntax input members)
  | _ => .null

/-- The syntax of the items of an array. -/
def itemsSyntax (input : Array Char) : List (Peg.Tree Rule) → List Syntax
  | [] => []
  | t :: ts => toSyntax input t :: itemsSyntax input ts

/-- The members of an object, from its alternating keys and values. -/
def membersSyntax (input : Array Char) : List (Peg.Tree Rule) → List (Syntax × Syntax)
  | k :: v :: rest => (toSyntax input k, toSyntax input v) :: membersSyntax input rest
  | _ => []

end

/-- The depth of rule calls allowed for an input: every level of nesting consumes a
character and takes a bounded number of calls. -/
def fuelFor (input : Array Char) : Nat := 16 * (input.size + 4)

/-- Parses a JSON5 text; a syntax error is reported as a picture of where it is. -/
def parse (text : String) : Except String Syntax :=
  let input := text.toList.toArray
  match Peg.parse grammar input (.call .text) (fuelFor input) with
  | .ok (t :: _) => .ok (toSyntax input t)
  | .ok [] => .ok .null
  | .error st => .error (failureReport Rule.rank Rule.name input st)

end Json5

end FormatConfig
