/-!
# Glob patterns

A glob pattern is read into tokens: literal characters, `?` for one character, `*` for
a run of characters, `**` for a run of whole path components, and bracket classes
`[...]` and `[!...]` of single characters and ranges. A `**` must stand as a path
component of its own (at the start or after `/`, and at the end or before `/`, which
it absorbs); three stars and an unclosed bracket are errors, reported at the character
position where reading stopped.
-/

namespace FormatConfig

namespace Glob

/-- One member of a bracket class. -/
inductive CharSpec where
  | single (c : Char)
  | range (lo hi : Char)
deriving DecidableEq, Repr

/-- One token of a compiled pattern. -/
inductive Token where
  | char (c : Char)
  | anyChar
  | anySequence
  | anyRecursiveSequence
  | anyWithin (specs : List CharSpec)
  | anyExcept (specs : List CharSpec)
deriving DecidableEq, Repr

/-- A compiled pattern with the text it came from. -/
structure Pattern where
  source : String
  tokens : List Token
  isRecursive : Bool
deriving Repr

/-- What is wrong with a pattern. -/
inductive PatternErrorKind where
  | tooManyStars
  | recursiveNotAlone
  | invalidRange
deriving DecidableEq, Repr

/-- A pattern error: its kind and the character position where it was found. -/
structure PatternError where
  pos : Nat
  kind : PatternErrorKind
deriving DecidableEq, Repr

/-- The wording of each kind of pattern error. -/
def PatternErrorKind.text : PatternErrorKind → String
  | .tooManyStars => "wildcards are either regular `*` or recursive `**`"
  | .recursiveNotAlone => "recursive wildcards must form a single path component"
  | .invalidRange => "invalid range pattern"

/-- The text of a pattern error. -/
def PatternError.message (e : PatternError) : String :=
  "Pattern syntax error near position " ++ toString e.pos ++ ": " ++ e.kind.text

/-- Reads the members of a bracket class: `a-z` is a range, anything else a single
character. -/
def charSpecs : List Char → List CharSpec
  | a :: '-' :: b :: rest => .range a b :: charSpecs rest
  | c :: rest => .single c :: charSpecs rest
  | [] => []

/-- The index of the first `]`, if any. -/
def closeIndex? (cs : List Char) : Option Nat := cs.findIdx? (· == ']')

/-- Reads a bracket class at the start of `rest` (which begins after the `[`). Returns
the token and how many characters after the `[` it used. -/
def readClass (rest : List Char) : Option (Token × Nat) :=
  match rest with
  | '!' :: more =>
    if more.length ≥ 2 then
      match closeIndex? (more.drop 1) with
      | some j => some (.anyExcept (charSpecs (more.take (j + 1))), j + 3)
      | none => none
    else none
  | _ =>
    if rest.length ≥ 2 then
      match closeIndex? (rest.drop 1) with
      | some j => some (.anyWithin (charSpecs (rest.take (j + 1))), j + 2)
      | none => none
    else none

/-- Pushes `**`, unless the last of at least two tokens is already `**`. -/
def pushRecursive (acc : List Token) : List Token :=
  match acc with
  | .anyRecursiveSequence :: _ :: _ => acc
  | _ => .anyRecursiveSequence :: acc

/-- Reads tokens from `cs`, which starts at character position `pos`; `prev` is the
character before it and `acc` holds the tokens so far, last first. -/
def compileAux (cs : List Char) (pos : Nat) (prev : Option Char) (acc : List Token) :
    Except PatternError (List Token) :=
  match cs with
  | [] => .ok acc.reverse
  | '?' :: rest => compileAux rest (pos + 1) (some '?') (.anyChar :: acc)
  | '*' :: '*' :: '*' :: _ => .error ⟨pos + 2, .tooManyStars⟩
  | '*' :: '*' :: after =>
    if prev = none ∨ prev = some '/' then
      if after.head? = some '/' then
        compileAux (after.drop 1) (pos + 3) (some '/') (pushRecursive acc)
      else if after.isEmpty then .ok (pushRecursive acc).reverse
      else .error ⟨pos + 2, .recursiveNotAlone⟩
    else .error ⟨pos - 1, .recursiveNotAlone⟩
  | '*' :: rest => compileAux rest (pos + 1) (some '*') (.anySequence :: acc)
  | '[' :: rest =>
    match readClass rest with
    | some (tok, used) =>
      compileAux (rest.drop used) (pos + 1 + used) (rest.take used).getLast? (tok :: acc)
    | none => .error ⟨pos, .invalidRange⟩
  | c :: rest => compileAux rest (pos + 1) (some c) (.char c :: acc)
termination_by cs.length
decreasing_by
  all_goals simp only [List.length_drop, List.length_cons]
  all_goals omega

/-- Compiles a pattern. -/
def Pattern.compile (source : String) : Except PatternError Pattern :=
  match compileAux source.toList 0 none [] with
  | .ok tokens => .ok ⟨source, tokens, tokens.contains .anyRecursiveSequence⟩
  | .error e => .error e

/-- Writes text so that a pattern matches it literally: `?`, `*`, `[` and `]` are
wrapped in brackets. -/
def escape (s : String) : String :=
  String.join <| s.toList.map fun c =>
    if c = '?' ∨ c = '*' ∨ c = '[' ∨ c = ']' then "[" ++ c.toString ++ "]" else c.toString

end Glob

end FormatConfig
