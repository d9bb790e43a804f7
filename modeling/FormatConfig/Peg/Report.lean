import FormatConfig.Peg.Engine

/-!
# Error reports of the parsing-expression engine

A failed parse is reported at the furthest position where a reported rule failed, as a
small picture: the line and column, the line itself, a caret under the column, and the
rules that were expected there. Lines end at a line feed; a carriage return directly
before a line feed belongs to that line end, while a lone carriage return is an
ordinary column. When the caret points at a line end, the line is shown with its line
end characters made visible.
-/

namespace FormatConfig

namespace Peg

/-- The line and column, both from 1, of a position. -/
def lineCol (input : Array Char) (pos : Nat) : Nat × Nat :=
  go (input.toList.take pos) 1 1
where
  go : List Char → Nat → Nat → Nat × Nat
    | [], line, col => (line, col)
    | '\r' :: '\n' :: rest, line, _ => go rest (line + 1) 1
    | '\n' :: rest, line, _ => go rest (line + 1) 1
    | _ :: rest, line, col => go rest line (col + 1)

/-- The characters of the line holding a position, its line feed included. -/
def lineAround (input : Array Char) (pos : Nat) : List Char :=
  let before := (input.toList.take pos).reverse.takeWhile (· ≠ '\n')
  let after := input.toList.drop pos
  let rest := after.takeWhile (· ≠ '\n')
  before.reverse ++ rest ++ (if rest.length < after.length then ['\n'] else [])

/-- Shows line end characters as visible symbols. -/
def showLineEnds (cs : List Char) : List Char :=
  cs.flatMap fun c =>
    if c = '\r' then [Char.ofNat 0x240D] else if c = '\n' then [Char.ofNat 0x240A] else [c]

/-- Lists names as "a", "a or b", or "a, b, or c". -/
def enumerate : List String → String
  | [] => ""
  | [a] => a
  | [a, b] => a ++ " or " ++ b
  | names => ", ".intercalate names.dropLast ++ ", or " ++ names.getLastD ""

/-- The last line of a report: what was expected, or what was not. -/
def expectation (expected unexpected : List String) : String :=
  match unexpected.isEmpty, expected.isEmpty with
  | false, false => "unexpected " ++ enumerate unexpected ++ "; expected " ++ enumerate expected
  | false, true => "unexpected " ++ enumerate unexpected
  | true, false => "expected " ++ enumerate expected
  | true, true => "unknown parsing error"

/-- The report for a failure at `pos`. -/
def report (input : Array Char) (pos : Nat) (expected unexpected : List String) : String :=
  let (line, col) := lineCol input pos
  let atLineEnd := input[pos]? == some '\n' || input[pos]? == some '\r'
  let around := lineAround input pos
  let shown := if atLineEnd then showLineEnds around
    else around.filter fun c => c ≠ '\r' && c ≠ '\n'
  let number := toString line
  let pad := String.ofList (List.replicate number.length ' ')
  let underline := String.ofList ((shown.take (col - 1)).map fun c => if c = '\t' then '\t' else ' ')
    ++ "^---"
  pad ++ "--> " ++ number ++ ":" ++ toString col ++ "\n" ++
  pad ++ " |\n" ++
  number ++ " | " ++ String.ofList shown ++ "\n" ++
  pad ++ " | " ++ underline ++ "\n" ++
  pad ++ " |\n" ++
  pad ++ " = " ++ expectation expected unexpected

/-- Sorts rules by their rank and drops repeats. -/
def sortRules {ρ : Type} (rank : ρ → Nat) (rules : Array ρ) : List ρ :=
  let sorted := rules.toList.mergeSort fun a b => decide (rank a ≤ rank b)
  sorted.foldr (fun r acc =>
    match acc with
    | s :: _ => if rank s = rank r then acc else r :: acc
    | [] => [r]) []

/-- The report for a failed parse, rules named by `name` and listed by `rank`. -/
def failureReport {ρ : Type} (rank : ρ → Nat) (name : ρ → String) (input : Array Char)
    (st : State ρ) : String :=
  report input st.attemptPos ((sortRules rank st.posAttempts).map name)
    ((sortRules rank st.negAttempts).map name)

end Peg

end FormatConfig
