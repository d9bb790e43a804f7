/-!
# A parsing-expression engine

Grammars are data: every rule has a body, an `Expr`, and a kind that says whether the
rule shows up in the parse tree and in error reports. `run` interprets an expression
with the conventions of a PEG parser generator:

* in a *non-atomic* context, the parts of a sequence and the rounds of a repetition are
  separated by the grammar's implicit `skip` expression (whitespace and comments);
* an *atomic* rule switches that off for its body and hides the rules it calls;
* a *compound-atomic* rule switches it off but keeps the rules it calls in the tree.

While it runs, the engine remembers which reported rules failed at the furthest
position reached; that list becomes the "expected ..." of an error report. A failed
expression never moves the position and never leaves trees behind, so alternatives
can be tried one after the other from the same state.

`run` is total: a fuel argument bounds the depth of rule calls, and a repetition stops
once a round no longer moves forward.
-/

namespace FormatConfig

namespace Peg

/-- Whether implicit whitespace is skipped and whether inner rules are recorded. -/
inductive Atomicity where
  | nonAtomic
  | atomic
  | compoundAtomic
deriving DecidableEq, Repr

/-- The lookahead in force: none, inside `&e`, or inside `!e`. -/
inductive Lookahead where
  | none
  | positive
  | negative
deriving DecidableEq, Repr

/-- How a rule is declared. -/
inductive RuleKind where
  /-- Recorded in the tree and reported in errors. -/
  | normal
  /-- Inlined: neither recorded nor reported. -/
  | silent
  /-- Recorded and reported; its body is atomic and hides the rules it calls. -/
  | atomic
  /-- Recorded and reported; its body is atomic but the rules it calls are kept. -/
  | compoundAtomic
deriving DecidableEq, Repr

/-- Parsing expressions over characters, calling rules of type `ρ`. -/
inductive Expr (ρ : Type) where
  /-- A literal text. -/
  | lit (s : List Char)
  /-- A literal text, ASCII letters matched in either case. -/
  | litNoCase (s : List Char)
  /-- One character between two bounds, inclusive. -/
  | range (lo hi : Char)
  /-- One character satisfying a predicate. -/
  | charIf (p : Char → Bool)
  /-- Any one character. -/
  | any
  /-- `a` then `b`. -/
  | seq (a b : Expr ρ)
  /-- `a`, or else `b`. -/
  | alt (a b : Expr ρ)
  /-- `a` or nothing. -/
  | opt (a : Expr ρ)
  /-- Zero or more `a`. -/
  | many (a : Expr ρ)
  /-- Succeeds where `a` matches, without moving. -/
  | ahead (a : Expr ρ)
  /-- Succeeds where `a` does not match, without moving. -/
  | notAhead (a : Expr ρ)
  /-- A rule of the grammar. -/
  | call (r : ρ)
  /-- The start of the input. -/
  | startOfInput
  /-- The end of the input. -/
  | endOfInput

/-- A grammar: the body and kind of each rule, and the implicit separator. -/
structure Grammar (ρ : Type) where
  body : ρ → Expr ρ
  kind : ρ → RuleKind
  /-- Whitespace and comments between the parts of non-atomic expressions. -/
  skip : Expr ρ

/-- A matched rule: its name, the positions of its first and past-last characters, and
the rules matched inside it. -/
inductive Tree (ρ : Type) where
  | node (rule : ρ) (start stop : Nat) (children : List (Tree ρ))

namespace Tree

/-- The rule a tree matched. -/
def rule {ρ : Type} : Tree ρ → ρ
  | .node r _ _ _ => r

/-- Where the match starts. -/
def start {ρ : Type} : Tree ρ → Nat
  | .node _ s _ _ => s

/-- Where the match ends. -/
def stop {ρ : Type} : Tree ρ → Nat
  | .node _ _ e _ => e

/-- The rules matched directly inside. -/
def children {ρ : Type} : Tree ρ → List (Tree ρ)
  | .node _ _ _ cs => cs

/-- The matched characters. -/
def text {ρ : Type} (input : Array Char) (t : Tree ρ) : String :=
  String.ofList ((input.extract t.start t.stop).toList)

end Tree

/-- The state of a parse. -/
structure State (ρ : Type) where
  pos : Nat := 0
  atomicity : Atomicity := .nonAtomic
  lookahead : Lookahead := .none
  /-- The furthest position at which a reported rule failed. -/
  attemptPos : Nat := 0
  /-- Reported rules that failed at `attemptPos`. -/
  posAttempts : Array ρ := #[]
  /-- Reported rules that matched at `attemptPos` inside a negative lookahead. -/
  negAttempts : Array ρ := #[]
  /-- Trees matched so far at this level, latest first. -/
  trees : List (Tree ρ) := []

namespace State

variable {ρ : Type}

/-- How many attempts are recorded at a position. -/
def attemptsAt (st : State ρ) (p : Nat) : Nat :=
  if st.attemptPos = p then st.posAttempts.size + st.negAttempts.size else 0

/-- Records that rule `r`, started at `p`, failed (or, under a negative lookahead,
matched). When the rules it called already left exactly one attempt at `p`, that one
is the better report and `r` is not added; otherwise the attempts made inside `r` at
`p` give way to `r` itself. Attempts at an earlier position than the furthest are
dropped, and attempts at a later one replace everything. -/
def track (st : State ρ) (r : ρ) (p posIdx negIdx prev : Nat) : State ρ :=
  if st.atomicity = .atomic then st
  else
    let curr := st.attemptsAt p
    if prev < curr ∧ curr - prev = 1 then st
    else
      let st := if p = st.attemptPos then
          { st with posAttempts := st.posAttempts.take posIdx,
                    negAttempts := st.negAttempts.take negIdx }
        else st
      let st := if st.attemptPos < p then
          { st with posAttempts := #[], negAttempts := #[], attemptPos := p }
        else st
      if p = st.attemptPos then
        if st.lookahead = .negative then { st with negAttempts := st.negAttempts.push r }
        else { st with posAttempts := st.posAttempts.push r }
      else st

/-- Moves forward by `n` characters. -/
def advance (st : State ρ) (n : Nat) : State ρ := { st with pos := st.pos + n }

/-- Returns to the position and trees of an earlier state, keeping the attempts. -/
def backTo (st earlier : State ρ) : State ρ := { st with pos := earlier.pos, trees := earlier.trees }

end State

/-- Whether the literal occurs at position `i`. -/
def litAt (input : Array Char) : List Char → Nat → Bool
  | [], _ => true
  | c :: cs, i => input[i]? == some c && litAt input cs (i + 1)

/-- Whether the literal occurs at position `i`, ASCII letters compared in either case. -/
def litNoCaseAt (input : Array Char) : List Char → Nat → Bool
  | [], _ => true
  | c :: cs, i =>
    (input[i]?.map Char.toLower) == some c.toLower && litNoCaseAt input cs (i + 1)

/-- One character matching a test. -/
def matchChar {ρ : Type} (input : Array Char) (test : Char → Bool) (st : State ρ) :
    Bool × State ρ :=
  match input[st.pos]? with
  | some c => if test c then (true, st.advance 1) else (false, st)
  | none => (false, st)

/-- The implicit separator, run only in a non-atomic context with `below` as the runner of
expressions; it never fails. -/
def skipWith {ρ : Type} (g : Grammar ρ) (below : Expr ρ → State ρ → Bool × State ρ)
    (st : State ρ) : State ρ :=
  if st.atomicity = .nonAtomic then
    let after := (below g.skip { st with atomicity := .atomic }).2
    { after with atomicity := .nonAtomic }
  else st

/-- Further rounds of a repetition, each preceded by `skip` when `separated`; a failed
round is undone and ends the repetition, and so does a round that does not move
forward. -/
def repeatRounds {ρ : Type} (round : State ρ → Bool × State ρ) (skip : State ρ → State ρ)
    (separated : Bool) : Nat → State ρ → State ρ
  | 0, st => st
  | n + 1, st =>
    let st0 := if separated then skip st else st
    match round st0 with
    | (true, st1) => if st.pos < st1.pos then repeatRounds round skip separated n st1 else st1
    | (false, st1) => st1.backTo st

/-- Runs `e` at the state's position, where `below` runs the body of a called rule (and
the separator) with one rule call less to spend. -/
def runExpr {ρ : Type} (g : Grammar ρ) (input : Array Char)
    (below : Expr ρ → State ρ → Bool × State ρ) : Expr ρ → State ρ → Bool × State ρ
  | .lit s, st => if litAt input s st.pos then (true, st.advance s.length) else (false, st)
  | .litNoCase s, st =>
    if litNoCaseAt input s st.pos then (true, st.advance s.length) else (false, st)
  | .range lo hi, st => matchChar input (fun c => lo ≤ c && c ≤ hi) st
  | .charIf p, st => matchChar input p st
  | .any, st => matchChar input (fun _ => true) st
  | .startOfInput, st => (st.pos == 0, st)
  | .endOfInput, st => (st.pos == input.size, st)
  | .seq a b, st =>
    match runExpr g input below a st with
    | (false, st1) => (false, st1.backTo st)
    | (true, st1) =>
      match runExpr g input below b (skipWith g below st1) with
      | (true, st2) => (true, st2)
      | (false, st2) => (false, st2.backTo st)
  | .alt a b, st =>
    match runExpr g input below a st with
    | (true, st1) => (true, st1)
    | (false, st1) => runExpr g input below b st1
  | .opt a, st => (true, (runExpr g input below a st).2)
  | .many a, st =>
    if st.atomicity = .nonAtomic then
      match runExpr g input below a st with
      | (false, st1) => (true, st1)
      | (true, st1) =>
        (true, repeatRounds (runExpr g input below a) (skipWith g below) true
          (input.size + 1) st1)
    else (true, repeatRounds (runExpr g input below a) (skipWith g below) false
      (input.size + 1) st)
  | .ahead a, st =>
    let inner := { st with lookahead :=
      if st.lookahead = .negative then .negative else .positive }
    let (ok, st1) := runExpr g input below a inner
    (ok, { st1 with pos := st.pos, lookahead := st.lookahead })
  | .notAhead a, st =>
    let inner := { st with lookahead :=
      if st.lookahead = .negative then .positive else .negative }
    let (ok, st1) := runExpr g input below a inner
    (!ok, { st1 with pos := st.pos, lookahead := st.lookahead })
  | .call r, st =>
    match g.kind r with
    | .silent => below (g.body r) st
    | kind =>
      let outer := st.atomicity
      let st0 := if kind = .compoundAtomic then { st with atomicity := .compoundAtomic } else st
      let start := st0.pos
      let (posIdx, negIdx) :=
        if start = st0.attemptPos then (st0.posAttempts.size, st0.negAttempts.size) else (0, 0)
      let prev := st0.attemptsAt start
      let records := st0.lookahead = .none ∧ st0.atomicity ≠ .atomic
      let bodyAtomicity := if kind = .atomic then Atomicity.atomic else st0.atomicity
      let inner := { st0 with trees := [], atomicity := bodyAtomicity }
      let (ok, st1) := below (g.body r) inner
      let st1 := { st1 with atomicity := st0.atomicity }
      let st2 :=
        if ok then
          let st1 := if st1.lookahead = .negative then st1.track r start posIdx negIdx prev
            else st1
          { st1 with trees :=
            if records then .node r start st1.pos st1.trees.reverse :: st0.trees
            else st1.trees ++ st0.trees }
        else
          let st1 := if st1.lookahead ≠ .negative then st1.track r start posIdx negIdx prev
            else st1
          { st1 with trees := st0.trees }
      (ok, { st2 with atomicity := outer })

/-- Runs `e` at the state's position with at most `fuel` nested rule calls. -/
def run {ρ : Type} (g : Grammar ρ) (input : Array Char) : Nat → Expr ρ → State ρ → Bool × State ρ
  | 0, _, st => (false, st)
  | fuel + 1, e, st => runExpr g input (run g input fuel) e st

/-- The implicit separator with `fuel` rule calls to spend; it never fails. -/
def skipOver {ρ : Type} (g : Grammar ρ) (input : Array Char) (fuel : Nat) (st : State ρ) :
    State ρ :=
  skipWith g (run g input fuel) st

/-- Runs `start` on the whole input; on failure returns the final state, whose
attempts say what was expected. -/
def parse {ρ : Type} (g : Grammar ρ) (input : Array Char) (start : Expr ρ) (fuel : Nat) :
    Except (State ρ) (List (Tree ρ)) :=
  match run g input fuel start {} with
  | (true, st) => .ok st.trees.reverse
  | (false, st) => .error st

end Peg

end FormatConfig
