/-!
# Line diffs

`LineDiff.unified` renders the difference between two texts as a unified diff of their
lines, with three lines of context around each change.

Lines keep their terminators (`\n`, `\r\n` or a lone `\r`), so two lines differing only
in their terminator differ. The edit script comes from the divide-and-conquer form of
Myers' algorithm: strip the common prefix and suffix, find the middle snake of a
shortest edit path by searching forward from the start and backward from the end at
once, and solve the two halves around it. Within a run of changes all deletions are
shown before all insertions.
-/

namespace FormatConfig

namespace LineDiff

/-- Splits a text into lines, each with its terminator; a last line without one is
kept. -/
def splitLines (s : String) : Array String :=
  go s.toList [] #[]
where
  go : List Char → List Char → Array String → Array String
    | [], cur, acc => if cur.isEmpty then acc else acc.push (String.ofList cur.reverse)
    | '\r' :: '\n' :: rest, cur, acc =>
      go rest [] (acc.push (String.ofList ('\n' :: '\r' :: cur).reverse))
    | '\r' :: rest, cur, acc => go rest [] (acc.push (String.ofList ('\r' :: cur).reverse))
    | '\n' :: rest, cur, acc => go rest [] (acc.push (String.ofList ('\n' :: cur).reverse))
    | c :: rest, cur, acc => go rest (c :: cur) acc

/-- The two sequences of lines being compared. -/
structure Sides where
  old : Array String
  new : Array String

namespace Sides

/-- How many lines `old[o0..o1]` and `new[n0..n1]` have in common at their start. -/
def prefixLen (s : Sides) (o0 o1 n0 n1 : Nat) : Nat :=
  go (min (o1 - o0) (n1 - n0)) 0
where
  go : Nat → Nat → Nat
    | 0, k => k
    | fuel + 1, k => if s.old[o0 + k]? == s.new[n0 + k]? then go fuel (k + 1) else k

/-- How many lines `old[o0..o1]` and `new[n0..n1]` have in common at their end. -/
def suffixLen (s : Sides) (o0 o1 n0 n1 : Nat) : Nat :=
  go (min (o1 - o0) (n1 - n0)) 0
where
  go : Nat → Nat → Nat
    | 0, k => k
    | fuel + 1, k =>
      if s.old[o1 - k - 1]? == s.new[n1 - k - 1]? then go fuel (k + 1) else k

end Sides

/-- A step of the edit script, by positions in the old and new lines. -/
inductive Edit where
  | equal (oldIndex newIndex len : Nat)
  | delete (oldIndex oldLen newIndex : Nat)
  | insert (oldIndex newIndex newLen : Nat)
deriving DecidableEq, Repr

/-- The furthest-reaching positions on the diagonals of one search direction, indexed
by diagonal plus an offset. -/
structure Frontier where
  reach : Array Nat
  offset : Nat

namespace Frontier

/-- The position reached on diagonal `k`. -/
def get (v : Frontier) (k : Int) : Nat := v.reach.getD (k + v.offset).toNat 0

/-- Records the position reached on diagonal `k`. -/
def set (v : Frontier) (k : Int) (x : Nat) : Frontier :=
  { v with reach := v.reach.setIfInBounds (k + v.offset).toNat x }

end Frontier

/-- The diagonals searched at step `d`: `d`, `d - 2`, down to `-d`. -/
def diagonals (d : Nat) : List Int := (List.range (d + 1)).map fun (i : Nat) => (d : Int) - 2 * (i : Int)

/-- The region between the two searches: `old[o0..o1]` against `new[n0..n1]`. -/
structure Region where
  o0 : Nat
  o1 : Nat
  n0 : Nat
  n1 : Nat

namespace Region

/-- The number of old lines in the region. -/
def width (r : Region) : Nat := r.o1 - r.o0

/-- The number of new lines in the region. -/
def height (r : Region) : Nat := r.n1 - r.n0

/-- The difference of the two lengths. -/
def delta (r : Region) : Int := (r.width : Int) - r.height

/-- Whether the lengths differ by an odd number. -/
def odd (r : Region) : Bool := r.delta % 2 == 1

end Region

/-- Step `d` of the forward search on the given diagonals; stops with the start of the
middle snake once the paths overlap. -/
def forwardStep (s : Sides) (r : Region) (d : Nat) (back : Frontier) :
    List Int → Frontier → Except (Nat × Nat) Frontier
  | [], fwd => .ok fwd
  | k :: ks, fwd =>
    let x := if k = -(d : Int) || (k != d && fwd.get (k - 1) < fwd.get (k + 1)) then fwd.get (k + 1)
      else fwd.get (k - 1) + 1
    let y : Int := x - k
    let x' := if x < r.width && 0 ≤ y && y < r.height then
        x + s.prefixLen (r.o0 + x) r.o1 (r.n0 + y.toNat) r.n1
      else x
    let fwd := fwd.set k x'
    if r.odd && ((k - r.delta).natAbs : Int) ≤ (d : Int) - 1 &&
        fwd.get k + back.get (-(k - r.delta)) ≥ r.width then
      .error (x + r.o0, y.toNat + r.n0)
    else forwardStep s r d back ks fwd

/-- Step `d` of the backward search on the given diagonals; stops with the start of
the middle snake once the paths overlap. -/
def backwardStep (s : Sides) (r : Region) (d : Nat) (fwd : Frontier) :
    List Int → Frontier → Except (Nat × Nat) Frontier
  | [], back => .ok back
  | k :: ks, back =>
    let x := if k = -(d : Int) || (k != d && back.get (k - 1) < back.get (k + 1)) then
        back.get (k + 1)
      else back.get (k - 1) + 1
    let y : Int := x - k
    let (x, y) := if x < r.width && 0 ≤ y && y < r.height then
        let a := s.suffixLen r.o0 (r.o0 + r.width - x) r.n0 (r.n0 + r.height - y.toNat)
        (x + a, y + a)
      else (x, y)
    let back := back.set k x
    if !r.odd && ((k - r.delta).natAbs : Int) ≤ d &&
        back.get k + fwd.get (-(k - r.delta)) ≥ r.width then
      .error (r.width - x + r.o0, (r.height - y.toNat) + r.n0)
    else backwardStep s r d fwd ks back

/-- The steps of the search from `d` on, at most `fuel` of them. -/
def searchFrom (s : Sides) (r : Region) : Nat → Nat → Frontier → Frontier → Option (Nat × Nat)
  | 0, _, _, _ => none
  | fuel + 1, d, fwd, back =>
    match forwardStep s r d back (diagonals d) fwd with
    | .error p => some p
    | .ok fwd =>
      match backwardStep s r d fwd (diagonals d) back with
      | .error p => some p
      | .ok back => searchFrom s r fuel (d + 1) fwd back

/-- How many steps the search may take for lengths `a` and `b`. -/
def maxSteps (a b : Nat) : Nat := (a + b + 1) / 2 + 1

/-- Where a shortest edit path through the region crosses its middle. -/
def middleSnake (s : Sides) (r : Region) : Option (Nat × Nat) :=
  let steps := maxSteps r.width r.height
  let empty : Frontier := { reach := Array.replicate (2 * steps + 3) 0, offset := steps + 1 }
  searchFrom s r steps 0 empty empty

/-- Appends the edit script of the region; `fuel` bounds the depth of splitting. -/
def conquer (s : Sides) : Nat → Region → Array Edit → Array Edit
  | 0, r, acc =>
    (acc.push (.delete r.o0 r.width r.n0)).push (.insert r.o0 r.n0 r.height)
  | fuel + 1, r, acc =>
    let p := s.prefixLen r.o0 r.o1 r.n0 r.n1
    let acc := if p > 0 then acc.push (.equal r.o0 r.n0 p) else acc
    let o0 := r.o0 + p
    let n0 := r.n0 + p
    let q := s.suffixLen o0 r.o1 n0 r.n1
    let o1 := r.o1 - q
    let n1 := r.n1 - q
    let acc :=
      if o1 ≤ o0 && n1 ≤ n0 then acc
      else if n1 ≤ n0 then acc.push (.delete o0 (o1 - o0) n0)
      else if o1 ≤ o0 then acc.push (.insert o0 n0 (n1 - n0))
      else
        match middleSnake s ⟨o0, o1, n0, n1⟩ with
        | some (xs, ys) => conquer s fuel ⟨xs, o1, ys, n1⟩ (conquer s fuel ⟨o0, xs, n0, ys⟩ acc)
        | none => (acc.push (.delete o0 (o1 - o0) n0)).push (.insert o0 n0 (n1 - n0))
    if q > 0 then acc.push (.equal o1 n1 q) else acc

/-- A step after merging: an unchanged run, or a run of changes that deletes
`oldLen` lines at `oldIndex` and inserts `newLen` lines from `newIndex`. -/
inductive Op where
  | equal (oldIndex newIndex len : Nat)
  | change (oldIndex oldLen newIndex newLen : Nat)
deriving DecidableEq, Repr

/-- Edits being merged: a pending unchanged run, or pending deletions and
insertions. -/
structure Merger where
  ops : Array Op := #[]
  same : Option (Nat × Nat × Nat) := none
  deleted : Option (Nat × Nat × Nat) := none
  inserted : Option (Nat × Nat × Nat) := none

namespace Merger

/-- Emits the pending unchanged run. -/
def flushSame (m : Merger) : Merger :=
  match m.same with
  | some (o, n, len) => { m with ops := m.ops.push (.equal o n len), same := none }
  | none => m

/-- Emits the pending changes as one run. -/
def flushChanges (m : Merger) : Merger :=
  match m.deleted, m.inserted with
  | some (o, ol, _), some (_, n, nl) =>
    { m with ops := m.ops.push (.change o ol n nl), deleted := none, inserted := none }
  | some (o, ol, n), none => { m with ops := m.ops.push (.change o ol n 0), deleted := none }
  | none, some (o, n, nl) => { m with ops := m.ops.push (.change o 0 n nl), inserted := none }
  | none, none => m

/-- Takes one edit. -/
def step (m : Merger) : Edit → Merger
  | .equal o n len =>
    let m := m.flushChanges
    { m with same := some (match m.same with
      | some (o', n', len') => (o', n', len' + len)
      | none => (o, n, len)) }
  | .delete o len n =>
    let m := m.flushSame
    { m with deleted := some (match m.deleted with
      | some (o', len', n') => (o', len' + len, n')
      | none => (o, len, n)) }
  | .insert o n len =>
    let m := m.flushSame
    { m with inserted := some (match m.inserted with
      | some (o', n', len') => (o', n', len' + len)
      | none => (o, n, len)) }

end Merger

/-- The merged steps of an edit script. -/
def merge (edits : Array Edit) : Array Op :=
  ((edits.foldl Merger.step {}).flushSame.flushChanges).ops

/-- The steps turning the old lines into the new ones. -/
def ops (s : Sides) : Array Op :=
  merge (conquer s (s.old.size + s.new.size + 1) ⟨0, s.old.size, 0, s.new.size⟩ #[])

/-- Splits the steps into groups of changes with `n` lines of context, dropping
unchanged runs longer than twice the context between groups. -/
def groups (ops : List Op) (n : Nat) : List (List Op) :=
  match ops with
  | [] => []
  | first :: rest =>
    let first := match first with
      | .equal o nw len => let cut := len - n; Op.equal (o + cut) (nw + cut) (len - cut)
      | op => op
    let all := first :: rest
    let all := match all.getLast? with
      | some (Op.equal o nw len) => all.dropLast ++ [Op.equal o nw (len - (len - n))]
      | _ => all
    let (done, pending) := all.foldl (fun (acc : Array (List Op) × Array Op) (op : Op) =>
      match op with
      | .equal o nw len =>
        if len > n * 2 then
          let cut := len - n
          (acc.1.push (acc.2.push (Op.equal o nw n)).toList, #[Op.equal (o + cut) (nw + cut) (len - cut)])
        else (acc.1, acc.2.push op)
      | _ => (acc.1, acc.2.push op)) (#[], #[])
    match pending.toList with
    | [] | [Op.equal ..] => done.toList
    | p => (done.push p).toList

/-- A line as shown in a diff: with a line end added when it has none. -/
def shown (line : String) : String :=
  if line.endsWith "\n" || line.endsWith "\r" then line else line ++ "\n"

/-- The lines of one step, each with its sign. -/
def opLines (s : Sides) : Op → List String
  | .equal o _ len => ((List.range len).map fun i => " " ++ shown (s.old.getD (o + i) ""))
  | .change o ol n nl =>
    ((List.range ol).map fun i => "-" ++ shown (s.old.getD (o + i) "")) ++
      ((List.range nl).map fun i => "+" ++ shown (s.new.getD (n + i) ""))

/-- The unified diff of two texts under a label, with three lines of context. -/
def unified (label old new : String) : String :=
  let s : Sides := { old := splitLines old, new := splitLines new }
  let body := (groups (ops s).toList 3).map fun g => String.join (g.flatMap (opLines s))
  "--- " ++ label ++ "\n+++ " ++ label ++ "\n" ++ "\n".intercalate body

end LineDiff

end FormatConfig
