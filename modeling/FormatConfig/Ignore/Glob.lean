/-!
# Globs of ignore files

The globs of ignore files are compiled to a small language of *atoms* and matched
against a whole path, byte by byte:

* `?` is one byte other than `/`, `*` any run of bytes within one component;
* `**` is a whole component sequence: at the start it matches any leading directories
  (`**/a` matches `a` and `x/y/a`), between separators any middle part
  (`a/**/b` matches `a/b` and `a/x/b`), at the end anything below (`a/**`);
  a `**` that does not stand alone as a component is two `*`;
* `[...]` is one byte of a class, `[!...]` or `[^...]` one byte outside it; an
  unclosed `[` is a literal `[`;
* `{a,b}` is one of its branches, and groups nest (`{a,{b,c}}`); branches that spell
  nothing are dropped, and a group left with none matches the empty text; a `}` without
  a `{` is an error;
* a backslash makes the next character literal.

A glob that is exactly `**` matches every path.
-/

namespace FormatConfig

namespace Ignore

/-- One element of a compiled glob. -/
inductive Atom where
  /-- The UTF-8 bytes of a character. -/
  | literal (c : Char)
  /-- One byte other than `/`. -/
  | any
  /-- Any run of bytes other than `/`. -/
  | zeroOrMore
  /-- Nothing, a `/`, or anything ending in `/`: leading directories. -/
  | recursivePrefix
  /-- A `/` and then anything: everything below. -/
  | recursiveSuffix
  /-- A `/`, or a `/`, anything and a `/`: any middle directories. -/
  | recursiveZeroOrMore
  /-- One byte in (or, when negated, outside) the character ranges. -/
  | charClass (negated : Bool) (ranges : List (Char × Char))
deriving DecidableEq, Repr, Inhabited

/-- An atom, or a group of alternatives, each spelled out as atoms. A group with no
alternative matches the empty text. -/
inductive Piece where
  | atom (a : Atom)
  | group (alternatives : List (List Atom))
deriving DecidableEq, Repr, Inhabited

/-- Why a glob does not compile. -/
inductive GlobError where
  | invalidRange (lo hi : Char)
  | unclosedAlternates
  | unopenedAlternates
  | danglingEscape
deriving DecidableEq, Repr

/-- The text of a glob error. -/
def GlobError.message : GlobError → String
  | .invalidRange lo hi => "invalid range; '" ++ lo.toString ++ "' > '" ++ hi.toString ++ "'"
  | .unclosedAlternates =>
    "unclosed alternate group; missing '\x7d' (maybe escape '\x7b' with '[\x7b]'?)"
  | .unopenedAlternates =>
    "unopened alternate group; missing '\x7b' (maybe escape '\x7d' with '[\x7d]'?)"
  | .danglingEscape => "dangling '\\'"

/-- A compiled glob. -/
structure Glob where
  pieces : List Piece
deriving DecidableEq, Repr, Inhabited

/-- The atom sequences pieces stand for, one per choice of alternatives. -/
def expand : List Piece → List (List Atom)
  | [] => [[]]
  | .atom a :: rest => (expand rest).map (a :: ·)
  | .group alts :: rest =>
    let choices := if alts.isEmpty then [[]] else alts
    choices.flatMap fun alt => (expand rest).map (alt ++ ·)

/-- Whether pieces spell nothing: they hold no atom, only groups without alternatives. -/
def spellsNothing (ps : List Piece) : Bool :=
  ps.all fun
    | .group [] => true
    | _ => false

/-- The group made of branches: the alternatives of the branches that spell something. -/
def groupOf (branches : Array (Array Piece)) : Piece :=
  .group (((branches.toList.map Array.toList).filter fun b => !spellsNothing b).flatMap expand)

/-- The state of compilation: the finished top-level pieces and the open groups,
innermost first, each with its branches, the last of which is being filled. -/
structure Builder where
  top : Array Piece := #[]
  groups : List (Array (Array Piece)) := []

namespace Builder

/-- The sequence being filled. -/
def current (b : Builder) : Array Piece :=
  match b.groups with
  | g :: _ => g.back?.getD #[]
  | [] => b.top

/-- Changes the sequence being filled. -/
def modifyCurrent (b : Builder) (f : Array Piece → Array Piece) : Builder :=
  match b.groups with
  | g :: rest => { b with groups := g.modify (g.size - 1) f :: rest }
  | [] => { b with top := f b.top }

/-- Whether the sequence being filled has something in it. -/
def hasTokens (b : Builder) : Bool := !b.current.isEmpty

/-- Adds an atom to the sequence being filled. -/
def push (b : Builder) (a : Atom) : Builder := b.modifyCurrent (·.push (.atom a))

/-- Removes the last element of the sequence being filled, returning it if it is an
atom. -/
def pop (b : Builder) : Builder × Option Atom :=
  (b.modifyCurrent (·.pop), match b.current.back? with
    | some (.atom a) => some a
    | _ => none)

/-- Whether a group is open. -/
def inGroup (b : Builder) : Bool := !b.groups.isEmpty

/-- Opens a group with one empty branch. -/
def openGroup (b : Builder) : Builder := { b with groups := #[#[]] :: b.groups }

/-- Starts the next branch of the innermost group. -/
def nextBranch (b : Builder) : Builder :=
  match b.groups with
  | g :: rest => { b with groups := g.push #[] :: rest }
  | [] => b

/-- Closes the innermost group, adding it where it was opened; none is open after a `}`
without a `{`. -/
def closeGroup (b : Builder) : Option Builder :=
  match b.groups with
  | g :: rest => some (({ b with groups := rest } : Builder).modifyCurrent (·.push (groupOf g)))
  | [] => none

end Builder

/-- Reads a character class after its `[`; returns the class and how many characters
it took up to and including the closing `]`, or `none` when no `]` closes it. -/
def readClass (chars : List Char) : Except GlobError (Option (Atom × Nat)) :=
  let (negated, body, used) := match chars with
    | '!' :: rest => (true, rest, 1)
    | '^' :: rest => (true, rest, 1)
    | rest => (false, rest, 0)
  let rec go (first inRange : Bool) (ranges : Array (Char × Char)) (used : Nat) :
      List Char → Except GlobError (Option (Atom × Nat))
    | [] => .ok none
    | c :: rest =>
      if c = ']' && !first then
        let ranges := if inRange then ranges.push ('-', '-') else ranges
        .ok (some (.charClass negated ranges.toList, used + 1))
      else if c = ']' then go false false (ranges.push (']', ']')) (used + 1) rest
      else if c = '-' && first then go false false (ranges.push ('-', '-')) (used + 1) rest
      else if c = '-' && !inRange then go false true ranges (used + 1) rest
      else if inRange then
        let lo := (ranges.back?.map (·.1)).getD c
        if c < lo then .error (.invalidRange lo c)
        else go false false (ranges.pop.push (lo, c)) (used + 1) rest
      else go false false (ranges.push (c, c)) (used + 1) rest
  go true false #[] used body

/-- What a `**` becomes after the atoms before it: the previous `/` gives way to a
recursive atom, and a recursive atom already there absorbs it. -/
def recursiveAfter (b : Builder) (isSuffix : Bool) : Builder :=
  match b.pop with
  | (b, some .recursivePrefix) => b.push .recursivePrefix
  | (b, some .recursiveSuffix) => b.push .recursiveSuffix
  | (b, _) => b.push (if isSuffix then .recursiveSuffix else .recursiveZeroOrMore)

/-- Compiles the characters of a glob; `prev` is the character read just before. -/
def compileChars (b : Builder) (prev : Option Char) : List Char → Except GlobError Builder
  | [] => if b.inGroup then .error .unclosedAlternates else .ok b
  | c :: rest =>
    match c with
    | '?' => compileChars (b.push .any) (some c) rest
    | '*' =>
      if rest.head? == some '*' then
        let after := rest.drop 1
        let twoStars := (b.push .zeroOrMore).push .zeroOrMore
        if !b.hasTokens then
          if after.head? == some '/' then compileChars (b.push .recursivePrefix) (some '/') (rest.drop 2)
          else if after.isEmpty then compileChars (b.push .recursivePrefix) (some '*') (rest.drop 1)
          else compileChars twoStars (some '*') (rest.drop 1)
        else if prev != some '/' && (!b.inGroup || (prev != some ',' && prev != some '\x7b')) then
          compileChars twoStars (some '*') (rest.drop 1)
        else if after.isEmpty then compileChars (recursiveAfter b true) (some '*') (rest.drop 1)
        else if after.head? == some '/' then
          compileChars (recursiveAfter b false) (some '/') (rest.drop 2)
        else if b.inGroup && (after.head? == some ',' || after.head? == some '\x7d') then
          compileChars (recursiveAfter b true) (some '*') (rest.drop 1)
        else compileChars twoStars (some '*') (rest.drop 1)
      else compileChars (b.push .zeroOrMore) (some c) rest
    | '[' =>
      match readClass rest with
      | .error e => .error e
      | .ok (some (cls, used)) => compileChars (b.push cls) (some ']') (rest.drop used)
      | .ok none => compileChars (b.push (.literal '[')) (some c) rest
    | '\x7b' => compileChars b.openGroup (some c) rest
    | '\x7d' =>
      match b.closeGroup with
      | some b => compileChars b (some c) rest
      | none => .error .unopenedAlternates
    | ',' =>
      if b.inGroup then compileChars b.nextBranch (some c) rest
      else compileChars (b.push (.literal ',')) (some c) rest
    | '\\' =>
      match rest with
      | [] => .error .danglingEscape
      | d :: after => compileChars (b.push (.literal d)) (some d) after
    | _ => compileChars (b.push (.literal c)) (some c) rest
termination_by cs => cs.length
decreasing_by all_goals (simp only [List.length_drop, List.length_cons]; omega)

/-- Compiles a glob. -/
def Glob.compile (text : String) : Except GlobError Glob :=
  (compileChars {} none text.toList).map fun b => ⟨b.top.toList⟩

/-- The byte `/`. -/
def slashByte : UInt8 := 47

/-- The UTF-8 bytes of a character. -/
def charBytes (c : Char) : List UInt8 := (String.singleton c).toUTF8.toList

/-- The byte ranges a class stands for: a range between two characters joins the last
byte of the first to the first byte of the second. -/
def classBytes (ranges : List (Char × Char)) : List (UInt8 × UInt8) :=
  ranges.flatMap fun (lo, hi) =>
    if lo = hi then (charBytes lo).map fun b => (b, b)
    else
      let l := charBytes lo
      let h := charBytes hi
      l.dropLast.map (fun b => (b, b)) ++ [(l.getLastD 0, h.headD 0)] ++
        h.tail.map fun b => (b, b)

/-- Whether a byte is in the ranges. -/
def classHas (ranges : List (Char × Char)) (b : UInt8) : Bool :=
  (classBytes ranges).any fun (lo, hi) => lo ≤ b && b ≤ hi

/-- The rest after a byte prefix, if the bytes start with it. -/
def dropPrefix? : List UInt8 → List UInt8 → Option (List UInt8)
  | [], s => some s
  | _ :: _, [] => none
  | p :: ps, b :: bs => if p = b then dropPrefix? ps bs else none

/-- The bytes, and what is left after each of their first bytes up to the first `/`. -/
def segmentTails : List UInt8 → List (List UInt8)
  | [] => [[]]
  | b :: t => if b = slashByte then [b :: t] else (b :: t) :: segmentTails t

/-- What is left after each `/` in the bytes. -/
def afterSlashes : List UInt8 → List (List UInt8)
  | [] => []
  | b :: t => if b = slashByte then t :: afterSlashes t else afterSlashes t

/-- Every suffix of the bytes, longest first. -/
def suffixes : List UInt8 → List (List UInt8)
  | [] => [[]]
  | b :: t => (b :: t) :: suffixes t

/-- Whether the atoms match the whole of the bytes. -/
def matchAtoms : List Atom → List UInt8 → Bool
  | [], s => s.isEmpty
  | a :: rest, s =>
    match a, s with
    | .literal c, s =>
      match dropPrefix? (charBytes c) s with
      | some t => matchAtoms rest t
      | none => false
    | .any, b :: t => b != slashByte && matchAtoms rest t
    | .zeroOrMore, s => (segmentTails s).any (matchAtoms rest)
    | .recursivePrefix, s =>
      matchAtoms rest s || (s.head? == some slashByte && matchAtoms rest s.tail) ||
        (afterSlashes s).any (matchAtoms rest)
    | .recursiveSuffix, b :: t => b == slashByte && (suffixes t).any (matchAtoms rest)
    | .recursiveZeroOrMore, b :: t =>
      b == slashByte && (matchAtoms rest t || (afterSlashes t).any (matchAtoms rest))
    | .charClass negated ranges, b :: t => classHas ranges b != negated && matchAtoms rest t
    | _, [] => false

/-- Whether the glob matches the whole path. -/
def Glob.matches (g : Glob) (path : String) : Bool :=
  match g.pieces with
  | [.atom .recursivePrefix] => true
  | pieces => (expand pieces).any fun atoms => matchAtoms atoms path.toUTF8.toList

end Ignore

end FormatConfig
