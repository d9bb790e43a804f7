import FormatConfig.Glob.Pattern

/-!
# Matching text against a glob pattern

A pattern matches a whole text. `*` and `**` first try to match nothing and then grow
one character at a time; `**` only resumes after a `/`. Three options shape the
match: case sensitivity (folding ASCII letters only), whether `/` must be matched
literally, and whether a leading `.` must be matched literally.
-/

namespace FormatConfig

namespace Glob

/-- How a match treats case, separators and leading dots. -/
structure MatchOptions where
  caseSensitive : Bool := true
  requireLiteralSeparator : Bool := false
  requireLiteralLeadingDot : Bool := false
deriving DecidableEq, Repr

/-- The outcome of matching a pattern suffix against a text suffix. A failure of the
whole pattern stops every enclosing attempt. -/
inductive MatchResult where
  | matched
  | subPatternFails
  | entirePatternFails
deriving DecidableEq, Repr

/-- Equality of two characters, folding ASCII case when asked. -/
def charsEq (a b : Char) (caseSensitive : Bool) : Bool :=
  if !caseSensitive && a.toNat < 128 && b.toNat < 128 then a.toLower == b.toLower
  else a == b

/-- Whether a character is an ASCII letter. -/
def isAsciiLetter (c : Char) : Bool := c.toNat < 128 && c.toLower != c.toUpper

/-- Membership in a bracket class. Without case sensitivity a range of two ASCII
letters also takes the other case of an ASCII character. -/
def inSpecs (specs : List CharSpec) (c : Char) (caseSensitive : Bool) : Bool :=
  specs.any fun
    | .single sc => charsEq c sc caseSensitive
    | .range lo hi =>
      let folded :=
        !caseSensitive && c.toNat < 128 && lo.toNat < 128 && hi.toNat < 128 &&
          isAsciiLetter lo.toLower && isAsciiLetter hi.toLower &&
          lo.toLower ≤ c.toLower && c.toLower ≤ hi.toLower
      folded || (lo ≤ c && c ≤ hi)

/-- Whether a single-character token accepts `c`. -/
def acceptsChar (o : MatchOptions) (followsSep : Bool) (tok : Token) (c : Char) : Bool :=
  let isSep := c == '/'
  match tok with
  | .char c2 => charsEq c c2 o.caseSensitive
  | .anyChar | .anyWithin _ | .anyExcept _ =>
    if (o.requireLiteralSeparator && isSep) ||
        (followsSep && o.requireLiteralLeadingDot && c == '.') then false
    else match tok with
      | .anyWithin specs => inSpecs specs c o.caseSensitive
      | .anyExcept specs => !inSpecs specs c o.caseSensitive
      | _ => true
  | _ => false

mutual

/-- Matches the tokens against the text; `followsSep` says whether the text so far
ended in `/` (true at the start). -/
def matchFrom (o : MatchOptions) (followsSep : Bool) (file : List Char) :
    List Token → MatchResult
  | [] => if file.isEmpty then .matched else .subPatternFails
  | tok :: rest =>
    match tok with
    | .anySequence | .anyRecursiveSequence =>
      match matchFrom o followsSep file rest with
      | .subPatternFails => growSequence o (tok == .anyRecursiveSequence) followsSep file rest
      | m => m
    | _ =>
      match file with
      | [] => .entirePatternFails
      | c :: cs =>
        if acceptsChar o followsSep tok c then matchFrom o (c == '/') cs rest
        else .subPatternFails
termination_by toks => (toks.length, file.length, 1)

/-- Lets a `*` (or, when `recursive`, a `**`) take one more character and retries the
rest of the pattern; when the text runs out the rest must match the empty text. -/
def growSequence (o : MatchOptions) (recursive : Bool) (followsSep : Bool) :
    List Char → List Token → MatchResult
  | [], rest => matchFrom o followsSep [] rest
  | c :: cs, rest =>
    if followsSep && o.requireLiteralLeadingDot && c == '.' then .subPatternFails
    else
      let sep := c == '/'
      if recursive && !sep then growSequence o recursive sep cs rest
      else if !recursive && o.requireLiteralSeparator && sep then .subPatternFails
      else
        match matchFrom o sep cs rest with
        | .subPatternFails => growSequence o recursive sep cs rest
        | m => m
termination_by file rest => (rest.length + 1, file.length, 0)

end

/-- Whether the pattern matches the whole text. -/
def Pattern.matchesWith (p : Pattern) (s : String) (o : MatchOptions) : Bool :=
  matchFrom o true s.toList p.tokens == .matched

/-- Matching with the default options: case-sensitive, `*` crossing `/`. -/
def Pattern.matches (p : Pattern) (s : String) : Bool := p.matchesWith s {}

end Glob

end FormatConfig
