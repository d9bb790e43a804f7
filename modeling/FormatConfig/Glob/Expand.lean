import FormatConfig.Glob.Match
import FormatConfig.Fs.Basic

/-!
# Expanding a glob pattern over a file system

A pattern is split at its slashes into one pattern per path component; a leading slash
makes it start at the root. The expansion keeps a stack of paths still to look at, each
with the index of the component pattern it must match:

* a component without wildcards is not matched against a directory listing: the path
  with that name is taken if it exists (`.` and `..` if the path so far is a
  directory);
* a component with wildcards lists the directory, children in name order, and matches
  each child's name; a leading `.` in the component also lets it match `.` and `..`;
* `**` matches any number of directories, including none.

Paths are produced in depth-first order. A pattern ending in a slash only produces
directories. Each path is matched by recursion on the steps still allowed below it: one
for each later component and one for each directory level a run of `**` goes down.
`(patterns + 1) * (depth + 2)` steps, for a file system whose locations are at most `depth`
long, cover every path the pattern can reach, so no match is ever cut off.
-/

namespace FormatConfig

namespace Glob

/-- A path waiting to be matched: whether it is a directory, and the index of the
component pattern it must match, or `none` when it is already known to match in full. -/
structure Pending where
  path : Path
  isDir : Bool
  index : Option Nat
deriving Inhabited

/-- The text of a pattern that has no wildcards. -/
def Pattern.literal? (p : Pattern) : Option String :=
  p.tokens.foldr (fun t acc =>
    match t, acc with
    | .char c, some s => some (c.toString ++ s)
    | _, _ => none) (some "")

/-- Whether a pattern starts with a literal dot. -/
def Pattern.startsWithDot (p : Pattern) : Bool :=
  match p.tokens with
  | .char '.' :: _ => true
  | _ => false

/-- The path of a child, bare when the parent is `.`. -/
def childPath (parent : Path) (name : String) : Path :=
  if parent.text = "." then ⟨name⟩ else parent.joinText name

/-- Puts what must be looked at below `path` for the component patterns from `idx` on
the stack. -/
def fillTodo (fs : FileSystem) (pats : Array Pattern) (opts : MatchOptions) (idx : Nat)
    (path : Path) (isDir : Bool) (todo : List Pending) : List Pending :=
  if h : idx < pats.size then
    let pattern := pats[idx]
    match pattern.literal? with
    | some s =>
      let special := s = "." || s = ".."
      let next := childPath path s
      if (special && isDir) || (!special && fs.pathExists next) then
        if idx + 1 = pats.size then ⟨next, fs.isDir next, none⟩ :: todo
        else fillTodo fs pats opts (idx + 1) next (fs.isDir next) todo
      else todo
    | none =>
      if isDir then
        match fs.readDir path with
        | .ok children =>
          let todo := children.map (fun (name, n) => ⟨childPath path name, n.isDir, some idx⟩) ++ todo
          if pattern.startsWithDot then
            [".", ".."].foldl (fun todo special =>
              if pattern.matchesWith special opts then
                let next := path.joinText special
                if idx + 1 = pats.size then ⟨next, fs.isDir next, none⟩ :: todo
                else fillTodo fs pats opts (idx + 1) next (fs.isDir next) todo
              else todo) todo
          else todo
        | .error _ => todo
      else todo
  else todo
termination_by pats.size - idx

/-- The index of the last of a run of `**` components starting at `idx`. -/
def lastRecursive (pats : Array Pattern) (idx : Nat) : Nat :=
  go idx (pats.size - idx)
where
  go (i : Nat) : Nat → Nat
    | 0 => i
    | n + 1 => if (pats[i + 1]?.map (·.isRecursive)).getD false then go (i + 1) n else i

/-- One step of the expansion: the paths one pending path matches, where `rest` gives those
of each path it puts on the stack. The path itself comes first where it matches in full,
then the paths below it, in the order the stack finds them. -/
def matchStep (fs : FileSystem) (pats : Array Pattern) (opts : MatchOptions) (requireDir : Bool)
    (rest : Pending → List Path) (p : Pending) : List Path :=
  match p.index with
  | none => if requireDir && !p.isDir then [] else [p.path]
  | some idx =>
    let last := pats.size - 1
    let isRec := (pats[idx]?.map (·.isRecursive)).getD false
    let next := lastRecursive pats idx
    -- a directory met by a run of `**`: its entries go on with the run, one level down
    let below : List Path :=
      if isRec && p.isDir then (fillTodo fs pats opts next p.path true []).flatMap rest else []
    if isRec && next = last then if p.isDir then p.path :: below else []
    else
      -- the path itself matches the component after the run, or its own
      let j := if isRec then next + 1 else idx
      let own : List Path :=
        match p.path.fileName?, pats[j]? with
        | some name, some pattern =>
          if pattern.matchesWith name opts then
            if j = last then if !requireDir || p.isDir then [p.path] else []
            else (fillTodo fs pats opts (j + 1) p.path p.isDir []).flatMap rest
          else []
        | _, _ => []
      own ++ below

/-- The paths one pending path matches. Each step down, to a later component or one
directory level further in a run of `**`, takes one of `steps`. -/
def matchesOf (fs : FileSystem) (pats : Array Pattern) (opts : MatchOptions) (requireDir : Bool) :
    Nat → Pending → List Path
  | 0, _ => []
  | steps + 1, p => matchStep fs pats opts requireDir (matchesOf fs pats opts requireDir steps) p

/-- Splits text at slashes, without a last empty piece after a final slash. -/
def splitTerminator (s : String) : List String :=
  if s.isEmpty then []
  else
    let pieces := Path.slashPieces s
    if pieces.getLast? = some "" then pieces.dropLast else pieces

end Glob

namespace FileSystem

/-- The paths a glob pattern matches, in the order they are found. -/
def glob (fs : FileSystem) (pattern : String) (opts : Glob.MatchOptions) :
    Except Glob.PatternError (List Path) := do
  let _ ← Glob.Pattern.compile pattern
  let absolute := pattern.startsWith "/"
  let rest := if absolute then String.ofList (pattern.toList.drop 1) else pattern
  let scope : Path := if absolute then ⟨"/"⟩ else ⟨"."⟩
  let pats ← (Glob.splitTerminator rest).mapM Glob.Pattern.compile
  let pats := pats.toArray
  if pats.isEmpty then return []
  let requireDir := pattern.endsWith "/"
  let todo := Glob.fillTodo fs pats opts 0 scope (fs.isDir scope) []
  return todo.flatMap (Glob.matchesOf fs pats opts requireDir ((pats.size + 1) * (fs.depth + 2)))

end FileSystem

end FormatConfig
