import FormatConfig.Ignore.Rules
import FormatConfig.Fs.Basic
import FormatConfig.SourceFile

/-!
# Walking for source files

`FileSystem.walkSources` expands paths into source files. A path naming a file is kept
whatever its name, and the path `-`, which stands for standard input, gives nothing
otherwise. A directory is walked depth first: entries starting with a dot are skipped,
and so is whatever the ignore files say to ignore; the files kept are the source files.

Every directory brings its rules: its `.ignore`, its `.gitignore` and, when it holds a
repository, the repository's `info/exclude`. The directories above a walked directory
bring theirs too. A directory holds a repository when it has a `.git` or a `.jj`. The
rules of `.gitignore` and `info/exclude` count only inside a repository, that is when
some directory on the way holds one, and not above the nearest one. The deepest
directory with a verdict decides, and `.ignore` outranks `.gitignore`, which outranks
`info/exclude`. An exception (`!`) lets an entry starting with a dot in.

The directories above are consulted with the entry's path rebuilt below the walked
directory's canonical path, from the entry's path relative to the walked directory.
-/

namespace FormatConfig

namespace Ignore

/-- The ignore files of one directory. -/
structure DirRules where
  /-- The directory, as the walk reached it. -/
  dir : String
  /-- A directory above the walked one. -/
  isAbsoluteParent : Bool
  /-- The directory holds a repository. -/
  hasGit : Bool
  dotIgnore : IgnoreFile
  gitIgnore : IgnoreFile
  gitExclude : IgnoreFile

/-- The verdicts found so far, by kind of file, and whether a repository was passed. -/
structure Found where
  dotIgnore : Verdict := .none
  gitIgnore : Verdict := .none
  gitExclude : Verdict := .none
  sawGit : Bool := false

/-- Consults one directory's files about a path, unless an earlier one decided. -/
def Found.consult (anyGit : Bool) (path : String) (isDir : Bool) (f : Found) (d : DirRules) :
    Found :=
  let git := anyGit && !f.sawGit
  { dotIgnore := f.dotIgnore.orElse (d.dotIgnore.verdict path isDir),
    gitIgnore := if git then f.gitIgnore.orElse (d.gitIgnore.verdict path isDir) else f.gitIgnore,
    gitExclude :=
      if git then f.gitExclude.orElse (d.gitExclude.verdict path isDir) else f.gitExclude,
    sawGit := f.sawGit || d.hasGit }

/-- What the directories, deepest first, say about a path; `base` is the canonical
path of the walked directory, known when its parents were read. -/
def chainVerdict (chain : List DirRules) (base : Option String) (path : String)
    (isDir : Bool) : Verdict :=
  let anyGit := chain.any DirRules.hasGit
  let walked := chain.takeWhile fun (d : DirRules) => !d.isAbsoluteParent
  let found := walked.foldl (Found.consult anyGit path isDir) {}
  let found := match base with
    | some abs =>
      let root := (walked.getLast?.map DirRules.dir).getD ""
      let root := (dropTextPrefix? "./" root).getD root
      let rest := (dropTextPrefix? root path).getD path
      let rebuilt := (⟨abs⟩ : Path).joinText ((dropTextPrefix? "/" rest).getD rest)
      (chain.dropWhile fun (d : DirRules) => !d.isAbsoluteParent).foldl
        (Found.consult anyGit rebuilt.text isDir) found
    | none => found
  found.dotIgnore.orElse (found.gitIgnore.orElse found.gitExclude)

/-- Whether the walk skips an entry: ignored by a rule, or starting with a dot and not
let in by an exception. -/
def skipsEntry (chain : List DirRules) (base : Option String) (path name : String)
    (isDir : Bool) : Bool :=
  let path := (dropTextPrefix? "./" path).getD path
  match chainVerdict chain base path isDir with
  | .ignore => true
  | .whitelist => false
  | .none => name.startsWith "."

end Ignore

namespace FileSystem

open Ignore

/-- An ignore file for `root` read from `path`; a missing or unreadable file has no
rules. -/
def readIgnoreFile (fs : FileSystem) (root : String) (path : Path) : IgnoreFile × List String :=
  match fs.readBytes path with
  | .ok bytes => IgnoreFile.read root path.text bytes
  | .error _ => (IgnoreFile.empty root, [])

/-- The first line of a file as lines are read: up to the first line feed, without it
and without a carriage return just before it. An empty file has none, and a line that is
not UTF-8 is an error. -/
def firstLine? (bytes : ByteArray) : Option (Except String String) :=
  let all := bytes.toList
  if all.isEmpty then none
  else
    let line := all.takeWhile (· != 10)
    let line := if line.length < all.length && line.getLast? == some 13 then line.dropLast
      else line
    match String.fromUTF8? ⟨line.toArray⟩ with
    | some text => some (.ok text)
    | none => some (.error "stream did not contain valid UTF-8")

/-- The directory of a repository that keeps its exclusions, for a directory whose
`.git` may name it. A `.git` directory keeps them itself, and so does a missing one. A
`.git` file names the repository on its first line, `gitdir: <dir>`, and that directory's
`commondir` file names the shared directory, relative to it when it starts with `.`. When
either says something else, or the `commondir` file is missing, there is none; failing to
read a line is an error naming the file. -/
def gitCommonDir (fs : FileSystem) (dir : Path) : Except (Option String) Path :=
  let git := dir.joinText ".git"
  match fs.metadata git with
  | .error _ => .ok git
  | .ok .dir => .ok git
  | .ok (.file bytes) =>
    match firstLine? bytes with
    | none => .error none
    | some (.error e) => .error (some (git.text ++ ": " ++ e))
    | some (.ok line) =>
      match dropTextPrefix? "gitdir: " line with
      | none => .error none
      | some named =>
        let real : Path := ⟨named⟩
        let common := real.joinText "commondir"
        match fs.readBytes common with
        | .error _ => .error none
        | .ok bytes =>
          match firstLine? bytes with
          | none => .error none
          | some (.error e) => .error (some (common.text ++ ": " ++ e))
          | some (.ok line) => .ok (if line.startsWith "." then real.joinText line else ⟨line⟩)

/-- Whether a directory holds a repository: it has a `.git` or a `.jj`. -/
def holdsRepository (fs : FileSystem) (dir : Path) : Bool :=
  fs.pathExists (dir.joinText ".git") || fs.pathExists (dir.joinText ".jj")

/-- The ignore files of a directory and the errors reading them. -/
def dirRules (fs : FileSystem) (dir : Path) (isAbsoluteParent : Bool) :
    DirRules × List String :=
  let (dotIgnore, e1) := fs.readIgnoreFile dir.text (dir.joinText ".ignore")
  let (gitIgnore, e2) := fs.readIgnoreFile dir.text (dir.joinText ".gitignore")
  let (gitExclude, e3) := match fs.gitCommonDir dir with
    | .ok common => fs.readIgnoreFile dir.text (common.joinText "info/exclude")
    | .error none => (IgnoreFile.empty dir.text, [])
    | .error (some e) => (IgnoreFile.empty dir.text, [e])
  ({ dir := dir.text, isAbsoluteParent, hasGit := fs.holdsRepository dir, dotIgnore,
     gitIgnore, gitExclude }, e1 ++ e2 ++ e3)

/-- The rules of the directories above a directory, deepest first, its canonical path,
and the errors reading them, outermost first. -/
def parentRules (fs : FileSystem) (dir : Path) : List DirRules × Option String × List String :=
  match fs.resolve dir with
  | .ok (loc, _) =>
    let above := (List.range loc.length).map fun i => Location.toPath (loc.take i)
    let read := above.map fun p => fs.dirRules p true
    ((read.map (·.1)).reverse, some (Location.toPath loc).text, read.flatMap (·.2))
  | .error _ => ([], none, [])

/-- Walks a directory at most `fuel` levels deep, adding the source files not skipped. -/
def walkDir (fs : FileSystem) (base : Option String) :
    Nat → List DirRules → Path → Array Path → Array Path
  | 0, _, _, acc => acc
  | fuel + 1, chain, dir, acc =>
    match fs.readDir dir with
    | .error _ => acc
    | .ok entries =>
      entries.foldl (fun acc (name, node) =>
        let path := dir.joinText name
        if skipsEntry chain base path.text name node.isDir then acc
        else if node.isDir then
          fs.walkDir base fuel ((fs.dirRules path false).1 :: chain) path acc
        else if isSourceFile path then acc.push path
        else acc) acc

/-- The files the paths stand for, with the errors met, in walk order. -/
def walkSources (fs : FileSystem) (paths : List Path) : List (Except String Path) :=
  paths.flatMap fun p =>
    if fs.isFile p then [.ok p]
    else if p.text == "-" then []
    else
      let (parents, base, parentErrors) :=
        if fs.isDir p then fs.parentRules p else ([], none, [])
      let reported : List (Except String Path) :=
        if parentErrors.isEmpty then [] else [.error ("\n".intercalate parentErrors)]
      match fs.metadata p with
      | .error e =>
        reported ++ [.error (p.text ++ ": IO error for operation on " ++ p.text ++ ": " ++
          e.message)]
      | .ok _ =>
        let found := fs.walkDir base (fs.nodes.length + 1)
          ((fs.dirRules p false).1 :: parents) p #[]
        reported ++ found.toList.map .ok

end FileSystem

end FormatConfig
