import FormatConfig.Path.Lexical
import FormatConfig.Fs.Error

/-!
# A file system as a value

`FileSystem` holds every directory and file by its *location*, the list of names from
the root, together with the current directory. Resolving a path follows the rules of
a POSIX system: every component before the last must be a directory, `..` of the root
is the root, and a trailing slash or a trailing `.` demands a directory.
-/

namespace FormatConfig

/-- What a location holds. -/
inductive Node where
  | dir
  | file (bytes : ByteArray)
deriving Inhabited

/-- A location is the list of names leading to it from the root. -/
abbrev Location := List String

/-- Directories and files by location, and the current directory. The root is always
a directory and is not listed, and no location is stored twice. -/
structure FileSystem where
  nodes : List (Location × Node)
  cwd : Location
  nodup : (nodes.map Prod.fst).Nodup := by decide

instance : Inhabited FileSystem := ⟨{ nodes := [], cwd := [], nodup := List.nodup_nil }⟩

namespace Node

/-- A directory node. -/
def isDir : Node → Bool
  | .dir => true
  | .file _ => false

/-- A file node. -/
def isFile (n : Node) : Bool := !n.isDir

end Node

/-- The absolute path text of a location. -/
def Location.toPath (loc : Location) : Path := ⟨"/" ++ "/".intercalate loc⟩

namespace FileSystem

/-- The current directory as a path. -/
def cwdPath (fs : FileSystem) : Path := Location.toPath fs.cwd

/-- What is stored at a location; the root is a directory. -/
def nodeAt? (fs : FileSystem) : Location → Option Node
  | [] => some .dir
  | loc => (fs.nodes.find? (·.1 == loc)).map (·.2)

/-- Sorts names by code point. -/
def sortNames {α : Type} (xs : List (String × α)) : List (String × α) :=
  xs.mergeSort (fun a b => decide (a.1 ≤ b.1))

/-- The entries directly inside a directory location, sorted by name. -/
def childrenAt (fs : FileSystem) (loc : Location) : List (String × Node) :=
  sortNames <| fs.nodes.filterMap fun (l, n) =>
    match l.getLast?, l.dropLast == loc with
    | some name, true => some (name, n)
    | _, _ => none

/-- The longest name a directory entry may have, in bytes. -/
def nameMax : Nat := 255

/-- The longest path a system call accepts, in bytes. -/
def pathMax : Nat := 4095

/-- One piece of a path during resolution. Every piece needs the location reached so
far to be a directory, and a name longer than `nameMax` is refused there. -/
def stepPiece (fs : FileSystem) (cur : Location × Node) (piece : String) :
    Except IoError (Location × Node) :=
  match cur with
  | (_, .file _) => .error .notADirectory
  | (loc, .dir) =>
    if piece = "" || piece = "." then .ok (loc, .dir)
    else if piece = ".." then .ok (loc.dropLast, .dir)
    else if piece.utf8ByteSize > nameMax then .error .nameTooLong
    else
      let next := loc ++ [piece]
      match fs.nodeAt? next with
      | some n => .ok (next, n)
      | none => .error .notFound

/-- Folds pieces through `stepPiece`, stopping at the first failure. -/
def walkPieces (fs : FileSystem) : Location × Node → List String → Except IoError (Location × Node)
  | cur, [] => .ok cur
  | cur, piece :: rest =>
    match fs.stepPiece cur piece with
    | .ok next => fs.walkPieces next rest
    | .error e => .error e

/-- The location and node a path names, resolved from the root or the current
directory. The empty path names nothing; a path with a NUL byte, or longer than
`pathMax`, is refused before anything is looked up. -/
def resolve (fs : FileSystem) (p : Path) : Except IoError (Location × Node) :=
  if p.text.toList.contains (Char.ofNat 0) then .error .nulInPath
  else if p.text.utf8ByteSize > pathMax then .error .nameTooLong
  else if p.text = "" then .error .notFound
  else
    let start : Location := if p.isAbsolute then [] else fs.cwd
    fs.walkPieces (start, .dir) (Path.slashPieces p.text)

/-- The node a path names. -/
def metadata (fs : FileSystem) (p : Path) : Except IoError Node :=
  (fs.resolve p).map (·.2)

/-- Whether the path names anything. -/
def pathExists (fs : FileSystem) (p : Path) : Bool :=
  match fs.metadata p with
  | .ok _ => true
  | .error _ => false

/-- Whether the path names a regular file. -/
def isFile (fs : FileSystem) (p : Path) : Bool :=
  match fs.metadata p with
  | .ok n => n.isFile
  | .error _ => false

/-- Whether the path names a directory. -/
def isDir (fs : FileSystem) (p : Path) : Bool :=
  match fs.metadata p with
  | .ok n => n.isDir
  | .error _ => false

/-- The bytes of the file a path names. -/
def readBytes (fs : FileSystem) (p : Path) : Except IoError ByteArray :=
  match fs.metadata p with
  | .ok (.file bytes) => .ok bytes
  | .ok .dir => .error .isADirectory
  | .error e => .error e

/-- The text of the file a path names; its bytes must be UTF-8. -/
def readText (fs : FileSystem) (p : Path) : Except IoError String :=
  match fs.readBytes p with
  | .ok bytes =>
    match String.fromUTF8? bytes with
    | some s => .ok s
    | none => .error .invalidUtf8
  | .error e => .error e

/-- The entries of the directory a path names, sorted by name. -/
def readDir (fs : FileSystem) (p : Path) : Except IoError (List (String × Node)) :=
  match fs.resolve p with
  | .ok (loc, .dir) => .ok (fs.childrenAt loc)
  | .ok (_, .file _) => .error .notADirectory
  | .error e => .error e

/-- Replacing what is stored at a location keeps the locations stored. -/
theorem map_fst_replace (nodes : List (Location × Node)) (loc : Location) (n : Node) :
    (nodes.map fun e => if e.1 == loc then (loc, n) else e).map Prod.fst = nodes.map Prod.fst := by
  rw [List.map_map]
  refine List.map_congr_left fun e _ => ?_
  by_cases h : e.1 = loc <;> simp [h]

/-- A location that is not stored yet can be added once. -/
theorem nodup_append_new {nodes : List (Location × Node)} (h : (nodes.map Prod.fst).Nodup)
    {loc : Location} (hnew : ¬nodes.any (·.1 == loc) = true) (n : Node) :
    ((nodes ++ [(loc, n)]).map Prod.fst).Nodup := by
  rw [List.map_append, List.nodup_append]
  refine ⟨h, List.nodup_cons.2 ⟨List.not_mem_nil, List.nodup_nil⟩, ?_⟩
  -- every stored location differs from the new one
  intro l hl l' hl' heq
  obtain ⟨e, he, rfl⟩ := List.mem_map.1 hl
  rw [List.map_singleton, List.mem_singleton] at hl'
  exact hnew (List.any_eq_true.2 ⟨e, he, by simp [heq, hl']⟩)

/-- Replaces or adds the node at a location. -/
def setNode (fs : FileSystem) (loc : Location) (n : Node) : FileSystem :=
  if h : fs.nodes.any (·.1 == loc) then
    { fs with nodes := fs.nodes.map fun e => if e.1 == loc then (loc, n) else e,
              nodup := (map_fst_replace fs.nodes loc n).symm ▸ fs.nodup }
  else { fs with nodes := fs.nodes ++ [(loc, n)], nodup := nodup_append_new fs.nodup h n }

/-- Writes a file, creating it inside an existing directory or replacing an existing
file. -/
def writeBytes (fs : FileSystem) (p : Path) (bytes : ByteArray) : Except IoError FileSystem :=
  match fs.resolve p with
  | .ok (_, .dir) => .error .isADirectory
  | .ok (loc, .file _) => .ok (fs.setNode loc (.file bytes))
  | .error .notFound =>
    let pieces := Path.slashPieces p.text
    let name := pieces.getLastD ""
    let parentPieces := pieces.dropLast
    let start : Location := if p.isAbsolute then [] else fs.cwd
    match fs.walkPieces (start, .dir) parentPieces with
    | .ok (loc, .dir) =>
      if name = "" || name = "." || name = ".." then .error .isADirectory
      else .ok (fs.setNode (loc ++ [name]) (.file bytes))
    | .ok (_, .file _) => .error .notADirectory
    | .error e => .error e
  | .error e => .error e

/-- Writes text as UTF-8. -/
def writeText (fs : FileSystem) (p : Path) (s : String) : Except IoError FileSystem :=
  fs.writeBytes p s.toUTF8

/-- Adds a directory and its missing parents. -/
def addDir (fs : FileSystem) (loc : Location) : FileSystem :=
  (List.range loc.length).foldl
    (fun acc i =>
      let l := loc.take (i + 1)
      match acc.nodeAt? l with
      | some _ => acc
      | none => acc.setNode l .dir)
    fs

/-- Adds a file and its missing parent directories. -/
def addFile (fs : FileSystem) (loc : Location) (bytes : ByteArray) : FileSystem :=
  (fs.addDir loc.dropLast).setNode loc (.file bytes)

/-- The length of the longest location stored: no directory lies deeper. -/
def depth (fs : FileSystem) : Nat := ((fs.nodes.map (·.1.length)).max?).getD 0

/-- Every regular file, with its location. -/
def files (fs : FileSystem) : List (Location × ByteArray) :=
  fs.nodes.filterMap fun (l, n) =>
    match n with
    | .file b => some (l, b)
    | .dir => none

end FileSystem

end FormatConfig
