/-!
# Paths as they are spelled

A path is kept as the text the user wrote, because every answer prints paths back
verbatim. Its meaning comes from its *components*: a leading `/` is the root, a leading
`.` of a relative path is the current directory, `..` is the parent, and every other
non-empty piece between slashes is a name. Empty pieces and inner `.` pieces carry no
meaning and are skipped.

The operations here are the lexical ones a path library offers: components, parent,
last name, joining and prefix removal. None of them looks at a file system.
-/

namespace FormatConfig

/-- One meaningful piece of a path. -/
inductive Component where
  | root
  | curDir
  | parentDir
  | normal (name : String)
deriving DecidableEq, Repr, Inhabited

/-- The text a component stands for when it is written back. -/
def Component.text : Component → String
  | .root => "/"
  | .curDir => "."
  | .parentDir => ".."
  | .normal name => name

/-- A path, kept exactly as spelled. -/
structure Path where
  text : String
deriving DecidableEq, Repr, Inhabited

namespace Path

instance : ToString Path := ⟨Path.text⟩

/-- The empty path. -/
def empty : Path := ⟨""⟩

/-- The pieces of a text between slashes: `a//b/` has the pieces `a`, an empty one, `b`
and another empty one. -/
def slashPieces (s : String) : List String :=
  (s.toList.splitOn '/').map String.ofList

/-- A path is absolute when it starts at the root. -/
def isAbsolute (p : Path) : Bool := p.text.startsWith "/"

/-- The meaning of a piece found after the first one: empty and `.` pieces vanish. -/
def bodyComponent : String → Option Component
  | "" => none
  | "." => none
  | ".." => some .parentDir
  | name => some (.normal name)

/-- The components of a path, in order. -/
def components (p : Path) : List Component :=
  match slashPieces p.text with
  | [] => []
  | first :: rest =>
    if p.isAbsolute then .root :: rest.filterMap bodyComponent
    else if first = "." then .curDir :: rest.filterMap bodyComponent
    else (first :: rest).filterMap bodyComponent

/-- Text before the pieces that hold names: the root slash, or the leading `.` of a
relative path that starts with the current directory. -/
def head (p : Path) : String :=
  if p.isAbsolute then "/"
  else match slashPieces p.text with
    | "." :: _ => "."
    | _ => ""

/-- A piece between slashes that names something (it is neither empty nor `.`). -/
def isNamePiece (s : String) : Bool := s != "" && s != "."

/-- Drops the trailing pieces that name nothing. -/
def trimTail (pieces : List String) : List String :=
  (pieces.reverse.dropWhile (fun s => !isNamePiece s)).reverse

/-- The pieces after the head, split at every slash. -/
def bodyPieces (p : Path) : List String :=
  slashPieces (String.ofList (p.text.toList.drop p.head.length))

/-- The parent: the path without its last component, with the separators and `.`
pieces before it trimmed. The root and the empty path have no parent; a lone leading
`.` has the empty path as parent. -/
def parent? (p : Path) : Option Path :=
  match trimTail p.bodyPieces with
  | [] => if p.head = "." then some empty else none
  | pieces => some ⟨p.head ++ "/".intercalate (trimTail pieces.dropLast)⟩

/-- The last component when it is a name. -/
def fileName? (p : Path) : Option String :=
  match p.components.getLast? with
  | some (.normal name) => some name
  | _ => none

/-- Appends `q` with one separator, unless `q` is absolute, in which case `q` replaces
the path. An empty path or one ending in a slash takes no extra separator. -/
def join (p q : Path) : Path :=
  if q.isAbsolute then q
  else if p.text = "" || p.text.endsWith "/" then ⟨p.text ++ q.text⟩
  else ⟨p.text ++ "/" ++ q.text⟩

/-- Appends a single name or piece of text. -/
def joinText (p : Path) (s : String) : Path := p.join ⟨s⟩

/-- Appends a component, the root replacing everything. -/
def pushComponent (p : Path) (c : Component) : Path := p.join ⟨c.text⟩

/-- Two paths name the same thing lexically when their components agree. -/
def sameComponents (p q : Path) : Bool := p.components == q.components

/-- The components left after removing the components of `base` from the front. -/
def stripPrefix? (p base : Path) : Option (List Component) :=
  go p.components base.components
where
  go : List Component → List Component → Option (List Component)
    | rest, [] => some rest
    | [], _ :: _ => none
    | c :: cs, b :: bs => if c = b then go cs bs else none

/-- The components after `base`, written with `/` between them. -/
def relativeSlashText? (p base : Path) : Option String :=
  (p.stripPrefix? base).map fun cs => "/".intercalate (cs.map Component.text)

end Path

end FormatConfig
