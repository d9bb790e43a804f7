import FormatConfig.Path.Basic

/-!
# Lexical normal form and absolute paths

`Path.normalize` removes `.` and resolves `..` by text alone: a `..` takes away the last
component when the path so far has a parent, and is kept otherwise. `Path.absolute`
puts a relative path below the current directory the way a path library does before
any file is touched.
-/

namespace FormatConfig

namespace Path

/-- Removes the last component, reporting whether there was one to remove. -/
def pop (p : Path) : Path × Bool :=
  match p.parent? with
  | some q => (q, true)
  | none => (p, false)

/-- One step of normalisation: `.` vanishes, `..` pops or is kept, anything else is
appended. -/
def normalizeStep (acc : Path) : Component → Path
  | .curDir => acc
  | .parentDir =>
    match acc.pop with
    | (q, true) => q
    | (_, false) => acc.pushComponent .parentDir
  | c => acc.pushComponent c

/-- The lexical normal form of a path. -/
def normalize (p : Path) : Path :=
  p.components.foldl normalizeStep empty

/-- Why a path cannot be made absolute. -/
inductive AbsoluteError where
  | emptyPath
deriving DecidableEq, Repr

/-- The text of an `AbsoluteError`. -/
def AbsoluteError.message : AbsoluteError → String
  | .emptyPath => "cannot make an empty path absolute"

/-- The path below `cwd` that `p` names, before normalisation. A leading `.` is
dropped, exactly two leading slashes are kept, and a trailing slash survives as a
final empty piece. The empty path has no absolute form. -/
def absolute (cwd p : Path) : Except AbsoluteError Path :=
  if p.text = "" then .error .emptyPath
  else
    let comps := match p.components with
      | .curDir :: rest => rest
      | cs => cs
    let twoSlashes := p.text.startsWith "//" && !p.text.startsWith "///"
    let (start, comps) :=
      if p.isAbsolute then
        if twoSlashes then ((⟨"//"⟩ : Path), comps.drop 1) else (empty, comps)
      else (cwd, comps)
    let built := comps.foldl pushComponent start
    .ok (if p.text.endsWith "/" then built.joinText "" else built)

/-- The absolute form of `p` below `cwd`, normalised. -/
def absoluteNormal (cwd p : Path) : Except AbsoluteError Path :=
  (absolute cwd p).map normalize

end Path

end FormatConfig
