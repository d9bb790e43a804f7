import FormatConfig.Manifest.Select
import FormatConfig.JsonFile
import FormatConfig.Lookup

/-!
# Resolving a manifest

A manifest is a JSON5 file that selects source files in one of three ways, tried in this
order: a `files` list of paths relative to the manifest's directory, a `filesGlob` list
of glob patterns, or `include` and `exclude` lists for wildcard matching with the default
source extensions. A manifest with none of them is a configuration error.
-/

namespace FormatConfig

namespace Manifest

/-- How a manifest selects its files. -/
inductive Selection where
  | listed (files : List String)
  | globbed (patterns : List String)
  | matched (includes excludes : List String)
  | unspecified
deriving DecidableEq, Repr

/-- The way of selecting that a manifest's sections choose. -/
def Config.selection (c : Config) : Selection :=
  match c.files, c.filesGlob with
  | some files, _ => .listed files
  | none, some patterns => .globbed patterns
  | none, none =>
    if c.includes.isSome || c.excludes.isSome then
      .matched (c.includes.getD []) (c.excludes.getD [])
    else .unspecified

/-- What resolving a manifest reports about the way it selects, if anything. -/
def Selection.note (manifest : Path) : Selection → Option String
  | .listed files => some (manifest.text ++ ": " ++ toString files.length ++ " listed files")
  | .globbed _ => some (manifest.text ++ ": expanding filesGlob")
  | .matched .. => some (manifest.text ++ ": matching include/exclude")
  | .unspecified => none

end Manifest

namespace FileSystem

/-- The source extensions wildcard matching selects by default. -/
def sourceExtensions : List String := [".ts", ".tsx"]

/-- A manifest's absolute path and how it selects files. -/
def readManifest (fs : FileSystem) (manifest : Path) :
    Except Error (Path × Manifest.Selection) := do
  let manifest ← fs.absolutePath manifest
  let doc ← fs.readJson5 manifest
  let config ← (Manifest.Config.decode doc).mapError (Error.parse manifest)
  return (manifest, config.selection)

/-- The files a manifest selects. Without `withMatcher`, include and exclude lists cannot
be served and are reported as a missing capability. -/
def resolveManifest (fs : FileSystem) (manifest : Path) (withMatcher : Bool) :
    Except Error (List Path) := do
  let (manifest, selection) ← fs.readManifest manifest
  let dir := manifest.parent?.getD manifest
  match selection with
  | .listed files => return files.map fun f => Path.normalize (dir.joinText f)
  | .globbed patterns => fs.expandGlobs dir patterns
  | .matched includes excludes =>
    if withMatcher then
      Manifest.matchFiles
        { path := dir, extensions := sourceExtensions, excludes, includes,
          currentDirectory := dir }
        fs.listing (fs.nodes.length + 1)
    else .error (.missingCapability "include/exclude file matching requires a FileMatcher")
  | .unspecified =>
    .error (.configuration manifest
      "no \"files\", \"filesGlob\" or \"include\"/\"exclude\" section present")

end FileSystem

end FormatConfig
