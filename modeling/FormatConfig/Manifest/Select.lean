import FormatConfig.Manifest.Config
import FormatConfig.Glob.Expand
import FormatConfig.Fs.Listing
import FormatConfig.Error
import FormatConfig.Text.Unicode

/-!
# Selecting files

Two ways of turning patterns into files.

*Glob expansion* applies patterns in order, relative to a directory. A pattern adds the
regular files it matches that are not yet in the list; a pattern starting with `!`
removes the files whose path relative to the directory it matches. Separators in paths
must be matched by separators in patterns.

*Wildcard matching* walks a directory tree, depth first, files before subdirectories,
once per include pattern, and keeps the files that have one of the wanted extensions,
match the include pattern, are not below a path matched by an exclude pattern, and were
not kept before. Without include patterns everything is included; an include whose last
component has neither a wildcard nor an extension names a directory and includes
everything below it. Entries starting with a dot are skipped unless the include pattern
names such an entry, and package directories (`node_modules`, `bower_components`,
`jspm_packages`) are skipped unless the include pattern mentions them. Directories are
listed through a function, so the walk works over any tree of listings.
-/

namespace FormatConfig

namespace Manifest

/-- Removes leading `./` pieces. -/
def stripDotSlash (p : String) : String :=
  String.ofList (go p.toList)
where
  go : List Char → List Char
    | '.' :: '/' :: rest => go rest
    | cs => cs

/-- Removes trailing slashes. -/
def trimEndSlashes (s : String) : String :=
  String.ofList (s.toList.reverse.dropWhile (· = '/')).reverse

/-- Whether `needle` occurs in `haystack`. -/
def containsText (haystack needle : String) : Bool :=
  needle.isEmpty || (haystack.splitOn needle).length > 1

/-- Compiles a pattern, reporting it under its own text. -/
def compilePattern (p : String) : Except Error Glob.Pattern :=
  (Glob.Pattern.compile p).mapError (.pattern p)

/-- Matching options for both ways: separators must be matched literally. -/
def selectOptions (caseSensitive : Bool) : Glob.MatchOptions :=
  { caseSensitive, requireLiteralSeparator := true, requireLiteralLeadingDot := false }

/-- What a directory include pattern stands for: `src` means `src/**/*`; a pattern with
a wildcard or an extension in its last component is kept. -/
def includePattern (incl : String) : String :=
  let incl := trimEndSlashes incl
  let last := ((incl.splitOn "/").getLast?).getD incl
  let isWildcard := last.any fun c => c = '*' || c = '?' || c = '['
  let hasExtension := last.contains '.' && last != "." && last != ".."
  if isWildcard || hasExtension then incl
  else if incl.isEmpty || incl == "." then "**/*"
  else incl ++ "/**/*"

/-- Whether an include pattern names an entry starting with a dot. -/
def namesHiddenEntry (incl : String) : Bool :=
  (incl.splitOn "/").any fun part => part.startsWith "." && part != "." && part != ".."

/-- Package directories, skipped unless an include pattern mentions them. -/
def packageDirectories : List String := ["node_modules", "bower_components", "jspm_packages"]

/-- The fixed parts of one wildcard walk. -/
structure Walk where
  root : Path
  extensions : List String
  excludes : List Glob.Pattern
  options : Glob.MatchOptions
  enterHidden : Bool
  listing : Path → DirListing

namespace Walk

/-- Whether a relative path or a directory above it is excluded. -/
def isExcluded (w : Walk) (relative : String) : Bool :=
  ((Path.slashPieces relative).foldl (fun (acc : String × Bool) part =>
    let prefix' := if acc.1.isEmpty then part else acc.1 ++ "/" ++ part
    (prefix', acc.2 || w.excludes.any (·.matchesWith prefix' w.options))) ("", false)).2

/-- Whether a file name has one of the wanted extensions. -/
def hasExtension (w : Walk) (name : String) : Bool :=
  w.extensions.any fun ext =>
    if w.options.caseSensitive then name.endsWith ext
    else (Unicode.toLower name).endsWith (Unicode.toLower ext)

/-- Walks `dir`, at most `fuel` levels deep, adding matching files to `out` unless
already in `seen`. -/
def walk (w : Walk) (incl : Glob.Pattern) : Nat → Path → List Path × List Path →
    List Path × List Path
  | 0, _, acc => acc
  | fuel + 1, dir, acc =>
    let entries := w.listing dir
    let acc := entries.files.foldl (fun (acc : List Path × List Path) name =>
      if !w.enterHidden && name.startsWith "." then acc
      else
        let path := dir.joinText name
        match path.relativeSlashText? w.root with
        | none => acc
        | some rel =>
          if w.hasExtension name && incl.matchesWith rel w.options && !w.isExcluded rel &&
              !acc.1.any (·.sameComponents path) then
            (path :: acc.1, acc.2 ++ [path])
          else acc) acc
    entries.directories.foldl (fun acc name =>
      if !w.enterHidden && name.startsWith "." then acc
      else if packageDirectories.contains name && !containsText incl.source name then acc
      else
        let path := dir.joinText name
        match path.relativeSlashText? w.root with
        | some rel => if w.isExcluded rel then acc else w.walk incl fuel path acc
        | none => acc) acc

end Walk

/-- A request for wildcard matching. -/
structure MatchRequest where
  path : Path
  extensions : List String := [".ts", ".tsx"]
  excludes : List String := []
  includes : List String := []
  caseSensitive : Bool := true
  currentDirectory : Path

/-- The files a wildcard match selects, in the order found; `depth` bounds how deep
the walk may go. -/
def matchFiles (req : MatchRequest) (listing : Path → DirListing) (depth : Nat) :
    Except Error (List Path) := do
  let root := Path.normalize (req.currentDirectory.join req.path)
  let options := selectOptions req.caseSensitive
  let includes := if req.includes.isEmpty then ["**/*"]
    else req.includes.map fun i => includePattern (stripDotSlash i)
  let excludes ← req.excludes.mapM fun e => compilePattern (trimEndSlashes (stripDotSlash e))
  let (_, out) ← includes.foldlM (fun acc incl => do
      let pattern ← compilePattern incl
      let w : Walk := { root, extensions := req.extensions, excludes, options,
                        enterHidden := namesHiddenEntry incl, listing }
      return w.walk pattern depth root acc) ([], [])
  return out

end Manifest

namespace FileSystem

/-- The regular files a list of glob patterns selects below `cwd`, in the order found;
`!` patterns remove files matched so far. -/
def expandGlobs (fs : FileSystem) (cwd : Path) (patterns : List String) :
    Except Error (List Path) :=
  let options := Manifest.selectOptions true
  patterns.foldlM (fun files pattern =>
    if pattern.startsWith "!" then do
      let negated ← Manifest.compilePattern
        (Manifest.stripDotSlash (String.ofList (pattern.toList.drop 1)))
      return files.filter fun f =>
        match f.relativeSlashText? cwd with
        | some rel => !negated.matchesWith rel options
        | none => true
    else do
      let full := Glob.escape (Manifest.trimEndSlashes cwd.text) ++ "/" ++
        Manifest.stripDotSlash pattern
      let found ← (fs.glob full options).mapError (.pattern pattern)
      return found.foldl (fun files p =>
        if fs.isFile p && !files.any (·.sameComponents p) then files ++ [p] else files) files) []

end FileSystem

end FormatConfig
