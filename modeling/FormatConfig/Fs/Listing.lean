import FormatConfig.Fs.Basic

/-!
# Directory listings

A listing splits a directory's entries into files and subdirectories, each sorted by
name. A directory that cannot be read lists as empty.
-/

namespace FormatConfig

/-- The entries of one directory, split by kind. -/
structure DirListing where
  files : List String := []
  directories : List String := []
deriving DecidableEq, Repr, Inhabited

/-- The listing of the directory a path names; anything unreadable is empty. -/
def FileSystem.listing (fs : FileSystem) (dir : Path) : DirListing :=
  match fs.readDir dir with
  | .ok entries =>
    { files := (entries.filter (·.2.isFile)).map (·.1),
      directories := (entries.filter (·.2.isDir)).map (·.1) }
  | .error _ => {}

end FormatConfig
