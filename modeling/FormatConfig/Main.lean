import FormatConfig.Cli.Run

/-!
# The command line

`main` runs `lintfmt` on the disk. It takes a snapshot of the part of the disk a run can
look at: the current directory and the paths named on the command line with everything
below them, and, in every directory above them, the configuration and ignore files and
the repository markers. The run itself is `Cli.run` on that snapshot; afterwards the files
whose contents changed are written back, and the two output streams are printed.
-/

namespace FormatConfig

namespace Disk

/-- The files read from the directories above the snapshot's roots. -/
def ancestorFiles : List String :=
  [ruleFileName, editorConfigName, baselineFileName, ".gitignore", ".ignore"]

/-- How deep a snapshot descends below a root. -/
def snapshotDepth : Nat := 64

/-- The location of an absolute path text. -/
def locationOf (text : String) : Location :=
  (Path.normalize ⟨text⟩).text.splitOn "/" |>.filter (· ≠ "")

/-- Adds the file at a location, if it is one. -/
def addFileAt (fs : FileSystem) (loc : Location) : IO FileSystem := do
  let p := (← IO.currentDir) / (Location.toPath loc).text
  try
    if (← p.pathExists) && !(← p.isDir) then
      return fs.addFile loc (← IO.FS.readBinFile p)
    else return fs
  catch _ => return fs

/-- Adds what is at a location and below it, at most `depth` levels deep. The inside of
a repository directory is skipped apart from its exclusion file. -/
def addTree (fs : FileSystem) (loc : Location) : Nat → IO FileSystem
  | 0 => pure fs
  | depth + 1 => do
    let p := (← IO.currentDir) / (Location.toPath loc).text
    try
      if ← p.isDir then
        let fs := fs.addDir loc
        if loc.getLast? == some ".git" then
          addFileAt fs (loc ++ ["info", "exclude"])
        else if loc.getLast? == some ".jj" then pure fs
        else
          let entries ← p.readDir
          entries.foldlM (fun fs e => addTree fs (loc ++ [e.fileName]) depth) fs
      else addFileAt fs loc
    catch _ => return fs

/-- Adds, for every directory above a location that exists, the directory itself, its
configuration and ignore files, and its repository markers. -/
def addAncestors (fs : FileSystem) (loc : Location) : IO FileSystem :=
  (List.range loc.length).foldlM (fun fs i => do
    let dir := loc.take i
    let p := (← IO.currentDir) / (Location.toPath dir).text
    if !(← p.isDir) then return fs
    let fs := fs.addDir dir
    let fs ← ancestorFiles.foldlM (fun fs name => addFileAt fs (dir ++ [name])) fs
    let fs ← addTree fs (dir ++ [".git"]) 1
    addTree fs (dir ++ [".jj"]) 1) fs

/-- A snapshot of the disk around the current directory and the given paths. -/
def snapshot (cwd : Location) (paths : List String) : IO FileSystem := do
  let roots := cwd :: paths.filterMap fun p =>
    if p.isEmpty then none
    else some (locationOf (if p.startsWith "/" then p else (Location.toPath cwd).text ++ "/" ++ p))
  let fs : FileSystem := { nodes := [], cwd, nodup := List.nodup_nil }
  roots.foldlM (fun fs root => do
    let fs ← addAncestors fs root
    addTree fs root snapshotDepth) fs

/-- Writes back the files whose contents differ from the snapshot. -/
def writeChanges (before after : FileSystem) : IO Unit := do
  for (loc, bytes) in after.files do
    let unchanged := match before.nodeAt? loc with
      | some (.file old) => old.toList == bytes.toList
      | _ => false
    if !unchanged then
      IO.FS.writeBinFile ((← IO.currentDir) / (Location.toPath loc).text) bytes

end Disk

end FormatConfig

open FormatConfig in
/-- Runs the command line on the disk. -/
def main (args : List String) : IO UInt32 := do
  let cwd := Disk.locationOf (← IO.currentDir).toString
  let fs ← Disk.snapshot cwd args
  let outcome := Cli.run fs args
  Disk.writeChanges fs outcome.fs
  IO.print outcome.stdout
  IO.eprint outcome.stderr
  return outcome.exit.toUInt32
