import FormatConfig.Fs.Basic
import FormatConfig.Error

/-!
# Looking up configuration files

A configuration file applies to everything below the directory that holds it, so the
search for one walks from a start directory up its chain of lexical parents and stops
at the first directory that has the file. The search for the baseline file also stops
at the first directory that holds `.git`, the root of a repository.
-/

namespace FormatConfig

/-- The name of the rule file. -/
def ruleFileName : String := "tslint.json"

/-- The name of the editor settings file. -/
def editorConfigName : String := ".editorconfig"

/-- The name of the baseline file. -/
def baselineFileName : String := "lintfmt.toml"

namespace FileSystem

/-- Searches `dir` and then its parents for `name`, at most `fuel` directories. -/
def findUpwardAux (fs : FileSystem) (name : String) (stopAtRepo : Bool) :
    Nat → Path → Option Path
  | 0, _ => none
  | fuel + 1, dir =>
    let candidate := dir.joinText name
    if fs.pathExists candidate then some candidate
    else if stopAtRepo && fs.pathExists (dir.joinText ".git") then none
    else match dir.parent? with
      | some up => if up.sameComponents dir then none else fs.findUpwardAux name stopAtRepo fuel up
      | none => none

/-- The nearest `start/…/name` on the chain of lexical parents of `start`. When
`stopAtRepo` holds, the search gives up after a directory that holds `.git`. -/
def findUpward (fs : FileSystem) (start : Path) (name : String) (stopAtRepo : Bool) :
    Option Path :=
  fs.findUpwardAux name stopAtRepo (start.text.length + 1) start

/-- The nearest baseline file, searching no further than the repository root. -/
def findBaselineFile (fs : FileSystem) (start : Path) : Option Path :=
  fs.findUpward start baselineFileName true

/-- The nearest editor settings file. -/
def findEditorConfig (fs : FileSystem) (start : Path) : Option Path :=
  fs.findUpward start editorConfigName false

/-- The nearest rule file. -/
def findRuleFile (fs : FileSystem) (start : Path) : Option Path :=
  fs.findUpward start ruleFileName false

/-- A path made absolute against the current directory and normalised. -/
def absolutePath (fs : FileSystem) (p : Path) : Except Error Path :=
  match Path.absoluteNormal fs.cwdPath p with
  | .ok q => .ok q
  | .error .emptyPath => .error (.io p .emptyPath)

/-- Where the configuration search for a file starts: the given base directory, or
else the directory holding the file, both absolute and normalised. -/
def searchStart (fs : FileSystem) (file : Path) (baseDir : Option Path) : Except Error Path :=
  match baseDir with
  | some dir => fs.absolutePath dir
  | none => (fs.absolutePath file).map fun abs => abs.parent?.getD abs

end FileSystem

end FormatConfig
