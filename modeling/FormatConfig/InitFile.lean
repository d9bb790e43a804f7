import FormatConfig.Fs.Basic
import FormatConfig.Lookup

/-!
# The baseline template

`--init` writes a commented baseline file that documents every setting and its
default, and refuses to overwrite one that exists.
-/

namespace FormatConfig

/-- The text of a fresh baseline file. -/
def baselineTemplate : String :=
  "# lintfmt.toml - Baseline formatter options for lintfmt\n" ++
  "#\n" ++
  "# lintfmt starts from these values, then applies .editorconfig and\n" ++
  "# tslint.json (nearest file above each source file). Command-line flags\n" ++
  "# override the values below.\n" ++
  "\n" ++
  "[format]\n" ++
  "# Spaces per indentation level.\n" ++
  "# Default: 4\n" ++
  "# indent_size = 4\n" ++
  "\n" ++
  "# Width of a tab character.\n" ++
  "# Default: 4\n" ++
  "# tab_size = 4\n" ++
  "\n" ++
  "# Indentation strategy: \"none\", \"block\" or \"smart\".\n" ++
  "# Default: \"smart\"\n" ++
  "# indent_style = \"smart\"\n" ++
  "\n" ++
  "# Line terminator: \"lf\", \"crlf\" or \"cr\".\n" ++
  "# Default: \"crlf\"\n" ++
  "# new_line = \"crlf\"\n" ++
  "\n" ++
  "# Indent with spaces instead of tabs.\n" ++
  "# tslint.json \"indent\" and .editorconfig \"indent_style\" take precedence.\n" ++
  "# Default: true\n" ++
  "# convert_tabs_to_spaces = true\n"

/-- Writes the template into `dir` (or the current directory), returning the path
written. An existing entry of that name is left alone and reported. -/
def FileSystem.writeBaselineTemplate (fs : FileSystem) (dir : Option Path) :
    Except IoError (Path × FileSystem) :=
  let path := match dir with
    | some d => d.joinText baselineFileName
    | none => ⟨baselineFileName⟩
  if fs.pathExists path then .error (.alreadyExists (baselineFileName ++ " already exists"))
  else (fs.writeText path baselineTemplate).map fun fs' => (path, fs')

end FormatConfig
