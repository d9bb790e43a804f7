import FormatConfig.EditorConfig.Settings
import FormatConfig.Lookup
import FormatConfig.Options

/-!
# Options from editor settings

The nearest `.editorconfig` above a file sets the indentation character (`tab` or
`space`), the indentation and tab widths, and the line terminator (`lf`, `crlf` or
`cr`). Settings that are absent or not understood leave the options as they were.
-/

namespace FormatConfig

namespace EditorConfig

/-- The options after a file's editor settings. -/
def Settings.apply (s : Settings) (o : FormatOptions) : FormatOptions :=
  let o := match s.indentStyle with
    | some "tab" => { o with convertTabsToSpaces := false }
    | some "space" => { o with convertTabsToSpaces := true }
    | _ => o
  let o := match s.indentSize with
    | some n => { o with indentSize := n }
    | none => o
  let o := match s.tabWidth with
    | some n => { o with tabSize := n }
    | none => o
  match s.endOfLine.bind NewLine.ofName? with
  | some nl => { o with newLineCharacter := nl }
  | none => o

end EditorConfig

namespace FileSystem

/-- The editor settings file that applies to a file, if there is one. -/
def editorConfigFor (fs : FileSystem) (file : Path) (baseDir : Option Path) :
    Except Error (Option Path) := do
  let start ← fs.searchStart file baseDir
  return fs.findEditorConfig start

/-- The options for a file after its editor settings. -/
def editorOptions (fs : FileSystem) (file : Path) (baseDir : Option Path) (o : FormatOptions) :
    Except Error FormatOptions := do
  match ← fs.editorConfigFor file baseDir with
  | none => return o
  | some config =>
    let settings ← fs.editorSettings config (file.fileName?.getD "")
    return settings.apply o

end FileSystem

end FormatConfig
