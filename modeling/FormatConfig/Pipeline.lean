import FormatConfig.EditorConfig.Options
import FormatConfig.Lint.Rules

/-!
# Resolving the options for a file

Options start from a baseline; then the editor settings file and then the rule file
near the file change them, field by field, so a setting of the rule file wins over
the same setting of the editor settings file. Either source can be switched off, and
the search for both can start from a fixed directory instead of the file's own.
-/

namespace FormatConfig

/-- Which sources of options take part, and where their search starts. -/
structure ProviderOptions where
  /-- Where the search for configuration files starts, instead of next to the file. -/
  baseDir : Option Path := none
  lint : Bool := true
  editorConfig : Bool := true
  /-- The options before any source changes them. -/
  baseline : FormatOptions := {}

namespace FileSystem

/-- The options for a file. -/
def resolveOptions (fs : FileSystem) (file : Path) (po : ProviderOptions) :
    Except Error FormatOptions := do
  let o := po.baseline
  let o ← if po.editorConfig then fs.editorOptions file po.baseDir o else pure o
  if po.lint then fs.lintOptions file po.baseDir o else pure o

/-- A file's formatted text after the fixups its rule file asks for. -/
def postProcessText (fs : FileSystem) (file : Path) (text : String) (po : ProviderOptions) :
    Except Error String :=
  if po.lint then fs.lintFixText file text po.baseDir else .ok text

end FileSystem

end FormatConfig
