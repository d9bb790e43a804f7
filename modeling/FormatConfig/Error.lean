import FormatConfig.Path.Basic
import FormatConfig.Fs.Error
import FormatConfig.Glob.Pattern

/-!
# Errors

Everything that can go wrong while deriving options or selecting files. A missing
configuration file is never an error: lookups find nothing and the options stay as
they were.
-/

namespace FormatConfig

/-- A failure, with the path or pattern it concerns. Reader diagnostics are kept as
their rendered text. -/
inductive Error where
  /-- Reading a file or making a path absolute failed. -/
  | io (path : Path) (cause : IoError)
  /-- A JSON rule file or manifest could not be read. -/
  | parse (path : Path) (diagnostic : String)
  /-- A TOML baseline file could not be read. -/
  | toml (path : Path) (diagnostic : String)
  /-- A manifest selects no files. -/
  | configuration (path : Path) (message : String)
  /-- A manifest needs a collaborator the resolver was built without. -/
  | missingCapability (message : String)
  /-- A glob pattern does not compile. -/
  | pattern (source : String) (cause : Glob.PatternError)
deriving Repr

namespace Error

/-- The text of an error. -/
def message : Error → String
  | .io p e => "failed to read " ++ p.text ++ ": " ++ e.message
  | .parse p d => "failed to parse " ++ p.text ++ ": " ++ d
  | .toml p d => "failed to parse " ++ p.text ++ ": " ++ d
  | .configuration p m => "invalid configuration in " ++ p.text ++ ": " ++ m
  | .missingCapability m => "missing capability: " ++ m
  | .pattern s e => "invalid glob pattern '" ++ s ++ "': " ++ e.message

end Error

end FormatConfig
