import FormatConfig.Fs.Basic
import FormatConfig.Error
import FormatConfig.Json5.Value

/-!
# Reading JSON5 files

Rule files and manifests are JSON5 texts, possibly starting with a byte order mark. A
file that cannot be read is an `Error.io`; a text that is not JSON5, or that does not
read as the value wanted, is an `Error.parse` carrying the diagnostic.
-/

namespace FormatConfig

namespace FileSystem

/-- The text without a leading byte order mark. -/
def dropByteOrderMark (s : String) : String :=
  match s.toList with
  | c :: rest => if c.toNat = 0xFEFF then String.ofList rest else s
  | [] => s

/-- The parsed JSON5 document in a file. -/
def readJson5 (fs : FileSystem) (p : Path) : Except Error Json5.Syntax :=
  match fs.readText p with
  | .error e => .error (.io p e)
  | .ok text =>
    match Json5.parse (dropByteOrderMark text) with
    | .ok doc => .ok doc
    | .error d => .error (.parse p d)

/-- The JSON value in a JSON5 file. -/
def readJsonValue (fs : FileSystem) (p : Path) : Except Error Json5.JsonValue := do
  let doc ← fs.readJson5 p
  match doc.toValue with
  | .ok v => .ok v
  | .error d => .error (.parse p d)

end FileSystem

end FormatConfig
