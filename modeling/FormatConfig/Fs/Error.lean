/-!
# Input/output errors

The failures a file-system call can report, with the text and the kind name an
operating system gives them.
-/

namespace FormatConfig

/-- A failed file-system call. -/
inductive IoError where
  /-- A component of the path does not exist. -/
  | notFound
  /-- A component used as a directory is a file. -/
  | notADirectory
  /-- The path names a directory where a file was needed. -/
  | isADirectory
  /-- A file's bytes are not UTF-8 text. -/
  | invalidUtf8
  /-- An empty path has no absolute form. -/
  | emptyPath
  /-- Creation refused because something is already there. -/
  | alreadyExists (message : String)
  /-- A path holding a NUL byte, which no system call accepts. -/
  | nulInPath
  /-- A path longer than 4095 bytes, or a component longer than 255. -/
  | nameTooLong
deriving DecidableEq, Repr, Inhabited

namespace IoError

/-- The text of the error, as the operating system words it. -/
def message : IoError → String
  | .notFound => "No such file or directory (os error 2)"
  | .notADirectory => "Not a directory (os error 20)"
  | .isADirectory => "Is a directory (os error 21)"
  | .invalidUtf8 => "stream did not contain valid UTF-8"
  | .emptyPath => "cannot make an empty path absolute"
  | .alreadyExists m => m
  | .nulInPath => "file name contained an unexpected NUL byte"
  | .nameTooLong => "File name too long (os error 36)"

/-- The name of the error's kind. -/
def kindName : IoError → String
  | .notFound => "NotFound"
  | .notADirectory => "NotADirectory"
  | .isADirectory => "IsADirectory"
  | .invalidUtf8 => "InvalidData"
  | .emptyPath => "InvalidInput"
  | .alreadyExists _ => "AlreadyExists"
  | .nulInPath => "InvalidInput"
  | .nameTooLong => "InvalidFilename"

end IoError

end FormatConfig
