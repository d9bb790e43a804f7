import FormatConfig.Path.Basic

/-!
# Source files

Which files the program treats as sources, and which contents it leaves alone because
they look binary.
-/

namespace FormatConfig

/-- The extensions of source files. -/
def sourceExtensions : List String := [".ts", ".tsx"]

/-- A path is a source file when its last name ends in one of the source extensions. -/
def isSourceFile (p : Path) : Bool :=
  let name := p.fileName?.getD ""
  sourceExtensions.any fun ext => name.endsWith ext

/-- How many leading bytes are inspected for a NUL byte. -/
def binaryProbeSize : Nat := 8192

/-- Content is binary when a NUL byte occurs among its first 8192 bytes. -/
def isBinary (bytes : ByteArray) : Bool :=
  (bytes.toList.take binaryProbeSize).contains 0

end FormatConfig
