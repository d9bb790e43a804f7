import FormatConfig.Toml.Document

/-!
# Showing TOML errors

An error with a mark is shown as the line and column of the mark, the line itself, and
carets under the marked text:

```
TOML parse error at line 2, column 16
  |
2 | indent_style = "Smart"
  |                ^^^^^^^
unknown variant `Smart`, expected one of `none`, `block`, `smart`
```

Columns count characters, except that a mark on a character outside ASCII counts the
bytes before it on its line. The carets are as many as the marked bytes, at least one,
and do not run past the end of the line by more than its difference between bytes and
characters. A mark at the end of the text is placed just after the last character.
-/

namespace FormatConfig

namespace Toml

/-- The number of bytes of characters in UTF-8. -/
def utf8Width (cs : List Char) : Nat := cs.foldl (fun n c => n + c.utf8Size) 0

/-- The line (from 0) and column (from 0) of a mark at character position `pos`. -/
def markPosition (cs : Array Char) (pos : Nat) : Nat × Nat :=
  if cs.size = 0 then (0, pos)
  else
    let idx := min pos (cs.size - 1)
    let offset := pos - idx
    let before := (cs.extract 0 idx).toList
    let lineStart := before.length - (before.reverse.takeWhile (· ≠ '\n')).length
    let line := ((cs.extract 0 lineStart).toList.filter (· = '\n')).length
    let onLine := (cs.extract lineStart idx).toList
    let column :=
      if pos < cs.size && (cs[idx]?.getD ' ').toNat ≥ 0x80 then utf8Width onLine
      else onLine.length
    (line, column + offset)

/-- The text of an error, as it is shown below a file name. -/
def TomlError.render (text : String) (e : TomlError) : String :=
  match e.mark with
  | none => e.message ++ "\n"
  | some (pos, width) =>
    let cs := text.toList.toArray
    let (line, column) := markPosition cs pos
    let content := ((text.splitOn "\n")[line]?).getD ""
    let carets := max 1 (min width (content.utf8ByteSize - column))
    let number := toString (line + 1)
    let pad := String.ofList (List.replicate (number.length + 1) ' ')
    "TOML parse error at line " ++ number ++ ", column " ++ toString (column + 1) ++ "\n" ++
    pad ++ "|\n" ++
    number ++ " | " ++ content ++ "\n" ++
    pad ++ "|" ++ String.ofList (List.replicate (column + 1) ' ') ++
      String.ofList (List.replicate carets '^') ++ "\n" ++
    e.message ++ "\n"

end Toml

end FormatConfig
