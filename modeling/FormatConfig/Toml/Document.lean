import FormatConfig.Toml.Values

/-!
# Reading TOML documents

`Toml.parse` reads a whole document: an optional byte order mark, then lines holding
nothing, a comment, a table header or a key-value pair. Each header and pair is put in
place as soon as it is read, so an error in assembling the tables is reported before
any later syntax error. Errors carry the span they concern; errors found only when the
last table is put in place have no span.
-/

namespace FormatConfig

namespace Toml

open Reader

/-- A TOML error: its message and, usually, where it points: the character position
and the width of the mark in bytes. A syntax error marks the character where reading
failed, or nothing at the end of the text. -/
structure TomlError where
  message : String
  mark : Option (Nat × Nat)
deriving Repr, Inhabited

/-- Turns a table-assembly error into a failure where the offending line began. -/
def built {α : Type} (start : Nat) : Except BuildError α → Reader α
  | .ok a => pure a
  | .error e => throw { pos := start, cause := some e.message }

/-- A key-value line, put in place in the document. -/
def keyvalLine (st : DocState) : Reader DocState := do
  let start ← get
  let keys ← key
  let v ← cut (do
    expecting (.char '=') (expecting (.char '.') (char '='))
    ws
    let v ← value
    expecting (.char '#') (expecting (.char '\n') lineTrailing)
    return v)
  built start (st.onKeyval keys.dropLast (keys.getLastD default) v)

/-- A `[header]` line. -/
def stdTableLine (st : DocState) : Reader DocState := do
  let start ← get
  let (keys, span) ← withSpan (do
    char '['
    let keys ← cut key
    expecting (.literal "]") (expecting (.char '.') (cut (char ']')))
    return keys)
  expecting (.char '#') (expecting (.char '\n') (cut lineTrailing))
  built start (st.onStdHeader keys span)

/-- A `[[header]]` line. -/
def arrayTableLine (st : DocState) : Reader DocState := do
  let start ← get
  let (keys, span) ← withSpan (do
    lit "[["
    let keys ← cut key
    expecting (.literal "]]") (expecting (.char '.') (cut (lit "]]")))
    return keys)
  expecting (.char '#') (expecting (.char '\n') (cut lineTrailing))
  built start (st.onArrayHeader keys span)

/-- A header line of either kind. -/
def tableLine (st : DocState) : Reader DocState :=
  label "table header" (do
    if (← peekN 2) == ['[', '['] then arrayTableLine st else stdTableLine st)

/-- The lines of a document, at most `fuel` of them. -/
def documentLines : Nat → DocState → Reader DocState
  | 0, st => pure st
  | n + 1, st => do
    match ← peek? with
    | none => pure st
    | some '#' => do
      cut (do comment; lineEnding)
      ws
      documentLines n st
    | some '[' => do
      let st ← cut (tableLine st)
      ws
      documentLines n st
    | some '\n' | some '\r' => do
      match ← optional newline with
      | some _ => ws; documentLines n st
      | none => pure st
    | some _ => do
      let st ← cut (keyvalLine st)
      ws
      documentLines n st

/-- A whole document, before its last table is put in place. -/
def documentReader : Reader DocState := do
  let _ ← optional (char (Char.ofNat 0xFEFF))
  ws
  let st ← documentLines ((← read).size + 1) {}
  eof
  return st

/-- Reads a TOML text into its root table. -/
def parse (text : String) : Except TomlError Node :=
  let input := text.toList.toArray
  match (documentReader.run input).run 0 with
  | .error f =>
    .error { message := f.message, mark := some (f.pos, ((input[f.pos]?).map Char.utf8Size).getD 0) }
  | .ok (st, _) =>
    match st.finalize with
    | .ok st => .ok st.root
    | .error e => .error { message := e.message, mark := none }

end Toml

end FormatConfig
