/-!
# Collapsing runs of blank lines

A text is read as characters and line breaks, where a line break is a line feed or a
carriage return directly followed by one; a lone carriage return is an ordinary
character. A run of `k` line breaks between two lines holds `k - 1` blank lines, so a
run of three or more breaks is cut to its first two, leaving a single blank line. At
the start of the text there is no line before the run, and a run of two or more breaks
is cut to its first one.
-/

namespace FormatConfig

namespace BlankLines

/-- A character or a line break. -/
inductive Piece where
  /-- A line break; `crlf` when it is a carriage return and a line feed. -/
  | lineBreak (crlf : Bool)
  | char (c : Char)
deriving DecidableEq, Repr

/-- Splits a text into characters and line breaks. -/
def pieces : List Char → List Piece
  | '\r' :: '\n' :: rest => .lineBreak true :: pieces rest
  | '\n' :: rest => .lineBreak false :: pieces rest
  | c :: rest => .char c :: pieces rest
  | [] => []

/-- The characters of pieces. -/
def render : List Piece → List Char
  | [] => []
  | .lineBreak true :: rest => '\r' :: '\n' :: render rest
  | .lineBreak false :: rest => '\n' :: render rest
  | .char c :: rest => c :: render rest

/-- Whether a piece is a line break. -/
def Piece.isBreak : Piece → Bool
  | .lineBreak _ => true
  | .char _ => false

/-- A run of line breaks after a line, cut to two when it has three or more. -/
def keepRun (run : List Piece) : List Piece :=
  if 3 ≤ run.length then run.take 2 else run

/-- Cuts every run of line breaks; `run` holds the breaks seen since the last character,
latest first. -/
def cutRuns (run : List Piece) : List Piece → List Piece
  | [] => keepRun run.reverse
  | .char c :: rest => keepRun run.reverse ++ .char c :: cutRuns [] rest
  | p :: rest => cutRuns (p :: run) rest

/-- Cuts a run of two or more line breaks at the very start to its first break. -/
def cutLeading (ps : List Piece) : List Piece :=
  let run := ps.takeWhile Piece.isBreak
  if 2 ≤ run.length then run.take 1 ++ ps.drop run.length else ps

/-- The text with every run of blank lines reduced to one blank line, and a run of line
breaks at the very start reduced to one line break. -/
def collapse (text : String) : String :=
  String.ofList (render (cutRuns [] (cutLeading (pieces text.toList))))

end BlankLines

end FormatConfig
