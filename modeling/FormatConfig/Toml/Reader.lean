import FormatConfig.Toml.Syntax

/-!
# Reading TOML text: the reader monad

The TOML reader runs in `Reader`: it reads a fixed array of characters, keeps the
current position as its state, and fails with a `Failure`. A failure records where the
reader stood when it gave up, whether it is *final* (a cut: no alternative may be tried
any more), the contexts it passed through on the way out (innermost first), and an
optional cause.

Alternatives restart from where they began; a failure is only reported at the position
it happened, except through `tryMap` and `verify`, which report it where the failed
piece began. The rendered message of a failure names the first label ("invalid
string"), then every expected token, then the cause.
-/

namespace FormatConfig

namespace Toml

/-- A token a reader expected. -/
inductive Expected where
  | char (c : Char)
  | literal (s : String)
  | description (s : String)
deriving DecidableEq, Repr

/-- The escaped form of an ASCII control character. -/
def escapeControl (c : Char) : String :=
  match c with
  | '\t' => "\\t"
  | '\r' => "\\r"
  | '\n' => "\\n"
  | c => if c.toNat = 0 then "\\0" else "\\u" ++ "\x7b" ++ String.ofList (Nat.toDigits 16 c.toNat) ++ "\x7d"

/-- How an expected token is named in messages. -/
def Expected.text : Expected → String
  | .char '\n' => "newline"
  | .char '`' => "'`'"
  | .char c =>
    if c.toNat < 0x20 || c.toNat = 0x7F then "`" ++ escapeControl c ++ "`"
    else "`" ++ c.toString ++ "`"
  | .literal s => "`" ++ s ++ "`"
  | .description s => s

/-- What a reader was doing when it failed. -/
inductive Context where
  | label (s : String)
  | expected (e : Expected)
deriving DecidableEq, Repr

/-- A failed read. -/
structure Failure where
  pos : Nat
  cut : Bool := false
  contexts : List Context := []
  cause : Option String := none
deriving Repr, Inhabited

/-- The message of a failure: `invalid <label>`, `expected <tokens>`, and the cause, one
per line, each only when present. -/
def Failure.message (f : Failure) : String :=
  let label := f.contexts.findSome? fun
    | .label s => some s
    | _ => none
  let expected := f.contexts.filterMap fun
    | .expected e => some e.text
    | _ => none
  let parts :=
    (label.map ("invalid " ++ ·)).toList ++
    (if expected.isEmpty then [] else ["expected " ++ ", ".intercalate expected]) ++
    f.cause.toList
  "\n".intercalate parts

/-- The reader monad: the text is read-only, the position is the state. -/
abbrev Reader (α : Type) := ReaderT (Array Char) (StateT Nat (Except Failure)) α

namespace Reader

variable {α β : Type}

/-- Fails here, leaving the alternatives open. -/
def fail : Reader α := do throw { pos := ← get }

/-- Fails at a given position with a cause. -/
def failAt (pos : Nat) (cause : String) : Reader α := throw { pos, cause := some cause }

/-- The next character, without reading it. -/
def peek? : Reader (Option Char) := do return (← read)[← get]?

/-- The next `n` characters (fewer at the end), without reading them. -/
def peekN (n : Nat) : Reader (List Char) := do
  let input ← read
  let pos ← get
  return ((input.extract pos (pos + n)).toList)

/-- Whether the text is at its end. -/
def atEnd : Reader Bool := do return (← get) ≥ (← read).size

/-- Reads any one character. -/
def anyChar : Reader Char := do
  match ← peek? with
  | some c => modify (· + 1); return c
  | none => fail

/-- Reads one character satisfying a test. -/
def satisfy (p : Char → Bool) : Reader Char := do
  match ← peek? with
  | some c => if p c then do modify (· + 1); return c else fail
  | none => fail

/-- Reads a given character. -/
def char (c : Char) : Reader Unit := do let _ ← satisfy (· == c)

/-- Reads a literal text, or fails without reading anything. -/
def lit (s : String) : Reader Unit := do
  let cs := s.toList
  if (← peekN cs.length) == cs then modify (· + cs.length) else fail

/-- Succeeds only at the end of the text. -/
def eof : Reader Unit := do if ← atEnd then pure () else fail

/-- The text between two positions. -/
def slice (start stop : Nat) : Reader String := do
  return String.ofList ((← read).extract start stop).toList

/-- Reads between `min` and `max` characters satisfying a test, as many as possible;
fails without reading when fewer than `min` are there. -/
def takeWhileRange (min max : Nat) (p : Char → Bool) : Reader String := do
  let input ← read
  let pos ← get
  let n := ((input.extract pos (pos + max)).toList.takeWhile p).length
  if n < min then fail
  else do
    set (pos + n)
    slice pos (pos + n)

/-- Reads as many characters satisfying a test as there are. -/
def takeWhile (p : Char → Bool) : Reader String := do
  takeWhileRange 0 ((← read).size) p

/-- Reads one or more characters satisfying a test. -/
def takeWhile1 (p : Char → Bool) : Reader String := do
  takeWhileRange 1 ((← read).size) p

/-- Makes every failure of `r` final. -/
def cut (r : Reader α) : Reader α :=
  tryCatch r fun e => throw { e with cut := true }

/-- Adds a context to every failure of `r`. -/
def context (c : Context) (r : Reader α) : Reader α :=
  tryCatch r fun e => throw { e with contexts := e.contexts ++ [c] }

/-- Adds a label. -/
def label (s : String) (r : Reader α) : Reader α := context (.label s) r

/-- Adds an expected token. -/
def expecting (e : Expected) (r : Reader α) : Reader α := context (.expected e) r

/-- `r`, or nothing when it fails without a cut; a cut failure passes through. -/
def optional (r : Reader α) : Reader (Option α) := do
  let start ← get
  tryCatch (some <$> r) fun e => if e.cut then throw e else do set start; return none

/-- The first alternative that succeeds; a cut failure ends the search, and when all
fail the last failure is reported. -/
def firstOf : List (Reader α) → Reader α
  | [] => fail
  | [r] => r
  | r :: rs => do
    let start ← get
    tryCatch r fun e => if e.cut then throw e else do set start; firstOf rs

/-- Runs `r` without moving. -/
def lookahead (r : Reader α) : Reader α := do
  let start ← get
  let a ← tryCatch r fun e => throw { e with pos := start }
  set start
  return a

/-- Runs `r` and converts its result; when the conversion fails, the failure is reported
where `r` began, with the conversion's message as its cause. -/
def tryMap (r : Reader α) (f : α → Except String β) : Reader β := do
  let start ← get
  let a ← r
  match f a with
  | .ok b => return b
  | .error msg => failAt start msg

/-- Runs `r` and checks its result; a rejected result is a failure where `r` began. -/
def verify (r : Reader α) (ok : α → Bool) : Reader α := do
  let start ← get
  let a ← r
  if ok a then return a else throw { pos := start }

/-- Runs `r` and returns the text it read. -/
def recognize (r : Reader α) : Reader String := do
  let start ← get
  let _ ← r
  slice start (← get)

/-- Runs `r` and returns its span as well. -/
def withSpan (r : Reader α) : Reader (α × Span) := do
  let start ← get
  let a ← r
  return (a, ⟨start, ← get⟩)

/-- Runs `r` repeatedly, at most `fuel` times, while it succeeds; a cut failure passes
through. -/
def many (fuel : Nat) (r : Reader α) : Reader (List α) :=
  match fuel with
  | 0 => pure []
  | n + 1 => do
    match ← optional r with
    | some a => return a :: (← many n r)
    | none => return []

/-- Items separated by `sep`, at most `fuel` of them; a separator not followed by an
item is left unread. -/
def sepByRest (fuel : Nat) (item : Reader α) (sep : Reader Unit) : Reader (List α) :=
  match fuel with
  | 0 => pure []
  | n + 1 => do
    let start ← get
    match ← optional sep with
    | none => return []
    | some _ =>
      match ← optional item with
      | some a => return a :: (← sepByRest n item sep)
      | none => do set start; return []

/-- Zero or more items separated by `sep`. -/
def sepBy0 (fuel : Nat) (item : Reader α) (sep : Reader Unit) : Reader (List α) := do
  match ← optional item with
  | none => return []
  | some a => return a :: (← sepByRest fuel item sep)

/-- One or more items separated by `sep`. -/
def sepBy1 (fuel : Nat) (item : Reader α) (sep : Reader Unit) : Reader (List α) := do
  let a ← item
  return a :: (← sepByRest fuel item sep)

end Reader

end Toml

end FormatConfig
