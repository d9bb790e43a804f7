import FormatConfig.Toml.Reader
import FormatConfig.Json5.Number

/-!
# The TOML grammar: values and keys

Readers for the pieces of a TOML document that do not depend on the tables built so
far: white space, comments and line ends; the four kinds of strings; integers in four
bases, floating-point numbers, booleans and date-times; arrays and inline tables; and
dotted keys. Each reader fails the way the reference reader does, with the same labels
and expected tokens, so that error messages agree.

Nesting of arrays and inline tables is limited to 80 levels; that limit also makes the
recursion of `value` finite.
-/

namespace FormatConfig

namespace Toml

open Reader

/-- How deeply arrays and inline tables may nest. -/
def nestingLimit : Nat := 80

/-- Space or tab. -/
def isWsChar (c : Char) : Bool := c = ' ' || c = '\t'

/-- Any character outside ASCII. -/
def isNonAscii (c : Char) : Bool := c.toNat ≥ 0x80

/-- Characters a comment may hold. -/
def isNonEol (c : Char) : Bool :=
  c = '\t' || (0x20 ≤ c.toNat && c.toNat ≤ 0x7E) || isNonAscii c

/-- Spaces and tabs. -/
def ws : Reader Unit := do let _ ← takeWhile isWsChar

/-- A comment, up to the end of its line. -/
def comment : Reader Unit := do char '#'; let _ ← takeWhile isNonEol

/-- A line feed, or a carriage return and a line feed. -/
def newline : Reader Unit := firstOf [char '\n', do char '\r'; char '\n']

/-- A line end or the end of the text. -/
def lineEnding : Reader Unit := firstOf [newline, eof]

/-- The rest of a line after a value or header: spaces, a comment, the line end. -/
def lineTrailing : Reader Unit := do
  ws
  let _ ← optional comment
  lineEnding

/-- Spaces, tabs and line ends. -/
def wsNewline : Reader Unit := do
  let _ ← many ((← read).size + 1) (firstOf [newline, do let _ ← takeWhile1 isWsChar])

/-- A line end followed by spaces, tabs and line ends. -/
def wsNewlines : Reader Unit := do newline; wsNewline

/-- Blank lines and comment lines, at most `fuel` of them. -/
def wsCommentNewlineAux : Nat → Reader Unit
  | 0 => pure ()
  | n + 1 => do
    let start ← get
    ws
    match ← peek? with
    | some '#' => comment; newline
    | some '\n' | some '\r' => newline
    | _ => return ()
    if (← get) == start then return () else wsCommentNewlineAux n

/-- Spaces, line ends and comments, as between the items of an array. -/
def wsCommentNewline : Reader Unit := do wsCommentNewlineAux ((← read).size + 1)

/-- Adds contexts in order, the first innermost. -/
def withContexts {α : Type} (cs : List Context) (r : Reader α) : Reader α :=
  cs.foldl (fun acc c => context c acc) r

/-- The contexts of a value that should have been a string. -/
def stringContexts : List Context :=
  [.label "string", .expected (.char '"'), .expected (.char '\'')]

/-! ## Strings -/

/-- Whether a character is a hexadecimal digit. -/
def isHexDigit (c : Char) : Bool :=
  c.isDigit || ('a' ≤ c && c ≤ 'f') || ('A' ≤ c && c ≤ 'F')

/-- The value of hexadecimal digits. -/
def hexText (s : String) : Nat := (Json5.hexValue? s.toList).getD 0

/-- Exactly `n` hexadecimal digits naming a character. -/
def hexEscape (n : Nat) : Reader Char :=
  tryMap (verify (takeWhileRange 0 n isHexDigit) (·.length == n)) fun s =>
    let v := hexText s
    if Json5.isCharCode v then .ok (Char.ofNat v) else .error "value is out of range"

/-- The character after a backslash in a basic string. -/
def escapeSeqChar : Reader Char := do
  match ← anyChar with
  | 'b' => pure (Char.ofNat 8)
  | 'f' => pure (Char.ofNat 12)
  | 'n' => pure '\n'
  | 'r' => pure '\r'
  | 't' => pure '\t'
  | 'u' => label "unicode 4-digit hex code" (cut (hexEscape 4))
  | 'U' => label "unicode 8-digit hex code" (cut (hexEscape 8))
  | '\\' => pure '\\'
  | '"' => pure '"'
  | _ =>
    withContexts ([.label "escape sequence"] ++
      ['b', 'f', 'n', 'r', 't', 'u', 'U', '\\', '"'].map (fun c => .expected (.char c)))
      (cut fail)

/-- A backslash escape. -/
def escaped : Reader Char := do char '\\'; escapeSeqChar

/-- Characters a basic string holds as they are. -/
def isBasicUnescaped (c : Char) : Bool :=
  isWsChar c || c.toNat = 0x21 || (0x23 ≤ c.toNat && c.toNat ≤ 0x5B) ||
    (0x5D ≤ c.toNat && c.toNat ≤ 0x7E) || isNonAscii c

/-- A run of plain characters or one escape in a basic string. -/
def basicChars : Reader String :=
  firstOf [takeWhile1 isBasicUnescaped, do return (← escaped).toString]

/-- A basic string `"..."`. -/
def basicString : Reader String := do
  char '"'
  let parts ← many ((← read).size + 1) basicChars
  label "basic string" (cut (char '"'))
  return String.join parts

/-- Characters a literal string may hold. -/
def isLiteralChar (c : Char) : Bool :=
  c = '\t' || (0x20 ≤ c.toNat && c.toNat ≤ 0x26) || (0x28 ≤ c.toNat && c.toNat ≤ 0x7E) ||
    isNonAscii c

/-- A literal string `'...'`. -/
def literalString : Reader String :=
  label "literal string" (do
    char '\''
    let s ← cut (takeWhile isLiteralChar)
    cut (char '\'')
    return s)

/-- One or two quotes of a multi-line string, when `term` follows them. -/
def quotesBefore (q : Char) (term : Reader Unit) : Reader String := do
  let two := String.ofList [q, q]
  let start ← get
  match ← optional (do lit two; lookahead term) with
  | some _ => return two
  | none => do
    set start
    char q
    lookahead term
    return q.toString

/-- Characters a multi-line basic string holds as they are. -/
def isMlbUnescaped (c : Char) : Bool := isBasicUnescaped c

/-- Backslashes at the ends of lines, each swallowing the line end and the white space
after it. -/
def mlbEscapedNewline : Reader Unit := do
  char '\\'; ws; wsNewlines
  let _ ← many ((← read).size + 1) (do char '\\'; ws; wsNewlines)

/-- One piece of a multi-line basic string. -/
def mlbContent : Reader String :=
  firstOf [
    takeWhile1 isMlbUnescaped,
    do mlbEscapedNewline; return "",
    do return (← escaped).toString,
    do newline; return "\n"]

/-- Pieces of a multi-line basic string, at most `fuel`. -/
def mlbContents (fuel : Nat) : Reader String := do
  return String.join (← many fuel mlbContent)

/-- The body of a multi-line basic string: content, with runs of one or two quotes
inside it, and one or two quotes right before the closing delimiter. -/
def mlBasicBody : Reader String := do
  let fuel := (← read).size + 1
  let first ← mlbContents fuel
  let rec middle : Nat → String → Reader String
    | 0, acc => pure acc
    | n + 1, acc => do
      let start ← get
      match ← optional (quotesBefore '"' (do let _ ← satisfy (· != '"'))) with
      | none => pure acc
      | some q =>
        match ← optional mlbContent with
        | none => do set start; pure acc
        | some c => middle n (acc ++ q ++ c ++ (← mlbContents fuel))
  let body ← middle fuel first
  match ← optional (quotesBefore '"' (lit "\"\"\"")) with
  | some q => return body ++ q
  | none => return body

/-- A multi-line basic string `"""..."""`; a line end right after the opening
delimiter is dropped. -/
def mlBasicString : Reader String :=
  label "multiline basic string" (do
    lit "\"\"\""
    let _ ← optional newline
    let s ← cut mlBasicBody
    cut (lit "\"\"\"")
    return s)

/-- Characters a multi-line literal string may hold. -/
def isMllChar (c : Char) : Bool := isLiteralChar c

/-- One character or line end of a multi-line literal string. -/
def mllContent : Reader Unit := firstOf [do let _ ← satisfy isMllChar, newline]

/-- The body of a multi-line literal string, as written. -/
def mlLiteralBody : Reader String := recognize (do
  let fuel := (← read).size + 1
  let _ ← many fuel mllContent
  let _ ← many fuel (do
    let _ ← quotesBefore '\'' (do let _ ← satisfy (· != '\''))
    mllContent
    let _ ← many fuel mllContent)
  let _ ← optional (quotesBefore '\'' (lit "'''")))

/-- A multi-line literal string `'''...'''`; line ends inside become line feeds. -/
def mlLiteralString : Reader String :=
  label "multiline literal string" (do
    lit "'''"
    let _ ← optional newline
    let s ← cut mlLiteralBody
    cut (lit "'''")
    return s.replace "\r\n" "\n")

/-- Any string. -/
def string : Reader String :=
  firstOf [mlBasicString, basicString, mlLiteralString, literalString]

/-! ## Numbers, booleans and date-times -/

/-- Digits with single underscores between them. -/
def digitGroups (isD : Char → Bool) : Reader Unit := do
  let _ ← many ((← read).size + 1) (firstOf [
    do let _ ← satisfy isD,
    do char '_'; expecting (.description "digit") (cut (do let _ ← satisfy isD))])

/-- A decimal integer as written: an optional sign, then `0` or a digit group not
starting with `0`. -/
def decInt : Reader String :=
  label "integer" (recognize (do
    let _ ← optional (satisfy fun c => c = '+' || c = '-')
    firstOf [
      do let _ ← satisfy fun c => '1' ≤ c && c ≤ '9'
         digitGroups Char.isDigit,
      do let _ ← satisfy Char.isDigit]))

/-- The value of digits in a base. -/
def radixValue (radix : Nat) (s : String) : Nat :=
  s.toList.foldl (fun acc c => acc * radix + (Json5.hexDigitValue? c).getD 0) 0

/-- The message for an integer above the 64-bit range. -/
def tooLarge : String := "number too large to fit in target type"

/-- The message for an integer below the 64-bit range. -/
def tooSmall : String := "number too small to fit in target type"

/-- Digits in a base as a 64-bit signed integer. -/
def radixInt (radix : Nat) (s : String) : Except String Int :=
  let v := radixValue radix (s.replace "_" "")
  if v < Nat.pow 2 63 then .ok v else .error tooLarge

/-- A signed decimal text as a 64-bit signed integer. -/
def decimalInt (s : String) : Except String Int :=
  let t := s.replace "_" ""
  let (negative, digits) := match t.toList with
    | '-' :: ds => (true, ds)
    | '+' :: ds => (false, ds)
    | ds => (false, ds)
  let v := Json5.digitsValue digits
  if negative then (if v ≤ Nat.pow 2 63 then .ok (-(v : Int)) else .error tooSmall)
  else if v < Nat.pow 2 63 then .ok v else .error tooLarge

/-- An integer with a base prefix: the digits after the prefix. -/
def prefixedInt (pfx : String) (name : String) (isD : Char → Bool) : Reader String :=
  label name (do
    lit pfx
    recognize (cut (do let _ ← satisfy isD; digitGroups isD)))

/-- An integer in any base. -/
def integer : Reader Int := do
  match ← peekN 2 with
  | ['0', 'x'] => cut (tryMap (prefixedInt "0x" "hexadecimal integer" isHexDigit) (radixInt 16))
  | ['0', 'o'] =>
    cut (tryMap (prefixedInt "0o" "octal integer" (fun c => '0' ≤ c && c ≤ '7')) (radixInt 8))
  | ['0', 'b'] =>
    cut (tryMap (prefixedInt "0b" "binary integer" (fun c => c = '0' || c = '1')) (radixInt 2))
  | _ => do
    let start ← get
    let text ← decInt
    match decimalInt text with
    | .ok v => pure v
    | .error msg => throw { pos := start, cut := true, cause := some msg }

/-- Digits with underscores, a leading zero allowed. -/
def zeroPrefixableInt : Reader Unit := do
  let _ ← satisfy Char.isDigit
  digitGroups Char.isDigit

/-- A fractional part. -/
def frac : Reader Unit := do
  char '.'
  expecting (.description "digit") (cut zeroPrefixableInt)

/-- An exponent part. -/
def exponent : Reader Unit := do
  let _ ← satisfy fun c => c = 'e' || c = 'E'
  let _ ← optional (satisfy fun c => c = '+' || c = '-')
  cut zeroPrefixableInt

/-- A decimal floating-point number as written. -/
def floatText : Reader String := recognize (do
  let _ ← decInt
  firstOf [exponent, do frac; let _ ← optional exponent])

/-- `inf` or `nan` with an optional sign. -/
def specialFloat : Reader FloatLiteral := do
  let sign ← optional (satisfy fun c => c = '+' || c = '-')
  let negative := sign == some '-'
  firstOf [
    do lit "inf"; return .infinity negative,
    do lit "nan"; return .nan negative]

/-- A floating-point number; one that rounds to positive infinity is refused. -/
def float : Reader FloatLiteral :=
  label "floating-point number" (firstOf [
    do
      let start ← get
      let text ← floatText
      match Json5.parseDecimal? (text.replace "_" "") with
      | some d =>
        if d.overflows then
          if d.negative then return .infinity true
          else throw { pos := start, cut := true }
        else return .finite d.negative d.mantissa d.exponent
      | none => throw { pos := start, cut := true },
    specialFloat])

/-- `true`, once its first letter is seen. -/
def trueValue : Reader Bool := do
  let _ ← lookahead (char 't')
  cut (lit "true")
  return true

/-- `false`, once its first letter is seen. -/
def falseValue : Reader Bool := do
  let _ ← lookahead (char 'f')
  cut (lit "false")
  return false

/-- Exactly `n` digits. -/
def digitsN (n : Nat) : Reader String := takeWhileRange n n Char.isDigit

/-- Digits whose value lies in a range. -/
def digitsIn (n lo hi : Nat) : Reader Nat :=
  tryMap (digitsN n) fun s =>
    let d := Json5.digitsValue s.toList
    if lo ≤ d ∧ d ≤ hi then .ok d else .error "value is out of range"

/-- The number of days in a month. -/
def daysInMonth (year month : Nat) : Nat :=
  let leap := year % 4 = 0 ∧ (year % 100 ≠ 0 ∨ year % 400 = 0)
  if month = 2 then (if leap then 29 else 28)
  else if month = 4 ∨ month = 6 ∨ month = 9 ∨ month = 11 then 30 else 31

/-- A date `YYYY-MM-DD`. -/
def fullDate : Reader Unit := do
  let year ← digitsN 4
  char '-'
  let month ← cut (digitsIn 2 1 12)
  cut (char '-')
  let dayStart ← get
  let day ← cut (digitsIn 2 1 31)
  if daysInMonth (Json5.digitsValue year.toList) month < day then
    throw { pos := dayStart, cut := true, cause := some "value is out of range" }

/-- A time `HH:MM:SS` with optional fractional seconds. -/
def partialTime : Reader Unit := do
  let _ ← digitsIn 2 0 23
  char ':'
  cut (do
    let _ ← digitsIn 2 0 59
    char ':'
    let _ ← digitsIn 2 0 60
    let _ ← optional (do char '.'; let _ ← takeWhile1 Char.isDigit))

/-- A time offset: `Z` or a signed `HH:MM`. -/
def timeOffset : Reader Unit :=
  label "time offset" (firstOf [
    do let _ ← satisfy fun c => c = 'Z' || c = 'z',
    do
      let _ ← satisfy fun c => c = '+' || c = '-'
      cut (do let _ ← digitsIn 2 0 23; char ':'; let _ ← digitsIn 2 0 59)])

/-- A date-time, a date, or a time. -/
def dateTime : Reader Unit :=
  firstOf [
    label "date-time" (do
      fullDate
      let _ ← optional (do
        let _ ← satisfy fun c => c = 'T' || c = 't' || c = ' '
        partialTime
        let _ ← optional timeOffset)),
    label "time" partialTime]

/-! ## Keys -/

/-- One key: quoted, literal or bare, with its span. -/
def simpleKey : Reader Key := do
  let start ← get
  let name ← match ← peek? with
    | some '"' => basicString
    | some '\'' => literalString
    | _ => takeWhile1 isUnquotedKeyChar
  let stop ← get
  return { name, span := ⟨start, stop⟩ }

/-- A dotted key: one or more keys separated by dots, with spaces around each. -/
def key : Reader (List Key) := do
  let start ← get
  let keys ← label "key" (sepBy1 ((← read).size + 1) (do ws; let k ← simpleKey; ws; pure k)
    (char '.'))
  if nestingLimit ≤ keys.length then
    throw { pos := start, cause := some "recursion limit exceeded" }
  return keys

end Toml

end FormatConfig
