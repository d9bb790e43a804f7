/-!
# Reading JSON5 number literals

A number literal is read as a 64-bit signed integer when it has no decimal point, no
exponent (a hexadecimal literal may contain the letter `e` as a digit) and is not one of
the words `Infinity`, `-Infinity`, `NaN` or `-NaN`. A hexadecimal literal must fit in 32
bits. Every other literal is a binary64 floating-point number; a decimal literal whose
value rounds beyond the largest finite binary64 number is refused.

Floating-point values are kept as exact decimals. The two facts about their binary64
rounding that matter here, whether it overflows and whether it is zero, are decided by
exact integer arithmetic against the binary64 limits:

* a positive value rounds to infinity exactly when it is at least `2^1024 - 2^970`, the
  midpoint between the largest finite number and `2^1024` (a tie rounds to the even
  significand, which is the one of `2^1024`);
* it rounds to zero exactly when it is at most `2^-1075`, half the smallest subnormal
  number (a tie rounds to the even significand, zero).
-/

namespace FormatConfig

namespace Json5

/-- A decimal number: sign, significand and power of ten. -/
structure Decimal where
  negative : Bool
  mantissa : Nat
  exponent : Int
deriving DecidableEq, Repr

/-- The value of a number literal. -/
inductive NumberValue where
  /-- A 64-bit signed integer. -/
  | integer (n : Int)
  /-- A finite floating-point number, given by the decimal it was written as. -/
  | float (d : Decimal)
  /-- An infinity. -/
  | infinity (negative : Bool)
  /-- Not a number. -/
  | nan
deriving DecidableEq, Repr

/-- Why a number literal cannot be read. -/
inductive NumberError where
  | integer
  | hex
  | number
  | tooLarge
deriving DecidableEq, Repr

/-- The message of a `NumberError`. -/
def NumberError.message : NumberError → String
  | .integer => "error parsing integer"
  | .hex => "error parsing hex"
  | .number => "error parsing number"
  | .tooLarge => "error parsing number: too large"

/-- The value of a decimal digit. -/
def digitValue (c : Char) : Nat := c.toNat - '0'.toNat

/-- The value of a hexadecimal digit, if it is one. -/
def hexDigitValue? (c : Char) : Option Nat :=
  if '0' ≤ c ∧ c ≤ '9' then some (c.toNat - '0'.toNat)
  else if 'a' ≤ c ∧ c ≤ 'f' then some (c.toNat - 'a'.toNat + 10)
  else if 'A' ≤ c ∧ c ≤ 'F' then some (c.toNat - 'A'.toNat + 10)
  else none

/-- The number written by decimal digits. -/
def digitsValue (ds : List Char) : Nat := ds.foldl (fun acc c => acc * 10 + digitValue c) 0

/-- The number written by hexadecimal digits, if they all are. -/
def hexValue? (ds : List Char) : Option Nat :=
  ds.foldlM (fun acc c => (hexDigitValue? c).map (acc * 16 + ·)) 0

/-- Whether a number is the code of a character: not a surrogate, not too large. -/
def isCharCode (n : Nat) : Bool := n < 0xD800 || (0xDFFF < n && n < 0x110000)

/-- Whether a literal starts with `0x` or `0X` and has something after it. -/
def isHexLiteral (s : String) : Bool :=
  s.length > 2 && (s.startsWith "0x" || s.startsWith "0X")

/-- Whether a literal is read as an integer. -/
def isIntegerLiteral (s : String) : Bool :=
  !s.contains '.' && (isHexLiteral s || (!s.contains 'e' && !s.contains 'E')) &&
    s != "Infinity" && s != "-Infinity" && s != "NaN" && s != "-NaN"

/-- The smallest 64-bit signed integer. -/
def i64Min : Int := -(Nat.pow 2 63 : Nat)

/-- The largest 64-bit signed integer. -/
def i64Max : Int := (Nat.pow 2 63 - 1 : Nat)

/-- Reads a 64-bit signed integer: an optional sign and one or more decimal digits. -/
def parseI64? (s : String) : Option Int :=
  let (negative, body) := match s.toList with
    | '-' :: rest => (true, rest)
    | '+' :: rest => (false, rest)
    | cs => (false, cs)
  if body.isEmpty || !body.all Char.isDigit then none
  else
    let v : Int := if negative then -(digitsValue body : Int) else digitsValue body
    if i64Min ≤ v ∧ v ≤ i64Max then some v else none

/-- Reads hexadecimal digits as a 32-bit unsigned integer. -/
def parseU32Hex? (ds : List Char) : Option Nat :=
  if ds.isEmpty then none
  else match hexValue? ds with
    | some v => if v < Nat.pow 2 32 then some v else none
    | none => none

/-- Reads a decimal floating-point literal: an optional sign, digits with an optional
decimal point (at least one digit in all), and an optional exponent. -/
def parseDecimal? (s : String) : Option Decimal :=
  let (negative, body) := match s.toList with
    | '-' :: rest => (true, rest)
    | '+' :: rest => (false, rest)
    | cs => (false, cs)
  let intDigits := body.takeWhile Char.isDigit
  let rest := body.drop intDigits.length
  let (fracDigits, rest) := match rest with
    | '.' :: more => (more.takeWhile Char.isDigit, more.drop (more.takeWhile Char.isDigit).length)
    | _ => ([], rest)
  if intDigits.isEmpty && fracDigits.isEmpty then none
  else
    let expPart : Option Int := match rest with
      | [] => some 0
      | e :: more =>
        if e = 'e' ∨ e = 'E' then
          let (expNeg, ds) := match more with
            | '-' :: ds => (true, ds)
            | '+' :: ds => (false, ds)
            | ds => (false, ds)
          if ds.isEmpty || !ds.all Char.isDigit then none
          else some (if expNeg then -(digitsValue ds : Int) else digitsValue ds)
        else none
    expPart.map fun ex =>
      { negative, mantissa := digitsValue (intDigits ++ fracDigits),
        exponent := ex - fracDigits.length }

/-- The number of decimal digits of a positive number. -/
def decimalLength (n : Nat) : Nat := (toString n).length

/-- Whether a decimal rounds to an infinite binary64 number. -/
def Decimal.overflows (d : Decimal) : Bool :=
  if d.mantissa = 0 then false
  else
    let len : Int := decimalLength d.mantissa
    if len + d.exponent ≤ 308 then false
    else if len - 1 + d.exponent ≥ 309 then true
    else
      let limit := Nat.pow 2 1024 - Nat.pow 2 970
      if d.exponent ≥ 0 then d.mantissa * Nat.pow 10 (d.exponent.toNat) ≥ limit
      else d.mantissa ≥ limit * Nat.pow 10 ((-d.exponent).toNat)

/-- Whether a decimal rounds to a binary64 zero. -/
def Decimal.roundsToZero (d : Decimal) : Bool :=
  if d.mantissa = 0 then true
  else if d.exponent ≥ 0 then false
  else
    let len : Int := decimalLength d.mantissa
    if len + d.exponent ≤ -324 then true
    else if len - 1 + d.exponent ≥ -323 then false
    else d.mantissa * Nat.pow 2 1075 ≤ Nat.pow 10 ((-d.exponent).toNat)

/-- The value of a number literal accepted by the grammar. -/
def readNumber (s : String) : Except NumberError NumberValue :=
  if isIntegerLiteral s then
    if isHexLiteral s then
      match parseU32Hex? (s.toList.drop 2) with
      | some v => .ok (.integer v)
      | none => .error .hex
    else
      match parseI64? s with
      | some v => .ok (.integer v)
      | none => .error .integer
  else if s = "Infinity" then .ok (.infinity false)
  else if s = "-Infinity" then .ok (.infinity true)
  else if s = "NaN" || s = "-NaN" then .ok .nan
  else if isHexLiteral s then
    match parseU32Hex? (s.toList.drop 2) with
    | some v => .ok (.float ⟨false, v, 0⟩)
    | none => .error .hex
  else
    match parseDecimal? s with
    | some d => if d.overflows then .error .tooLarge else .ok (.float d)
    | none => .error .number

/-- Whether the binary64 value of a number is neither zero nor NaN. -/
def NumberValue.isNonzero : NumberValue → Bool
  | .integer n => n ≠ 0
  | .float d => !d.roundsToZero
  | .infinity _ => true
  | .nan => false

end Json5

end FormatConfig
