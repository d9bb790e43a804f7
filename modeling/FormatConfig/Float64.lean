/-!
# Binary64 numbers from decimals, and back

Diagnostics sometimes show a floating-point value the way a binary64 number is printed:
the shortest decimal that reads back as the same number, written out in full without an
exponent. This module gives the two directions with exact integer arithmetic.

`ofDecimal` rounds `m * 10^e` to the nearest binary64 number, ties to the even
significand, overflowing to infinity and underflowing through the subnormal numbers to
zero.

`display` finds the digits by the free-format method: the interval of decimals that
read back as the number is scaled by a power of ten, digits are produced one at a time
until the digits so far lie in the interval (rounding down) or one more unit in the
last place does (rounding up), and a final rounding keeps the digits nearest to the
number, preferring an even last digit on a tie. The interval bounds are included when
the significand is even, since a tie then reads back to this number.
-/

namespace FormatConfig

namespace Float64

/-- A binary64 number. -/
inductive Binary64 where
  | zero (negative : Bool)
  /-- `significand * 2^exponent` with `significand < 2^53`; subnormal below `2^52`, in
  which case the exponent is `-1074`. -/
  | finite (negative : Bool) (significand : Nat) (exponent : Int)
  | infinity (negative : Bool)
  | nan
deriving DecidableEq, Repr

/-- The number of binary digits of `n`. -/
def bitLength (n : Nat) : Nat := if n = 0 then 0 else Nat.log2 n + 1

/-- The number of decimal digits of a positive number. -/
def decimalLength (n : Nat) : Nat := (toString n).length

/-- `num / den` rounded to the nearest integer, ties to even. -/
def roundDiv (num den : Nat) : Nat :=
  let q := num / den
  let r := num % den
  if den < 2 * r then q + 1
  else if 2 * r < den then q
  else if q % 2 = 0 then q else q + 1

/-- `num / den` as a numerator and denominator scaled by `2^-q`. -/
def scaleBy (num den : Nat) (q : Int) : Nat × Nat :=
  if 0 ≤ q then (num, den * Nat.pow 2 (q.toNat)) else (num * Nat.pow 2 ((-q).toNat), den)

/-- The binary64 number nearest to `mantissa * 10^exponent`. -/
def ofDecimal (negative : Bool) (mantissa : Nat) (exponent : Int) : Binary64 :=
  if mantissa = 0 then .zero negative
  else
    let len : Int := decimalLength mantissa
    if 310 < len + exponent then .infinity negative
    else if len + exponent < -330 then .zero negative
    else
      let num := mantissa * Nat.pow 10 ((max exponent 0).toNat)
      let den := Nat.pow 10 ((max (-exponent) 0).toNat)
      let q0 : Int := (bitLength num : Int) - bitLength den - 53
      let q1 :=
        let (n, d) := scaleBy num den q0
        if Nat.pow 2 53 * d ≤ n then q0 + 1 else if n < Nat.pow 2 52 * d then q0 - 1 else q0
      let q := max q1 (-1074)
      let (n, d) := scaleBy num den q
      let s := roundDiv n d
      let (s, q) := if s = Nat.pow 2 53 then (Nat.pow 2 52, q + 1) else (s, q)
      if 971 < q then .infinity negative
      else if s = 0 then .zero negative
      else .finite negative s q

/-- A number with the gaps to its neighbours: the number is `mant * 2^exp`, and the
numbers reading back as it lie between `(mant - minus) * 2^exp` and
`(mant + plus) * 2^exp`, bounds included when `inclusive`. -/
structure Decoded where
  mant : Nat
  minus : Nat
  plus : Nat
  exp : Int
  inclusive : Bool
deriving Repr

/-- The decoded form of a finite nonzero number. A subnormal number counts its
significand doubled, so its bounds are always included; a power of two has a closer
neighbour below than above. -/
def decode (significand : Nat) (exponent : Int) : Decoded :=
  if significand < Nat.pow 2 52 then
    { mant := 2 * significand, minus := 1, plus := 1, exp := -1075, inclusive := true }
  else if significand = Nat.pow 2 52 then
    { mant := 4 * significand, minus := 1, plus := 2, exp := exponent - 2, inclusive := true }
  else
    { mant := 2 * significand, minus := 1, plus := 1, exp := exponent - 1,
      inclusive := significand % 2 = 0 }

/-- An estimate of `k` with `10^(k-1) < v ≤ 10^(k+1)` for `v = mant * 2^exp`, from the
binary length of `mant - 1` and `log10 2 ≈ 1292913986 / 2^32`. -/
def estimateScalingFactor (mant : Nat) (exp : Int) : Int :=
  (((bitLength (mant - 1) : Int) + exp) * 1292913986) / (Nat.pow 2 32 : Nat)

/-- Adds one unit in the last place of decimal digits; all nines become `1` followed by
zeros and one more digit, and the result says so. -/
def roundUp (ds : List Nat) : List Nat × Bool :=
  match (ds.reverse.dropWhile (· = 9)) with
  | [] => (1 :: ds.map (fun _ => 0), true)
  | d :: before =>
    let nines := ds.length - before.length - 1
    (((d + 1) :: before).reverse ++ List.replicate nines 0, false)

/-- Produces digits until the rounding condition holds; at most `fuel` digits. -/
def generate (inclusive : Bool) (scale : Nat) :
    Nat → Nat → Nat → Nat → List Nat → List Nat × Nat × Bool × Bool
  | 0, mant, _, _, acc => (acc.reverse, mant, false, false)
  | fuel + 1, mant, minus, plus, acc =>
    let d := mant / scale
    let mant := mant % scale
    let below (a b : Nat) : Bool := if inclusive then a ≤ b else a < b
    let down := below mant minus
    let up := below scale (mant + plus)
    if down || up then ((d :: acc).reverse, mant, down, up)
    else generate inclusive scale fuel (mant * 10) (minus * 10) (plus * 10) (d :: acc)

/-- The shortest digits reading back as the number, and the power of ten `k` with
value `0.d1d2… * 10^k`. -/
def shortest (dec : Decoded) : List Nat × Int :=
  let below (a b : Nat) : Bool := if dec.inclusive then a ≤ b else a < b
  let k := estimateScalingFactor (dec.mant + dec.plus) dec.exp
  let (mant, minus, plus, scale) :=
    if dec.exp < 0 then (dec.mant, dec.minus, dec.plus, Nat.pow 2 ((-dec.exp).toNat))
    else (dec.mant * Nat.pow 2 (dec.exp.toNat), dec.minus * Nat.pow 2 (dec.exp.toNat),
          dec.plus * Nat.pow 2 (dec.exp.toNat), 1)
  let (mant, minus, plus, scale) :=
    if 0 ≤ k then (mant, minus, plus, scale * Nat.pow 10 (k.toNat))
    else (mant * Nat.pow 10 ((-k).toNat), minus * Nat.pow 10 ((-k).toNat), plus * Nat.pow 10 ((-k).toNat), scale)
  let (k, mant, minus, plus) :=
    if below scale (mant + plus) then (k + 1, mant, minus, plus)
    else (k, mant * 10, minus * 10, plus * 10)
  let (digits, rest, down, up) := generate dec.inclusive scale 40 mant minus plus []
  if up && (!down || scale ≤ 2 * rest) then
    let (ds, longer) := roundUp digits
    (ds, if longer then k + 1 else k)
  else (digits, k)

/-- Digits placed around the decimal point for `0.d1d2… * 10^k`, without an exponent. -/
def placeDigits (ds : List Nat) (k : Int) : String :=
  let digits := String.ofList (ds.map fun d => Char.ofNat (d + '0'.toNat))
  let zeros (n : Nat) := String.ofList (List.replicate n '0')
  if k ≤ 0 then "0." ++ zeros (-k).toNat ++ digits
  else if k.toNat < ds.length then
    String.ofList (digits.toList.take k.toNat) ++ "." ++ String.ofList (digits.toList.drop k.toNat)
  else digits ++ zeros (k.toNat - ds.length)

/-- The number as it is printed: shortest digits in full, `inf`, `-inf` or `NaN`. -/
def display : Binary64 → String
  | .zero negative => if negative then "-0" else "0"
  | .infinity negative => if negative then "-inf" else "inf"
  | .nan => "NaN"
  | .finite negative s q =>
    let (ds, k) := shortest (decode s q)
    (if negative then "-" else "") ++ placeDigits ds k

/-- The number as diagnostics print it: a finite number always shows a decimal point. -/
def displayWithPoint (x : Binary64) : String :=
  let s := display x
  match x with
  | .infinity _ | .nan => s
  | _ => if s.contains '.' then s else s ++ ".0"

end Float64

end FormatConfig
