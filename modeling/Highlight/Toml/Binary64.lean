/-
  Numbers of the binary64 format, with exact arithmetic on naturals.

  1. **The values** — `Binary64` is a sign, a significand and a power of two, or one of the values
     that are no numbers of their own.

  2. **Reading** — `ofDecimal` takes the number of the format that is nearest to a decimal one; of
     two that are equally near, the one with an even significand.

  3. **Writing** — `text` writes the fewest significant digits that are read back as the same
     number, and of the decimals with that many digits the nearest.  There is no exponent, and
     always at least one digit behind the point.
-/

namespace Highlight.Toml

/-- A number of the format; a finite one is `significand * 2 ^ exponent`. -/
inductive Binary64 where
  | finite (negative : Bool) (significand : Nat) (exponent : Int)
  | infinite (negative : Bool)
  | nan
  deriving DecidableEq, Repr, Inhabited

namespace Binary64

/-! ## Reading -/

/-- The least exponent of the format. -/
def minExponent : Int := -1074

/-- The largest exponent of the format. -/
def maxExponent : Int := 971

/-- The significands of numbers that are not very small lie between this one and its double. -/
def leadingBit : Nat := Nat.pow 2 52

/-- `num / den` to the nearest whole number, a half to the even one. -/
def roundDiv (num den : Nat) : Nat :=
  let q := num / den
  let r := num % den
  if 2 * r < den then q
  else if den < 2 * r then q + 1
  else if q % 2 = 0 then q else q + 1

/-- `b ^ n` for the parts of an integer exponent: the factor of the numerator. -/
def powAbove (b : Nat) (n : Int) : Nat := Nat.pow b n.toNat

/-- `b ^ n` for the parts of an integer exponent: the factor of the denominator. -/
def powBelow (b : Nat) (n : Int) : Nat := Nat.pow b (-n).toNat

/-- The exponent of the number nearest to `num / den`, where the quotient is not 0. -/
def exponentOf (num den : Nat) : Int :=
  let e := max minExponent ((num.log2 : Int) - den.log2 - 53)
  if 2 * leadingBit ≤ num * powBelow 2 e / (den * powAbove 2 e) then e + 1 else e

/-- The number nearest to `num / den`. -/
def ofRatio (negative : Bool) (num den : Nat) : Binary64 :=
  if num = 0 then finite negative 0 0
  else
    let e := exponentOf num den
    let m := roundDiv (num * powBelow 2 e) (den * powAbove 2 e)
    let (m, e) := if m = 2 * leadingBit then (leadingBit, e + 1) else (m, e)
    if maxExponent < e then infinite negative else finite negative m e

/-- The number of decimal digits of a number. -/
def decimalLength (n : Nat) : Nat := (Nat.toDigits 10 n).length

/-- The number nearest to `digits * 10 ^ exponent`.  Beyond 400 places before or behind the point
    the answer needs no calculation. -/
def ofDecimal (negative : Bool) (digits : Nat) (exponent : Int) : Binary64 :=
  let magnitude := decimalLength digits + exponent
  if digits = 0 ∨ magnitude < -400 then finite negative 0 0
  else if 400 < magnitude then infinite negative
  else ofRatio negative (digits * powAbove 10 exponent) (powBelow 10 exponent)

/-! ## Writing -/

/-- The decimals that are read as a number, all of them divided by a quarter of the number's unit
    in the last place: `low` to `high` around `4 * significand`, the ends being included if
    `closed`. -/
structure Reach where
  low : Nat
  high : Nat
  closed : Bool
  deriving Repr

/-- The reach of a number.  Below a power of two the numbers lie closer together. -/
def reach (m : Nat) (e : Int) : Reach :=
  ⟨4 * m - (if m = leadingBit ∧ minExponent < e then 1 else 2), 4 * m + 2, m % 2 = 0⟩

/-- Whether `num / den` is in a reach. -/
def Reach.contains (r : Reach) (num den : Nat) : Bool :=
  if r.closed then r.low * den ≤ num && num ≤ r.high * den
  else r.low * den < num && num < r.high * den

/-- The shortest decimal `d * 10 ^ k` that is read as `m * 2 ^ e`, trying `k` and the exponents
    below it.  Of the two neighbours among the multiples of `10 ^ k` the nearer is taken, the upper
    one if they are equally near.  Seventeen digits always suffice, so `fuel` need not exceed the
    number of steps to them. -/
def shortestFrom (m : Nat) (e : Int) : (fuel : Nat) → (k : Int) → Nat × Int
  | 0, k => (0, k)
  | fuel + 1, k =>
    let num := powAbove 10 k * powBelow 2 (e - 2)
    let den := powBelow 10 k * powAbove 2 (e - 2)
    let d := 4 * m * den / num
    let below := (reach m e).contains (d * num) den
    let above := (reach m e).contains ((d + 1) * num) den
    if below && above then
      if 4 * m * den - d * num < (d + 1) * num - 4 * m * den then (d, k) else (d + 1, k)
    else if below then (d, k)
    else if above then (d + 1, k)
    else shortestFrom m e fuel (k - 1)

/-- The shortest decimal that is read as `m * 2 ^ e`. -/
def shortest (m : Nat) (e : Int) : Nat × Int :=
  shortestFrom m e 25 (((m.log2 : Int) + e) * 30103 / 100000 + 2)

/-- `d * 10 ^ k` with at least one digit on each side of the point. -/
def positional (d : Nat) (k : Int) : String :=
  let digits := Nat.toDigits 10 d
  let whole := digits ++ List.replicate k.toNat '0'
  let places := (-k).toNat
  let padded := List.replicate (places + 1 - whole.length) '0' ++ whole
  let fraction := padded.drop (padded.length - places)
  String.ofList (padded.take (padded.length - places) ++ '.' :: if fraction.isEmpty then ['0'] else fraction)

/-- How a number is written. -/
def text : Binary64 → String
  | nan => "nan"
  | infinite negative => if negative then "-inf" else "inf"
  | finite negative m e =>
    let (d, k) := if m = 0 then (0, 0) else shortest m e
    (if negative then "-" else "") ++ positional d k

end Binary64

end Highlight.Toml
