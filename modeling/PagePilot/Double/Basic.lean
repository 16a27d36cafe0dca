/-!
# PagePilot.Double.Basic

Binary64 numbers as their sixty-four bits, with conversions that are computed
in exact integer arithmetic. The wire carries doubles in both directions, and
two doubles are the same exactly when their bits are.

Main definitions:

* `Double.ofRatio` rounds a quotient of natural numbers to the nearest double,
  a tie going to the even significand;
* `Double.ofDecimal?` reads `digits · 10 ^ exponent`, and has no answer when
  the value lies beyond the largest finite double;
* `Double.ofInt` is `ofRatio` at denominator one.
-/

namespace PagePilot

/-- A binary64 number, given by its bits: sign, eleven exponent bits and
fifty-two fraction bits. -/
structure Double where
  bits : UInt64
deriving DecidableEq, Inhabited, Repr

namespace Double

/-! ### Fields -/

/-- Whether the sign bit is set; it is for `-0.0` too. -/
def isNegative (d : Double) : Bool :=
  d.bits.toNat / Nat.pow 2 63 = 1

/-- The biased exponent. -/
def exponentField (d : Double) : Nat :=
  d.bits.toNat / Nat.pow 2 52 % Nat.pow 2 11

/-- The fraction bits. -/
def fractionField (d : Double) : Nat :=
  d.bits.toNat % Nat.pow 2 52

/-- Neither an infinity nor a NaN. -/
def isFinite (d : Double) : Bool :=
  d.exponentField ≠ 2047

/-- The significand `m` of a finite double, whose magnitude is
`m * 2 ^ (d.unit - 1074)`. -/
def significand (d : Double) : Nat :=
  if d.exponentField = 0 then d.fractionField else Nat.pow 2 52 + d.fractionField

/-- The exponent of the last place, counted from the smallest one. -/
def unit (d : Double) : Nat :=
  d.exponentField - 1

/-! ### Rounding -/

/-- Puts a magnitude of at most `2 ^ 63` bits under a sign. -/
def ofMagnitude (negative : Bool) (magnitude : Nat) : Double :=
  ⟨UInt64.ofNat (if negative then Nat.pow 2 63 + magnitude else magnitude)⟩

/-- The double zero of the given sign. -/
def zero (negative : Bool) : Double :=
  ofMagnitude negative 0

/-- The magnitude bits of infinity: all finite magnitudes lie below. -/
def infinityBits : Nat :=
  2047 * Nat.pow 2 52

/-- The natural number nearest to `num / den`, a tie going to the even one. -/
def roundHalfEven (num den : Nat) : Nat :=
  let floor := num / den
  let twice := 2 * (num % den)
  if twice < den then floor
  else if den < twice then floor + 1
  else floor + floor % 2

/-- The binary logarithm of the quotient `num / den` of positive numbers,
rounded down. -/
def floorLog2 (num den : Nat) : Int :=
  let guess : Int := (num.log2 : Int) - (den.log2 : Int)
  let reached : Bool :=
    if 0 ≤ guess then den * Nat.pow 2 guess.toNat ≤ num
    else den ≤ num * Nat.pow 2 (-guess).toNat
  if reached then guess else guess - 1

/-- The magnitude bits of the double nearest to `num / den`. The significand is
rounded at the last place of the quotient's binade, or at the smallest place
for subnormal numbers; a significand rounded up to `2 ^ 53` carries into the
exponent field by itself. -/
def magnitudeOfRatio (num den : Nat) : Nat :=
  let place := max (floorLog2 num den - 52) (-1074)
  let rounded :=
    if 0 ≤ place then roundHalfEven num (den * Nat.pow 2 place.toNat)
    else roundHalfEven (num * Nat.pow 2 (-place).toNat) den
  let bits := (place + 1074).toNat * Nat.pow 2 52 + rounded
  min bits infinityBits

/-- The double nearest to `num / den`, with the sign given apart. -/
def ofRatio (negative : Bool) (num den : Nat) : Double :=
  if num = 0 then zero negative else ofMagnitude negative (magnitudeOfRatio num den)

/-- The double nearest to an integer. -/
def ofInt (n : Int) : Double :=
  ofRatio (n < 0) n.natAbs 1

/-- How many decimal digits `n` has; one for zero. -/
def decimalLength (n : Nat) : Nat :=
  (Nat.toDigits 10 n).length

/-- The double nearest to `± digits · 10 ^ exponent`, or nothing when that
rounds to an infinity. Exponents so large or so small that the outcome is
certain are settled without computing the power. -/
def ofDecimal? (negative : Bool) (digits : Nat) (exponent : Int) : Option Double :=
  let leading : Int := decimalLength digits + exponent
  if digits = 0 then some (zero negative)
  else if 400 < leading then none
  else if leading < -400 then some (zero negative)
  else
    let magnitude :=
      if 0 ≤ exponent then magnitudeOfRatio (digits * Nat.pow 10 exponent.toNat) 1
      else magnitudeOfRatio digits (Nat.pow 10 (-exponent).toNat)
    if magnitude = infinityBits then none else some (ofMagnitude negative magnitude)

example : (ofInt 5).bits = 0x4014000000000000 := by decide +kernel
example : ofDecimal? false 15 (-1) = some ⟨0x3ff8000000000000⟩ := by decide +kernel
example : ofDecimal? true 0 0 = some ⟨0x8000000000000000⟩ := by decide +kernel
example : ofDecimal? false 5 (-324) = some ⟨1⟩ := by decide +kernel
example : ofDecimal? false 2 308 = none := by decide +kernel

end Double

end PagePilot
