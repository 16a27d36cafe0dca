import PagePilot.Double.Basic
/-!
# PagePilot.Double.Shortest

The text of a double: the fewest significant digits that read back as the same
double, and of those the ones nearest to its exact value.

A double with significand `m` owns every real number that rounds to it: from
half a place below to half a place above, where the place below a power of two
is half as wide, and the end points belong to it exactly when `m` is even.
`Double.shortest` looks through the decimal grids from one digit upwards and
takes the first grid with a point in that interval. If a grid has such a point
at all, then one of the two neighbours of the exact value is such a point, so
two candidates a grid are enough.
-/

namespace PagePilot

namespace Double

/-- The reals that round to a positive double, with every bound scaled by one
common denominator: `low / den`, `exact / den` and `high / den`. -/
structure Interval where
  low : Nat
  exact : Nat
  high : Nat
  den : Nat
  closed : Bool
deriving Repr, DecidableEq

/-- The interval owned by a finite double of nonzero magnitude. -/
def interval (d : Double) : Interval :=
  let m := d.significand
  let below := if m = Nat.pow 2 52 ∧ 0 < d.unit then 1 else 2
  let scale : Nat := Nat.pow 2 d.unit
  { low := (4 * m - below) * scale
    exact := 4 * m * scale
    high := (4 * m + 2) * scale
    den := 4 * Nat.pow 2 1074
    closed := m % 2 = 0 }

/-- Whether `num / den` lies in the interval. -/
def Interval.contains (i : Interval) (num den : Nat) : Bool :=
  if i.closed then i.low * den ≤ num * i.den ∧ num * i.den ≤ i.high * den
  else i.low * den < num * i.den ∧ num * i.den < i.high * den

/-- A decimal number `digits · 10 ^ exponent`. -/
structure Decimal where
  digits : Nat
  exponent : Int
deriving Repr, DecidableEq

/-- The value as a quotient. -/
def Decimal.ratio (x : Decimal) : Nat × Nat :=
  if 0 ≤ x.exponent then (x.digits * Nat.pow 10 x.exponent.toNat, 1)
  else (x.digits, Nat.pow 10 (-x.exponent).toNat)

/-- The decimal logarithm of a positive quotient, rounded down. The logarithm
read off the digit counts is at most one too small or too large. -/
def floorLog10 (num den : Nat) : Int :=
  let guess : Int := (decimalLength num : Int) - (decimalLength den : Int)
  let reached : Bool :=
    if 0 ≤ guess then den * Nat.pow 10 guess.toNat ≤ num
    else den ≤ num * Nat.pow 10 (-guess).toNat
  if reached then guess else guess - 1

/-- Of the two neighbours of the exact value on the grid `10 ^ exponent`, the
one that lies in the interval; of two, the nearer, and the even one on a tie. -/
def Interval.onGrid? (i : Interval) (exponent : Int) : Option Decimal :=
  let (num, den) : Nat × Nat :=
    if 0 ≤ exponent then (i.exact, i.den * Nat.pow 10 exponent.toNat)
    else (i.exact * Nat.pow 10 (-exponent).toNat, i.den)
  let below : Decimal := ⟨num / den, exponent⟩
  let above : Decimal := ⟨num / den + 1, exponent⟩
  let nearest : Decimal := ⟨roundHalfEven num den, exponent⟩
  let inside (x : Decimal) : Bool := i.contains x.ratio.1 x.ratio.2
  match inside below, inside above with
  | true, true => some nearest
  | true, false => some below
  | false, true => some above
  | false, false => none

/-- Tries the grids from `exponent` downwards, at most `tries` of them. -/
def Interval.search (i : Interval) : Nat → Int → Option Decimal
  | 0, _ => none
  | tries + 1, exponent =>
      match i.onGrid? exponent with
      | some x => some x
      | none => i.search tries (exponent - 1)

/-- Moves trailing zeros of the digits into the exponent. -/
def Decimal.strip : Nat → Decimal → Decimal
  | 0, x => x
  | tries + 1, x =>
      if x.digits % 10 = 0 ∧ x.digits ≠ 0 then strip tries ⟨x.digits / 10, x.exponent + 1⟩ else x

/-- The shortest decimal number that rounds to `d`, for a finite double of
nonzero magnitude. Seventeen digits always suffice. -/
def shortest (d : Double) : Decimal :=
  let i := d.interval
  let leading := floorLog10 i.exact i.den
  ((i.search 20 leading).getD ⟨0, 0⟩).strip 400

/-! ### Writing -/

/-- How the text of a double is laid out. -/
structure Layout where
  /-- Decimal exponents of the first digit that are written positionally. -/
  positional : Int → Bool
  /-- The least number of digits of a written exponent. -/
  exponentDigits : Nat

/-- Positional from `0.00001` up to sixteen digits before the point; a point is
always written there, and an exponent has a sign and two digits or more. -/
def layout : Layout :=
  { positional := fun e => -5 ≤ e ∧ e ≤ 15
    exponentDigits := 2 }

/-- The digits of `n`, with zeros in front up to a length. -/
def paddedDigits (length n : Nat) : List Char :=
  let digits := Nat.toDigits 10 n
  List.replicate (length - digits.length) '0' ++ digits

/-- Writes a decimal number. -/
def Layout.write (l : Layout) (x : Decimal) : List Char :=
  let digits := Nat.toDigits 10 x.digits
  let first : Int := x.exponent + digits.length - 1
  if l.positional first then
    if 0 ≤ x.exponent then digits ++ List.replicate x.exponent.toNat '0' ++ ['.', '0']
    else if 0 ≤ first then
      digits.take (first.toNat + 1) ++ '.' :: digits.drop (first.toNat + 1)
    else '0' :: '.' :: List.replicate ((-first).toNat - 1) '0' ++ digits
  else
    let point := if digits.length = 1 then digits else digits.take 1 ++ '.' :: digits.drop 1
    let mark := if first < 0 then ['e', '-'] else ['e', '+']
    point ++ mark ++ paddedDigits l.exponentDigits first.natAbs

/-- The text of a finite double. -/
def toText (d : Double) : String :=
  let body :=
    if d.significand = 0 then ['0', '.', '0'] else layout.write d.shortest
  String.ofList (if d.isNegative then '-' :: body else body)

example : toText ⟨0x3ff8000000000000⟩ = "1.5" := by decide +kernel
example : toText ⟨0x8000000000000000⟩ = "-0.0" := by decide +kernel
example : toText ⟨0x408f400000000000⟩ = "1000.0" := by decide +kernel
example : toText ⟨0x43f0000000000000⟩ = "1.8446744073709552e+19" := by decide +kernel
example : toText ⟨0x7e37e43c8800759c⟩ = "1e+300" := by decide +kernel
example : toText ⟨1⟩ = "5e-324" := by decide +kernel

end Double

end PagePilot
