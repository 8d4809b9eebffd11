import Audience.Double.Rounding

/-!
**Shortest decimals**: the fewest digits that read back as the same double.

A positive finite double is the rounding of every real number between the two midpoints to its
neighbours (the midpoints themselves included when its rank is even).  Decimal grids are tried
from coarse to fine; the first grid with a point in that interval gives the digits, and of two
such points the one nearer to the double is taken.

Main definitions:

* `Double.Tie` — which of two equally near decimals is taken;
* `Double.Decimal` — a whole number of digits and a power of ten;
* `Double.shortest` — the shortest decimal of a positive finite double;
* `Double.Layout`, `Double.write` — how the digits are set out, and the text of a double.
-/

set_option relaxedAutoImplicit false
set_option autoImplicit false

namespace Audience.Double

/-- The choice between two decimals of equal length that are equally near to a double. -/
inductive Tie where
  /-- The one with the even last digit. -/
  | even
  /-- The larger one. -/
  | up
  deriving DecidableEq, Repr

/-- A **decimal** `digits · 10 ^ exponent`. -/
structure Decimal where
  /-- The digits, as a whole number. -/
  digits : Nat
  /-- The power of ten of the last digit. -/
  exponent : Int
  deriving DecidableEq, Repr

/-- The real numbers that round to one positive double, measured in half units. -/
structure Basin where
  /-- The midpoint to the next smaller double. -/
  low : Nat
  /-- The double itself. -/
  centre : Nat
  /-- The midpoint to the next larger double. -/
  high : Nat
  /-- Do the midpoints round to the double? -/
  closed : Bool
  deriving DecidableEq, Repr

/-- The basin of the double of rank `r`. -/
def basin (r : Nat) : Basin where
  low := units (r - 1) + units r
  centre := 2 * units r
  high := units r + units (r + 1)
  closed := r % 2 == 0

/-- Does `num / den` half units lie in the basin? -/
def Basin.contains (b : Basin) (num den : Nat) : Bool :=
  if b.closed then b.low * den ≤ num && num ≤ b.high * den
  else b.low * den < num && num < b.high * den

/-- The grid of whole multiples of `10 ^ exponent`, as a quotient of half units per step. -/
def gridStep (exponent : Int) : Nat × Nat :=
  let one := 2 * unitsPerOne
  if 0 ≤ exponent then (Nat.pow 10 exponent.toNat * one, 1) else (one, Nat.pow 10 (-exponent).toNat)

/-- The point of a grid that lies in the basin and is nearest to its centre, if there is one. -/
def Basin.nearestOn (b : Basin) (tie : Tie) (exponent : Int) : Option Nat :=
  let (step, den) := gridStep exponent
  let n := b.centre * den / step
  let below := b.contains (n * step) den
  let above := b.contains ((n + 1) * step) den
  if below && above then
    let twice := 2 * (b.centre * den)
    let middle := (2 * n + 1) * step
    let takesAbove := middle < twice || (middle == twice && (tie == .up || n % 2 == 1))
    some (if takesAbove then n + 1 else n)
  else if below then some n
  else if above then some (n + 1)
  else none

/-- The first grid, going down from `10 ^ exponent` for `steps` powers of ten, with a point in the
basin. -/
def Basin.search (b : Basin) (tie : Tie) : (steps : Nat) → (exponent : Int) → Decimal
  | 0, exponent => ⟨0, exponent⟩
  | steps + 1, exponent =>
    match b.nearestOn tie exponent with
    | some n => ⟨n, exponent⟩
    | none => b.search tie steps (exponent - 1)

/-- A power of ten above the double that measures `n` units: `0.30103` exceeds the decimal
logarithm of `2`. -/
def tenthPowerAbove (n : Nat) : Int := ((n.log2 : Int) - 1073) * 30103 / 100000 + 1

/-- The **shortest decimal** that reads back as the double of rank `r`, for `r` positive and
finite.  The search ends at the latest at `10 ^ -1074`, on whose grid every finite double lies. -/
def shortest (tie : Tie) (r : Nat) : Decimal :=
  let start := tenthPowerAbove (units r)
  (basin r).search tie (start + 1075).toNat start

/-! ### Text -/

/-- How the digits of a double are set out. -/
structure Layout where
  /-- The choice between equally near decimals. -/
  tie : Tie
  /-- The places of the decimal point, counted from the first digit, at which the number is
  written out in full; outside of them an exponent is used.  Without bounds it never is. -/
  positional : Option (Int × Int)
  /-- What follows a whole number that is written out in full. -/
  wholeEnding : String
  deriving DecidableEq, Repr

/-- The decimal digits of a natural number. -/
def digitsOf (n : Nat) : List Char := Nat.toDigits 10 n

/-- Digits with a decimal point after the first `point` of them, filled up with zeros. -/
def Layout.writeOut (layout : Layout) (digits : List Char) (point : Int) : String :=
  if point ≤ 0 then
    "0." ++ String.ofList (List.replicate (-point).toNat '0' ++ digits)
  else if point.toNat < digits.length then
    String.ofList (digits.take point.toNat) ++ "." ++ String.ofList (digits.drop point.toNat)
  else
    String.ofList (digits ++ List.replicate (point.toNat - digits.length) '0')
      ++ layout.wholeEnding

/-- Digits in scientific notation: one before the point, and an exponent with its sign. -/
def writeScientific (digits : List Char) (point : Int) : String :=
  let mantissa := match digits with
    | [] => ""
    | [d] => String.ofList [d]
    | d :: rest => String.ofList (d :: '.' :: rest)
  let exponent := point - 1
  mantissa ++ (if exponent < 0 then "e-" else "e+") ++ String.ofList (digitsOf exponent.natAbs)

/-- The text of a nonnegative finite double. -/
def Layout.writeRank (layout : Layout) (r : Nat) : String :=
  if r = 0 then "0" ++ layout.wholeEnding else
    let decimal := shortest layout.tie r
    let digits := digitsOf decimal.digits
    let point := digits.length + decimal.exponent
    match layout.positional with
    | none => layout.writeOut digits point
    | some (least, most) =>
      if least ≤ point ∧ point ≤ most then layout.writeOut digits point
      else writeScientific digits point

/-- The **text of a double** in a layout. -/
def write (layout : Layout) : Double → String
  | nan => "NaN"
  | signed negative rank =>
    (if negative then "-" else "")
      ++ (if rank = Fin.last top then "inf" else layout.writeRank rank)

end Audience.Double
