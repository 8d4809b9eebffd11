import Audience.Double.Basic

/-!
**Rounding**: the double nearest to an exact number, ties going to the even rank.

A nonnegative rational number of units is squeezed between the doubles of two consecutive ranks;
the nearer one is taken.  Sums, whole numbers and decimal fractions are all rounded by this one
rule.

Main definitions:

* `Double.floorRank` — the last rank whose double does not exceed a whole number of units;
* `Double.nearestRank` — the rank nearest to a quotient of units;
* `Double.add`, `Double.sum` — rounded addition, and a list added up from the left;
* `Double.ofInt`, `Double.ofDecimal` — the doubles nearest to an integer and to `d · 10 ^ e`;
* `Double.toNat` — the natural number nearest to a double.
-/

set_option relaxedAutoImplicit false
set_option autoImplicit false

namespace Audience.Double

/-- The last rank whose double measures at most `q` units, whether or not it is below infinity. -/
def floorRank (q : Nat) : Nat :=
  if q < stride then q else
    let step := q.log2 - 52
    step * stride + q / Nat.pow 2 step

/-- The rank of the double nearest to `num / den` units.  Of two equally near ones the even rank
is taken, and what is at least half a step beyond the largest finite double is infinity. -/
def nearestRank (num den : Nat) : Fin (top + 1) :=
  let r := floorRank (num / den)
  if h : r < top then
    let middle := (units r + units (r + 1)) * den
    let roundsUp := middle < 2 * num || (middle == 2 * num && r % 2 == 1)
    if roundsUp then ⟨r + 1, Nat.succ_lt_succ h⟩ else ⟨r, Nat.lt_succ_of_lt h⟩
  else Fin.last top

/-- The double nearest to a whole number of units; `0` gives positive zero. -/
def ofUnits (n : Int) : Double := .signed (n < 0) (nearestRank n.natAbs 1)

/-- The sum of two doubles, rounded to nearest.  Two zeros of one sign keep it, opposite numbers
add up to positive zero, and opposite infinities have no sum. -/
def add : Double → Double → Double
  | signed n r, signed m s =>
    if r = Fin.last top then
      if s = Fin.last top then if n = m then signed n r else nan else signed n r
    else if s = Fin.last top then signed m s
    else if r.val = 0 ∧ s.val = 0 then zeroOf (n && m)
    else ofUnits (signedUnits n r + signedUnits m s)
  | _, _ => nan

instance : Add Double := ⟨add⟩

/-- The sum of a list, added from the left and starting at negative zero, which is the neutral
element of addition. -/
def sum (xs : List Double) : Double := xs.foldl add negZero

/-- The double nearest to an integer. -/
def ofInt (n : Int) : Double := .signed (n < 0) (nearestRank (n.natAbs * unitsPerOne) 1)

/-- The double nearest to `digits · 10 ^ exponent`, with a sign of its own so that a zero may be
negative.  Exponents far beyond the range of doubles are answered without computing the power. -/
def ofDecimal (negative : Bool) (digits : Nat) (exponent : Int) : Double :=
  if digits = 0 then zeroOf negative
  else if 310 < exponent then infinity negative
  else if (digits.log2 : Int) + 1100 < 3 * -exponent then zeroOf negative
  else if 0 ≤ exponent then
    .signed negative (nearestRank (digits * Nat.pow 10 exponent.toNat * unitsPerOne) 1)
  else .signed negative (nearestRank (digits * unitsPerOne) (Nat.pow 10 (-exponent).toNat))

/-- The natural number nearest to a double, halves going up, and at most `most`.  Negative numbers
give zero, and so does not-a-number. -/
def toNat (most : Nat) : Double → Nat
  | nan => 0
  | signed true _ => 0
  | signed false rank =>
    if rank = Fin.last top then most
    else min most ((2 * units rank + unitsPerOne) / (2 * unitsPerOne))

end Audience.Double
