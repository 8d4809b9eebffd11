/-!
**Doubles**: the numbers of the IEEE 754 `binary64` format, with exact arithmetic.

Every double other than not-a-number is a sign and a *rank*.  Ranks count the nonnegative doubles
upwards from zero, so that comparing two doubles is comparing two integers, and the rank after the
largest finite one is infinity.  Every nonnegative finite double is a whole number of *units* of
`2 ^ -1074`; that number is a function of the rank.

Main definitions:

* `Double` — not-a-number, or a sign and a rank;
* `Double.units`, `Double.unitsPerOne` — how many units the double of a rank measures, and the
  number one;
* `Double.compare?` — the ordering of two doubles, absent when one of them is not a number;
* `Double.isFinite`, `Double.isNaN` — the two kinds of exceptional values.
-/

set_option relaxedAutoImplicit false
set_option autoImplicit false

namespace Audience

/-- The rank of infinity: one more than the number of finite nonnegative doubles but one. -/
abbrev Double.top : Nat := 0x7FF0000000000000

/-- A **double**: not-a-number, or a sign and a rank.  The two zeros are the two signs of rank
`0`, the two infinities the two signs of the highest rank. -/
inductive Double where
  /-- Not a number. -/
  | nan
  /-- The double of a rank, negated if `negative` holds. -/
  | signed (negative : Bool) (rank : Fin (Double.top + 1))
  deriving DecidableEq, Repr

namespace Double

/-- The zero of a sign. -/
def zeroOf (negative : Bool) : Double := .signed negative 0

/-- Positive zero. -/
def zero : Double := zeroOf false

/-- Negative zero. -/
def negZero : Double := zeroOf true

/-- The infinity of a sign. -/
def infinity (negative : Bool) : Double := .signed negative (Fin.last top)

instance : Inhabited Double := ⟨zero⟩

/-- Is this not a number? -/
def isNaN : Double → Bool
  | nan => true
  | signed .. => false

/-- Is this a number other than an infinity? -/
def isFinite : Double → Bool
  | nan => false
  | signed _ rank => decide (rank.val < top)

@[simp] theorem isNaN_nan : isNaN nan = true := rfl

@[simp] theorem isNaN_signed (negative : Bool) (rank : Fin (top + 1)) :
    isNaN (signed negative rank) = false := rfl

@[simp] theorem isFinite_nan : isFinite nan = false := rfl

/-! ### The value of a rank -/

/-- The number of consecutive ranks that are one step apart: `2 ^ 52`. -/
abbrev stride : Nat := 0x10000000000000

/-- The number of units in the nonnegative double of rank `r`: the doubles of the first `stride`
ranks are one unit apart, and the step doubles after every further `stride` ranks. -/
def units (r : Nat) : Nat :=
  if r < stride then r else (stride + r % stride) * Nat.pow 2 (r / stride - 1)

/-- The number of units in the number one. -/
def unitsPerOne : Nat := Nat.pow 2 1074

@[simp] theorem units_zero : units 0 = 0 := rfl

/-- The value of a finite double in units, with its sign. -/
def signedUnits (negative : Bool) (rank : Nat) : Int :=
  if negative then -(units rank : Int) else units rank

/-! ### Order -/

/-- The place of a double among the doubles: its rank with its sign.  Both zeros have place `0`. -/
def place (negative : Bool) (rank : Nat) : Int :=
  if negative then -(rank : Int) else rank

/-- The **ordering** of two doubles.  Not-a-number compares with nothing, and the two zeros are
equal. -/
def compare? : Double → Double → Option Ordering
  | signed n r, signed m s => some (compare (place n r) (place m s))
  | _, _ => none

@[simp] theorem compare?_nan_left (x : Double) : compare? nan x = none := rfl

@[simp] theorem compare?_nan_right (x : Double) : compare? x nan = none := by cases x <;> rfl

/-- Is the first double below the second? -/
def isBelow (x y : Double) : Bool := x.compare? y == some .lt

end Double

end Audience
