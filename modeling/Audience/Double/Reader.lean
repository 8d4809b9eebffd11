import Audience.Double.Rounding
import Audience.Text.Blank

/-!
**Reading doubles** from decimal notation.

A number is an optional sign, digits with an optional point among, before or after them, and an
optional exponent; in place of the digits there may be a word for an infinity or for not-a-number.

Main definitions:

* `Double.spanDigits` — the digits at the start of a text, and the rest;
* `Double.natOfDigits` — the number that digits denote;
* `Double.ofText?` — the double nearest to the number a text denotes;
* `Double.ofTrimmed?` — the same for a text with blanks around it, not-a-number left out.
-/

set_option relaxedAutoImplicit false
set_option autoImplicit false

namespace Audience.Double

/-- Is this one of the ten ASCII digits? -/
def isDigit (c : Char) : Bool := '0' ≤ c && c ≤ '9'

/-- The digits at the start of a text, and the rest. -/
def spanDigits (cs : List Char) : List Char × List Char := (cs.takeWhile isDigit, cs.dropWhile isDigit)

/-- The number that a list of digits denotes. -/
def natOfDigits (ds : List Char) : Nat := ds.foldl (fun n d => 10 * n + (d.toNat - 48)) 0

/-- A sign at the start of a text (does it negate?), and the rest. -/
def spanSign : List Char → Bool × List Char
  | '-' :: rest => (true, rest)
  | '+' :: rest => (false, rest)
  | rest => (false, rest)

/-- A point and the digits after it; without a point there are none. -/
def spanFraction : List Char → List Char × List Char
  | '.' :: rest => spanDigits rest
  | rest => ([], rest)

/-- The exponent that ends a number: nothing, or a letter E, an optional sign and digits. -/
def exponentOf? : List Char → Option Int
  | [] => some 0
  | c :: rest =>
    if c = 'e' ∨ c = 'E' then
      let (negative, rest) := spanSign rest
      let (digits, rest) := spanDigits rest
      if digits.isEmpty || !rest.isEmpty then none
      else some (if negative then -(natOfDigits digits : Int) else natOfDigits digits)
    else none

/-- The double of a number without its sign. -/
def magnitudeOf? (negative : Bool) (cs : List Char) : Option Double :=
  let (whole, rest) := spanDigits cs
  let (fraction, rest) := spanFraction rest
  if whole.isEmpty && fraction.isEmpty then none
  else (exponentOf? rest).map fun exponent =>
    ofDecimal negative (natOfDigits (whole ++ fraction)) (exponent - fraction.length)

/-- The words for the doubles that are no finite number, in lowercase. -/
def wordOf? (negative : Bool) (word : String) : Option Double :=
  if word = "inf" ∨ word = "infinity" then some (infinity negative)
  else if word = "nan" then some nan
  else none

/-- The **double that a text denotes**. -/
def ofText? (cs : List Char) : Option Double :=
  let (negative, rest) := spanSign cs
  (wordOf? negative (String.ofList (rest.map Char.toLower))).or (magnitudeOf? negative rest)

/-- The number that a text with blanks around it denotes.  Not-a-number counts as no number. -/
def ofTrimmed? (s : String) : Option Double :=
  (ofText? (Text.trim s).toList).filter (!·.isNaN)

end Audience.Double
