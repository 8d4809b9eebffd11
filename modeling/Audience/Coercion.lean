import Audience.Calendar.Reader
import Audience.Json.Printer
import Audience.Text.Lowercase

/-!
**Coercions** of JSON values to what an operator compares.

A value either has a reading, or is unusable (text that is no number or no date), or is of a kind
that the operator cannot work with at all.

Main definitions:

* `Uncoercible`, `Uncoercible.message` — a value of a kind that has no reading, and how that is
  told;
* `Json.text`, `Json.folded` — the text of a value, and the same in lowercase;
* `Json.number` — the number of a value, if it has one;
* `Json.date` — the point in time of a value, if it has one.
-/

set_option relaxedAutoImplicit false
set_option autoImplicit false

namespace Audience

/-- What a value is to be read as. -/
inductive Reading where
  | text
  | number
  | date
  deriving DecidableEq, Repr

/-- A reading as it is named in a message. -/
def Reading.describe : Reading → String
  | text => "text"
  | number => "a number"
  | date => "a date"

/-- A value of a kind that **cannot be read** as something. -/
structure Uncoercible where
  /-- The value. -/
  value : Json
  /-- What it was to be read as. -/
  reading : Reading
  deriving DecidableEq, Repr

/-- The message for a value that cannot be read. -/
def Uncoercible.message (u : Uncoercible) : String :=
  "cannot read " ++ u.value.compress ++ " as " ++ u.reading.describe

/-- Doubles that are compared as texts are written out in full, whole ones without a point. -/
def Double.plainLayout : Double.Layout where
  tie := .up
  positional := none
  wholeEnding := ""

/-- The text of a double that is compared as a text. -/
def Double.plain (x : Double) : String := x.write Double.plainLayout

namespace Json

/-- The **text** of a value. -/
def text : Json → Except Uncoercible String
  | string s => .ok s
  | int n => .ok (toString n)
  | float x => .ok x.plain
  | bool b => .ok (if b then "true" else "false")
  | other => .error ⟨other, .text⟩

/-- The text of a value in lowercase. -/
def folded (json : Json) : Except Uncoercible String := json.text.map Text.lowercase

/-- The **number** of a value; a text may denote none. -/
def number : Json → Except Uncoercible (Option Double)
  | int n => .ok (some (Double.ofInt n))
  | float x => .ok (if x.isNaN then none else some x)
  | string s => .ok (Double.ofTrimmed? s)
  | bool b => .ok (some (Double.ofInt (if b then 1 else 0)))
  | other => .error ⟨other, .number⟩

/-- Does a signed 64-bit number hold this one? -/
def isSignedWord (n : Int) : Bool := -0x8000000000000000 ≤ n && n < 0x8000000000000000

/-- The **point in time** of a value.  A whole number counts the milliseconds since the start of
1970; other numbers, and numbers and texts that denote no date, are unusable. -/
def date : Json → Except Uncoercible (Option Instant)
  | string s => .ok (Calendar.instantOf? s)
  | int n => .ok (if isSignedWord n then Instant.ofEpochMillis? n else none)
  | float _ => .ok none
  | other => .error ⟨other, .date⟩

end Json

end Audience
