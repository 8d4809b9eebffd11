import Audience.Calendar.Instant
import Audience.Double.Reader

/-!
**Reading dates and instants**.

Three notations are understood: an instant with the offset of its clock from universal time, an
instant without one, and a day.  The readers of their parts take a list of characters and give back
a value with the characters after it.

Main definitions:

* `Calendar.Spacing` — where a date or a clock may hold blanks;
* `Calendar.strict?` — an instant with an offset, every number in its full width;
* `Calendar.naive?`, `Calendar.day?` — an instant without an offset, and a day;
* `Calendar.lenient?` — an instant with an offset, blanks between its parts allowed;
* `Calendar.instantOf?` — the instant that a text denotes in any of the first three notations.
-/

set_option relaxedAutoImplicit false
set_option autoImplicit false

namespace Audience.Calendar

/-! ### Numbers and marks -/

/-- A number of `least` to `most` digits. -/
def number? (least most : Nat) (cs : List Char) : Option (Nat × List Char) :=
  let digits := (cs.take most).takeWhile Double.isDigit
  if digits.length < least then none
  else some (Double.natOfDigits digits, cs.drop digits.length)

/-- A certain character. -/
def mark? (mark : Char) : List Char → Option (List Char)
  | c :: rest => if c = mark then some rest else none
  | [] => none

/-- Where a date or a clock may hold blanks. -/
inductive Spacing where
  /-- Before its numbers. -/
  | beforeNumbers
  /-- Before its numbers and before the marks between them. -/
  | everywhere
  deriving DecidableEq, Repr

/-- A certain character, with blanks before it where they are allowed. -/
def Spacing.mark? (spacing : Spacing) (mark : Char) (cs : List Char) : Option (List Char) :=
  Calendar.mark? mark (match spacing with
    | .beforeNumbers => cs
    | .everywhere => Text.trimStart cs)

/-- A number of one or two digits, with blanks before it. -/
def pair? (cs : List Char) : Option (Nat × List Char) := number? 1 2 (Text.trimStart cs)

/-- A year: four digits at most, or a sign and any number of digits, with blanks before it. -/
def year? (cs : List Char) : Option (Int × List Char) :=
  match Text.trimStart cs with
  | '-' :: rest => (number? 1 rest.length rest).map fun (n, rest) => (-(n : Int), rest)
  | '+' :: rest => (number? 1 rest.length rest).map fun (n, rest) => ((n : Int), rest)
  | cs => (number? 1 4 cs).map fun (n, rest) => ((n : Int), rest)

/-- A fraction of a second in nanoseconds: a point and digits, of which the first nine count, or
nothing. -/
def fraction? : List Char → Option (Nat × List Char)
  | '.' :: rest =>
    let digits := (rest.take 9).takeWhile Double.isDigit
    if digits.isEmpty then none
    else some (Double.natOfDigits digits * Nat.pow 10 (9 - digits.length),
      rest.dropWhile Double.isDigit)
  | rest => some (0, rest)

/-! ### Dates and clocks -/

/-- A date. -/
def Spacing.date? (spacing : Spacing) (cs : List Char) : Option (Date × List Char) := do
  let (year, cs) ← year? cs
  let cs ← spacing.mark? '-' cs
  let (month, cs) ← pair? cs
  let cs ← spacing.mark? '-' cs
  let (day, cs) ← pair? cs
  let date ← Date.ofParts? year month day
  some (date, cs)

/-- A time of day, on a given date. -/
def Spacing.clock? (spacing : Spacing) (date : Date) (cs : List Char) :
    Option (Instant × List Char) := do
  let (hour, cs) ← pair? cs
  let cs ← spacing.mark? ':' cs
  let (minute, cs) ← pair? cs
  let cs ← spacing.mark? ':' cs
  let (second, cs) ← pair? cs
  let (nano, cs) ← fraction? cs
  let instant ← Instant.ofClock? date hour minute second nano
  some (instant, cs)

/-- The sign of an offset. -/
def offsetSign? : List Char → Option (Int × List Char)
  | '+' :: rest => some (1, rest)
  | '-' :: rest => some (-1, rest)
  | '\u2212' :: rest => some (-1, rest)
  | _ => none

/-- The hours and minutes of an offset, in minutes. -/
def offsetMinutes? (colon? : List Char → Option (List Char)) (cs : List Char) :
    Option (Nat × List Char) := do
  let (hours, cs) ← number? 2 2 cs
  let cs ← colon? cs
  let (minutes, cs) ← number? 2 2 cs
  if hours < 24 ∧ minutes < 60 then some (hours * 60 + minutes, cs) else none

/-- An offset from universal time in minutes: the letter Z, or a sign, hours and minutes. -/
def offset? (colon? : List Char → Option (List Char)) (cs : List Char) :
    Option (Int × List Char) :=
  match cs with
  | 'Z' :: rest | 'z' :: rest => some (0, rest)
  | cs => do
    let (sign, cs) ← offsetSign? cs
    let (minutes, cs) ← offsetMinutes? colon? cs
    some (sign * minutes, cs)

/-! ### The notations -/

/-- The character between a date and a time of day: the letter T, in either case, or a space. -/
def separator? : List Char → Option (List Char)
  | 'T' :: rest | 't' :: rest | ' ' :: rest => some rest
  | _ => none

/-- What a whole text denotes, given what its start denotes and the rest. -/
def whole? {α : Type} : α × List Char → Option α
  | (value, []) => some value
  | _ => none

/-- An **instant with an offset**, every number in its full width. -/
def strict? (cs : List Char) : Option Instant := do
  let (year, cs) ← number? 4 4 cs
  let cs ← mark? '-' cs
  let (month, cs) ← number? 2 2 cs
  let cs ← mark? '-' cs
  let (day, cs) ← number? 2 2 cs
  let cs ← separator? cs
  let (hour, cs) ← number? 2 2 cs
  let cs ← mark? ':' cs
  let (minute, cs) ← number? 2 2 cs
  let cs ← mark? ':' cs
  let (second, cs) ← number? 2 2 cs
  let (nano, cs) ← fraction? cs
  let offset ← (offset? (mark? ':') cs).bind whole?
  let date ← Date.ofParts? year month day
  let clock ← Instant.ofClock? date hour minute second nano
  clock.minus? offset

/-- An **instant without an offset**, taken to be in universal time. -/
def naive? (cs : List Char) : Option Instant := do
  let (date, cs) ← Spacing.beforeNumbers.date? cs
  let cs ← mark? 'T' cs
  (Spacing.beforeNumbers.clock? date cs).bind whole?

/-- A **day**. -/
def day? (cs : List Char) : Option Date := (Spacing.beforeNumbers.date? cs).bind whole?

/-- A day with blanks anywhere between its parts and at its ends. -/
def spacedDay? (cs : List Char) : Option Date := do
  let (date, cs) ← Spacing.everywhere.date? cs
  whole? (date, Text.trimStart cs)

/-- The colon of an offset: colons and blanks in any number. -/
def looseColon? (cs : List Char) : Option (List Char) :=
  some (cs.dropWhile fun c => c == ':' || Text.isBlank c)

/-- The name of universal time, in any case, for an offset of zero. -/
def zoneName? : List Char → Option (List Char)
  | u :: t :: c :: rest =>
    if u.toLower = 'u' ∧ t.toLower = 't' ∧ c.toLower = 'c' then some rest else none
  | _ => none

/-- An instant with an offset, blanks between its parts allowed. -/
def lenient? (cs : List Char) : Option Instant := do
  let (date, cs) ← Spacing.everywhere.date? cs
  let cs ← separator? cs
  let (clock, cs) ← Spacing.everywhere.clock? date cs
  let cs := Text.trimStart cs
  let (offset, cs) ← match zoneName? cs with
    | some rest => some (0, rest)
    | none => offset? looseColon? cs
  whole? ((), Text.trimStart cs)
  clock.minus? offset

/-- The **instant that a text denotes**, blanks at its ends aside: an instant with an offset, one
without, or midnight at the start of a day. -/
def instantOf? (s : String) : Option Instant :=
  let cs := (Text.trim s).toList
  ((strict? cs).or (naive? cs)).or ((day? cs).map Instant.midnight)

end Audience.Calendar
