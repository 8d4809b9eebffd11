/-!
**Calendar days** of the proleptic Gregorian calendar.

A date is a year, a month and a day of the month that exist, between the years -262143 and 262142.
Dates are ordered by year, then month, then day, which is the order of time.

Main definitions:

* `Date` — the days there are, with `Date.ofParts?` as the way to make one;
* `Date.next?`, `Date.previous?` — the days beside one;
* `Date.ofEpochDay?` — the day a number of days after 1 January 1970;
* `Date.write` — the text `2024-06-15` of a day.
-/

set_option relaxedAutoImplicit false
set_option autoImplicit false

namespace Audience

namespace Date

/-- Does a year have a 29 February? -/
def isLeapYear (year : Int) : Bool := year % 4 == 0 && (year % 100 != 0 || year % 400 == 0)

/-- The number of days of a month. -/
def monthLength (year : Int) : Nat → Nat
  | 2 => if isLeapYear year then 29 else 28
  | 4 | 6 | 9 | 11 => 30
  | _ => 31

/-- Is there such a day? -/
def exists? (year : Int) (month day : Nat) : Bool :=
  -262143 ≤ year && year ≤ 262142 && 1 ≤ month && month ≤ 12 && 1 ≤ day
    && day ≤ monthLength year month

end Date

/-- A **calendar day**. -/
structure Date where
  /-- The year, counted with a year zero. -/
  year : Int
  /-- The month, from `1` to `12`. -/
  month : Nat
  /-- The day of the month, from `1`. -/
  day : Nat
  /-- There is such a day. -/
  valid : Date.exists? year month day = true
  deriving DecidableEq, Repr

namespace Date

/-- The day with the given parts, if there is one. -/
def ofParts? (year : Int) (month day : Nat) : Option Date :=
  if h : exists? year month day = true then some ⟨year, month, day, h⟩ else none

@[simp] theorem ofParts?_parts (d : Date) : ofParts? d.year d.month d.day = some d := by
  simp [ofParts?, d.valid]

instance : Inhabited Date := ⟨⟨1970, 1, 1, by decide⟩⟩

/-! ### Order -/

/-- The ordering of two days in time. -/
def compare (a b : Date) : Ordering :=
  (Ord.compare a.year b.year).then ((Ord.compare a.month b.month).then (Ord.compare a.day b.day))

instance : Ord Date := ⟨Date.compare⟩

/-- The later of two days, where there may be none. -/
def later? (a b : Option Date) : Option Date :=
  match a, b with
  | none, d | d, none => d
  | some a, some b => some (if (Date.compare a b).isGT then a else b)

/-- The latest of a list of days, if there is one. -/
def latest? (dates : List Date) : Option Date :=
  dates.foldl (fun latest date => later? latest (some date)) none

/-! ### Neighbours -/

/-- The day after, unless it is beyond the last year. -/
def next? (d : Date) : Option Date :=
  ((ofParts? d.year d.month (d.day + 1)).or (ofParts? d.year (d.month + 1) 1)).or
    (ofParts? (d.year + 1) 1 1)

/-- The day before, unless it is before the first year. -/
def previous? (d : Date) : Option Date :=
  if d.day = 1 then
    if d.month = 1 then ofParts? (d.year - 1) 12 31
    else ofParts? d.year (d.month - 1) (monthLength d.year (d.month - 1))
  else ofParts? d.year d.month (d.day - 1)

/-! ### Counting days -/

/-- The number of days before the first day of March of year `0`, counted from 1 January 1970. -/
def epochShift : Int := 719468

/-- The day that lies `n` days after 1 January 1970.  Years are counted from March, so that the
leap day is the last of its year, and in cycles of four hundred. -/
def ofEpochDay? (n : Int) : Option Date :=
  let fromMarch := n + epochShift
  let cycle := fromMarch / 146097
  let dayOfCycle := (fromMarch % 146097).toNat
  let yearOfCycle :=
    (dayOfCycle - dayOfCycle / 1460 + dayOfCycle / 36524 - dayOfCycle / 146096) / 365
  let dayOfYear := dayOfCycle - (365 * yearOfCycle + yearOfCycle / 4 - yearOfCycle / 100)
  let monthFromMarch := (5 * dayOfYear + 2) / 153
  let day := dayOfYear - (153 * monthFromMarch + 2) / 5 + 1
  let month := if monthFromMarch < 10 then monthFromMarch + 3 else monthFromMarch - 9
  let year := cycle * 400 + yearOfCycle + (if month ≤ 2 then 1 else 0)
  ofParts? year month day

/-! ### Text -/

/-- A number in decimal digits, filled up with zeros to a width. -/
def padded (width n : Nat) : List Char :=
  let digits := Nat.toDigits 10 n
  List.replicate (width - digits.length) '0' ++ digits

/-- A year in at least four digits, with a sign unless it is between `0` and `9999`. -/
def writeYear (year : Int) : List Char :=
  if year < 0 then '-' :: padded 4 year.natAbs
  else if 9999 < year then '+' :: padded 4 year.natAbs
  else padded 4 year.natAbs

/-- The characters of a date: year, month and day. -/
def chars (d : Date) : List Char :=
  writeYear d.year ++ '-' :: padded 2 d.month ++ '-' :: padded 2 d.day

/-- The **text of a date**. -/
def write (d : Date) : String := String.ofList d.chars

end Date

end Audience
