import Audience.Calendar.Date

/-!
**Instants** of universal time, to the nanosecond.

An instant is a day, a second of that day and a nanosecond of that second.  A leap second is the
second before it gone on for: its nanoseconds are counted from a thousand million, so that it lies
after that second and before the next one.

Main definitions:

* `Instant` — the points in time, with `Instant.compare` as their order;
* `Instant.ofEpochMillis?` — the instant a number of milliseconds after the start of 1970;
* `Instant.minus?` — the instant a number of minutes before one;
* `Instant.write` — the text of an instant, and `Instant.Zone` for how its offset is written.
-/

set_option relaxedAutoImplicit false
set_option autoImplicit false

namespace Audience

/-- A **point in time**, in universal time. -/
structure Instant where
  /-- The day. -/
  date : Date
  /-- The second of the day. -/
  second : Nat
  /-- The nanosecond, from a thousand million in a leap second. -/
  nano : Nat
  /-- A day has 86400 seconds. -/
  second_lt : second < 86400 := by omega
  /-- A leap second is the sixty-first second of its minute. -/
  nano_lt : nano < 1000000000 ∨ nano < 2000000000 ∧ second % 60 = 59 := by omega
  deriving DecidableEq, Repr

namespace Instant

/-- Midnight at the start of a day. -/
def midnight (date : Date) : Instant where
  date := date
  second := 0
  nano := 0

instance : Inhabited Instant := ⟨midnight default⟩

/-- The instant of a day at an hour, minute and second; second sixty is a leap second. -/
def ofClock? (date : Date) (hour minute second nano : Nat) : Option Instant :=
  if h : hour < 24 ∧ minute < 60 ∧ second < 60 ∧ nano < 1000000000 then
    some {
      date := date
      second := hour * 3600 + minute * 60 + second
      nano := nano }
  else if h : hour < 24 ∧ minute < 60 ∧ second = 60 ∧ nano < 1000000000 then
    some {
      date := date
      second := hour * 3600 + minute * 60 + 59
      nano := 1000000000 + nano }
  else none

/-! ### Order -/

/-- The **ordering** of two instants in time. -/
def compare (a b : Instant) : Ordering :=
  (a.date.compare b.date).then
    ((Ord.compare a.second b.second).then (Ord.compare a.nano b.nano))

instance : Ord Instant := ⟨Instant.compare⟩

/-! ### Arithmetic -/

/-- The instant `n` milliseconds after the start of 1970. -/
def ofEpochMillis? (n : Int) : Option Instant :=
  (Date.ofEpochDay? (n / 86400000)).map fun date =>
    let millis := (n % 86400000).toNat
    have : millis < 86400000 := by omega
    { date := date
      second := millis / 1000
      nano := millis % 1000 * 1000000
      second_lt := by omega
      nano_lt := by omega }

/-- The instant `minutes` minutes before, for less than a day either way. -/
def minus? (t : Instant) (minutes : Int) : Option Instant :=
  let second := (t.second : Int) - 60 * minutes
  let date? :=
    if second < 0 then t.date.previous? else if second < 86400 then some t.date else t.date.next?
  date?.map fun date =>
    let wrapped := (second % 86400).toNat
    { date := date
      second := wrapped
      nano := t.nano
      second_lt := by omega
      nano_lt := by have := t.nano_lt; omega }

/-! ### Text -/

/-- How the offset of universal time from itself is written. -/
inductive Zone where
  /-- As `+00:00`. -/
  | offset
  /-- As `Z`. -/
  | letter
  deriving DecidableEq, Repr

/-- The characters of a zone. -/
def Zone.chars : Zone → List Char
  | .offset => ['+', '0', '0', ':', '0', '0']
  | .letter => ['Z']

/-- A fraction of a second in three, six or nine digits, whichever suffice; nothing if it is
zero. -/
def fractionChars (nano : Nat) : List Char :=
  if nano = 0 then []
  else if nano % 1000000 = 0 then '.' :: Date.padded 3 (nano / 1000000)
  else if nano % 1000 = 0 then '.' :: Date.padded 6 (nano / 1000)
  else '.' :: Date.padded 9 nano

/-- The characters of an instant. -/
def chars (zone : Zone) (t : Instant) : List Char :=
  let leap := if t.nano < 1000000000 then 0 else 1
  t.date.chars ++ 'T' :: Date.padded 2 (t.second / 3600)
    ++ ':' :: Date.padded 2 (t.second / 60 % 60)
    ++ ':' :: Date.padded 2 (t.second % 60 + leap)
    ++ fractionChars (t.nano - leap * 1000000000) ++ zone.chars

/-- The **text of an instant**. -/
def write (zone : Zone) (t : Instant) : String := String.ofList (t.chars zone)

end Instant

end Audience
