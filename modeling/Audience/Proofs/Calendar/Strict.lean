import Audience.Proofs.Calendar.RoundTrip
import Audience.Proofs.Text.Blank

/-!
**Which written instants denote an instant**.

The text of an instant is also looked at in the three notations that a text with a date may have.
The one with an offset asks for a year in exactly four digits, and a year is written so only from
`0` to `9999`.  The two without an offset stop where the zone begins.  Of a year with a sign, then,
none of the three notations is left.

Main definitions:

* `Calendar.HasShortYear` — an instant of a year **with four digits**, and so without a sign.

Main results:

* `Calendar.strict?_chars`, `Calendar.strict?_chars_eq_none` — an instant with an offset is read
  back if its year has no sign, and else not read at all;
* `Calendar.naive?_chars`, `Calendar.day?_chars` — it is neither an instant without an offset nor a
  day;
* `Calendar.instantOf?_write` — the text of an instant **denotes it just when its year has four
  digits**.
-/

set_option relaxedAutoImplicit false
set_option autoImplicit false

namespace Audience.Calendar

/-- Is the year of an instant one of **four digits**, without a sign? -/
def HasShortYear (t : Instant) : Prop := 0 ≤ t.date.year ∧ t.date.year ≤ 9999

instance (t : Instant) : Decidable (HasShortYear t) :=
  inferInstanceAs (Decidable (0 ≤ t.date.year ∧ t.date.year ≤ 9999))

/-! ### An instant with an offset -/

theorem number?_exact {width n : Nat} (hw : 0 < width) (h : n < Nat.pow 10 width)
    (rest : List Char) : number? width width (Date.padded width n ++ rest) = some (n, rest) := by
  have hl := Date.length_padded width h hw
  exact number?_padded (Nat.le_refl width) (Nat.le_of_eq hl) (Or.inl hl)

theorem writeYear_of_hasShortYear {t : Instant} (h : HasShortYear t) :
    Date.writeYear t.date.year = Date.padded 4 t.date.year.natAbs := by
  obtain ⟨hlow, hhigh⟩ := h
  rw [Date.writeYear, if_neg (by omega), if_neg (by omega)]

theorem offset?_zone (zone : Instant.Zone) : offset? (mark? ':') zone.chars = some (0, []) := by
  cases zone <;> rfl

theorem head?_zone (zone : Instant.Zone) :
    ∀ c ∈ zone.chars.head?, Double.isDigit c = false ∧ c ≠ '.' := by
  cases zone <;> simp [Instant.Zone.chars, Double.isDigit]

/-- An instant whose year has no sign is read back with its offset. -/
theorem strict?_chars (zone : Instant.Zone) {t : Instant} (h : HasShortYear t) :
    strict? (t.chars zone) = some t := by
  obtain ⟨hour, minute, second, nano, ⟨hh, hm, hs, hn⟩, hclock, hchars⟩ := exists_chars_eq zone t
  have hyear : t.date.year.natAbs < 10000 := by
    obtain ⟨hlow, hhigh⟩ := h
    omega
  have hsign : ((t.date.year.natAbs : Nat) : Int) = t.date.year := Int.natAbs_of_nonneg h.1
  have hdate : Date.ofParts? ((t.date.year.natAbs : Nat) : Int) t.date.month t.date.day
      = some t.date := by
    rw [hsign, Date.ofParts?_parts]
  have hoffset : (offset? (mark? ':') zone.chars).bind whole? = some 0 := by
    rw [offset?_zone]
    rfl
  rw [hchars, Date.chars, writeYear_of_hasShortYear h]
  simp only [List.append_assoc, List.cons_append]
  -- the parts are read one after another, each up to the mark after it
  refine Option.bind_eq_some_iff.2 ⟨_, number?_exact (by omega) hyear _, ?_⟩
  refine Option.bind_eq_some_iff.2 ⟨_, rfl, ?_⟩
  refine Option.bind_eq_some_iff.2 ⟨_, number?_exact (by omega) (month_lt t.date) _, ?_⟩
  refine Option.bind_eq_some_iff.2 ⟨_, rfl, ?_⟩
  refine Option.bind_eq_some_iff.2 ⟨_, number?_exact (by omega) (day_lt t.date) _, ?_⟩
  refine Option.bind_eq_some_iff.2 ⟨_, rfl, ?_⟩
  refine Option.bind_eq_some_iff.2 ⟨_, number?_exact (by omega) hh _, ?_⟩
  refine Option.bind_eq_some_iff.2 ⟨_, rfl, ?_⟩
  refine Option.bind_eq_some_iff.2 ⟨_, number?_exact (by omega) hm _, ?_⟩
  refine Option.bind_eq_some_iff.2 ⟨_, rfl, ?_⟩
  refine Option.bind_eq_some_iff.2 ⟨_, number?_exact (by omega) hs _, ?_⟩
  refine Option.bind_eq_some_iff.2 ⟨_, fraction?_fractionChars hn (head?_zone zone), ?_⟩
  refine Option.bind_eq_some_iff.2 ⟨_, hoffset, ?_⟩
  refine Option.bind_eq_some_iff.2 ⟨_, hdate, ?_⟩
  refine Option.bind_eq_some_iff.2 ⟨_, hclock, ?_⟩
  exact minus?_zero t

theorem strict?_of_sign {sign : Char} (h : Double.isDigit sign = false) (cs : List Char) :
    strict? (sign :: cs) = none := by
  have hyear : number? 4 4 (sign :: cs) = none := by
    simp [number?, h]
  rw [strict?, hyear]
  rfl

/-- A year with a sign is not read in four digits. -/
theorem strict?_chars_eq_none (zone : Instant.Zone) {t : Instant} (h : ¬ HasShortYear t) :
    strict? (t.chars zone) = none := by
  have hsign : ∃ sign cs, Double.isDigit sign = false ∧ t.chars zone = sign :: cs := by
    simp only [Instant.chars, Date.chars, Date.writeYear]
    split
    · exact ⟨'-', _, by decide, rfl⟩
    · next hneg =>
      rw [if_pos (by simp only [HasShortYear] at h; omega)]
      exact ⟨'+', _, by decide, rfl⟩
  obtain ⟨sign, cs, hdigit, hchars⟩ := hsign
  rw [hchars]
  exact strict?_of_sign hdigit cs

/-! ### The other notations -/

/-- An instant with its zone is no instant without an offset. -/
theorem naive?_chars (zone : Instant.Zone) (t : Instant) : naive? (t.chars zone) = none := by
  obtain ⟨hour, minute, second, nano, ⟨hh, hm, hs, hn⟩, hclock, hchars⟩ := exists_chars_eq zone t
  rw [hchars, naive?, date?_chars]
  simp only [Option.bind_eq_bind, Option.bind_some, mark?, if_true]
  rw [clock?_chars .beforeNumbers hh hm hs hn hclock (head?_zone zone), Option.bind_some]
  -- the zone is left over
  cases zone <;> rfl

theorem day?_chars (zone : Instant.Zone) (t : Instant) : day? (t.chars zone) = none := by
  obtain ⟨hour, minute, second, nano, -, -, hchars⟩ := exists_chars_eq zone t
  rw [hchars, day?, date?_chars]
  rfl

theorem writeYear_eq_cons (year : Int) :
    ∃ c cs, Date.writeYear year = c :: cs ∧ Text.isBlank c = false := by
  obtain ⟨c, cs, hp, hc⟩ := Date.padded_eq_cons 4 year.natAbs (by omega)
  unfold Date.writeYear
  split
  · exact ⟨'-', _, rfl, by decide⟩
  · split
    · exact ⟨'+', _, rfl, by decide⟩
    · exact ⟨c, cs, hp, Text.isBlank_of_isDigit hc⟩

theorem trim_write (zone : Instant.Zone) (t : Instant) :
    Text.trim (t.write zone) = t.write zone := by
  obtain ⟨c, cs, hyear, hc⟩ := writeYear_eq_cons t.date.year
  refine Text.trim_ofList ?_ ?_
  · simp only [Instant.chars, Date.chars, hyear, List.cons_append, List.head?_cons]
    rintro _ ⟨⟩
    exact hc
  · -- the zone comes last
    rw [Instant.chars, List.getLast?_append]
    cases zone <;> simp [Instant.Zone.chars, Text.isBlank]

/-- The text of an instant **denotes it just when its year has four digits**, and denotes nothing
otherwise. -/
theorem instantOf?_write (zone : Instant.Zone) (t : Instant) :
    instantOf? (t.write zone) = if HasShortYear t then some t else none := by
  rw [instantOf?, trim_write, Instant.write, String.toList_ofList, naive?_chars, day?_chars]
  split
  · next h => rw [strict?_chars zone h]; rfl
  · next h => rw [strict?_chars_eq_none zone h]; rfl

end Audience.Calendar
