import Audience.Proofs.Calendar.Digits

/-!
**The text of an instant is read back** as that instant.

An instant is written with every part in its full width, so the reader that allows blanks between
the parts finds none, and each number ends where the mark after it stands.

Main results:

* `Calendar.year?_writeYear`, `Calendar.date?_chars` — years and dates are read back;
* `Calendar.fraction?_fractionChars`, `Calendar.clock?_chars` — so are fractions of a second and
  times of day;
* `Calendar.lenient?_chars` — **instants are read back**, however their zone is written.
-/

set_option relaxedAutoImplicit false
set_option autoImplicit false

namespace Audience.Calendar

/-! ### Years -/

theorem year?_of_isDigit {c : Char} (hc : Double.isDigit c = true) (cs : List Char) :
    year? (c :: cs) = (number? 1 4 (c :: cs)).map fun (n, rest) => ((n : Int), rest) := by
  rw [year?, Text.trimStart_cons (Text.isBlank_of_isDigit hc)]
  split
  · next h =>
    rw [List.cons.injEq] at h
    rw [h.1] at hc
    exact absurd hc (by decide)
  · next h =>
    rw [List.cons.injEq] at h
    rw [h.1] at hc
    exact absurd hc (by decide)
  · rfl

theorem number?_padded_whole (width n : Nat) (hw : 0 < width) {rest : List Char}
    (hr : ∀ c ∈ rest.head?, Double.isDigit c = false) :
    number? 1 (Date.padded width n ++ rest).length (Date.padded width n ++ rest)
      = some (n, rest) :=
  number?_padded (by omega) (by simp) (Or.inr hr)

/-- Years are read back up to a text that starts with no digit. -/
theorem year?_writeYear (year : Int) {rest : List Char}
    (hr : ∀ c ∈ rest.head?, Double.isDigit c = false) :
    year? (Date.writeYear year ++ rest) = some (year, rest) := by
  have hn := number?_padded_whole 4 year.natAbs (by omega) hr
  unfold Date.writeYear
  split
  · next hneg =>
    rw [List.cons_append, year?, Text.trimStart_cons (by decide)]
    simp only [hn, Option.map_some]
    rw [show -(year.natAbs : Int) = year by omega]
  · split
    · next hneg hbig =>
      rw [List.cons_append, year?, Text.trimStart_cons (by decide)]
      simp only [hn, Option.map_some]
      rw [show (year.natAbs : Int) = year by omega]
    · next hneg hbig =>
      -- without a sign, no more than four digits are read
      have hyear : year.natAbs < 10000 := by omega
      have hl : (Date.padded 4 year.natAbs).length = 4 := Date.length_padded 4 hyear (by omega)
      obtain ⟨c, cs, hp, hc⟩ := Date.padded_eq_cons 4 year.natAbs (by omega)
      rw [hp, List.cons_append, year?_of_isDigit hc, ← List.cons_append, ← hp,
        number?_padded (by omega) (Nat.le_of_eq hl) (Or.inl hl)]
      simp only [Option.map_some]
      rw [show (year.natAbs : Int) = year by omega]

/-! ### Dates -/

theorem monthLength_le (year : Int) (month : Nat) : Date.monthLength year month ≤ 31 := by
  unfold Date.monthLength
  split
  · split <;> omega
  all_goals omega

theorem month_lt (d : Date) : d.month < 100 := by
  have hv := d.valid
  simp only [Date.exists?, Bool.and_eq_true, decide_eq_true_eq] at hv
  omega

theorem day_lt (d : Date) : d.day < 100 := by
  have hv := d.valid
  have hm := monthLength_le d.year d.month
  simp only [Date.exists?, Bool.and_eq_true, decide_eq_true_eq] at hv
  omega

theorem mark?_cons (spacing : Spacing) {mark : Char} (h : Text.isBlank mark = false)
    (rest : List Char) : spacing.mark? mark (mark :: rest) = some rest := by
  cases spacing <;> simp [Spacing.mark?, Calendar.mark?, Text.trimStart_cons h]

/-- Dates are read back. -/
theorem date?_chars (spacing : Spacing) (d : Date) (rest : List Char) :
    spacing.date? (d.chars ++ rest) = some (d, rest) := by
  have hdash := mark?_cons spacing (show Text.isBlank '-' = false by decide)
  have hy : year? (Date.writeYear d.year ++ '-' :: (Date.padded 2 d.month
      ++ '-' :: (Date.padded 2 d.day ++ rest)))
      = some (d.year, '-' :: (Date.padded 2 d.month ++ '-' :: (Date.padded 2 d.day ++ rest))) :=
    year?_writeYear d.year (by simp [Double.isDigit])
  have hm := pair?_padded (month_lt d) ('-' :: (Date.padded 2 d.day ++ rest))
  have hd := pair?_padded (day_lt d) rest
  simp only [Spacing.date?, Date.chars, List.append_assoc, List.cons_append, hy, hm, hd, hdash,
    Date.ofParts?_parts, Option.bind_eq_bind, Option.bind_some]

/-! ### Times of day -/

/-- Digits after a point are read back as that part of a second. -/
theorem fraction?_point {width n : Nat} (hw : 0 < width) (hw9 : width ≤ 9)
    (hn : n < Nat.pow 10 width) {rest : List Char} (hr : ∀ c ∈ rest.head?, Double.isDigit c = false) :
    fraction? ('.' :: (Date.padded width n ++ rest)) = some (n * Nat.pow 10 (9 - width), rest) := by
  have hl := Date.length_padded width hn hw
  have hd : ∀ d ∈ Date.padded width n, Double.isDigit d = true :=
    fun d => Date.isDigit_of_mem_padded
  have htake : ((Date.padded width n ++ rest).take 9).takeWhile Double.isDigit
      = Date.padded width n := takeWhile_take_append hd (by omega) (Or.inr hr)
  have hdrop : (Date.padded width n ++ rest).dropWhile Double.isDigit = rest := by
    rw [List.dropWhile_append_of_pos hd]
    cases rest with
    | nil => rfl
    | cons c cs => rw [List.dropWhile_cons_of_neg (by simp [hr c rfl])]
  have hne : (Date.padded width n).isEmpty = false := by
    rw [List.isEmpty_eq_false_iff, ← List.length_pos_iff]
    omega
  simp only [fraction?, htake, hne, hdrop, hl, Date.natOfDigits_padded]
  rfl

/-- Fractions of a second are read back up to a text that starts with no digit or point. -/
theorem fraction?_fractionChars {nano : Nat} (h : nano < 1000000000) {rest : List Char}
    (hr : ∀ c ∈ rest.head?, Double.isDigit c = false ∧ c ≠ '.') :
    fraction? (Instant.fractionChars nano ++ rest) = some (nano, rest) := by
  have hr' : ∀ c ∈ rest.head?, Double.isDigit c = false := fun c hc => (hr c hc).1
  unfold Instant.fractionChars
  split
  · next h0 =>
    cases rest with
    | nil => rw [h0]; rfl
    | cons c cs =>
        -- what follows is not taken for a fraction
        rw [List.nil_append, fraction?, h0]
        intro cs' hcs
        rw [List.cons.injEq] at hcs
        exact (hr c rfl).2 hcs.1
  -- three digits, six or nine, with no more than the fraction needs
  · split
    · have hn : nano / 1000000 < 1000 := by omega
      have hwhole : nano / 1000000 * 1000000 = nano := by omega
      rw [List.cons_append, fraction?_point (by omega) (by omega) hn hr']
      exact congrArg (fun nanos => some (nanos, rest)) hwhole
    · split
      · have hn : nano / 1000 < 1000000 := by omega
        have hwhole : nano / 1000 * 1000 = nano := by omega
        rw [List.cons_append, fraction?_point (by omega) (by omega) hn hr']
        exact congrArg (fun nanos => some (nanos, rest)) hwhole
      · rw [List.cons_append, fraction?_point (by omega) (by omega) h hr']
        exact congrArg (fun nanos => some (nanos, rest)) (Nat.mul_one nano)

/-- The second sixty of a minute stands for a leap second. -/
def leap (t : Instant) : Nat := if t.nano < 1000000000 then 0 else 1

theorem ofClock?_parts (t : Instant) :
    Instant.ofClock? t.date (t.second / 3600) (t.second / 60 % 60) (t.second % 60 + leap t)
      (t.nano - leap t * 1000000000) = some t := by
  have hs := t.second_lt
  have hn := t.nano_lt
  obtain ⟨date, second, nano, hs', hn'⟩ := t
  simp only [leap] at *
  by_cases hl : nano < 1000000000
  · rw [if_pos hl, Instant.ofClock?, dif_pos (by omega)]
    simp only [Option.some.injEq, Instant.mk.injEq]
    exact ⟨trivial, by omega, by omega⟩
  · rw [if_neg hl, Instant.ofClock?, dif_neg (by omega), dif_pos (by omega)]
    simp only [Option.some.injEq, Instant.mk.injEq]
    exact ⟨trivial, by omega, by omega⟩

theorem leap_le (t : Instant) : leap t ≤ 1 := by
  unfold leap
  split <;> omega

theorem fraction_lt (t : Instant) : t.nano - leap t * 1000000000 < 1000000000 := by
  have hn := t.nano_lt
  unfold leap
  split <;> omega

/-- Times of day are read back up to a text that starts with no digit or point. -/
theorem clock?_chars (spacing : Spacing) {t : Instant} {hour minute second nano : Nat}
    (hh : hour < 100) (hm : minute < 100) (hs : second < 100) (hn : nano < 1000000000)
    (hclock : Instant.ofClock? t.date hour minute second nano = some t) {rest : List Char}
    (hr : ∀ c ∈ rest.head?, Double.isDigit c = false ∧ c ≠ '.') :
    spacing.clock? t.date
        (Date.padded 2 hour ++ ':' :: (Date.padded 2 minute ++ ':' :: (Date.padded 2 second
          ++ (Instant.fractionChars nano ++ rest))))
      = some (t, rest) := by
  have hcolon := mark?_cons spacing (show Text.isBlank ':' = false by decide)
  have hf := fraction?_fractionChars hn hr
  simp only [Spacing.clock?, pair?_padded hh, pair?_padded hm, pair?_padded hs, hcolon, hf,
    Option.bind_eq_bind, Option.bind_some]
  rw [hclock]
  rfl

/-! ### Instants -/

theorem minus?_zero (t : Instant) : t.minus? 0 = some t := by
  have hs := t.second_lt
  have hm : ((t.second : Int) % 86400).toNat = t.second := by omega
  simp [Instant.minus?, hm, show ¬ (t.second : Int) < 0 by omega,
    show (t.second : Int) < 86400 by omega]

theorem bind_offset_zone {α : Type} (zone : Instant.Zone) (next : Int → Option α) :
    (match zoneName? (Text.trimStart zone.chars) with
      | some rest => (whole? ((), Text.trimStart rest)).bind fun _ => next 0
      | none => (offset? looseColon? (Text.trimStart zone.chars)).bind fun offset =>
        (whole? ((), Text.trimStart offset.2)).bind fun _ => next offset.1) = next 0 := by
  cases zone <;> rfl

theorem exists_chars_eq (zone : Instant.Zone) (t : Instant) :
    ∃ hour minute second nano,
      (hour < 100 ∧ minute < 100 ∧ second < 100 ∧ nano < 1000000000) ∧
      Instant.ofClock? t.date hour minute second nano = some t ∧
      t.chars zone = t.date.chars ++ 'T' :: (Date.padded 2 hour ++ ':' :: (Date.padded 2 minute
        ++ ':' :: (Date.padded 2 second ++ (Instant.fractionChars nano ++ zone.chars)))) := by
  have hs := t.second_lt
  have hl := leap_le t
  refine ⟨_, _, _, _, ⟨?_, ?_, ?_, fraction_lt t⟩, ofClock?_parts t, ?_⟩
  · omega
  · omega
  · omega
  · simp only [Instant.chars, leap, List.append_assoc, List.cons_append]

/-- **Instants are read back**, however their zone is written. -/
theorem lenient?_chars (zone : Instant.Zone) (t : Instant) :
    lenient? (t.chars zone) = some t := by
  obtain ⟨hour, minute, second, nano, ⟨hh, hm, hs, hn⟩, hclock, hchars⟩ := exists_chars_eq zone t
  have hz : ∀ c ∈ zone.chars.head?, Double.isDigit c = false ∧ c ≠ '.' := by
    cases zone <;> simp [Instant.Zone.chars, Double.isDigit]
  rw [hchars, lenient?, date?_chars]
  simp only [Option.bind_eq_bind, Option.bind_some, separator?]
  rw [clock?_chars .everywhere hh hm hs hn hclock hz, Option.bind_some]
  exact (bind_offset_zone zone t.minus?).trans (minus?_zero t)

end Audience.Calendar
