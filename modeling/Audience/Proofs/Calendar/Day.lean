import Audience.Proofs.Calendar.Order
import Audience.Proofs.Calendar.Strict

/-!
**The text of a day is read back** as the midnight at its start.

A text with a date may have three notations, and the text of a day has one only: where the year has
four digits the time of day is missing, a year with a sign is not looked for in the strict notation,
and what has no time of day is no instant without an offset either.  This is so of every day there
is, also of those whose years have a sign or more than four digits.  Midnights are ordered as their
days.

Main results:

* `Calendar.instantOf?_day` — the text of a day denotes the midnight at its start;
* `Instant.compare_midnight` — midnights are in **the order of their days**.
-/

set_option relaxedAutoImplicit false
set_option autoImplicit false

namespace Audience

namespace Calendar

/-- A day with a year in four digits has no time of day. -/
theorem strict?_day_of_hasShortYear {d : Date} (h : HasShortYear (.midnight d)) :
    strict? d.chars = none := by
  have hyear : d.year.natAbs < 10000 := by
    have hlow : 0 ≤ d.year := h.1
    have hhigh : d.year ≤ 9999 := h.2
    omega
  have hchars : d.chars = Date.padded 4 d.year.natAbs
      ++ '-' :: (Date.padded 2 d.month ++ '-' :: (Date.padded 2 d.day ++ [])) := by
    have hwritten : Date.writeYear d.year = Date.padded 4 d.year.natAbs :=
      writeYear_of_hasShortYear h
    simp [Date.chars, hwritten]
  have onward {α β : Type} {part? : Option α} {a : α} {rest? : α → Option β}
      (hpart : part? = some a) (hrest : rest? a = none) : part?.bind rest? = none := by
    rw [hpart, Option.bind_some, hrest]
  rw [hchars]
  -- the parts are read one after another, each up to the mark after it
  refine onward (number?_exact (by omega) hyear _) ?_
  refine onward rfl ?_
  refine onward (number?_exact (by omega) (month_lt d) _) ?_
  refine onward rfl ?_
  refine onward (number?_exact (by omega) (day_lt d) _) ?_
  -- nothing is left for the mark before a time of day
  rfl

theorem strict?_day_of_sign {d : Date} (h : ¬ HasShortYear (.midnight d)) :
    strict? d.chars = none := by
  simp only [HasShortYear, Instant.midnight] at h
  rw [Date.chars, Date.writeYear]
  split
  · exact strict?_of_sign (by decide) _
  · rw [if_pos (by omega)]
    exact strict?_of_sign (by decide) _

theorem naive?_day (d : Date) : naive? d.chars = none := by
  have hdate := date?_chars .beforeNumbers d []
  rw [List.append_nil] at hdate
  rw [naive?, hdate]
  rfl

theorem day?_day (d : Date) : day? d.chars = some d := by
  have hdate := date?_chars .beforeNumbers d []
  rw [List.append_nil] at hdate
  rw [day?, hdate]
  rfl

/-- There are no blanks at the ends of the text of a day. -/
theorem trim_day (d : Date) : Text.trim d.write = d.write := by
  obtain ⟨c, cs, hyear, hc⟩ := writeYear_eq_cons d.year
  refine Text.trim_ofList ?_ ?_
  · intro first hfirst
    simp only [Date.chars, hyear, List.cons_append, List.head?_cons, Option.mem_some_iff] at hfirst
    rw [← hfirst]
    exact hc
  · intro last hlast
    -- the day of the month comes last
    obtain ⟨digit, hdigit⟩ : ∃ digit, (Date.padded 2 d.day).getLast? = some digit := by
      obtain ⟨c, cs, hp, -⟩ := Date.padded_eq_cons 2 d.day (by omega)
      exact ⟨_, by rw [hp]; exact List.getLast?_eq_some_getLast (List.cons_ne_nil c cs)⟩
    have hchars : d.chars = (Date.writeYear d.year ++ '-' :: Date.padded 2 d.month ++ ['-'])
        ++ Date.padded 2 d.day := by
      simp [Date.chars]
    rw [hchars, List.getLast?_append, hdigit, Option.some_or, Option.mem_some_iff] at hlast
    have hmem : last ∈ Date.padded 2 d.day := by
      rw [← hlast]
      exact List.mem_of_getLast? hdigit
    exact Text.isBlank_of_isDigit (Date.isDigit_of_mem_padded hmem)

/-- The text of a day denotes the midnight at its start. -/
theorem instantOf?_day (d : Date) : instantOf? d.write = some (.midnight d) := by
  have hstrict : strict? d.chars = none := by
    by_cases h : HasShortYear (.midnight d)
    · exact strict?_day_of_hasShortYear h
    · exact strict?_day_of_sign h
  rw [instantOf?, trim_day, Date.write, String.toList_ofList, hstrict, naive?_day, day?_day]
  rfl

end Calendar

theorem Instant.compare_midnight (a b : Date) :
    (midnight a).compare (midnight b) = a.compare b := by
  simp [Instant.compare, midnight]

end Audience
