import Audience.Proofs.Calendar.Order

/-!
**The latest of a list of days**.

The days of a list are gone through from the left, and the later one of two is kept.  What is left
in the end is a day of the list that no other day of the list is after.  There is only one such
day, so the order in which the days are listed does not matter.

Main definitions:

* `Date.IsLatest` — a day of a list that **no other one is after**.

Main results:

* `Date.latest?_eq_some_iff`, `Date.latest?_eq_none_iff` — the latest day of a list is found,
  unless the list is empty;
* `Date.latest?_perm` — it does **not depend on the order** of the list.
-/

set_option relaxedAutoImplicit false
set_option autoImplicit false

namespace Audience.Date

variable {dates dates' : List Date} {a b d : Date}

/-- A day of a list that **no other day of the list is after**. -/
structure IsLatest (dates : List Date) (d : Date) : Prop where
  /-- The day is in the list. -/
  mem : d ∈ dates
  /-- No day of the list is after it. -/
  isLE : ∀ other ∈ dates, (other.compare d).isLE = true

theorem isLE_self (d : Date) : (d.compare d).isLE = true := by
  have heq : d.compare d = .eq := Std.ReflCmp.compare_self
  rw [heq]
  rfl

theorem IsLatest.unique (ha : IsLatest dates a) (hb : IsLatest dates b) : a = b :=
  Std.LawfulEqCmp.eq_of_compare
    (Std.OrientedCmp.isLE_antisymm (hb.isLE a ha.mem) (ha.isLE b hb.mem))

theorem exists_later? (a b : Date) :
    ∃ m, later? (some a) (some b) = some m ∧ (m = a ∨ m = b) ∧
      (a.compare m).isLE = true ∧ (b.compare m).isLE = true := by
  have hswap : b.compare a = (a.compare b).swap := Std.OrientedCmp.eq_swap
  by_cases hgt : a.compare b = .gt
  · refine ⟨a, ?_, .inl rfl, isLE_self a, ?_⟩
    · simp [later?, hgt]
    · rw [hswap, hgt]
      rfl
  · refine ⟨b, ?_, .inr rfl, Ordering.isLE_iff_ne_gt.2 hgt, isLE_self b⟩
    simp [later?, hgt]

theorem IsLatest.of_later {m : Date} (hm : m = a ∨ m = b) (ha : (a.compare m).isLE = true)
    (hb : (b.compare m).isLE = true) (h : IsLatest (m :: dates) d) :
    IsLatest (a :: b :: dates) d := by
  have hmd := h.isLE m List.mem_cons_self
  constructor
  · rcases List.mem_cons.1 h.mem with rfl | hd
    · rcases hm with rfl | rfl <;> simp
    · simp [hd]
  · intro other hother
    rcases List.mem_cons.1 hother with rfl | hother
    · exact Std.TransCmp.isLE_trans ha hmd
    rcases List.mem_cons.1 hother with rfl | hother
    · exact Std.TransCmp.isLE_trans hb hmd
    · exact h.isLE other (List.mem_cons_of_mem m hother)

theorem exists_foldl_later? (d : Date) (dates : List Date) :
    ∃ latest, dates.foldl (fun latest date => later? latest (some date)) (some d) = some latest ∧
      IsLatest (d :: dates) latest := by
  induction dates generalizing d with
  | nil =>
      refine ⟨d, rfl, List.mem_cons_self, ?_⟩
      intro other hother
      rw [List.mem_singleton.1 hother]
      exact isLE_self d
  | cons date dates ih =>
      obtain ⟨m, hlater, hm, hd, hdate⟩ := exists_later? d date
      obtain ⟨latest, hfold, hlatest⟩ := ih m
      exact ⟨latest, by rw [List.foldl_cons, hlater, hfold], hlatest.of_later hm hd hdate⟩

/-- Only an empty list has no latest day. -/
theorem latest?_eq_none_iff : latest? dates = none ↔ dates = [] := by
  cases dates with
  | nil => simp [latest?]
  | cons d dates =>
      obtain ⟨latest, hfold, -⟩ := exists_foldl_later? d dates
      have hsome : latest? (d :: dates) = some latest := hfold
      simp [hsome]

/-- The latest day is found. -/
theorem latest?_eq_some_iff : latest? dates = some d ↔ IsLatest dates d := by
  cases dates with
  | nil =>
      constructor
      · intro h
        cases h
      · intro h
        exact absurd h.mem (List.not_mem_nil)
  | cons date dates =>
      obtain ⟨latest, hfold, hlatest⟩ := exists_foldl_later? date dates
      have hsome : latest? (date :: dates) = some latest := hfold
      rw [hsome, Option.some_inj]
      constructor
      · rintro rfl
        exact hlatest
      · intro h
        exact hlatest.unique h

theorem IsLatest.perm (h : dates.Perm dates') (hd : IsLatest dates d) : IsLatest dates' d where
  mem := h.mem_iff.1 hd.mem
  isLE other hother := hd.isLE other (h.mem_iff.2 hother)

/-- The latest day does **not depend on the order** of the list. -/
theorem latest?_perm (h : dates.Perm dates') : latest? dates = latest? dates' := by
  refine Option.ext fun d => ?_
  rw [latest?_eq_some_iff, latest?_eq_some_iff]
  exact ⟨IsLatest.perm h, IsLatest.perm h.symm⟩

end Audience.Date
