import Audience.Calendar.Instant

/-!
**The order of time** is linear.

Days are compared by year, month and day, and instants by day, second and nanosecond.  Both
orderings are total orders in which only equal values compare as equal.

Main results:

* the instances `Std.TransCmp` and `Std.LawfulEqCmp` of `Date.compare` and `Instant.compare`;
* `Instant.compare_swap` — comparing the other way round turns the ordering round;
* `Instant.eq_of_isLE` — **instants that are not after one another are equal**.
-/

set_option relaxedAutoImplicit false
set_option autoImplicit false

namespace Audience

/-! ### Days -/

namespace Date

instance : Std.TransCmp Date.compare :=
  inferInstanceAs (Std.TransCmp (compareLex (compareOn Date.year)
    (compareLex (compareOn Date.month) (compareOn Date.day))))

instance : Std.LawfulEqCmp Date.compare where
  eq_of_compare {a b} h := by
    obtain ⟨year, month, day, hv⟩ := a
    obtain ⟨year', month', day', hv'⟩ := b
    obtain ⟨hy, hm, hd⟩ : year = year' ∧ month = month' ∧ day = day' := by
      simpa [Date.compare, Ordering.then_eq_eq, Std.LawfulEqOrd.compare_eq_iff_eq] using h
    subst hy hm hd
    rfl

end Date

/-! ### Instants -/

namespace Instant

instance : Std.TransCmp (fun a b : Instant => a.date.compare b.date) where
  eq_swap := Std.OrientedCmp.eq_swap
  isLE_trans := Std.TransCmp.isLE_trans

instance : Std.TransCmp Instant.compare :=
  inferInstanceAs (Std.TransCmp (compareLex (fun a b : Instant => a.date.compare b.date)
    (compareLex (compareOn Instant.second) (compareOn Instant.nano))))

instance : Std.LawfulEqCmp Instant.compare where
  eq_of_compare {a b} h := by
    obtain ⟨date, second, nano, hs, hn⟩ := a
    obtain ⟨date', second', nano', hs', hn'⟩ := b
    obtain ⟨hd, hsec, hnano⟩ : date = date' ∧ second = second' ∧ nano = nano' := by
      simpa [Instant.compare, Ordering.then_eq_eq, Std.LawfulEqOrd.compare_eq_iff_eq,
        Std.LawfulEqCmp.compare_eq_iff_eq] using h
    subst hd hsec hnano
    rfl

theorem compare_swap (a b : Instant) : (a.compare b).swap = b.compare a :=
  Std.OrientedCmp.eq_swap.symm

/-- **Instants that are not after one another are equal**. -/
theorem eq_of_isLE {a b : Instant} (hab : (a.compare b).isLE = true)
    (hba : (b.compare a).isLE = true) : a = b :=
  Std.LawfulEqCmp.eq_of_compare (Std.OrientedCmp.isLE_antisymm hab hba)

end Instant

end Audience
