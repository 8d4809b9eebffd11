import Audience.Double.Basic

/-!
**Doubles that are not finite**: not-a-number and the two infinities.

Main results:

* `Double.eq_nan_or_infinity` — there are no others;
* `Double.exists_compare?` — only not-a-number compares with nothing;
* `Double.compare?_infinity_ne_gt`, `Double.compare?_infinity_ne_lt` — no double lies **beyond an
  infinity**.
-/

set_option relaxedAutoImplicit false
set_option autoImplicit false

namespace Audience.Double

/-- A double that is not finite is not-a-number or an infinity. -/
theorem eq_nan_or_infinity {x : Double} (h : x.isFinite = false) :
    x = nan ∨ x = infinity true ∨ x = infinity false := by
  cases x with
  | nan => exact .inl rfl
  | signed negative rank =>
      have hrank : rank = Fin.last top := by
        have := of_decide_eq_false h
        exact Fin.ext (by have := rank.isLt; simp only [Fin.val_last]; omega)
      subst hrank
      cases negative
      · exact .inr (.inr rfl)
      · exact .inr (.inl rfl)

/-- Doubles other than not-a-number have an ordering. -/
theorem exists_compare? {x y : Double} (hx : x.isNaN = false) (hy : y.isNaN = false) :
    ∃ ordering, x.compare? y = some ordering := by
  cases x with
  | nan => simp at hx
  | signed negative rank => cases y with
    | nan => simp at hy
    | signed negative' rank' => exact ⟨_, rfl⟩

theorem place_le_top (negative : Bool) (rank : Fin (top + 1)) :
    -(top : Int) ≤ place negative rank ∧ place negative rank ≤ (top : Int) := by
  have := rank.isLt
  unfold place
  split <;> omega

/-- Nothing is above positive infinity. -/
theorem compare?_infinity_ne_gt (x : Double) : compare? x (infinity false) ≠ some .gt := by
  cases x with
  | nan => nofun
  | signed negative rank =>
      intro h
      have habove : (top : Int) < place negative rank :=
        Int.compare_eq_gt.1 (Option.some.inj h)
      exact absurd habove (Int.not_lt.2 (place_le_top negative rank).2)

/-- **Nothing is below** negative infinity. -/
theorem compare?_infinity_ne_lt (x : Double) : compare? x (infinity true) ≠ some .lt := by
  cases x with
  | nan => nofun
  | signed negative rank =>
      intro h
      have hbelow : place negative rank < -(top : Int) :=
        Int.compare_eq_lt.1 (Option.some.inj h)
      exact absurd hbelow (Int.not_lt.2 (place_le_top negative rank).1)

end Audience.Double
