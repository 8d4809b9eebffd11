import Audience.Proofs.Double.Units

/-!
**Shortest decimals lie in the basin of their double**.

The search for the shortest decimal goes through ever finer grids and takes a point in the basin of
the double from the first grid that has one.  It finds one at the latest on a grid that the double
itself lies on, which is there for every double, since a unit is a decimal fraction.

Main definitions:

* `Double.Basin.holds` — does a decimal lie in a basin?

Main results:

* `Double.Basin.contains_of_nearestOn` — the point found on a grid lies in the basin;
* `Double.nearestOn_eq_some` — on a grid with the double on it the point found is the double
  itself;
* `Double.Basin.nearestOn_search` — the search stops no later than at a grid with a point in the
  basin;
* `Double.holds_shortest` — **the shortest decimal lies in the basin of its double**.
-/

set_option relaxedAutoImplicit false
set_option autoImplicit false

namespace Audience.Double

/-! ### Grids -/

theorem gridStep_of_nonneg {exponent : Int} (h : 0 ≤ exponent) :
    gridStep exponent = (10 ^ exponent.toNat * (2 * unitsPerOne), 1) := by
  unfold gridStep
  rw [if_pos h, Nat.pow_eq]

theorem gridStep_of_neg {exponent : Int} (h : exponent < 0) :
    gridStep exponent = (2 * unitsPerOne, 10 ^ (-exponent).toNat) := by
  unfold gridStep
  rw [if_neg (by omega), Nat.pow_eq]

theorem gridStep_pos (exponent : Int) : 0 < (gridStep exponent).1 ∧ 0 < (gridStep exponent).2 := by
  have hone := unitsPerOne_pos
  by_cases h : 0 ≤ exponent
  · rw [gridStep_of_nonneg h]
    exact ⟨Nat.mul_pos (Nat.pow_pos (by decide)) (by omega), Nat.one_pos⟩
  · rw [gridStep_of_neg (Int.not_le.1 h)]
    exact ⟨by dsimp only; omega, Nat.pow_pos (by decide)⟩

/-- Does a decimal **lie in a basin**? -/
def Basin.holds (b : Basin) (d : Decimal) : Bool :=
  b.contains (d.digits * (gridStep d.exponent).1) (gridStep d.exponent).2

/-! ### Points in a basin -/

theorem contains_centre {r den : Nat} (hr : 0 < r) (hden : 0 < den) :
    (basin r).contains ((basin r).centre * den) den = true := by
  obtain ⟨k, rfl⟩ : ∃ k, r = k + 1 := ⟨r - 1, by omega⟩
  have hlow : units k * den < units (k + 1) * den :=
    Nat.mul_lt_mul_of_pos_right (units_lt_units_succ k) hden
  have hhigh : units (k + 1) * den < units (k + 1 + 1) * den :=
    Nat.mul_lt_mul_of_pos_right (units_lt_units_succ (k + 1)) hden
  have hcentre : (basin (k + 1)).centre * den = units (k + 1) * den + units (k + 1) * den := by
    rw [basin, Nat.mul_assoc, Nat.two_mul]
  rw [basin_contains_iff, hcentre, Nat.add_sub_cancel]
  exact ⟨.inl (by omega), .inl (by omega)⟩

/-- The point found on a grid lies in the basin. -/
theorem Basin.contains_of_nearestOn {b : Basin} {tie : Tie} {exponent : Int} {n : Nat}
    (h : b.nearestOn tie exponent = some n) : b.holds ⟨n, exponent⟩ = true := by
  unfold Basin.nearestOn at h
  unfold Basin.holds
  dsimp only at h ⊢
  split at h
  · next hboth =>
    obtain ⟨hbelow, habove⟩ := Bool.and_eq_true_iff.1 hboth
    obtain rfl := Option.some.inj h
    split
    · exact habove
    · exact hbelow
  · split at h
    · next hbelow =>
      obtain rfl := Option.some.inj h
      exact hbelow
    · split at h
      · next habove =>
        obtain rfl := Option.some.inj h
        exact habove
      · cases h

/-- On a grid with the double on it the point found is the double itself. -/
theorem nearestOn_eq_some {r n : Nat} {exponent : Int} (tie : Tie) (hr : 0 < r)
    (h : n * (gridStep exponent).1 = (basin r).centre * (gridStep exponent).2) :
    (basin r).nearestOn tie exponent = some n := by
  obtain ⟨hstep, hden⟩ := gridStep_pos exponent
  unfold Basin.nearestOn
  generalize gridStep exponent = grid at h hstep hden
  obtain ⟨step, den⟩ := grid
  have hbelow : (basin r).contains (n * step) den = true := by
    rw [h]
    exact contains_centre hr hden
  dsimp only at h hstep ⊢
  rw [← h, Nat.mul_div_cancel n hstep, hbelow, Bool.true_and]
  split
  · -- the next point is a whole step further
    rw [if_neg]
    have hmiddle : 2 * (n * step) < (2 * n + 1) * step := by
      rw [Nat.succ_mul (2 * n), Nat.mul_assoc]
      omega
    simp only [Bool.or_eq_true, Bool.and_eq_true, decide_eq_true_eq, beq_iff_eq]
    omega
  · rw [if_pos rfl]

/-! ### The search -/

/-- The search stops no later than at a grid with a point in the basin. -/
theorem Basin.nearestOn_search {b : Basin} {tie : Tie} {steps k : Nat} {start : Int}
    (hk : k < steps) (h : (b.nearestOn tie (start - k)).isSome = true) :
    start - k ≤ (b.search tie steps start).exponent ∧
      b.nearestOn tie (b.search tie steps start).exponent
        = some (b.search tie steps start).digits := by
  induction steps generalizing start k with
  | zero => exact absurd hk (Nat.not_lt_zero k)
  | succ steps ih =>
      rw [search]
      cases hfirst : b.nearestOn tie start with
      | some n => exact ⟨by dsimp only; omega, hfirst⟩
      | none =>
          cases k with
          | zero => simp [hfirst] at h
          | succ k =>
              have hshift : start - (k + 1 : Nat) = start - 1 - k := by omega
              rw [hshift] at h ⊢
              exact ih (Nat.lt_of_succ_lt_succ hk) h

/-- The shortest decimal of a double is no finer than a grid with the double on it. -/
theorem shortest_of_grid {r n : Nat} (tie : Tie) (exponent : Int) (hr : 0 < r)
    (hleast : -1074 ≤ exponent) (hmost : exponent ≤ tenthPowerAbove (units r))
    (h : n * (gridStep exponent).1 = (basin r).centre * (gridStep exponent).2) :
    exponent ≤ (shortest tie r).exponent ∧ (basin r).holds (shortest tie r) = true := by
  have hshift : tenthPowerAbove (units r) - (tenthPowerAbove (units r) - exponent).toNat
      = exponent := by omega
  have hgrid : ((basin r).nearestOn tie (tenthPowerAbove (units r)
      - (tenthPowerAbove (units r) - exponent).toNat)).isSome = true := by
    rw [hshift, nearestOn_eq_some tie hr h]
    rfl
  have hsteps : (tenthPowerAbove (units r) - exponent).toNat
      < (tenthPowerAbove (units r) + 1075).toNat := by omega
  obtain ⟨hle, hfound⟩ := Basin.nearestOn_search hsteps hgrid
  rw [hshift] at hle
  exact ⟨hle, Basin.contains_of_nearestOn hfound⟩

theorem le_tenthPowerAbove (n : Nat) : -323 ≤ tenthPowerAbove n := by
  unfold tenthPowerAbove
  omega

/-- **The shortest decimal lies in the basin of its double.** -/
theorem holds_shortest (tie : Tie) {r : Nat} (hr : 0 < r) :
    (basin r).holds (shortest tie r) = true := by
  obtain ⟨unit, hone, hunit⟩ := exists_unitsPerOne
  have hstart := le_tenthPowerAbove (units r)
  refine (shortest_of_grid (n := units r * 5 ^ unit) tie (-(unit : Int)) hr (by omega) (by omega)
    ?_).2
  -- a unit is a power of five on this grid
  have hten : (10 : Nat) ^ unit = 5 ^ unit * 2 ^ unit := Nat.mul_pow 5 2 unit
  rw [gridStep_of_neg (by omega), Int.neg_neg, Int.toNat_natCast, hone, hten, basin]
  dsimp only
  rw [Nat.mul_assoc, Nat.mul_assoc, Nat.mul_left_comm (5 ^ unit), Nat.mul_left_comm (units r)]

end Audience.Double
