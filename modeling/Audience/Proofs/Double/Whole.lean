import Audience.Proofs.Double.Rounding
import Audience.Proofs.Double.Shortest

/-!
**Whole numbers among the doubles.**

The whole numbers up to `2 ^ 53` are doubles, so that no other whole number lies between the
midpoints to the neighbours of one of them.  The shortest decimal of such a number has no fraction,
because the grid of whole numbers has the number on it; so it is the number itself.

Main definitions:

* `Double.Decimal.denotes` — is a decimal a certain whole number?

Main results:

* `Double.exists_units_eq_mul_pow`, `Double.exists_units_eq` — whole numbers up to `2 ^ 53` are
  doubles, and so are their multiples by a power of two;
* `Double.denotes_shortest` — their shortest decimals **are these numbers** again.
-/

set_option relaxedAutoImplicit false
set_option autoImplicit false

namespace Audience.Double

/-! ### Doubles that are whole numbers -/

/-- Whole numbers up to `2 ^ 53`, counted in units or in a multiple of them by a power of two, are
doubles. -/
theorem exists_units_eq_mul_pow {n e : Nat} (h : n ≤ 2 ^ 53) (he : e ≤ 2044) :
    ∃ r, r < top ∧ units r = n * 2 ^ e := by
  have hsmall : n * 2 ^ e < 2 ^ (e + 1 + 53) := by
    rw [show e + 1 + 53 = 54 + e by omega, Nat.pow_add 2 54]
    exact Nat.mul_lt_mul_of_pos_right (Nat.lt_of_le_of_lt h (by decide)) (Nat.two_pow_pos e)
  have htop : floorRank (n * 2 ^ e) < top := by
    have hrank := floorRank_lt hsmall
    have hmost : (e + 1 + 2) * stride ≤ top :=
      Nat.le_trans (Nat.mul_le_mul_right stride (show e + 1 + 2 ≤ 2047 by omega)) (by decide)
    exact Nat.lt_of_lt_of_le hrank hmost
  refine ⟨floorRank (n * 2 ^ e), htop, ?_⟩
  rcases Nat.lt_or_ge (n * 2 ^ e) stride with hlow | hhigh
  · rw [floorRank, if_pos hlow, units_of_le (Nat.le_of_lt hlow)]
  obtain ⟨step, m, hm, hstep, hrank, hdiv⟩ := floorRank_of_stride hhigh
  rw [hrank, units_of_stride step (Nat.le_of_lt hm), ← hdiv]
  -- what is lost in the division are zeros
  have hzeros : 2 ^ step ∣ n * 2 ^ e := by
    rcases Nat.lt_or_eq_of_le h with hlt | rfl
    · have hlog : (n * 2 ^ e).log2 < 53 + e := by
        refine (Nat.log2_lt (by omega)).2 ?_
        rw [Nat.pow_add]
        exact Nat.mul_lt_mul_of_pos_right hlt (Nat.two_pow_pos e)
      exact Nat.dvd_mul_left_of_dvd (Nat.pow_dvd_pow 2 (by omega)) n
    · rw [← Nat.pow_add] at hstep ⊢
      rw [Nat.log2_two_pow] at hstep
      exact Nat.pow_dvd_pow 2 (by omega)
  exact Nat.div_mul_cancel hzeros

/-- Whole numbers up to `2 ^ 53` are doubles. -/
theorem exists_units_eq {n : Nat} (h : n ≤ 2 ^ 53) :
    ∃ r, r < top ∧ units r = n * unitsPerOne := by
  obtain ⟨unit, hone, hunit⟩ := exists_unitsPerOne
  rw [hone]
  exact exists_units_eq_mul_pow h (by omega)

theorem nearestRank_units {r : Nat} (hr : 0 < r) (htop : r < top) :
    (nearestRank (units r) 1).val = r := by
  refine nearestRank_eq_of_contains hr htop Nat.one_pos ?_
  have hcentre := contains_centre hr Nat.one_pos
  rwa [Nat.mul_one] at hcentre

/-! ### Their shortest decimals -/

/-- Is a decimal **a certain whole number**? -/
def Decimal.denotes (d : Decimal) (n : Nat) : Bool :=
  decide (0 ≤ d.exponent) && d.digits * 10 ^ d.exponent.toNat == n

theorem Decimal.denotes_iff {d : Decimal} {n : Nat} :
    d.denotes n = true ↔ 0 ≤ d.exponent ∧ d.digits * 10 ^ d.exponent.toNat = n := by
  simp [denotes]

/-- No other whole number lies in the basin of a whole number below `2 ^ 53`. -/
theorem eq_of_contains_whole {n k r : Nat} (h : n < 2 ^ 53) (hpos : 0 < n)
    (hr : units r = n * unitsPerOne)
    (hk : (basin r).contains (k * (2 * unitsPerOne)) 1 = true) : k = n := by
  have hone := unitsPerOne_pos
  obtain ⟨before, -, hbefore⟩ := exists_units_eq (n := n - 1) (by omega)
  obtain ⟨after, -, hafter⟩ := exists_units_eq (n := n + 1) (by omega)
  -- the neighbours of the double are no further away than those of the whole number
  have hlow : (n - 1) * unitsPerOne ≤ units (r - 1) := by
    rw [← hbefore]
    refine units_strictMono.monotone (Nat.le_sub_one_of_lt (units_strictMono.lt_iff_lt.1 ?_))
    rw [hbefore, hr]
    exact Nat.mul_lt_mul_of_pos_right (by omega) hone
  have hhigh : units (r + 1) ≤ (n + 1) * unitsPerOne := by
    rw [← hafter]
    refine units_strictMono.monotone (Nat.succ_le_of_lt (units_strictMono.lt_iff_lt.1 ?_))
    rw [hafter, hr]
    exact Nat.mul_lt_mul_of_pos_right (by omega) hone
  rw [basin_contains_iff, hr] at hk
  obtain ⟨habove, hbelow⟩ := hk
  have hleast : (2 * n - 1) * unitsPerOne ≤ 2 * k * unitsPerOne := by
    have hsum : (2 * n - 1) * unitsPerOne = (n - 1) * unitsPerOne + n * unitsPerOne := by
      rw [← Nat.add_mul]
      congr 1
      omega
    rw [Nat.mul_comm 2 k, Nat.mul_assoc]
    omega
  have hmost : 2 * k * unitsPerOne ≤ (2 * n + 1) * unitsPerOne := by
    have hsum : (2 * n + 1) * unitsPerOne = n * unitsPerOne + (n + 1) * unitsPerOne := by
      rw [← Nat.add_mul]
      congr 1
      omega
    rw [Nat.mul_comm 2 k, Nat.mul_assoc]
    omega
  have hge := Nat.le_of_mul_le_mul_right hleast hone
  have hle := Nat.le_of_mul_le_mul_right hmost hone
  omega

theorem tenthPowerAbove_nonneg {n : Nat} (hpos : 0 < n) :
    0 ≤ tenthPowerAbove (n * unitsPerOne) := by
  obtain ⟨unit, hone, hunit⟩ := exists_unitsPerOne
  have hlog : unit ≤ (n * unitsPerOne).log2 := by
    have hge : 2 ^ unit ≤ n * unitsPerOne := by
      rw [hone]
      exact Nat.le_mul_of_pos_left _ hpos
    have hne : n * unitsPerOne ≠ 0 := by
      have := Nat.two_pow_pos unit
      omega
    exact (Nat.le_log2 hne).2 hge
  unfold tenthPowerAbove
  omega

/-- The shortest decimal of a whole number up to `2 ^ 53` **is the number itself**. -/
theorem denotes_shortest (tie : Tie) {n : Nat} (hpos : 0 < n) (h : n ≤ 2 ^ 53) :
    (shortest tie (nearestRank (n * unitsPerOne) 1).val).denotes n = true := by
  rcases Nat.lt_or_eq_of_le h with hlt | rfl
  · obtain ⟨r, htop, hr⟩ := exists_units_eq h
    have hone := unitsPerOne_pos
    have hrpos : 0 < r := by
      refine Nat.pos_of_ne_zero ?_
      rintro rfl
      have := Nat.mul_pos hpos hone
      rw [← hr, units_zero] at this
      omega
    rw [← hr, nearestRank_units hrpos htop]
    -- the number lies on the grid of whole numbers
    obtain ⟨hnonneg, hholds⟩ := shortest_of_grid (n := n) tie 0 hrpos (by omega)
      (by rw [hr]; exact tenthPowerAbove_nonneg hpos)
      (by
        rw [gridStep_of_nonneg (Int.le_refl 0), basin, hr]
        simp [Nat.mul_left_comm])
    rw [Basin.holds, gridStep_of_nonneg hnonneg, ← Nat.mul_assoc] at hholds
    exact Decimal.denotes_iff.2 ⟨hnonneg, eq_of_contains_whole hlt hpos hr hholds⟩
  · -- the midpoint above belongs to this number, and it is a whole number
    cases tie <;> decide +kernel

end Audience.Double
