import Audience.Double.Shortest
import Mathlib.Algebra.Group.Nat.Defs
import Mathlib.Order.Monotone.Basic

/-!
**Ranks and units**: which double a number rounds to.

The doubles grow with their ranks, and the rank looked up for a whole number of units is that of the
last double that does not exceed it.  So rounding to the nearest rank finds a double from every
number between the midpoints to its neighbours.  With this the two sides of reading and writing fit
together: what is in the basin of a double is rounded to it.

Main results:

* `Double.units_strictMono` — the doubles grow with their ranks;
* `Double.units_floorRank_le`, `Double.lt_units_floorRank_succ` — a number of units lies between the
  doubles of its rank and of the next one;
* `Double.floorRank_eq` — and only one rank is so;
* `Double.nearestRank_eq_of_contains` — every number **in the basin of a double** is rounded to it.
-/

set_option relaxedAutoImplicit false
set_option autoImplicit false

namespace Audience.Double

/-! ### The units of a rank -/

/-- The number of units in one, as a power of two whose exponent is kept apart from it: the
power is too large to be written out. -/
theorem exists_unitsPerOne : ∃ unit, unitsPerOne = 2 ^ unit ∧ unit = 1074 :=
  ⟨1074, by decide +kernel, rfl⟩

theorem unitsPerOne_pos : 0 < unitsPerOne := by
  obtain ⟨unit, hone, -⟩ := exists_unitsPerOne
  rw [hone]
  exact Nat.two_pow_pos unit

theorem units_of_le {r : Nat} (h : r ≤ stride) : units r = r := by
  unfold units
  split
  · rfl
  · next hr =>
    obtain rfl : r = stride := Nat.le_antisymm h (Nat.le_of_not_lt hr)
    rfl

/-- The doubles of a later stride are a power of two apart, and so is the next one. -/
theorem units_of_stride (step : Nat) {m : Nat} (hm : m ≤ stride) :
    units ((step + 1) * stride + m) = (stride + m) * 2 ^ step := by
  have hpos : 0 < stride := by decide
  have hnot : ¬ (step + 1) * stride + m < stride := by
    rw [Nat.succ_mul]
    omega
  unfold units
  rw [if_neg hnot, Nat.pow_eq]
  rcases Nat.lt_or_eq_of_le hm with hlt | rfl
  · rw [Nat.add_comm _ m, Nat.add_mul_mod_self_right, Nat.add_mul_div_right _ _ hpos,
      Nat.mod_eq_of_lt hlt, Nat.div_eq_of_lt hlt, Nat.zero_add, Nat.add_sub_cancel]
  · -- the first double of the next stride
    rw [← Nat.succ_mul, Nat.mul_mod_left, Nat.mul_div_cancel _ hpos, Nat.add_zero,
      Nat.succ_sub_one, Nat.pow_succ, ← Nat.mul_two stride, Nat.mul_assoc stride 2,
      Nat.mul_comm 2]

theorem exists_stride {r : Nat} (h : stride ≤ r) :
    ∃ step m, m < stride ∧ r = (step + 1) * stride + m := by
  have hpos : 0 < stride := by decide
  have hone : 1 ≤ r / stride := (Nat.le_div_iff_mul_le hpos).2 (by omega)
  refine ⟨r / stride - 1, r % stride, Nat.mod_lt r hpos, ?_⟩
  rw [Nat.sub_add_cancel hone, Nat.mul_comm]
  exact (Nat.div_add_mod r stride).symm

theorem units_lt_units_succ (r : Nat) : units r < units (r + 1) := by
  rcases Nat.lt_or_ge r stride with h | h
  · rw [units_of_le h, units_of_le (Nat.le_of_lt h)]
    exact Nat.lt_succ_self r
  · obtain ⟨step, m, hm, rfl⟩ := exists_stride h
    rw [Nat.add_assoc, units_of_stride step hm, units_of_stride step (Nat.le_of_lt hm)]
    exact Nat.mul_lt_mul_of_pos_right (by omega) (Nat.two_pow_pos step)

theorem units_strictMono : StrictMono units := strictMono_nat_of_lt_succ units_lt_units_succ

/-! ### The rank of a number of units -/

/-- A number of units has the rank of its first 53 binary digits. -/
theorem floorRank_of_stride {q : Nat} (h : stride ≤ q) :
    ∃ step m, m < stride ∧ step = q.log2 - 52 ∧ floorRank q = (step + 1) * stride + m ∧
      q / 2 ^ step = stride + m := by
  have hne : q ≠ 0 := by
    rintro rfl
    exact absurd h (by decide)
  have hlow : 52 ≤ q.log2 := (Nat.le_log2 hne).2 h
  have hsplit : ∀ digits, 2 ^ (q.log2 - 52 + digits) = 2 ^ (q.log2 - 52) * 2 ^ digits :=
    fun digits => Nat.pow_add 2 _ digits
  have hge : stride ≤ q / 2 ^ (q.log2 - 52) := by
    refine (Nat.le_div_iff_mul_le (Nat.two_pow_pos _)).2 ?_
    rw [Nat.mul_comm, show stride = 2 ^ 52 from rfl, ← hsplit, Nat.sub_add_cancel hlow]
    exact Nat.log2_self_le hne
  have hlt : q / 2 ^ (q.log2 - 52) < 2 * stride := by
    refine Nat.div_lt_of_lt_mul ?_
    rw [show 2 * stride = 2 ^ 53 from rfl, ← hsplit, show q.log2 - 52 + 53 = q.log2 + 1 by omega]
    exact Nat.lt_log2_self
  refine ⟨_, q / 2 ^ (q.log2 - 52) - stride, by omega, rfl, ?_, by omega⟩
  unfold floorRank
  rw [if_neg (by omega)]
  simp only [Nat.pow_eq, Nat.succ_mul]
  omega

/-- The double of the rank of a number of units does not exceed it. -/
theorem units_floorRank_le (q : Nat) : units (floorRank q) ≤ q := by
  rcases Nat.lt_or_ge q stride with h | h
  · rw [floorRank, if_pos h, units_of_le (Nat.le_of_lt h)]
  · obtain ⟨step, m, hm, -, hrank, hdiv⟩ := floorRank_of_stride h
    rw [hrank, units_of_stride step (Nat.le_of_lt hm), ← hdiv]
    exact Nat.div_mul_le_self q _

/-- The double of the next rank exceeds it. -/
theorem lt_units_floorRank_succ (q : Nat) : q < units (floorRank q + 1) := by
  rcases Nat.lt_or_ge q stride with h | h
  · rw [floorRank, if_pos h, units_of_le h]
    exact Nat.lt_succ_self q
  · obtain ⟨step, m, hm, -, hrank, hdiv⟩ := floorRank_of_stride h
    have hnext : stride + (m + 1) = q / 2 ^ step + 1 := by omega
    rw [hrank, Nat.add_assoc, units_of_stride step hm, hnext, Nat.mul_comm]
    exact Nat.lt_mul_div_succ q (Nat.two_pow_pos step)

/-- A number of units has the rank of the double that it lies above, and below the next one. -/
theorem floorRank_eq {q r : Nat} (hlow : units r ≤ q) (hhigh : q < units (r + 1)) :
    floorRank q = r := by
  have hle : floorRank q < r + 1 :=
    units_strictMono.lt_iff_lt.1 (Nat.lt_of_le_of_lt (units_floorRank_le q) hhigh)
  have hge : r < floorRank q + 1 :=
    units_strictMono.lt_iff_lt.1 (Nat.lt_of_le_of_lt hlow (lt_units_floorRank_succ q))
  omega

/-! ### Rounding -/

/-- A number is in the basin of a double if it lies between the midpoints to its neighbours; the
midpoints belong to the doubles of even rank. -/
theorem basin_contains_iff {r num den : Nat} :
    (basin r).contains num den = true ↔
      (units (r - 1) * den + units r * den < num ∨
        r % 2 = 0 ∧ units (r - 1) * den + units r * den = num) ∧
      (num < units r * den + units (r + 1) * den ∨
        r % 2 = 0 ∧ num = units r * den + units (r + 1) * den) := by
  unfold Basin.contains basin
  simp only [beq_iff_eq, Nat.add_mul]
  split
  · next h => simp only [Bool.and_eq_true, decide_eq_true_eq]; omega
  · next h => simp only [Bool.and_eq_true, decide_eq_true_eq]; omega

/-- Every number **in the basin of a double** is rounded to the double. -/
theorem nearestRank_eq_of_contains {r num den : Nat} (hpos : 0 < r) (htop : r < top)
    (hden : 0 < den) (h : (basin r).contains (2 * num) den = true) :
    (nearestRank num den).val = r := by
  obtain ⟨k, rfl⟩ : ∃ k, r = k + 1 := ⟨r - 1, by omega⟩
  obtain ⟨hlow, hhigh⟩ := basin_contains_iff.1 h
  rw [Nat.add_sub_cancel] at hlow
  have hstep : units k * den < units (k + 1) * den :=
    Nat.mul_lt_mul_of_pos_right (units_lt_units_succ k) hden
  have hnext : units (k + 1) * den < units (k + 1 + 1) * den :=
    Nat.mul_lt_mul_of_pos_right (units_lt_units_succ (k + 1)) hden
  have hge : units k ≤ num / den := (Nat.le_div_iff_mul_le hden).2 (by omega)
  have hlt : num / den < units (k + 1 + 1) := (Nat.div_lt_iff_lt_mul hden).2 (by omega)
  -- the number lies above the double, or between it and the one before
  unfold nearestRank
  rcases Nat.lt_or_ge (num / den) (units (k + 1)) with hbelow | habove
  · have hrank : floorRank (num / den) = k := floorRank_eq hge hbelow
    simp only [hrank]
    rw [dif_pos (by omega), if_pos]
    simp only [Nat.add_mul, Bool.or_eq_true, Bool.and_eq_true, decide_eq_true_eq, beq_iff_eq]
    omega
  · have hrank : floorRank (num / den) = k + 1 := floorRank_eq habove hlt
    simp only [hrank]
    rw [dif_pos htop, if_neg]
    simp only [Nat.add_mul, Bool.or_eq_true, Bool.and_eq_true, decide_eq_true_eq, beq_iff_eq]
    omega

theorem nearestRank_pos {n : Nat} (h : 0 < n) : 0 < (nearestRank n 1).val := by
  have hfloor : 0 < floorRank n := by
    have hnext := lt_units_floorRank_succ n
    refine Nat.pos_of_ne_zero fun hzero => ?_
    rw [hzero, units_of_le (by decide)] at hnext
    omega
  unfold nearestRank
  dsimp only
  rw [Nat.div_one]
  split
  · split
    · exact Nat.succ_pos _
    · exact hfloor
  · decide

end Audience.Double
