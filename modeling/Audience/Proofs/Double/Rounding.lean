import Audience.Proofs.Double.Units

/-!
**Rounding stays finite**: a whole number that is not too large has a finite double next to it.

The last rank whose double does not exceed a number of units grows with the number of its binary
digits, one stride of ranks for each; and rounding goes up from it by one rank at most.

Main results:

* `Double.floorRank_lt` — a number with few binary digits has a low rank;
* `Double.isFinite_ofInt` — integers of at most 1023 binary digits have finite doubles.
-/

set_option relaxedAutoImplicit false
set_option autoImplicit false

namespace Audience.Double

/-- A number of so many binary digits has a rank below so many strides. -/
theorem floorRank_lt {q e : Nat} (h : q < 2 ^ (e + 53)) : floorRank q < (e + 2) * stride := by
  rcases Nat.lt_or_ge q stride with hlow | hhigh
  · have hone : 1 * stride ≤ (e + 2) * stride := Nat.mul_le_mul_right stride (by omega)
    rw [floorRank, if_pos hlow]
    omega
  · obtain ⟨step, m, hm, hstep, hrank, -⟩ := floorRank_of_stride hhigh
    have hne : q ≠ 0 := by
      rintro rfl
      exact absurd hhigh (by decide)
    have hlog := (Nat.log2_lt hne).2 h
    calc floorRank q = (step + 1) * stride + m := hrank
      _ < (step + 1) * stride + stride := Nat.add_lt_add_left hm _
      _ = (step + 2) * stride := (Nat.succ_mul (step + 1) stride).symm
      _ ≤ (e + 2) * stride := Nat.mul_le_mul_right stride (by omega)

theorem nearestRank_le (num den : Nat) :
    (nearestRank num den).val ≤ floorRank (num / den) + 1 := by
  unfold nearestRank
  dsimp only
  split
  · split
    · exact Nat.le_refl _
    · exact Nat.le_succ _
  · next h => exact Nat.le_succ_of_le (Nat.le_of_not_lt h)

/-- Integers of **at most 1023 binary digits** have finite doubles. -/
theorem isFinite_ofInt {n : Int} {digits : Nat} (hdigits : digits ≤ 1023)
    (h : n.natAbs < 2 ^ digits) : (ofInt n).isFinite = true := by
  obtain ⟨unit, hone, hunit⟩ := exists_unitsPerOne
  have hunits : n.natAbs * unitsPerOne / 1 < 2 ^ (digits + 1021 + 53) := by
    rw [Nat.div_one, hone, show digits + 1021 + 53 = digits + unit by omega, Nat.pow_add]
    exact Nat.mul_lt_mul_of_pos_right h (Nat.two_pow_pos unit)
  have hrank := floorRank_lt hunits
  have hround := nearestRank_le (n.natAbs * unitsPerOne) 1
  have htop : (digits + 1021 + 2) * stride < top := by
    unfold stride top
    omega
  exact decide_eq_true (by omega)

end Audience.Double
