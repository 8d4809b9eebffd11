import Audience.Proofs.Double.Whole
import Mathlib.Algebra.Ring.Int.Defs

/-!
**Sums of doubles that are not negative**.

A sum is added up from the left, and every addition is rounded to the nearest double.  Rounding is
monotone, and a double is rounded to itself; so of two doubles that are not negative neither is
above their sum, and no term of a longer sum is above what it comes to.  What it comes to may be
infinity even if all the terms are finite.  It is not if the terms are few and small enough: up to
`2 ^ 53` terms of at most `2 ^ 970` have a finite sum, because all multiples of `2 ^ 970` on the way
are doubles.

Main definitions:

* `Double.HasRank` — a double **that is not negative**, and its rank;
* `Double.isAtMost` — is a double at most another one?

Main results:

* `Double.nearestRank_mono` — rounding is monotone;
* `Double.HasRank.exists_add` — a sum of two is not below either;
* `Double.exists_sum` — a longer sum is not below any of its terms;
* `Double.isFinite_sum` — the sum of few enough small terms **is finite**.
-/

set_option relaxedAutoImplicit false
set_option autoImplicit false

namespace Audience.Double

/-! ### Rounding -/

theorem floorRank_mono {p q : Nat} (h : p ≤ q) : floorRank p ≤ floorRank q := by
  have hunits : units (floorRank p) < units (floorRank q + 1) :=
    calc units (floorRank p) ≤ p := units_floorRank_le p
      _ ≤ q := h
      _ < units (floorRank q + 1) := lt_units_floorRank_succ q
  exact Nat.le_of_lt_succ (units_strictMono.lt_iff_lt.1 hunits)

theorem le_nearestRank (num den : Nat) :
    min (floorRank (num / den)) top ≤ (nearestRank num den).val := by
  unfold nearestRank
  dsimp only
  split
  · split
    · exact Nat.le_trans (Nat.min_le_left _ _) (Nat.le_succ _)
    · exact Nat.min_le_left _ _
  · exact Nat.min_le_right _ _

/-- Rounding is monotone. -/
theorem nearestRank_mono {num num' den : Nat} (h : num ≤ num') :
    (nearestRank num den).val ≤ (nearestRank num' den).val := by
  have hfloor : floorRank (num / den) ≤ floorRank (num' / den) :=
    floorRank_mono (Nat.div_le_div_right h)
  rcases Nat.lt_or_eq_of_le hfloor with hlt | heq
  · -- rounding goes up by one rank at most
    have hup := nearestRank_le num den
    have htop := Fin.is_le (nearestRank num den)
    have hdown := le_nearestRank num' den
    omega
  · -- of two numbers between the same doubles the larger one is rounded up first
    unfold nearestRank
    simp only [heq]
    split
    · split
      · next hup =>
        rw [if_pos]
        simp only [Bool.or_eq_true, decide_eq_true_eq, Bool.and_eq_true, beq_iff_eq] at hup ⊢
        omega
      · split
        · exact Nat.le_succ _
        · exact Nat.le_refl _
    · exact Nat.le_refl _

theorem nearestRank_zero : (nearestRank 0 1).val = 0 := by
  decide

theorem nearestRank_units_of_lt {r : Nat} (h : r < top) : (nearestRank (units r) 1).val = r := by
  rcases Nat.eq_zero_or_pos r with rfl | hpos
  · exact nearestRank_zero
  · exact nearestRank_units hpos h

/-! ### Doubles that are not negative -/

/-- A double **that is not negative** has a rank, which for negative zero is that of zero. -/
inductive HasRank : Double → Nat → Prop
  | nonneg (rank : Fin (top + 1)) : HasRank (.signed false rank) rank.val
  | negZero : HasRank negZero 0

/-- Is the first double at most the second? -/
def isAtMost (x y : Double) : Bool := (x.compare? y).any (·.isLE)

namespace HasRank

variable {x y : Double} {r s : Nat}

theorem le_top (h : x.HasRank r) : r ≤ top := by
  cases h with
  | nonneg rank => exact Fin.is_le rank
  | negZero => exact Nat.zero_le top

theorem compare?_eq (hx : x.HasRank r) (hy : y.HasRank s) :
    x.compare? y = some (compare (r : Int) (s : Int)) := by
  cases hx <;> cases hy <;> rfl

theorem isAtMost_iff (hx : x.HasRank r) (hy : y.HasRank s) : x.isAtMost y = true ↔ r ≤ s := by
  rw [isAtMost, hx.compare?_eq hy, Option.any_some, Int.isLE_compare]
  exact Int.ofNat_le

theorem isFinite_iff (h : x.HasRank r) : x.isFinite = true ↔ r < top := by
  cases h with
  | nonneg rank => exact decide_eq_true_iff
  | negZero => decide

theorem eq_infinity_iff (h : x.HasRank r) : x = infinity false ↔ r = top := by
  cases h with
  | nonneg rank => simp [infinity, Fin.ext_iff]
  | negZero => decide

theorem infinity_add (h : x.HasRank r) :
    add (infinity false) x = infinity false ∧ add x (infinity false) = infinity false := by
  cases h with
  | nonneg rank =>
      by_cases hrank : rank = Fin.last top
      · simp [add, infinity, hrank]
      · simp [add, infinity, hrank]
  | negZero => decide

/-- The sum of two finite doubles that are not negative is the exact sum rounded. -/
theorem add_hasRank (hx : x.HasRank r) (hy : y.HasRank s) (hr : r < top) (hs : s < top) :
    (add x y).HasRank (nearestRank (units r + units s) 1).val := by
  have hunits : ∀ {z : Double} {t : Nat}, z.HasRank t → t < top → ∃ negative rank,
      z = .signed negative rank ∧ rank.val = t ∧ rank ≠ Fin.last top ∧
        signedUnits negative rank = units t := by
    intro z t hz ht
    cases hz with
    | nonneg rank => exact ⟨false, rank, rfl, rfl, Fin.ne_of_lt ht, rfl⟩
    | negZero => exact ⟨true, 0, rfl, rfl, by decide, rfl⟩
  obtain ⟨n, rank, rfl, rfl, hrank, hn⟩ := hunits hx hr
  obtain ⟨m, rank', rfl, rfl, hrank', hm⟩ := hunits hy hs
  rw [add, if_neg hrank, if_neg hrank', hn, hm]
  split
  · next hzero =>
    -- both are zeros, and so is the sum, whatever its sign
    rw [hzero.1, hzero.2, units_zero, nearestRank_zero]
    cases n && m with
    | false => exact .nonneg 0
    | true => exact .negZero
  · have hsum : ofUnits ((units rank + units rank' : Nat) : Int)
        = .signed false (nearestRank (units rank + units rank') 1) := by
      rw [ofUnits, Int.natAbs_natCast, decide_eq_false (by omega)]
    rw [← Int.natCast_add, hsum]
    exact .nonneg _

/-- The sum of two doubles that are not negative is not below either. -/
theorem exists_add (hx : x.HasRank r) (hy : y.HasRank s) :
    ∃ t, (add x y).HasRank t ∧ r ≤ t ∧ s ≤ t := by
  rcases Nat.lt_or_eq_of_le hx.le_top with hr | hr
  · rcases Nat.lt_or_eq_of_le hy.le_top with hs | hs
    · refine ⟨_, add_hasRank hx hy hr hs, ?_, ?_⟩
      · calc r = (nearestRank (units r) 1).val := (nearestRank_units_of_lt hr).symm
          _ ≤ (nearestRank (units r + units s) 1).val := nearestRank_mono (Nat.le_add_right _ _)
      · calc s = (nearestRank (units s) 1).val := (nearestRank_units_of_lt hs).symm
          _ ≤ (nearestRank (units r + units s) 1).val := nearestRank_mono (Nat.le_add_left _ _)
    · rw [hy.eq_infinity_iff.2 hs, (infinity_add hx).2]
      exact ⟨top, .nonneg (Fin.last top), Nat.le_of_lt hr, hy.le_top⟩
  · rw [hx.eq_infinity_iff.2 hr, (infinity_add hy).1]
    exact ⟨top, .nonneg (Fin.last top), hx.le_top, hy.le_top⟩

end HasRank

/-! ### Longer sums -/

/-- A list of doubles that are not negative. -/
def Nonneg (xs : List Double) : Prop := ∀ x ∈ xs, ∃ r, x.HasRank r

theorem exists_foldl_add {xs : List Double} (h : Nonneg xs) {x : Double} {r : Nat}
    (hx : x.HasRank r) :
    ∃ t, (xs.foldl add x).HasRank t ∧ r ≤ t ∧ ∀ y ∈ xs, y.isAtMost (xs.foldl add x) = true := by
  induction xs generalizing x r with
  | nil => exact ⟨r, hx, Nat.le_refl r, nofun⟩
  | cons y ys ih =>
      obtain ⟨⟨s, hy⟩, hys⟩ := List.forall_mem_cons.1 h
      obtain ⟨next, hnext, hrnext, hsnext⟩ := hx.exists_add hy
      obtain ⟨t, ht, hle, hrest⟩ := ih hys hnext
      refine ⟨t, ht, Nat.le_trans hrnext hle, ?_⟩
      intro z hz
      rcases List.mem_cons.1 hz with rfl | hz
      · exact (hy.isAtMost_iff ht).2 (Nat.le_trans hsnext hle)
      · exact hrest z hz

/-- A sum of doubles that are not negative is not negative, and not below any of its terms. -/
theorem exists_sum {xs : List Double} (h : Nonneg xs) :
    ∃ t, (sum xs).HasRank t ∧ zero.isAtMost (sum xs) = true ∧
      ∀ x ∈ xs, x.isAtMost (sum xs) = true := by
  obtain ⟨t, ht, hle, hterms⟩ := exists_foldl_add h .negZero
  have hzero : zero.HasRank 0 := .nonneg 0
  exact ⟨t, ht, (hzero.isAtMost_iff ht).2 hle, hterms⟩

/-! ### Sums that stay finite -/

/-- Adding on so many times at most a power of two does not come to more than as many times that
power, which is a double. -/
theorem exists_foldl_add_lt_top {e : Nat} (he : e ≤ 2044) {xs : List Double}
    (h : ∀ x ∈ xs, ∃ s, x.HasRank s ∧ units s ≤ 2 ^ e) {k : Nat} (hlength : k + xs.length ≤ 2 ^ 53)
    {x : Double} {r : Nat} (hx : x.HasRank r) (hr : units r ≤ k * 2 ^ e) :
    ∃ t, (xs.foldl add x).HasRank t ∧ t < top := by
  have hlt : ∀ {n s : Nat}, n ≤ 2 ^ 53 → units s ≤ n * 2 ^ e → s < top := by
    intro n s hn hs
    obtain ⟨most, hmost, hunits⟩ := exists_units_eq_mul_pow hn he
    rw [← hunits] at hs
    exact Nat.lt_of_le_of_lt (units_strictMono.le_iff_le.1 hs) hmost
  induction xs generalizing x r k with
  | nil => exact ⟨r, hx, hlt (by omega) hr⟩
  | cons y ys ih =>
      obtain ⟨⟨s, hy, hs⟩, hys⟩ := List.forall_mem_cons.1 h
      rw [List.length_cons] at hlength
      have hrtop : r < top := hlt (by omega) hr
      have hstop : s < top := hlt (show 1 ≤ 2 ^ 53 by decide) (by rwa [Nat.one_mul])
      -- the next multiple of the power is a double, and rounding does not go beyond it
      obtain ⟨most, hmost, hunits⟩ := exists_units_eq_mul_pow (show k + 1 ≤ 2 ^ 53 by omega) he
      have hsum : units r + units s ≤ units most := by
        rw [hunits, Nat.succ_mul]
        exact Nat.add_le_add hr hs
      have hnext : (nearestRank (units r + units s) 1).val ≤ most :=
        calc (nearestRank (units r + units s) 1).val ≤ (nearestRank (units most) 1).val :=
              nearestRank_mono hsum
          _ = most := nearestRank_units_of_lt hmost
      refine ih hys (show k + 1 + ys.length ≤ 2 ^ 53 by omega)
        (hx.add_hasRank hy hrtop hstop) ?_
      rw [← hunits]
      exact units_strictMono.monotone hnext

/-- A power of two that is small enough is a double. -/
theorem exists_ofInt_two_pow {places : Nat} (h : places ≤ 970) :
    ∃ e r, e ≤ 2044 ∧ (ofInt (2 ^ places)).HasRank r ∧ units r = 2 ^ e := by
  obtain ⟨unit, hone, hunit⟩ := exists_unitsPerOne
  obtain ⟨r, hr, hunits⟩ :=
    exists_units_eq_mul_pow (show 1 ≤ 2 ^ 53 by decide) (show places + unit ≤ 2044 by omega)
  rw [Nat.one_mul] at hunits
  have hvalue : ((2 : Int) ^ places).natAbs * unitsPerOne = units r := by
    rw [hunits, hone, Int.natAbs_pow, Nat.pow_add]
    rfl
  have hsign : ¬ (2 : Int) ^ places < 0 := Int.not_lt.2 (Int.pow_nonneg (by decide))
  refine ⟨places + unit, r, by omega, ?_, hunits⟩
  rw [ofInt, decide_eq_false hsign, hvalue]
  have hrank := nearestRank_units_of_lt hr
  generalize nearestRank (units r) 1 = rank at hrank
  rw [← hrank]
  exact .nonneg rank

/-- The sum of **few enough small terms** is finite. -/
theorem isFinite_sum {xs : List Double} (h : Nonneg xs) {places : Nat} (hplaces : places ≤ 970)
    (hsmall : ∀ x ∈ xs, x.isAtMost (ofInt (2 ^ places)) = true) (hlength : xs.length ≤ 2 ^ 53) :
    (sum xs).isFinite = true := by
  obtain ⟨e, r, he, hr, hunits⟩ := exists_ofInt_two_pow hplaces
  have hterms : ∀ x ∈ xs, ∃ s, x.HasRank s ∧ units s ≤ 2 ^ e := by
    intro x hx
    obtain ⟨s, hs⟩ := h x hx
    refine ⟨s, hs, ?_⟩
    rw [← hunits]
    exact units_strictMono.monotone ((hs.isAtMost_iff hr).1 (hsmall x hx))
  obtain ⟨t, ht, htop⟩ := exists_foldl_add_lt_top he hterms (k := 0) (by omega) .negZero (by simp)
  exact ht.isFinite_iff.2 htop

end Audience.Double
