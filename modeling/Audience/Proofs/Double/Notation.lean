import Audience.Coercion
import Audience.Proofs.Calendar.Digits
import Audience.Proofs.Double.Whole

/-!
**Doubles read back from their texts**.

A double that is compared as a text is written out in full: a sign, and its shortest decimal with a
point and zeros where they are needed.  Read again this gives a number in the basin of the double,
and so the double itself; therefore no two doubles have one text, the two zeros included.  Whole
numbers have texts of their own, which are read as the doubles next to them.  Such a text is that of
the double only if the shortest decimal of the double is the whole number.

Main definitions:

* `Double.keepsWhole` — does a whole number have the text of **the double next to it**?

Main results:

* `Double.ofDecimal_of_contains`, `Double.ofDecimal_of_holds` — a decimal in the basin of a
  double is read as the double;
* `Double.magnitudeOf?_writeOut` — the number that digits written out denote;
* `Double.ofText?_plain` — the text of a double is read as the double;
* `Double.plain_injective` — doubles with one text are equal;
* `Double.ofText?_toString` — the text of a whole number is read as the double next to it;
* `Double.toString_eq_plain_iff` — whole numbers with the text of a double;
* `Double.keepsWhole_of_le` — those up to `2 ^ 53` have one.
-/

set_option relaxedAutoImplicit false
set_option autoImplicit false

namespace Audience.Double

/-! ### Decimals -/

theorem places_le_of_half_unit_le {digits places : Nat}
    (h : 10 ^ places ≤ 2 * (digits * unitsPerOne)) : 3 * places < digits.log2 + 1100 := by
  obtain ⟨unit, hone, hunit⟩ := exists_unitsPerOne
  have hmost : 2 * (digits * unitsPerOne) < 2 ^ (digits.log2 + 1 + 1 + unit) := by
    have hlt : digits < 2 ^ (digits.log2 + 1) := Nat.lt_log2_self
    rw [hone, ← Nat.mul_assoc, Nat.pow_add 2 (digits.log2 + 1 + 1), Nat.pow_succ, Nat.mul_comm _ 2]
    exact Nat.mul_lt_mul_of_pos_right (by omega) (Nat.two_pow_pos unit)
  have htens : 2 ^ (3 * places) ≤ 10 ^ places := by
    rw [Nat.pow_mul]
    exact Nat.pow_le_pow_left (by decide) places
  have hexponent : 3 * places < digits.log2 + 1 + 1 + unit :=
    (Nat.pow_lt_pow_iff_right (by decide)).1 (Nat.lt_of_le_of_lt (Nat.le_trans htens h) hmost)
  omega

/-- A decimal in the basin of a double is read as the double. -/
theorem ofDecimal_of_contains (negative : Bool) {digits places : Nat} {rank : Fin (top + 1)}
    (hpos : 0 < rank.val) (htop : rank.val < top)
    (h : (basin rank.val).contains (2 * (digits * unitsPerOne)) (10 ^ places) = true) :
    ofDecimal negative digits (-(places : Int)) = signed negative rank := by
  have hden : 0 < 10 ^ places := Nat.pow_pos (by decide)
  have hrank : nearestRank (digits * unitsPerOne) (10 ^ places) = rank :=
    Fin.ext (nearestRank_eq_of_contains hpos htop hden h)
  -- the number is not below the first midpoint, which is half a unit
  have hleast : 10 ^ places ≤ 2 * (digits * unitsPerOne) := by
    have hunits : 0 < units rank.val := units_strictMono hpos
    have hmul : 1 * 10 ^ places ≤ units rank.val * 10 ^ places := Nat.mul_le_mul_right _ hunits
    rw [basin_contains_iff] at h
    omega
  have hdigits : digits ≠ 0 := by
    rintro rfl
    rw [Nat.zero_mul] at hleast
    omega
  have hplaces := places_le_of_half_unit_le hleast
  unfold ofDecimal
  rw [if_neg hdigits, if_neg (by omega), if_neg (by omega)]
  split
  · next hzero =>
    obtain rfl : places = 0 := by omega
    rw [← hrank]
    simp
  · rw [Int.neg_neg, Int.toNat_natCast, Nat.pow_eq, hrank]

theorem ofDecimal_of_holds (negative : Bool) {d : Decimal} {rank : Fin (top + 1)}
    (hpos : 0 < rank.val) (htop : rank.val < top) (h : (basin rank.val).holds d = true) :
    (if 0 ≤ d.exponent then ofDecimal negative (d.digits * 10 ^ d.exponent.toNat) 0
      else ofDecimal negative d.digits d.exponent) = signed negative rank := by
  unfold Basin.holds at h
  split
  · next hexponent =>
    rw [gridStep_of_nonneg hexponent] at h
    have hwhole : (basin rank.val).contains
        (2 * (d.digits * 10 ^ d.exponent.toNat * unitsPerOne)) (10 ^ 0) = true := by
      rwa [Nat.mul_left_comm, Nat.mul_assoc d.digits]
    exact ofDecimal_of_contains negative hpos htop hwhole
  · next hexponent =>
    rw [gridStep_of_neg (Int.not_le.1 hexponent), Nat.mul_left_comm] at h
    have hplaces : d.exponent = -((-d.exponent).toNat : Int) := by omega
    rw [hplaces]
    exact ofDecimal_of_contains negative hpos htop h

/-! ### Digits with a point -/

theorem isDigit_of_mem_zeros {n : Nat} {c : Char} (h : c ∈ List.replicate n '0') :
    isDigit c = true := by
  rw [List.eq_of_mem_replicate h]
  decide

theorem natOfDigits_append_zeros (ds : List Char) (n : Nat) :
    natOfDigits (ds ++ List.replicate n '0') = natOfDigits ds * 10 ^ n := by
  rw [natOfDigits_eq_ofDigitChars, Nat.ofDigitChars_append, Nat.ofDigitChars_replicate_zero,
    Nat.mul_comm, natOfDigits_eq_ofDigitChars]

theorem natOfDigits_zeros_append (n : Nat) (ds : List Char) :
    natOfDigits (List.replicate n '0' ++ ds) = natOfDigits ds := by
  rw [natOfDigits_eq_ofDigitChars, Nat.ofDigitChars_append, Nat.ofDigitChars_replicate_zero,
    Nat.mul_zero, natOfDigits_eq_ofDigitChars]

theorem spanDigits_append {ds rest : List Char} (hds : ∀ d ∈ ds, isDigit d = true)
    (hrest : ∀ c ∈ rest.head?, isDigit c = false) : spanDigits (ds ++ rest) = (ds, rest) := by
  rw [spanDigits, List.takeWhile_append_of_pos hds, List.dropWhile_append_of_pos hds]
  cases rest with
  | nil => simp
  | cons c rest =>
      have hc := hrest c rfl
      simp [hc]

theorem spanDigits_digits {ds : List Char} (hds : ∀ d ∈ ds, isDigit d = true) :
    spanDigits ds = (ds, []) := by
  have h : spanDigits (ds ++ []) = (ds, []) := spanDigits_append hds (by simp)
  rwa [List.append_nil] at h

theorem magnitudeOf?_digits (negative : Bool) {ds : List Char} (hne : ds ≠ [])
    (hds : ∀ d ∈ ds, isDigit d = true) :
    magnitudeOf? negative ds = some (ofDecimal negative (natOfDigits ds) 0) := by
  have hempty : ds.isEmpty = false := by simpa using hne
  simp [magnitudeOf?, spanDigits_digits hds, spanFraction, hempty, exponentOf?]

theorem magnitudeOf?_point (negative : Bool) {ds places : List Char} (hne : ds ≠ [])
    (hds : ∀ d ∈ ds, isDigit d = true) (hplaces : ∀ d ∈ places, isDigit d = true) :
    magnitudeOf? negative (ds ++ '.' :: places)
      = some (ofDecimal negative (natOfDigits (ds ++ places)) (-(places.length : Int))) := by
  have hspan : spanDigits (ds ++ '.' :: places) = (ds, '.' :: places) :=
    spanDigits_append hds (by simp [isDigit])
  have hempty : ds.isEmpty = false := by simpa using hne
  simp [magnitudeOf?, hspan, spanFraction, spanDigits_digits hplaces, hempty, exponentOf?]

theorem toList_writeOut_whole {ds : List Char} (hne : ds ≠ []) {exponent : Int}
    (h : 0 ≤ exponent) : (plainLayout.writeOut ds (ds.length + exponent)).toList
      = ds ++ List.replicate exponent.toNat '0' := by
  have hlength : 0 < ds.length := List.length_pos_iff.2 hne
  unfold Layout.writeOut
  rw [if_neg (by omega), if_neg (by omega),
    show (ds.length + exponent).toNat - ds.length = exponent.toNat by omega]
  simp [plainLayout]

/-- Digits of a fraction are written out with a point. -/
theorem exists_point_writeOut {ds : List Char} (hds : ∀ d ∈ ds, isDigit d = true)
    {exponent : Int} (h : exponent < 0) :
    ∃ whole places, (plainLayout.writeOut ds (ds.length + exponent)).toList
        = whole ++ '.' :: places ∧
      whole ≠ [] ∧ (∀ d ∈ whole, isDigit d = true) ∧ (∀ d ∈ places, isDigit d = true) ∧
      natOfDigits (whole ++ places) = natOfDigits ds ∧ (places.length : Int) = -exponent := by
  unfold Layout.writeOut
  split
  · next hpoint =>
    -- the point stands before all digits, and zeros between the two
    refine ⟨['0'], List.replicate (-(ds.length + exponent)).toNat '0' ++ ds, by simp, by simp,
      fun c => isDigit_of_mem_zeros (n := 1),
      List.forall_mem_append.2 ⟨fun c => isDigit_of_mem_zeros, hds⟩, ?_, ?_⟩
    · exact natOfDigits_zeros_append (_ + 1) ds
    · rw [List.length_append, List.length_replicate]
      omega
  · next hpoint =>
    -- the point stands between two digits
    rw [if_pos (by omega)]
    refine ⟨ds.take (ds.length + exponent).toNat, ds.drop (ds.length + exponent).toNat, by simp, ?_,
      fun d hd => hds d (List.mem_of_mem_take hd), fun d hd => hds d (List.mem_of_mem_drop hd),
      by rw [List.take_append_drop], ?_⟩
    · refine List.length_pos_iff.1 ?_
      rw [List.length_take]
      omega
    · rw [List.length_drop]
      omega

/-- The number that digits written out denote: zeros that fill them up to the point count as
digits, and the others after it. -/
theorem magnitudeOf?_writeOut (negative : Bool) {ds : List Char} (hne : ds ≠ [])
    (hds : ∀ d ∈ ds, isDigit d = true) (exponent : Int) :
    magnitudeOf? negative (plainLayout.writeOut ds (ds.length + exponent)).toList
      = some (if 0 ≤ exponent then ofDecimal negative (natOfDigits ds * 10 ^ exponent.toNat) 0
          else ofDecimal negative (natOfDigits ds) exponent) := by
  split
  · next h =>
    have hall : ∀ d ∈ ds ++ List.replicate exponent.toNat '0', isDigit d = true :=
      List.forall_mem_append.2 ⟨hds, fun c => isDigit_of_mem_zeros⟩
    rw [toList_writeOut_whole hne h, magnitudeOf?_digits negative (by simp [hne]) hall,
      natOfDigits_append_zeros]
  · next h =>
    obtain ⟨whole, places, hchars, hwhole, hdigits, hplaces, hnumber, hlength⟩ :=
      exists_point_writeOut hds (Int.not_le.1 h)
    rw [hchars, magnitudeOf?_point negative hwhole hdigits hplaces, hnumber, hlength, Int.neg_neg]

theorem exists_digit_writeOut (layout : Layout) {ds : List Char} (hne : ds ≠ [])
    (hds : ∀ d ∈ ds, isDigit d = true) (point : Int) :
    ∃ d rest, isDigit d = true ∧ (layout.writeOut ds point).toList = d :: rest := by
  obtain ⟨d, rest, rfl⟩ := List.exists_cons_of_ne_nil hne
  have hd : isDigit d = true := hds d List.mem_cons_self
  unfold Layout.writeOut
  split
  · exact ⟨'0', _, by decide, by simp; rfl⟩
  · split
    · next hpoint hinside =>
      obtain ⟨k, hk⟩ : ∃ k, point.toNat = k + 1 := ⟨point.toNat - 1, by omega⟩
      exact ⟨d, _, hd, by rw [hk]; simp; rfl⟩
    · exact ⟨d, _, hd, by simp; rfl⟩

/-! ### Signs and words -/

/-- A minus sign, or nothing. -/
def signChars (negative : Bool) : List Char := if negative then ['-'] else []

theorem lt_of_mem_signChars {negative : Bool} {c : Char} (h : c ∈ signChars negative) :
    c.toNat < 65 := by
  cases negative with
  | false => exact absurd h List.not_mem_nil
  | true =>
      obtain rfl := List.mem_singleton.1 h
      decide

theorem lt_of_isDigit {c : Char} (h : isDigit c = true) : c.toNat < 65 := by
  obtain ⟨-, hmost⟩ := isDigit_iff.1 h
  omega

theorem toLower_of_isDigit {c : Char} (h : isDigit c = true) : c.toLower = c := by
  obtain ⟨-, hmost⟩ := isDigit_iff.1 h
  unfold Char.toLower
  rw [dif_neg]
  rintro ⟨hletter, -⟩
  have : 65 ≤ c.toNat := UInt32.le_iff_toNat_le.1 hletter
  omega

/-- A text that begins with a digit, after a sign or not, is no word. -/
theorem ofText?_digits (negative : Bool) {d : Char} (hd : isDigit d = true) (rest : List Char) :
    ofText? (signChars negative ++ d :: rest) = magnitudeOf? negative (d :: rest) := by
  have hsign : spanSign (signChars negative ++ d :: rest) = (negative, d :: rest) := by
    cases negative with
    | true => rfl
    | false =>
        rw [signChars, if_neg (by decide), List.nil_append]
        unfold spanSign
        split
        · next heq => exact absurd hd ((List.cons.inj heq).1 ▸ by decide)
        · next heq => exact absurd hd ((List.cons.inj heq).1 ▸ by decide)
        · rfl
  have hword : wordOf? negative (String.ofList ((d :: rest).map Char.toLower)) = none := by
    have hne : ∀ c cs, isDigit c = false →
        String.ofList ((d :: rest).map Char.toLower) ≠ String.ofList (c :: cs) := by
      intro c cs hc heq
      rw [List.map_cons, toLower_of_isDigit hd] at heq
      have hhead := (List.cons.inj (String.ofList_injective heq)).1
      rw [hhead, hc] at hd
      cases hd
    unfold wordOf?
    rw [if_neg (not_or.2 ⟨hne 'i' ['n', 'f'] (by decide),
      hne 'i' ['n', 'f', 'i', 'n', 'i', 't', 'y'] (by decide)⟩),
      if_neg (hne 'n' ['a', 'n'] (by decide))]
  rw [ofText?, hsign]
  dsimp only
  rw [hword, Option.none_or]

/-! ### Doubles -/

theorem toList_plain (negative : Bool) {rank : Fin (top + 1)} (hpos : 0 < rank.val)
    (htop : rank.val < top) :
    (plain (signed negative rank)).toList
      = signChars negative ++ (plainLayout.writeOut (Nat.toDigits 10 (shortest .up rank.val).digits)
          ((Nat.toDigits 10 (shortest .up rank.val).digits).length
            + (shortest .up rank.val).exponent)).toList := by
  have hlast : rank ≠ Fin.last top := fun h => Nat.ne_of_lt htop (congrArg Fin.val h)
  have hzero : rank.val ≠ 0 := Nat.ne_of_gt hpos
  rw [plain, write, if_neg hlast, Layout.writeRank, if_neg hzero, String.toList_append]
  cases negative <;> rfl

/-- The text of a double is read as the double. -/
theorem ofText?_plain (x : Double) : ofText? x.plain.toList = some x := by
  cases x with
  | nan => decide +kernel
  | signed negative rank =>
    by_cases hlast : rank = Fin.last top
    · subst hlast
      cases negative <;> decide +kernel
    by_cases hzero : rank.val = 0
    · obtain rfl : rank = 0 := Fin.ext hzero
      cases negative <;> decide +kernel
    have hpos : 0 < rank.val := Nat.pos_of_ne_zero hzero
    have htop : rank.val < top := Fin.val_lt_last hlast
    have hholds := holds_shortest .up hpos
    rw [toList_plain negative hpos htop]
    generalize shortest .up rank.val = decimal at hholds ⊢
    have hdigits : ∀ d ∈ Nat.toDigits 10 decimal.digits, isDigit d = true :=
      fun d => isDigit_of_mem_toDigits
    have hmagnitude := magnitudeOf?_writeOut negative Nat.toDigits_ne_nil hdigits decimal.exponent
    obtain ⟨d, rest, hd, hfirst⟩ := exists_digit_writeOut plainLayout Nat.toDigits_ne_nil hdigits
      ((Nat.toDigits 10 decimal.digits).length + decimal.exponent)
    rw [hfirst] at hmagnitude ⊢
    rw [ofText?_digits negative hd, hmagnitude, natOfDigits_toDigits,
      ofDecimal_of_holds negative hpos htop hholds]

/-- The text of a finite double has no letters. -/
theorem lt_of_mem_plain {x : Double} (h : x.isFinite = true) {c : Char}
    (hc : c ∈ x.plain.toList) : c.toNat < 65 := by
  cases x with
  | nan => cases h
  | signed negative rank =>
    have htop := of_decide_eq_true h
    by_cases hzero : rank.val = 0
    · obtain rfl : rank = 0 := Fin.ext hzero
      have htext : (plain (signed negative 0)).toList = signChars negative ++ ['0'] := by
        cases negative <;> decide +kernel
      rw [htext] at hc
      rcases List.mem_append.1 hc with hsign | hdigit
      · exact lt_of_mem_signChars hsign
      · rw [List.mem_singleton.1 hdigit]
        decide
    have hdigits : ∀ d ∈ Nat.toDigits 10 (shortest .up rank.val).digits, isDigit d = true :=
      fun d => isDigit_of_mem_toDigits
    rw [toList_plain negative (Nat.pos_of_ne_zero hzero) htop] at hc
    rcases List.mem_append.1 hc with hsign | hchars
    · exact lt_of_mem_signChars hsign
    by_cases hexponent : 0 ≤ (shortest .up rank.val).exponent
    · rw [toList_writeOut_whole Nat.toDigits_ne_nil hexponent] at hchars
      rcases List.mem_append.1 hchars with hd | hzeros
      · exact lt_of_isDigit (hdigits c hd)
      · exact lt_of_isDigit (isDigit_of_mem_zeros hzeros)
    · obtain ⟨whole, places, hsplit, -, hwhole, hplaces, -⟩ :=
        exists_point_writeOut hdigits (Int.not_le.1 hexponent)
      rw [hsplit] at hchars
      rcases List.mem_append.1 hchars with hd | hrest
      · exact lt_of_isDigit (hwhole c hd)
      · rcases List.mem_cons.1 hrest with rfl | hd
        · decide
        · exact lt_of_isDigit (hplaces c hd)

theorem plain_injective {x y : Double} (h : x.plain = y.plain) : x = y := by
  have hx := ofText?_plain x
  rw [h, ofText?_plain y] at hx
  exact (Option.some.inj hx).symm

/-! ### Whole numbers -/

theorem toList_toString (n : Int) :
    (toString n).toList = signChars (decide (n < 0)) ++ Nat.toDigits 10 n.natAbs := by
  rw [Int.toString_eq_repr, Int.repr_eq_if]
  split
  · next h =>
    rw [Nat.toList_repr, decide_eq_false (Int.not_lt.2 h), show n.toNat = n.natAbs by omega]
    rfl
  · next h =>
    rw [String.toList_append, Nat.toList_repr, decide_eq_true (Int.not_le.1 h),
      show (-n).toNat = n.natAbs by omega]
    rfl

theorem lt_of_mem_toString {n : Int} {c : Char} (hc : c ∈ (toString n).toList) : c.toNat < 65 := by
  rw [toList_toString] at hc
  rcases List.mem_append.1 hc with hsign | hd
  · exact lt_of_mem_signChars hsign
  · exact lt_of_isDigit (isDigit_of_mem_toDigits hd)

/-- The text of a whole number is read as the double next to it. -/
theorem ofText?_toString (n : Int) : ofText? (toString n).toList = some (ofInt n) := by
  have hdigits : ∀ d ∈ Nat.toDigits 10 n.natAbs, isDigit d = true :=
    fun d => isDigit_of_mem_toDigits
  have hne : Nat.toDigits 10 n.natAbs ≠ [] := Nat.toDigits_ne_nil
  have hmagnitude := magnitudeOf?_digits (decide (n < 0)) hne hdigits
  obtain ⟨d, rest, hcons⟩ := List.exists_cons_of_ne_nil hne
  rw [natOfDigits_toDigits] at hmagnitude
  rw [toList_toString, hcons, ofText?_digits _ (hdigits d (hcons ▸ List.mem_cons_self)), ← hcons,
    hmagnitude]
  by_cases hzero : n = 0
  · subst hzero
    decide +kernel
  · have hpos : n.natAbs ≠ 0 := by omega
    unfold ofDecimal ofInt
    rw [if_neg hpos, if_neg (by decide), if_neg (by omega), if_pos (Int.le_refl 0), Int.toNat_zero,
      Nat.pow_eq, Nat.pow_zero, Nat.mul_one]

theorem toDigits_mul_pow {n : Nat} (hpos : 0 < n) (zeros : Nat) :
    Nat.toDigits 10 (n * 10 ^ zeros) = Nat.toDigits 10 n ++ List.replicate zeros '0' := by
  induction zeros with
  | zero => simp
  | succ zeros ih =>
      have hmore : 0 < n * 10 ^ zeros := Nat.mul_pos hpos (Nat.pow_pos (by decide))
      have hsplit := Nat.toDigits_append_toDigits (b := 10) (n := n * 10 ^ zeros) (d := 0)
        (by decide) hmore (by decide)
      rw [Nat.pow_succ, ← Nat.mul_assoc, Nat.mul_comm _ 10, ← Nat.add_zero (10 * _), ← hsplit, ih,
        List.replicate_succ', List.append_assoc]
      rfl

/-- Does a whole number have the text of **the double next to it**? -/
def keepsWhole (n : Int) : Bool :=
  n == 0 || (shortest .up (nearestRank (n.natAbs * unitsPerOne) 1).val).denotes n.natAbs

/-- Digits are those of a decimal written out if the decimal is their number. -/
theorem toDigits_eq_writeOut_iff {n : Nat} (hpos : 0 < n) (d : Decimal) :
    Nat.toDigits 10 n = (plainLayout.writeOut (Nat.toDigits 10 d.digits)
      ((Nat.toDigits 10 d.digits).length + d.exponent)).toList ↔ d.denotes n = true := by
  have hdigits : ∀ c ∈ Nat.toDigits 10 d.digits, isDigit c = true :=
    fun c => isDigit_of_mem_toDigits
  rw [Decimal.denotes_iff]
  by_cases h : 0 ≤ d.exponent
  · rw [toList_writeOut_whole Nat.toDigits_ne_nil h]
    constructor
    · intro heq
      have hnumber := congrArg natOfDigits heq
      rw [natOfDigits_append_zeros, natOfDigits_toDigits, natOfDigits_toDigits] at hnumber
      exact ⟨h, hnumber.symm⟩
    · rintro ⟨-, rfl⟩
      exact toDigits_mul_pow (Nat.pos_of_mul_pos_right hpos) _
  · -- a point is no digit
    obtain ⟨whole, places, hchars, -⟩ := exists_point_writeOut hdigits (Int.not_le.1 h)
    rw [hchars]
    refine iff_of_false (fun heq => ?_) (fun hd => h hd.1)
    have hpoint : '.' ∈ Nat.toDigits 10 n := by
      rw [heq]
      simp
    exact absurd (isDigit_of_mem_toDigits hpoint) (by decide)

/-- A whole number has the text of the double next to it if the shortest decimal of the double
is the whole number. -/
theorem toString_eq_plain_iff {n : Int} (h : (ofInt n).isFinite = true) :
    toString n = (ofInt n).plain ↔ keepsWhole n = true := by
  by_cases hzero : n = 0
  · subst hzero
    exact iff_of_true (by decide +kernel) rfl
  have hpos : 0 < n.natAbs := by omega
  have htop := of_decide_eq_true h
  have hrank : 0 < (nearestRank (n.natAbs * unitsPerOne) 1).val :=
    nearestRank_pos (Nat.mul_pos hpos unitsPerOne_pos)
  rw [← String.toList_inj, toList_toString, ofInt, toList_plain _ hrank htop,
    List.append_cancel_left_eq, toDigits_eq_writeOut_iff hpos, keepsWhole, beq_false_of_ne hzero,
    Bool.false_or]

/-- Whole numbers **up to `2 ^ 53`** have the texts of their doubles. -/
theorem keepsWhole_of_le {n : Int} (h : n.natAbs ≤ 2 ^ 53) : keepsWhole n = true := by
  by_cases hzero : n = 0
  · subst hzero
    rfl
  · unfold keepsWhole
    rw [denotes_shortest .up (by omega) h, Bool.or_true]

end Audience.Double
