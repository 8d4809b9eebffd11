import Audience.Calendar.Reader

/-!
**Numbers in digits** are read back as they were written.

A number is written in decimal digits, possibly filled up with zeros, and read as far as its
digits go.  It is read back if no other digit follows, or if no more digits are looked for.

Main results:

* `Double.natOfDigits_toDigits`, `Date.natOfDigits_padded` — digits denote the number that was
  written in them;
* `Calendar.number?_append` — digits are read up to the text after them;
* `Calendar.pair?_padded` — **a number of two digits is read back**.
-/

set_option relaxedAutoImplicit false
set_option autoImplicit false

namespace Audience

/-! ### Digits -/

namespace Double

theorem natOfDigits_eq_ofDigitChars (ds : List Char) :
    natOfDigits ds = Nat.ofDigitChars 10 ds 0 := rfl

@[simp] theorem natOfDigits_toDigits (n : Nat) : natOfDigits (Nat.toDigits 10 n) = n := by
  rw [natOfDigits_eq_ofDigitChars, Nat.ofDigitChars_ten_toDigits]

theorem isDigit_iff {c : Char} : isDigit c = true ↔ 48 ≤ c.toNat ∧ c.toNat ≤ 57 := by
  simp [isDigit, Char.le_def, UInt32.le_iff_toNat_le]

theorem isDigit_of_mem_toDigits {n : Nat} {c : Char} (h : c ∈ Nat.toDigits 10 n) :
    isDigit c = true := by
  have hc := Nat.isDigit_of_mem_toDigits (by omega) (by omega) h
  rw [isDigit_iff]
  simpa [Char.isDigit, UInt32.le_iff_toNat_le] using hc

end Double

theorem Text.isBlank_of_isDigit {c : Char} (h : Double.isDigit c = true) :
    Text.isBlank c = false := by
  obtain ⟨hl, hu⟩ := Double.isDigit_iff.1 h
  simp [Text.isBlank]
  omega

@[simp] theorem Text.trimStart_cons {c : Char} (h : Text.isBlank c = false) (cs : List Char) :
    Text.trimStart (c :: cs) = c :: cs := by
  rw [trimStart, List.dropWhile_cons_of_neg (by simp [h])]

/-! ### Numbers filled up with zeros -/

namespace Date

@[simp] theorem natOfDigits_padded (width n : Nat) : Double.natOfDigits (padded width n) = n := by
  rw [padded, Double.natOfDigits_eq_ofDigitChars, Nat.ofDigitChars_append,
    Nat.ofDigitChars_replicate_zero, Nat.mul_zero, Nat.ofDigitChars_ten_toDigits]

theorem isDigit_of_mem_padded {width n : Nat} {c : Char} (h : c ∈ padded width n) :
    Double.isDigit c = true := by
  rcases List.mem_append.1 h with h | h
  · rw [List.eq_of_mem_replicate h]
    decide
  · exact Double.isDigit_of_mem_toDigits h

theorem le_length_padded (width n : Nat) : width ≤ (padded width n).length := by
  simp only [padded, List.length_append, List.length_replicate]
  omega

theorem length_padded (width : Nat) {n : Nat} (h : n < Nat.pow 10 width) (hw : 0 < width) :
    (padded width n).length = width := by
  have hl := (Nat.length_toDigits_le_iff (by omega) hw).2 h
  simp only [padded, List.length_append, List.length_replicate]
  omega

theorem padded_eq_cons (width n : Nat) (hw : 0 < width) :
    ∃ c cs, padded width n = c :: cs ∧ Double.isDigit c = true := by
  cases hp : padded width n with
  | nil =>
      have hl := le_length_padded width n
      rw [hp, List.length_nil] at hl
      omega
  | cons c cs => exact ⟨c, cs, rfl, isDigit_of_mem_padded (by rw [hp]; exact List.mem_cons_self)⟩

theorem trimStart_padded {width : Nat} (n : Nat) (hw : 0 < width) (rest : List Char) :
    Text.trimStart (padded width n ++ rest) = padded width n ++ rest := by
  obtain ⟨c, cs, hp, hc⟩ := padded_eq_cons width n hw
  rw [hp, List.cons_append, Text.trimStart_cons (Text.isBlank_of_isDigit hc)]

end Date

/-! ### Reading numbers -/

namespace Calendar

/-- The digits at the start of a text are found if they are all that is looked for, or no digit
follows them. -/
theorem takeWhile_take_append {ds rest : List Char} {most : Nat}
    (hd : ∀ d ∈ ds, Double.isDigit d = true) (hl : ds.length ≤ most)
    (hr : ds.length = most ∨ ∀ c ∈ rest.head?, Double.isDigit c = false) :
    ((ds ++ rest).take most).takeWhile Double.isDigit = ds := by
  rw [List.take_append, List.take_of_length_le hl, List.takeWhile_append_of_pos hd]
  suffices h : (rest.take (most - ds.length)).takeWhile Double.isDigit = [] by
    rw [h, List.append_nil]
  rcases hr with hr | hr
  · rw [hr, Nat.sub_self, List.take_zero, List.takeWhile_nil]
  · cases rest with
    | nil => rw [List.take_nil, List.takeWhile_nil]
    | cons c cs =>
        cases most - ds.length with
        | zero => rfl
        | succ k => rw [List.take_succ_cons, List.takeWhile_cons_of_neg (by simp [hr c rfl])]

/-- Digits are read up to the text after them. -/
theorem number?_append {ds rest : List Char} {least most : Nat}
    (hd : ∀ d ∈ ds, Double.isDigit d = true) (hl : least ≤ ds.length) (hm : ds.length ≤ most)
    (hr : ds.length = most ∨ ∀ c ∈ rest.head?, Double.isDigit c = false) :
    number? least most (ds ++ rest) = some (Double.natOfDigits ds, rest) := by
  rw [number?, takeWhile_take_append hd hm hr, if_neg (by omega), List.drop_left]

theorem number?_padded {width n least most : Nat} {rest : List Char} (hl : least ≤ width)
    (hm : (Date.padded width n).length ≤ most)
    (hr : (Date.padded width n).length = most ∨ ∀ c ∈ rest.head?, Double.isDigit c = false) :
    number? least most (Date.padded width n ++ rest) = some (n, rest) := by
  have hw := Date.le_length_padded width n
  rw [number?_append (fun d => Date.isDigit_of_mem_padded) (by omega) hm hr,
    Date.natOfDigits_padded]

/-- **A number of two digits is read back**. -/
theorem pair?_padded {n : Nat} (h : n < 100) (rest : List Char) :
    pair? (Date.padded 2 n ++ rest) = some (n, rest) := by
  have hl := Date.length_padded 2 h (by omega)
  rw [pair?, Date.trimStart_padded n (by omega)]
  exact number?_padded (by omega) (by omega) (Or.inl hl)

end Calendar

end Audience
