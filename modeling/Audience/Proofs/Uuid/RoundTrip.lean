import Audience.Uuid
import Mathlib.Data.List.Basic

/-!
**Identifiers are read back from their texts**.

An identifier is written in one of the four notations that are understood.  Its text has thirty-six
characters and begins with a digit, which tells it from the other three; and leaving out the hyphens
again gives the digits that it was written in.

Main results:

* `Uuid.ofDigits?_digits` — digits that have been written are read back;
* `Uuid.ofHyphenated?_hyphenate` — the hyphens are left out where they have been put in;
* `Uuid.ofText?_write` — **every identifier is read back from its text**.
-/

set_option relaxedAutoImplicit false
set_option autoImplicit false

namespace Audience.Uuid

/-! ### Digits -/

@[simp] theorem digit?_digitChar (d : Fin 16) : digit? (digitChar d) = some d := by
  revert d
  decide

/-- Digits that have been written are read back. -/
theorem ofDigits?_digits (u : Uuid) : ofDigits? (u.digits.map digitChar) = some u := by
  have hdigits : (u.digits.map digitChar).mapM digit? = some u.digits := by
    induction u.digits with
    | nil => rfl
    | cons d ds ih => simp [ih]
  rw [ofDigits?, hdigits]
  exact dif_pos u.length_eq

/-! ### Hyphens -/

theorem ofHyphenated?_groups {a b c d e : List Char} (ha : a.length = 8) (hb : b.length = 4)
    (hc : c.length = 4) (hd : d.length = 4) (he : e.length = 12) :
    ofHyphenated? (a ++ '-' :: b ++ '-' :: c ++ '-' :: d ++ '-' :: e)
      = ofDigits? (a ++ b ++ c ++ d ++ e) := by
  rw [ofHyphenated?, if_pos]
  · simp (disch := omega) [List.drop_append, List.drop_of_length_le, ha, hb, hc, hd]
  · simp [ha, hb, hc, hd, he]

theorem ofHyphenated?_hyphenate {cs : List Char} (h : cs.length = 32) :
    ofHyphenated? (hyphenate cs) = ofDigits? cs := by
  have hgroup : ∀ n k, (cs.drop n).take k ++ cs.drop (n + k) = cs.drop n := by
    intro n k
    rw [← List.drop_drop, List.take_append_drop]
  rw [hyphenate, ofHyphenated?_groups (by simp [h]) (by simp [h]) (by simp [h]) (by simp [h])
    (by simp [h])]
  congr 1
  calc cs.take 8 ++ (cs.drop 8).take 4 ++ (cs.drop 12).take 4 ++ (cs.drop 16).take 4 ++ cs.drop 20
      = cs.take 8 ++ (cs.drop 8).take 4 ++ (cs.drop 12).take 4 ++ cs.drop 16 := by
        rw [List.append_assoc _ _ (cs.drop 20), hgroup 16 4]
    _ = cs.take 8 ++ (cs.drop 8).take 4 ++ cs.drop 12 := by
        rw [List.append_assoc _ _ (cs.drop 16), hgroup 12 4]
    _ = cs.take 8 ++ cs.drop 8 := by rw [List.append_assoc, hgroup 8 4]
    _ = cs := List.take_append_drop 8 cs

/-! ### Texts -/

theorem digitChar_ne (d : Fin 16) : digitChar d ≠ '\x7b' ∧ (digitChar d).toLower ≠ 'u' := by
  revert d
  decide

theorem scheme_eq : scheme = ['u', 'r', 'n', ':', 'u', 'u', 'i', 'd', ':'] := by decide

/-- **Every identifier is read back from its text.** -/
theorem ofText?_write (u : Uuid) : ofText? u.write = some u := by
  have hlength : (u.digits.map digitChar).length = 32 := by rw [List.length_map, u.length_eq]
  have hread := (ofHyphenated?_hyphenate hlength).trans u.ofDigits?_digits
  have hlong : (hyphenate (u.digits.map digitChar)).length = 36 := by
    simp [hyphenate, hlength]
  -- what the other notations are told by is the first character
  obtain ⟨d, rest, hhead⟩ : ∃ d rest, hyphenate (u.digits.map digitChar) = digitChar d :: rest := by
    cases hdigits : u.digits with
    | nil => simp [hdigits] at hlength
    | cons d ds => exact ⟨d, _, rfl⟩
  obtain ⟨hbrace, hscheme⟩ := digitChar_ne d
  rw [write, ofText?, String.toList_ofList]
  rw [hhead] at hread hlong ⊢
  rw [if_neg (by rw [hlong]; decide), if_neg (by simp [scheme_eq, hscheme])]
  split
  · next heq => exact absurd (List.cons.inj heq).1 hbrace
  · exact hread

end Audience.Uuid
