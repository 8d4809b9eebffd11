import Audience.Text.Search
import Mathlib.Data.List.Infix

/-!
**What a search finds**: texts in texts, and the parts between separators.

Main results:

* `Text.startsWith_iff`, `Text.endsWith_iff`, `Text.contains_iff` — a text is found where its
  characters stand;
* `Text.splitAll_append` — a text is parted at the first separator.
-/

set_option relaxedAutoImplicit false
set_option autoImplicit false

namespace Audience.Text

/-! ### Texts in texts -/

variable {s part : String}

theorem holds_iff {part text : List Char} : holds part text = true ↔ part <:+: text := by
  induction text with
  | nil => simp [holds, List.isEmpty_iff]
  | cons c cs ih =>
      rw [holds, Bool.or_eq_true, ih, List.isPrefixOf_iff_prefix, List.infix_cons_iff]

theorem startsWith_iff : startsWith s part = true ↔ part.toList <+: s.toList :=
  List.isPrefixOf_iff_prefix

theorem endsWith_iff : endsWith s part = true ↔ part.toList <:+ s.toList :=
  List.isSuffixOf_iff_suffix

theorem contains_iff : contains s part = true ↔ part.toList <:+: s.toList := holds_iff

/-! ### Parts between separators -/

theorem splitAll_of_not_mem {separator : Char} {cs : List Char} (h : separator ∉ cs) :
    splitAll separator cs = [cs] := by
  induction cs with
  | nil => rfl
  | cons c cs ih =>
      obtain ⟨hc, hcs⟩ := not_or.1 (mt List.mem_cons.2 h)
      rw [splitAll, if_neg (Ne.symm hc), ih hcs]

/-- A text is **parted at the first separator**. -/
theorem splitAll_append {separator : Char} {cs : List Char} (h : separator ∉ cs)
    (rest : List Char) :
    splitAll separator (cs ++ separator :: rest) = cs :: splitAll separator rest := by
  induction cs with
  | nil => rw [List.nil_append, splitAll, if_pos rfl]
  | cons c cs ih =>
      obtain ⟨hc, hcs⟩ := not_or.1 (mt List.mem_cons.2 h)
      rw [List.cons_append, splitAll, if_neg (Ne.symm hc), ih hcs]

end Audience.Text
