import Audience.Text.Blank
import Mathlib.Data.List.DropRight

/-!
**Trimmed texts** have no white space at their ends to trim off.

Main definitions:

* `Text.Pads` — is one text another one with white space around it?

Main results:

* `Text.trimStart_trimEnd_trimStart` — what is trimmed at the end keeps its start;
* `Text.trim_trim` — trimming twice is trimming once;
* `Text.Pads.trim_eq` — white space around a text is trimmed off again;
* `Text.trim_ofList` — a text whose ends are not blank is left as it is;
* `Text.isEmpty_trim` — nothing is left of a text just when it is **blank**.
-/

set_option relaxedAutoImplicit false
set_option autoImplicit false

namespace Audience.Text

theorem trimEnd_eq_rdropWhile (cs : List Char) : trimEnd cs = cs.rdropWhile isBlank := rfl

/-- Trimming at the end leaves a text with no white space at its start so. -/
theorem trimStart_trimEnd_trimStart (cs : List Char) :
    trimStart (trimEnd (trimStart cs)) = trimEnd (trimStart cs) := by
  obtain ⟨rest, hrest⟩ : trimEnd (trimStart cs) <+: trimStart cs :=
    List.rdropWhile_prefix isBlank _
  cases hend : trimEnd (trimStart cs) with
  | nil => rfl
  | cons c kept =>
      -- the first character is the same as before, and it was not blank
      rw [hend] at hrest
      have hhead : isBlank c = false := by
        have hfirst := List.head?_dropWhile_not isBlank cs
        rwa [← trimStart, ← hrest] at hfirst
      rw [trimStart, List.dropWhile_cons_of_neg (by simp [hhead])]

theorem trim_trim (s : String) : trim (trim s) = trim s := by
  rw [trim, trim, String.toList_ofList, trimStart_trimEnd_trimStart, trimEnd_eq_rdropWhile,
    trimEnd_eq_rdropWhile, List.rdropWhile_idempotent]

theorem trimEnd_append {blanks : List Char} (h : ∀ c ∈ blanks, isBlank c = true) (cs : List Char) :
    trimEnd (cs ++ blanks) = trimEnd cs := by
  rw [trimEnd, trimEnd, trimStart, trimStart, List.reverse_append,
    List.dropWhile_append_of_pos (by simpa using h)]

/-- The text `s` is the text `t` with **white space around it**. -/
def Pads (t s : String) : Prop :=
  ∃ before after : String, isBlankText before = true ∧ isBlankText after = true ∧
    s = before ++ t ++ after

theorem Pads.trim_eq {t s : String} (h : Pads t s) : trim s = trim t := by
  obtain ⟨before, after, hbefore, hafter, rfl⟩ := h
  have hstart : trimStart (before ++ t ++ after).toList = trimStart (t.toList ++ after.toList) := by
    rw [String.toList_append, String.toList_append, List.append_assoc, trimStart,
      List.dropWhile_append_of_pos (List.all_eq_true.1 hbefore), trimStart]
  have hend : trimEnd (trimStart (t.toList ++ after.toList)) = trimEnd (trimStart t.toList) := by
    rw [trimStart, List.dropWhile_append]
    split
    · next hnil =>
      -- nothing else is left of the text
      have hall : after.toList.dropWhile isBlank = [] :=
        List.dropWhile_eq_nil_iff.2 (List.all_eq_true.1 hafter)
      rw [hall, trimStart, List.isEmpty_iff.1 hnil]
    · exact trimEnd_append (List.all_eq_true.1 hafter) _
  rw [trim, trim, hstart, hend]

theorem Pads.not_mem {t s : String} (h : Pads t s) {c : Char} (hc : isBlank c = false)
    (ht : c ∉ t.toList) : c ∉ s.toList := by
  obtain ⟨before, after, hbefore, hafter, rfl⟩ := h
  have hnone : ∀ blanks : String, isBlankText blanks = true → c ∉ blanks.toList := by
    intro blanks hblanks hmem
    exact absurd (List.all_eq_true.1 hblanks c hmem) (by simp [hc])
  simp [hnone before hbefore, hnone after hafter, ht]

/-- A text whose ends are not blank is left as it is. -/
theorem trim_ofList {cs : List Char} (hfirst : ∀ c ∈ cs.head?, isBlank c = false)
    (hlast : ∀ c ∈ cs.getLast?, isBlank c = false) :
    trim (String.ofList cs) = String.ofList cs := by
  have hstart : trimStart cs = cs := by
    cases cs with
    | nil => rfl
    | cons c cs => rw [trimStart, List.dropWhile_cons_of_neg (by simp [hfirst c rfl])]
  have hend : trimEnd cs = cs := by
    rw [trimEnd_eq_rdropWhile, List.rdropWhile_eq_self_iff]
    intro hne
    simp [hlast _ (List.getLast?_eq_some_getLast hne)]
  rw [trim, String.toList_ofList, hstart, hend]

/-- Nothing is left of a text just when it is **blank**. -/
theorem isEmpty_trim (s : String) : (trim s).isEmpty = isBlankText s := by
  have hnil : trimEnd (trimStart s.toList) = [] ↔ ∀ c ∈ s.toList, isBlank c = true := by
    rw [trimEnd_eq_rdropWhile, List.rdropWhile_eq_nil_iff, trimStart]
    constructor
    · intro hrest
      -- what is left begins with a character that is not blank, so nothing is
      cases hleft : s.toList.dropWhile isBlank with
      | nil => exact List.dropWhile_eq_nil_iff.1 hleft
      | cons c rest =>
          have hhead := List.head?_dropWhile_not isBlank s.toList
          rw [hleft] at hhead hrest
          simp [hrest c List.mem_cons_self] at hhead
    · intro hall c hc
      exact hall c (List.dropWhile_subset _ hc)
  rw [Bool.eq_iff_iff, isBlankText, List.all_eq_true, ← hnil, trim]
  simp

end Audience.Text
