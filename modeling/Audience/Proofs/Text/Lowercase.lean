import Audience.Text.Lowercase
import Mathlib.Data.List.Infix

/-!
**Lowercasing parts of a text**.

Every character of a text is lowercased on its own but for the capital sigma, whose lowercase form
depends on the letters around it.  So a part of a text is lowercased within the text as it is alone
if its sigmas end a word in the one just where they do in the other.  Only the sigmas at the ends of
the part can fail to, and only where the word goes on outside of it.

Main definitions:

* `Text.lowercaseWithin` — a part of a text in lowercase, given what stands before and after it;
* `Text.KeepsSigmas` — the sigmas of a part end a word within the text **just where they do alone**.

Main results:

* `Text.lowercaseFrom_append` — a text is lowercased part by part, each within the text;
* `Text.lowercaseWithin_eq_iff` — a part is lowercased alike in two texts just when its sigmas end
  a word alike;
* `Text.lowercase_prefix_iff`, `Text.lowercase_suffix_iff`, `Text.lowercase_infix_of_keepsSigmas` —
  the parts of a text that are found in it in lowercase;
* `Text.keepsSigmas_of_not_mem`, `Text.keepsSigmas_of_startsCased` — they do if there are none, or
  if the part is cut out between words;
* `Text.lowercase_eq_self` — a text with nothing from the letters on **stays as it is**.
-/

set_option relaxedAutoImplicit false
set_option autoImplicit false

namespace Audience.Text

/-! ### Words -/

theorem startsCased_cons (c : Char) (cs : List Char) :
    startsCased (c :: cs) = if isCaseIgnorable c then startsCased cs else isCased c := by
  unfold startsCased
  by_cases h : isCaseIgnorable c = true
  · rw [List.dropWhile_cons_of_pos h, if_pos h]
  · rw [List.dropWhile_cons_of_neg h, if_neg h]

theorem startsCased_append {cs ds : List Char} (h : startsCased ds = false) :
    startsCased (cs ++ ds) = startsCased cs := by
  induction cs with
  | nil => exact h
  | cons c cs ih => rw [List.cons_append, startsCased_cons, startsCased_cons, ih]

/-! ### Lowercasing within a text -/

/-- The lowercase form of a character with the given text before it, from its end, and after it. -/
def lowerIn (before after : List Char) (c : Char) : List Char :=
  if c = 'Σ' then (if endsWord before after then ['ς'] else ['σ']) else lowerChar c

/-- A part of a text in lowercase: what stands before it is given from its end. -/
def lowercaseWithin (before after : List Char) : List Char → List Char
  | [] => []
  | c :: rest => lowerIn before (rest ++ after) c ++ lowercaseWithin (c :: before) after rest

@[simp] theorem lowercaseWithin_nil (before after : List Char) :
    lowercaseWithin before after [] = [] := rfl

/-- A text is lowercased part by part, each within the text. -/
theorem lowercaseFrom_append (before cs ds : List Char) :
    lowercaseFrom before (cs ++ ds)
      = lowercaseWithin before ds cs ++ lowercaseFrom (cs.reverse ++ before) ds := by
  induction cs generalizing before with
  | nil => rfl
  | cons c cs ih =>
      rw [List.cons_append, lowercaseFrom, ih, lowercaseWithin, List.reverse_cons,
        List.append_assoc, List.append_assoc]
      rfl

theorem lowercaseWithin_nil_after (before cs : List Char) :
    lowercaseWithin before [] cs = lowercaseFrom before cs := by
  have h := lowercaseFrom_append before cs []
  rw [List.append_nil, lowercaseFrom_nil, List.append_nil] at h
  exact h.symm

theorem length_lowerIn (before before' after after' : List Char) (c : Char) :
    (lowerIn before after c).length = (lowerIn before' after' c).length := by
  unfold lowerIn
  split
  · split <;> split <;> rfl
  · rfl

theorem length_lowercaseWithin (before before' after after' cs : List Char) :
    (lowercaseWithin before after cs).length = (lowercaseWithin before' after' cs).length := by
  induction cs generalizing before before' with
  | nil => rfl
  | cons c cs ih =>
      rw [lowercaseWithin, lowercaseWithin, List.length_append, List.length_append,
        length_lowerIn before before' _ (cs ++ after'), ih (c :: before) (c :: before')]

/-! ### Sigmas -/

/-- The sigmas of a part of a text end a word **just where they do in the part alone**. -/
def KeepsSigmas (before cs after : List Char) : Prop :=
  ∀ left right, cs = left ++ 'Σ' :: right →
    endsWord (left.reverse ++ before) (right ++ after) = endsWord left.reverse right

theorem lowerIn_eq_iff {left right left' right' : List Char} {c : Char} :
    lowerIn left right c = lowerIn left' right' c ↔
      (c = 'Σ' → endsWord left right = endsWord left' right') := by
  unfold lowerIn
  by_cases hc : c = 'Σ'
  · cases endsWord left right <;> cases endsWord left' right' <;> simp [hc]
  · simp [hc]

/-- What is said of every sigma of a text is said of the first character and of the sigmas after
it. -/
theorem forall_sigma_cons {c : Char} {cs : List Char} {motive : List Char → List Char → Prop} :
    (∀ left right, c :: cs = left ++ 'Σ' :: right → motive left right) ↔
      (c = 'Σ' → motive [] cs) ∧
        ∀ left right, cs = left ++ 'Σ' :: right → motive (c :: left) right := by
  constructor
  · intro h
    refine ⟨?_, ?_⟩
    · rintro rfl
      exact h [] cs rfl
    · rintro left right rfl
      exact h (c :: left) right rfl
  · rintro ⟨hfirst, hrest⟩ left right hcs
    cases left with
    | nil =>
        obtain ⟨rfl, rfl⟩ := List.cons.inj hcs
        exact hfirst rfl
    | cons d left =>
        obtain ⟨rfl, rfl⟩ := List.cons.inj hcs
        exact hrest left right rfl

/-- A part is lowercased alike in two texts just when its sigmas end a word alike. -/
theorem lowercaseWithin_eq_iff {before before' after after' cs : List Char} :
    lowercaseWithin before after cs = lowercaseWithin before' after' cs ↔
      ∀ left right, cs = left ++ 'Σ' :: right →
        endsWord (left.reverse ++ before) (right ++ after)
          = endsWord (left.reverse ++ before') (right ++ after') := by
  induction cs generalizing before before' with
  | nil => simp
  | cons c cs ih =>
      have hlength := length_lowerIn before before' (cs ++ after) (cs ++ after') c
      have hsplit :
          lowercaseWithin before after (c :: cs) = lowercaseWithin before' after' (c :: cs) ↔
            lowerIn before (cs ++ after) c = lowerIn before' (cs ++ after') c ∧
              lowercaseWithin (c :: before) after cs = lowercaseWithin (c :: before') after' cs :=
        ⟨fun h => List.append_inj h hlength, fun h => congrArg₂ _ h.1 h.2⟩
      rw [hsplit, ih, lowerIn_eq_iff, forall_sigma_cons]
      simp only [List.reverse_cons, List.reverse_nil, List.nil_append, List.append_assoc,
        List.singleton_append]

theorem keepsSigmas_iff {before cs after : List Char} :
    KeepsSigmas before cs after ↔ lowercaseWithin before after cs = lowercaseFrom [] cs := by
  rw [← lowercaseWithin_nil_after, lowercaseWithin_eq_iff]
  simp only [KeepsSigmas, List.append_nil]

theorem keepsSigmas_of_not_mem {before cs after : List Char} (h : 'Σ' ∉ cs) :
    KeepsSigmas before cs after := by
  rintro left right rfl
  exact absurd (List.mem_append_right left List.mem_cons_self) h

/-- A part that is cut out between words keeps its sigmas. -/
theorem keepsSigmas_of_startsCased {before cs after : List Char}
    (hbefore : startsCased before = false) (hafter : startsCased after = false) :
    KeepsSigmas before cs after := by
  intro left right _
  rw [endsWord, endsWord, startsCased_append hbefore, startsCased_append hafter]

/-! ### Parts found in lowercase -/

variable {before cs after : List Char}

/-- The start of a text is found in lowercase just when it keeps its sigmas. -/
theorem lowercase_prefix_iff :
    lowercaseFrom [] cs <+: lowercaseFrom [] (cs ++ after) ↔ KeepsSigmas [] cs after := by
  rw [keepsSigmas_iff, lowercaseFrom_append]
  constructor
  · rintro ⟨rest, hrest⟩
    have hlength : (lowercaseFrom [] cs).length = (lowercaseWithin [] after cs).length := by
      rw [← lowercaseWithin_nil_after, length_lowercaseWithin]
    exact (List.append_inj hrest hlength).1.symm
  · intro h
    rw [h]
    exact List.prefix_append _ _

/-- The end of a text is found in lowercase just when it keeps its sigmas. -/
theorem lowercase_suffix_iff :
    lowercaseFrom [] cs <:+ lowercaseFrom [] (before ++ cs) ↔ KeepsSigmas before.reverse cs [] := by
  rw [keepsSigmas_iff, lowercaseFrom_append, List.append_nil, lowercaseWithin_nil_after]
  constructor
  · rintro ⟨rest, hrest⟩
    have hlength : (lowercaseFrom [] cs).length = (lowercaseFrom before.reverse cs).length := by
      rw [← lowercaseWithin_nil_after, ← lowercaseWithin_nil_after, length_lowercaseWithin]
    exact (List.append_inj' hrest hlength).2.symm
  · intro h
    rw [h]
    exact List.suffix_append _ _

/-- A part of a text that keeps its sigmas is found in lowercase. -/
theorem lowercase_infix_of_keepsSigmas (h : KeepsSigmas before.reverse cs after) :
    lowercaseFrom [] cs <:+: lowercaseFrom [] (before ++ cs ++ after) := by
  rw [List.append_assoc, lowercaseFrom_append, lowercaseFrom_append, List.append_nil,
    keepsSigmas_iff.1 h]
  exact ⟨_, _, List.append_assoc ..⟩

/-! ### Texts without letters -/

theorem lowerChar_of_lt {c : Char} (h : c.toNat < 65) : lowerChar c = [c] := by
  have hletters : ∀ range ∈ lowerRanges, 65 ≤ range.first := by decide +kernel
  have hnone : lowerRanges.find? (·.contains c.toNat) = none := by
    refine List.find?_eq_none.2 fun range hrange hcontains => ?_
    have hfirst := hletters range hrange
    simp only [CaseRange.contains, Bool.and_eq_true, decide_eq_true_eq] at hcontains
    omega
  have hdotted : c ≠ 'İ' := by
    rintro rfl
    exact absurd h (by decide)
  rw [lowerChar, if_neg hdotted, hnone]

/-- A text of which **nothing comes after the digits and signs** stays as it is. -/
theorem lowercase_eq_self {s : String} (h : ∀ c ∈ s.toList, c.toNat < 65) : lowercase s = s := by
  have hchars : ∀ before cs, (∀ c ∈ cs, c.toNat < 65) → lowercaseFrom before cs = cs := by
    intro before cs hcs
    induction cs generalizing before with
    | nil => rfl
    | cons c cs ih =>
        obtain ⟨hc, hrest⟩ := List.forall_mem_cons.1 hcs
        have hsigma : c ≠ 'Σ' := by
          rintro rfl
          exact absurd hc (by decide)
        rw [lowercaseFrom, if_neg hsigma, lowerChar_of_lt hc, ih _ hrest, List.singleton_append]
  rw [lowercase, hchars [] _ h, String.ofList_toList]

end Audience.Text
