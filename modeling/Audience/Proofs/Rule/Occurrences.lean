import Audience.Proofs.Rule.Comparison
import Audience.Proofs.Text.Lowercase
import Audience.Proofs.Text.Search

/-!
**Literal occurrences** of operands in texts.

Texts are compared in lowercase, which is meant to let more of them match.  It also lets fewer of
them match: an operand is lowercased alone and the text of a record as a whole, and a sigma at the
end of the operand ends a word in the one and need not in the other.  Then an operand that stands in
the text letter by letter is not found there.

Main results:

* `literal_occurrences_hold` — **an operand that occurs in a text is found** if it keeps its sigmas
  there, and at the start and at the end only then;
* `odysseus_hidden` — a name that does not start with its first four letters.
-/

set_option relaxedAutoImplicit false
set_option autoImplicit false

namespace Audience

open Text

variable {record : Record} {c : Condition} {s t : String}

/-- **Which occurrences of an operand are found.**  A text equals itself.  At the start and at the
end of a text an operand is found just when it keeps its sigmas there, and anywhere in it if it
does.  It does if it has none, and if it is not part of a longer word. -/
theorem literal_occurrences_hold (hs : record.get? c.field = some (.string s))
    (ht : c.value = .text t) :
    let holds := (c.evaluate record).holds
    (c.operator = .equals → s = t → holds = true) ∧
      (c.operator = .startsWith → ∀ after, s.toList = t.toList ++ after →
        (holds = true ↔ KeepsSigmas [] t.toList after)) ∧
      (c.operator = .endsWith → ∀ before, s.toList = before ++ t.toList →
        (holds = true ↔ KeepsSigmas before.reverse t.toList [])) ∧
      (c.operator = .contains → ∀ before after, s.toList = before ++ t.toList ++ after →
        KeepsSigmas before.reverse t.toList after → holds = true) ∧
      ∀ before after, 'Σ' ∉ t.toList ∨ startsCased before = false ∧ startsCased after = false →
        KeepsSigmas before t.toList after := by
  intro holds
  have hholds : c.operator.kind = .text →
      holds = c.operator.matchesText (lowercase s) (lowercase t) :=
    Condition.holds_text hs rfl (ht ▸ rfl)
  refine ⟨?_, ?_, ?_, ?_, ?_⟩
  · rintro hop rfl
    rw [hholds (by rw [hop]; rfl), hop, Operator.matchesText, beq_self_eq_true]
  · intro hop after hafter
    rw [hholds (by rw [hop]; rfl), hop, Operator.matchesText, startsWith_iff, lowercase, lowercase,
      String.toList_ofList, String.toList_ofList, hafter]
    exact lowercase_prefix_iff
  · intro hop before hbefore
    rw [hholds (by rw [hop]; rfl), hop, Operator.matchesText, endsWith_iff, lowercase, lowercase,
      String.toList_ofList, String.toList_ofList, hbefore]
    exact lowercase_suffix_iff
  · intro hop before after hparts hkeeps
    rw [hholds (by rw [hop]; rfl), hop, Operator.matchesText, contains_iff, lowercase, lowercase,
      String.toList_ofList, String.toList_ofList, hparts]
    exact lowercase_infix_of_keepsSigmas hkeeps
  · rintro before after (hnone | ⟨hbefore, hafter⟩)
    · exact keepsSigmas_of_not_mem hnone
    · exact keepsSigmas_of_startsCased hbefore hafter

/-- A full name starts with its first name, sigmas and all. -/
theorem odysseus_found :
    let record : Record := ⟨[("name", .string "ΟΔΥΣΣΕΥΣ ΛΑΕΡΤΙΑΔΗΣ")]⟩
    let c : Condition := ⟨"c1", "name", .startsWith, .text "ΟΔΥΣΣΕΥΣ"⟩
    record.get? c.field = some (.string "ΟΔΥΣΣΕΥΣ ΛΑΕΡΤΙΑΔΗΣ") ∧
      KeepsSigmas [] "ΟΔΥΣΣΕΥΣ".toList " ΛΑΕΡΤΙΑΔΗΣ".toList ∧
      (c.evaluate record).holds = true := by
  intro record c
  have hs : record.get? c.field = some (.string "ΟΔΥΣΣΕΥΣ ΛΑΕΡΤΙΑΔΗΣ") := by decide
  obtain ⟨-, hstart, -, -, hkeeps⟩ := literal_occurrences_hold hs (t := "ΟΔΥΣΣΕΥΣ") rfl
  have hword : KeepsSigmas [] "ΟΔΥΣΣΕΥΣ".toList " ΛΑΕΡΤΙΑΔΗΣ".toList :=
    hkeeps _ _ (.inr (by decide +kernel))
  exact ⟨hs, hword, (hstart rfl _ (by decide)).2 hword⟩

/-- **Lowercasing can hide an occurrence**: a name does not start with its first four letters, does
not hold them, and does not end with its last one, although they are there letter by letter. -/
theorem odysseus_hidden :
    let record : Record := ⟨[("name", .string "ΟΔΥΣΣΕΥΣ")]⟩
    let holds (op : Operator) (t : String) : Bool :=
      (Condition.evaluate record ⟨"c1", "name", op, .text t⟩).holds
    "ΟΔΥΣ".toList <+: "ΟΔΥΣΣΕΥΣ".toList ∧ holds .startsWith "ΟΔΥΣ" = false ∧
      "ΟΔΥΣ".toList <:+: "ΟΔΥΣΣΕΥΣ".toList ∧ holds .contains "ΟΔΥΣ" = false ∧
      "Σ".toList <:+ "ΟΔΥΣΣΕΥΣ".toList ∧ holds .endsWith "Σ" = false := by
  intro record holds
  refine ⟨by decide, ?_, by decide, ?_, by decide, ?_⟩
  all_goals decide +kernel

end Audience
