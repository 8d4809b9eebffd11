import Audience.Proofs.Predicate.Agreement

/-!
**What comparisons come to**.

A comparison reads both sides, and what it comes to depends on the two readings alone: texts are
matched with each other, and numbers and instants by their ordering.

Main definitions:

* `Operator.compareReadings` — the comparison by the ordering of two readings.

Main results:

* `Condition.holds_text`, `Condition.holds_numbers` — what a condition comes to on texts and
  on numbers;
* `Operator.compare_numeric`, `Operator.compare_date` — numbers and instants are compared by their
  ordering;
* `Operator.settled_compareReadings_of_missing`, `Operator.settled_compareReadings_some` — what that
  comes to if a side **cannot be read** or **denotes nothing**, and otherwise.
-/

set_option relaxedAutoImplicit false
set_option autoImplicit false

namespace Audience

/-- A condition comes to the comparison of two texts in lowercase. -/
theorem Condition.holds_text {c : Condition} {record : Record} {value : Json} {s t : String}
    (hvalue : record.get? c.field = some value) (hs : value.folded = .ok s)
    (ht : c.value.folded = .ok t) (hop : c.operator.kind = .text) :
    (c.evaluate record).holds = c.operator.matchesText s t := by
  rw [evaluate, holds_conclude, outcome, hvalue]
  unfold Operator.compare
  rw [hop]
  dsimp only
  rw [hs, ht]
  rfl

namespace Operator

/-- The comparison by the **ordering of two readings**, which numbers and instants share. -/
def compareReadings {α : Type} (op : Operator) (order : α → α → Option Ordering)
    (actual expected : Except Uncoercible (Option α)) : Except AnomalyKind Bool := do
  let actual ← orAnomaly actual
  let expected ← orAnomaly expected
  return op.matchesOrdering (orderingOf? order actual expected)

variable {op : Operator}

theorem compare_numeric (h : op.kind = .numeric) (operand : Operand) (value : Json) :
    op.compare operand value
      = op.compareReadings Double.compare? value.number operand.number? := by
  unfold compare
  rw [h]
  rfl

theorem compare_date (h : op.kind = .date) (operand : Operand) (value : Json) :
    op.compare operand value = op.compareReadings Instant.compare? value.date operand.date? := by
  unfold compare
  rw [h]
  rfl

variable {α : Type} {order : α → α → Option Ordering}
  {actual expected : Except Uncoercible (Option α)}

/-- A comparison of readings holds if a side cannot be read, and does not if one denotes
nothing. -/
theorem settled_compareReadings_of_missing :
    ((∃ cause, actual = .error cause) ∨ (∃ cause, expected = .error cause) →
        settled (op.compareReadings order actual expected) = true) ∧
      ∀ a e, actual = .ok a → expected = .ok e → a = none ∨ e = none →
        settled (op.compareReadings order actual expected) = false := by
  constructor
  · rintro (⟨cause, rfl⟩ | ⟨cause, rfl⟩)
    · rfl
    · cases actual <;> rfl
  · rintro a e rfl rfl (rfl | rfl)
    · rfl
    · cases a <;> rfl

theorem settled_compareReadings_some (a e : α) :
    settled (op.compareReadings order (.ok (some a)) (.ok (some e)))
      = op.matchesOrdering (order a e) :=
  rfl

end Operator

/-- A condition on two numbers comes to their ordering. -/
theorem Condition.holds_numbers {c : Condition} {record : Record} {value : Json} {x y : Double}
    (hvalue : record.get? c.field = some value) (hx : value.number = .ok (some x))
    (hy : c.value.number? = .ok (some y)) (hop : c.operator.kind = .numeric) :
    (c.evaluate record).holds = c.operator.matchesOrdering (x.compare? y) := by
  rw [evaluate, holds_conclude, outcome, hvalue]
  dsimp only
  rw [Operator.compare_numeric hop, hx, hy, Operator.settled_compareReadings_some]

end Audience
