import Audience.Proofs.Calendar.Order
import Audience.Proofs.Double.Exceptional
import Audience.Proofs.Rule.Comparison
import Audience.Proofs.Rule.Number
import Audience.Proofs.Text.Blank
import Audience.Proofs.Text.Search

/-!
**Comparisons fit together**.

The comparisons of numbers divide up what two sides can be.  Where a side cannot be read as a number
at all they all hold; where a side denotes no number none does; and otherwise the numbers have one
of three orderings, and of below, above and neither just one holds.  Instants are compared in the
same way, and a range is what is neither before its start nor after its end, whichever of its two
notations it is written in.

Main results:

* `Operator.matchesOrdering_partition` — of below, above and neither just one fits an ordering;
* `Operand.bounds?_pair` — the ends of a range written as one text;
* `Operator.settled_compare_partition` — and so just one of the comparisons of two numbers holds;
* `Operator.settled_between_iff` — a range is what is neither before nor after it;
* `comparisons_cohere` — **how the comparisons of a value fit together**.
-/

set_option relaxedAutoImplicit false
set_option autoImplicit false

namespace Audience

/-! ### Orderings -/

/-- Of below, above and neither just one fits an ordering. -/
theorem Operator.matchesOrdering_partition (ordering : Ordering) :
    let fits (op : Operator) : Bool := op.matchesOrdering (some ordering)
    [fits .lessThan, fits .greaterThan, fits .lessEqual && fits .greaterEqual].count true = 1 ∧
      fits .lessEqual = !fits .greaterThan ∧ fits .greaterEqual = !fits .lessThan := by
  cases ordering <;> decide

/-- Of two numbers just one is below, above or neither to the other. -/
theorem Operator.settled_compare_partition {operand : Operand} {value : Json} {x y : Double}
    (hx : value.number = .ok (some x)) (hy : operand.number? = .ok (some y)) :
    let holds (op : Operator) : Bool := settled (op.compare operand value)
    [holds .lessThan, holds .greaterThan, holds .lessEqual && holds .greaterEqual].count true = 1 ∧
      holds .lessEqual = !holds .greaterThan ∧ holds .greaterEqual = !holds .lessThan := by
  intro holds
  obtain ⟨ordering, hordering⟩ :=
    Double.exists_compare? (value.isNaN_of_number hx) (Operand.isNaN_of_number? hy)
  have hfits : ∀ op : Operator, op.kind = .numeric →
      holds op = op.matchesOrdering (some ordering) := by
    intro op hop
    simp only [holds]
    rw [compare_numeric hop, hx, hy, settled_compareReadings_some, hordering]
  rw [hfits .lessThan rfl, hfits .greaterThan rfl, hfits .lessEqual rfl, hfits .greaterEqual rfl]
  exact matchesOrdering_partition ordering

/-! ### Ranges -/

theorem Calendar.instantOf?_trim (s : String) : instantOf? (Text.trim s) = instantOf? s := by
  rw [instantOf?, instantOf?, Text.trim_trim]

/-- The ends of a range written as one text are its two parts, the blanks aside. -/
theorem Operand.bounds?_pair {first last start stop : String} (hstart : Text.Pads first start)
    (hstop : Text.Pads last stop) (hfirst : ',' ∉ first.toList) (hlast : ',' ∉ last.toList) :
    (text (start ++ "," ++ stop)).bounds? = some (Text.trim first, Text.trim last) := by
  have hchars : (start ++ "," ++ stop).toList = start.toList ++ ',' :: stop.toList := by simp
  rw [bounds?, hchars, Text.splitAll_append (hstart.not_mem (by decide) hfirst),
    Text.splitAll_of_not_mem (hstop.not_mem (by decide) hlast)]
  simp only [String.ofList_toList, hstart.trim_eq, hstop.trim_eq]

theorem Operator.compare_pair {first last start stop : String} (hstart : Text.Pads first start)
    (hstop : Text.Pads last stop) (hfirst : ',' ∉ first.toList) (hlast : ',' ∉ last.toList)
    (value : Json) :
    between.compare (.text (start ++ "," ++ stop)) value
      = between.compare (.range first last) value := by
  rw [compare, compare, Operand.bounds?_pair hstart hstop hfirst hlast]
  simp only [kind, Operand.bounds?, Operand.range, Json.text, Calendar.instantOf?_trim]

theorem Operator.settled_compare_range (first last : String) (value : Json) :
    settled (between.compare (.range first last) value)
      = passes (within · (Calendar.instantOf? first) (Calendar.instantOf? last)) value.date :=
  settled_reading value.date _

theorem within_iff (day first last : Instant) :
    within (some day) (some first) (some last) = true ↔
      Operator.before.matchesOrdering (day.compare? first) = false ∧
        Operator.after.matchesOrdering (day.compare? last) = false := by
  simp only [within, Bool.and_eq_true, Operator.matchesOrdering, Instant.compare?]
  rw [← Instant.compare_swap day first]
  cases day.compare first <;> cases day.compare last <;> decide

/-- A range of two dates compares as neither before the first nor after the last. -/
theorem Operator.settled_between_iff {first last : String} {start stop day : Instant} {value : Json}
    (hstart : Calendar.instantOf? first = some start)
    (hstop : Calendar.instantOf? last = some stop) (hday : value.date = .ok (some day)) :
    settled (between.compare (.range first last) value) = true ↔
      settled (before.compare (.text first) value) = false ∧
        settled (after.compare (.text last) value) = false := by
  have hdate : ∀ (op : Operator) (s : String) (t : Instant), op.kind = .date →
      Calendar.instantOf? s = some t →
      settled (op.compare (.text s) value) = op.matchesOrdering (day.compare? t) := by
    intro op s t hop ht
    rw [compare_date hop, hday, Operand.date?, Operand.toJson, Json.date, ht,
      settled_compareReadings_some]
  rw [settled_compare_range, hstart, hstop, hday, passes, hdate .before first start rfl hstart,
    hdate .after last stop rfl hstop]
  exact within_iff day start stop

/-! ### Conditions -/

/-- **How the comparisons of a value fit together.**  A comparison of numbers holds if the value or
the operand cannot be read as a number, and does not if one of them denotes none; of two numbers
just one of below, above and neither holds, and not being above is the same as being at most.  With
before and after it is the same for a side that cannot be read as a date or denotes none.  A value
with a date is between two dates if it is neither before the first nor after the last, and a range
has the same verdict on every value whether it is a list or one text. -/
theorem comparisons_cohere (id field : String) (record : Record) {value : Json}
    (hvalue : record.get? field = some value) :
    let verdict (op : Operator) (operand : Operand) : Verdict :=
      Condition.evaluate record ⟨id, field, op, operand⟩
    let holds (op : Operator) (operand : Operand) : Bool := (verdict op operand).holds
    (∀ operand : Operand,
      (∀ op : Operator, op.kind = .numeric →
        ((∃ cause, value.number = .error cause) ∨ (∃ cause, operand.number? = .error cause) →
          holds op operand = true) ∧
        (∀ a e, value.number = .ok a → operand.number? = .ok e → a = none ∨ e = none →
          holds op operand = false)) ∧
      (∀ a e, value.number = .ok (some a) → operand.number? = .ok (some e) →
        [holds .lessThan operand, holds .greaterThan operand,
            holds .lessEqual operand && holds .greaterEqual operand].count true = 1 ∧
          holds .lessEqual operand = !holds .greaterThan operand ∧
          holds .greaterEqual operand = !holds .lessThan operand) ∧
      (∀ op : Operator, op.kind = .date →
        ((∃ cause, value.date = .error cause) ∨ (∃ cause, operand.date? = .error cause) →
          holds op operand = true) ∧
        (∀ a e, value.date = .ok a → operand.date? = .ok e → a = none ∨ e = none →
          holds op operand = false))) ∧
    (∀ (first last : String) (start stop day : Instant), Calendar.instantOf? first = some start →
      Calendar.instantOf? last = some stop → value.date = .ok (some day) →
      (holds .between (.range first last) = true ↔
        holds .before (.text first) = false ∧ holds .after (.text last) = false)) ∧
    ∀ first last : String, ',' ∉ first.toList → ',' ∉ last.toList →
      ∀ start stop : String, Text.Pads first start → Text.Pads last stop →
        verdict .between (.text (start ++ "," ++ stop)) = verdict .between (.range first last) := by
  intro verdict holds
  have hverdict : ∀ op operand, verdict op operand
      = (⟨id, field, op, operand⟩ : Condition).conclude (op.compare operand value) := by
    intro op operand
    simp only [verdict, Condition.evaluate, Condition.outcome, hvalue]
  have hholds : ∀ op operand, holds op operand = settled (op.compare operand value) := by
    intro op operand
    simp only [holds, hverdict, Condition.holds_conclude]
  refine ⟨fun operand => ⟨?numbers, ?ordering, ?dates⟩, ?range, ?notations⟩
  case numbers =>
    intro op hop
    rw [hholds, Operator.compare_numeric hop]
    exact Operator.settled_compareReadings_of_missing
  case ordering =>
    intro a e ha he
    rw [hholds .lessThan, hholds .greaterThan, hholds .lessEqual, hholds .greaterEqual]
    exact Operator.settled_compare_partition ha he
  case dates =>
    intro op hop
    rw [hholds, Operator.compare_date hop]
    exact Operator.settled_compareReadings_of_missing
  case range =>
    intro first last start stop day hstart hstop hday
    rw [hholds, hholds, hholds]
    exact Operator.settled_between_iff hstart hstop hday
  case notations =>
    intro first last hfirst hlast start stop hstart hstop
    rw [hverdict, hverdict, Operator.compare_pair hstart hstop hfirst hlast]
    rfl

/-- A record last seen in the middle of June 2024, which is a number as well as a date. -/
def juneVisitor : Record := ⟨[("seen", .int 1718409600000)]⟩

/-- The number is above 36 and nothing else; it is not compared with a list, and a text that is no
number is no operand for it.  The date lies in June, however the month is written. -/
theorem juneVisitor_coheres :
    let verdict (op : Operator) (operand : Operand) : Verdict :=
      Condition.evaluate juneVisitor ⟨"c1", "seen", op, operand⟩
    let holds (op : Operator) (operand : Operand) : Bool := (verdict op operand).holds
    juneVisitor.get? "seen" = some (.int 1718409600000) ∧
      holds .lessEqual (.list []) = true ∧ holds .greaterEqual (.text "soon") = false ∧
      [holds .lessThan (.text " 36 "), holds .greaterThan (.text " 36 "),
          holds .lessEqual (.text " 36 ") && holds .greaterEqual (.text " 36 ")].count true = 1 ∧
      holds .before (.list []) = true ∧ holds .before (.text "soon") = false ∧
      holds .between (.range "2024-06-01" "2024-06-30") = true ∧
      verdict .between (.text " 2024-06-01\t,\u3000 2024-06-30")
        = verdict .between (.range "2024-06-01" "2024-06-30") := by
  intro verdict holds
  have hvalue : juneVisitor.get? "seen" = some (.int 1718409600000) := by decide +kernel
  obtain ⟨hsides, hrange, htext⟩ := comparisons_cohere "c1" "seen" juneVisitor hvalue
  have hnumber : ∃ x, Operand.number? (.text " 36 ") = .ok (some x) :=
    ⟨.ofInt 36, by decide +kernel⟩
  obtain ⟨x, hx⟩ := hnumber
  have hsoon : Operand.number? (.text "soon") = .ok none := by decide +kernel
  have hnever : Operand.date? (.text "soon") = .ok none := by decide +kernel
  obtain ⟨start, hstart⟩ : ∃ t, Calendar.instantOf? "2024-06-01" = some t :=
    Option.isSome_iff_exists.1 (by decide +kernel)
  obtain ⟨stop, hstop⟩ : ∃ t, Calendar.instantOf? "2024-06-30" = some t :=
    Option.isSome_iff_exists.1 (by decide +kernel)
  obtain ⟨day, hday⟩ : ∃ t, Instant.ofEpochMillis? 1718409600000 = some t :=
    Option.isSome_iff_exists.1 (by decide +kernel)
  have hfirst : Text.Pads "2024-06-01" " 2024-06-01\t" := ⟨" ", "\t", by decide, by decide, rfl⟩
  have hlast : Text.Pads "2024-06-30" "\u3000 2024-06-30" :=
    ⟨"\u3000 ", "", by decide, by decide, rfl⟩
  refine ⟨hvalue, ?_, ?_, ?_, ?_, ?_, ?_, ?_⟩
  · exact ((hsides _).1 .lessEqual rfl).1 (.inr ⟨_, rfl⟩)
  · exact ((hsides _).1 .greaterEqual rfl).2 _ _ rfl hsoon (.inr rfl)
  · exact ((hsides _).2.1 _ _ rfl hx).1
  · exact ((hsides _).2.2 .before rfl).1 (.inr ⟨_, rfl⟩)
  · exact ((hsides _).2.2 .before rfl).2 _ _ rfl hnever (.inr rfl)
  · refine (hrange _ _ start stop day hstart hstop ?_).2 ?_
    · exact congrArg Except.ok hday
    · decide +kernel
  · exact htext _ _ (by decide) (by decide) _ _ hfirst hlast

end Audience
