import Audience.Proofs.Calendar.Day
import Audience.Proofs.Record.Counted
import Audience.Proofs.Rule.Coherence

/-!
**The days of a customer**: the day of registration, and that of the last order.

The record of a customer holds both as the texts of days, and a condition that is written with days
holds texts of them as well.  A text of a day denotes the midnight at its start on either side, so
that such a condition compares days: a range includes the whole of its first and of its last day,
whatever time of day the customer was registered at.  The day of the last order is the latest one
of the orders that count.  A customer without such orders has no such day, and no condition on it
holds.

Main definitions:

* `ComparesByDay` — the comparisons of a field with days are **those of a day**.

Main results:

* `comparesByDay_of_get?` — a field that holds the text of a day is compared by that day;
* `Customer.get?_registration_date`, `Customer.get?_last_order_date` — what the record of a customer
  holds;
* `derived_days_compare` — **how the days of a customer compare**.
-/

set_option relaxedAutoImplicit false
set_option autoImplicit false

namespace Audience

/-! ### Fields that hold days -/

/-- The comparisons of a field with days are **those of a day**: it lies in a range if it is neither
before the first day nor after the last, and the field is before or after another day if it is. -/
structure ComparesByDay (record : Record) (field : String) (day : Date) : Prop where
  /-- A range includes both of its ends. -/
  between : ∀ id (first last : Date),
    (Condition.evaluate record ⟨id, field, .between, .range first.write last.write⟩).holds = true ↔
      (first.compare day).isLE = true ∧ (day.compare last).isLE = true
  /-- Earlier days are before. -/
  before : ∀ id (other : Date),
    (Condition.evaluate record ⟨id, field, .before, .text other.write⟩).holds = true ↔
      day.compare other = .lt
  /-- Later days are after. -/
  after : ∀ id (other : Date),
    (Condition.evaluate record ⟨id, field, .after, .text other.write⟩).holds = true ↔
      day.compare other = .gt

theorem settled_compare_days {op : Operator} (hop : op.kind = .date) (day other : Date) :
    settled (op.compare (.text other.write) (.string day.write))
      = op.matchesOrdering (some (day.compare other)) := by
  rw [Operator.compare_date hop, Operand.date?, Operand.toJson, Json.date, Json.date,
    Calendar.instantOf?_day, Calendar.instantOf?_day, Operator.settled_compareReadings_some,
    Instant.compare?, Instant.compare_midnight]

theorem settled_between_days (day first last : Date) :
    settled (Operator.between.compare (.range first.write last.write) (.string day.write))
      = ((first.compare day).isLE && (day.compare last).isLE) := by
  rw [Operator.settled_compare_range, Json.date, Calendar.instantOf?_day, Calendar.instantOf?_day,
    Calendar.instantOf?_day, passes, within, Instant.compare_midnight, Instant.compare_midnight]

/-- A field that holds the text of a day is compared by that day. -/
theorem comparesByDay_of_get? {record : Record} {field : String} {day : Date}
    (h : record.get? field = some (.string day.write)) : ComparesByDay record field day := by
  have hholds : ∀ id op operand, (Condition.evaluate record ⟨id, field, op, operand⟩).holds
      = settled (op.compare operand (.string day.write)) := by
    intro id op operand
    rw [Condition.evaluate, Condition.holds_conclude, Condition.outcome, h]
  constructor
  · intro id first last
    rw [hholds, settled_between_days, Bool.and_eq_true]
  · intro id other
    rw [hholds, settled_compare_days rfl]
    simp [Operator.matchesOrdering]
  · intro id other
    rw [hholds, settled_compare_days rfl]
    simp [Operator.matchesOrdering]

theorem Condition.holds_of_get?_eq_none {record : Record} {c : Condition}
    (h : record.get? c.field = none) : (c.evaluate record).holds = false := by
  rw [evaluate, holds_conclude, outcome, h]
  rfl

/-! ### The days of a customer -/

namespace Customer

theorem get?_insertText_self (record : Record) (field : String) (text : Option String) :
    (insertText record field text).get? field = (text.map Json.string).or (record.get? field) := by
  cases text with
  | none => rfl
  | some s => exact Record.get?_insert_self record field (.string s)

/-- The record of a customer holds the day of registration, in universal time. -/
theorem get?_registration_date (customer : Customer) (orders : List Order) :
    (customer.record orders).get? "registration_date"
      = some (.string customer.createdAt.date.write) := by
  rw [record, get?_insertText_of_ne (by decide), get?_insertText_of_ne (by decide)]
  simp [Record.get?, Members.ofList, Members.find?_insert_of_ne, Json.isNull]

/-- The record of a customer holds the latest day of the orders that count, if any do. -/
theorem get?_last_order_date (customer : Customer) (orders : List Order) :
    (customer.record orders).get? "last_order_date"
      = (Date.latest? ((orders.filter customer.counts).map (·.date))).map (.string ·.write) := by
  rw [record, get?_insertText_of_ne (by decide), get?_insertText_self, Option.map_map]
  have habsent : ∀ spend count : Json, Record.get? ⟨Members.ofList
      [("id", .string customer.id.write), ("name", .string customer.name),
       ("email", .string customer.email), ("phoneNumber", .string customer.phoneNumber),
       ("age", .int customer.age),
       ("registration_date", .string customer.createdAt.date.write),
       ("order_count", count), ("total_spend", spend)]⟩ "last_order_date" = none := by
    intro spend count
    simp [Record.get?, Members.ofList, Members.find?_insert_of_ne]
  rw [habsent, Option.or_none]
  rfl

end Customer

/-- **How the days of a customer compare.**  Conditions that are written with days compare the day
of registration, which is that of the instant in universal time, and the day of the last order,
which is the latest day among the orders that count.  They compare by the calendar, and a range
includes both of its ends.  If no order counts, no condition on the day of the last order holds. -/
theorem derived_days_compare (customer : Customer) (orders : List Order) :
    let record := customer.record orders
    let counted := orders.filter fun order =>
      order.customerId = customer.id ∧ order.status ≠ .refunded ∧ order.fault? = none
    ComparesByDay record "registration_date" customer.createdAt.date ∧
      ((∃ day, Date.IsLatest (counted.map (·.date)) day ∧
          ComparesByDay record "last_order_date" day) ∨
        (counted = [] ∧ ∀ id op operand,
          (Condition.evaluate record ⟨id, "last_order_date", op, operand⟩).holds = false)) := by
  intro record counted
  have hcounted : counted = orders.filter customer.counts := (customer.filter_counts orders).symm
  have hlast := customer.get?_last_order_date orders
  rw [← hcounted] at hlast
  refine ⟨comparesByDay_of_get? (customer.get?_registration_date orders), ?_⟩
  cases hlatest : Date.latest? (counted.map (·.date)) with
  | some day =>
      refine .inl ⟨day, Date.latest?_eq_some_iff.1 hlatest, comparesByDay_of_get? ?_⟩
      rw [hlast, hlatest]
      rfl
  | none =>
      refine .inr ⟨List.map_eq_nil_iff.1 (Date.latest?_eq_none_iff.1 hlatest), ?_⟩
      intro id op operand
      refine Condition.holds_of_get?_eq_none ?_
      rw [hlast, hlatest]
      rfl

end Audience
