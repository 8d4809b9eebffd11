import Audience.Proofs.Json.Proper
import Audience.Proofs.Rule.Comparison
import Audience.Proofs.Rule.Number
import Audience.Rule.Codec

/-!
**Values as operands**: a JSON value of a condition is read as a value of a record is, with one
exception.

A condition keeps its value in a form of its own, in which every number is a double.  The number of
a value is not changed by that.  The point in time of a value is read from the JSON that the operand
is written as, and there a whole number has become a double.  A record's whole number counts the
milliseconds since the start of 1970, but a double is no point in time.  So a number that denotes an
instant in a record denotes none in a condition, and nothing is before or after it.

Main results:

* `Operand.date?_ofJson` — an operand has the date of the value that it is, unless that is a
  whole number;
* `Operand.date?_ofJson_int` — a whole number is no date as an operand;
* `operands_read_alike` — when a value is read alike **on both sides**.
-/

set_option relaxedAutoImplicit false
set_option autoImplicit false

namespace Audience

namespace Operand

theorem date?_number {x : Double} (h : x.isFinite = true) : (number x).date? = .ok none := by
  rw [date?, toJson, Json.ofDouble, if_pos h]
  rfl

theorem date?_ofJson_int {n : Int} (h : (Json.int n).isProper = true) :
    (ofJson (.int n)).date? = .ok none :=
  date?_number (Json.isFinite_ofInt_of_isWord h)

/-- An operand has the date of the value that it is, unless that is a whole number; null is an
operand of its own. -/
theorem date?_ofJson {value : Json} (hnull : value.isNull = false)
    (hproper : value.isProper = true) (hint : ∀ n, value ≠ .int n) :
    (ofJson value).date? = value.date := by
  cases value with
  | null => simp at hnull
  | int n => exact absurd rfl (hint n)
  | float x => exact date?_number hproper
  | _ => rfl

/-- An operand and the value that it is have one date just if the value is no whole number that
denotes an instant. -/
theorem date?_ofJson_iff {value : Json} (hnull : value.isNull = false)
    (hproper : value.isProper = true) :
    (ofJson value).date? = value.date ↔ ∀ n, value = .int n → value.date = .ok none := by
  constructor
  · rintro h n rfl
    rw [← h, date?_ofJson_int hproper]
  · intro h
    by_cases hint : ∃ n, value = .int n
    · obtain ⟨n, rfl⟩ := hint
      rw [date?_ofJson_int hproper, h n rfl]
    · exact date?_ofJson hnull hproper (not_exists.1 hint)

end Operand

theorem Condition.holds_of_date?_eq_none {c : Condition} {record : Record} {value : Json}
    {t : Option Instant} (hvalue : record.get? c.field = some value) (ht : value.date = .ok t)
    (hnone : c.value.date? = .ok none) (hop : c.operator.kind = .date) :
    (c.evaluate record).holds = false := by
  rw [evaluate, holds_conclude, outcome, hvalue]
  dsimp only
  rw [Operator.compare_date hop]
  exact Operator.settled_compareReadings_of_missing.2 t none ht hnone (.inr rfl)

/-- **When a value is read alike on both sides.**  A value other than null has the same number as a
value of a record and as the operand that it is, and the same date, too, unless it is a whole number
that denotes an instant as a value of a record.  As an operand no whole number denotes an instant,
and no value with a date is before or after it. -/
theorem operands_read_alike {value : Json} (hnull : value.isNull = false)
    (hproper : value.isProper = true) :
    let operand := Operand.ofJson value
    operand.number? = value.number ∧
      (operand.date? = value.date ↔ ∀ n, value = .int n → value.date = .ok none) ∧
      ∀ n, value = .int n → operand.date? = .ok none ∧
        ∀ (id field : String) (record : Record) (actual : Json) (t : Option Instant),
          record.get? field = some actual → actual.date = .ok t →
          ∀ op : Operator, op.kind = .date →
            (Condition.evaluate record ⟨id, field, op, operand⟩).holds = false := by
  intro operand
  refine ⟨Operand.number?_ofJson hnull, Operand.date?_ofJson_iff hnull hproper, ?_⟩
  rintro n rfl
  have hnone : operand.date? = .ok none := Operand.date?_ofJson_int hproper
  refine ⟨hnone, ?_⟩
  intro id field record actual t hactual ht op hop
  exact Condition.holds_of_date?_eq_none hactual ht hnone hop

/-- A text with a date is read alike on both sides; the milliseconds of that date are one number on
both sides, but as an operand no date, and the day before is not before them. -/
theorem juneDay_reads_alike :
    (Operand.ofJson (.string "2024-06-15")).date? = (Json.string "2024-06-15").date ∧
      (Operand.ofJson (.int 1718409600000)).number? = (Json.int 1718409600000).number ∧
      (Operand.ofJson (.int 1718409600000)).date? = .ok none ∧
      (Condition.evaluate ⟨[("seen", .string "2024-06-14")]⟩
        ⟨"c1", "seen", .before, Operand.ofJson (.int 1718409600000)⟩).holds = false := by
  have hday : (Json.string "2024-06-15").isNull = false := rfl
  have hcount : (Json.int 1718409600000).isNull = false := rfl
  obtain ⟨-, htext, -⟩ := operands_read_alike hday rfl
  obtain ⟨hnumber, -, hmillis⟩ := operands_read_alike hcount rfl
  obtain ⟨hnone, hbefore⟩ := hmillis _ rfl
  exact ⟨htext.2 nofun, hnumber, hnone,
    hbefore _ _ _ (.string "2024-06-14") _ (by decide +kernel) rfl _ rfl⟩

/-- **Milliseconds that denote an instant in a record and none in a condition**: a record with one
millisecond less is not before them, evaluated or compiled. -/
theorem millis_denote_no_operand :
    let day : Date := ⟨2024, 6, 15, by decide⟩
    let json : Json := .object [("field", .string "seen"), ("id", .string "c1"),
      ("operator", .string "before"), ("value", .int 1718409600000)]
    let record : Record := ⟨[("seen", .int 1718409599999)]⟩
    (Json.int 1718409600000).date = .ok (some (.midnight day)) ∧
      (Operand.ofJson (.int 1718409600000)).date? = .ok none ∧
      ∃ c, Condition.ofJson json = .ok c ∧ (c.evaluate record).holds = false ∧
        c.compile.predicate.accepts record = false := by
  intro day json record
  refine ⟨?_, ?_, _, rfl, ?_, ?_⟩
  all_goals decide +kernel

end Audience
