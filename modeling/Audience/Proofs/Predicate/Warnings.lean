import Audience.Proofs.Predicate.Agreement
import Mathlib.Data.List.Basic

/-!
**Warnings of a compilation**.

A condition whose operator is not known, or whose operand has no reading for its operator, becomes
the test that its column has a value, so that it holds of every record with one.  Nothing in the
predicate tells such a test from one that was asked for.  The compilation warns of it where the
operator is not known or compares texts.  Where it compares numbers or instants the condition gives
way in silence.

Main definitions:

* `Condition.unread?` — why the operand of a condition **has no reading** for its operator;
* `Condition.isUntested` — a condition whose own comparison **is not made**;
* `Condition.notice?` — the **warning that is due** for a condition;
* `Condition.isTold` — a condition with an operator that warnings are given for.

Main results:

* `Condition.isUntested_iff` — the untested conditions are those that become the test for a value;
* `Node.warnings_compile` — the warnings of a compiled tree are those of all of its conditions, also
  of the ones that are folded away;
* `warnings_of_compiled_trees` — **which untested conditions are warned of**.
-/

set_option relaxedAutoImplicit false
set_option autoImplicit false

namespace Audience

/-- The condition that a warning is about. -/
def CompileWarning.condition : CompileWarning → String
  | unknownOperator condition _ => condition
  | unreadableOperand condition _ => condition

/-- Why a value has no reading, if it has none. -/
def causeOf? {α : Type} : Except Uncoercible α → Option Uncoercible
  | .ok _ => none
  | .error cause => some cause

/-! ### Conditions -/

namespace Condition

/-- Why the operand of a condition **has no reading** for its operator, if it has none. -/
def unread? (c : Condition) : Option Uncoercible :=
  match c.operator.kind with
  | .text => causeOf? c.value.folded
  | .numeric => causeOf? c.value.number?
  | .date => causeOf? c.value.date?
  | .range | .unknown => none

/-- Is the comparison of a condition **not made**, since its operator is not known or its operand
has no reading? -/
def isUntested (c : Condition) : Bool := c.operator.kind == .unknown || c.unread?.isSome

/-- The **warning that is due** for a condition whose comparison is not made. -/
def notice? (c : Condition) : Option CompileWarning :=
  match c.unread? with
  | some cause => some (.unreadableOperand c.id cause)
  | none => if c.operator.kind = .unknown then some (.unknownOperator c.id c.operator) else none

/-- Are warnings given for the operator of a condition?  Only if it is not known or compares
texts. -/
def isTold (c : Condition) : Bool := c.operator.kind == .unknown || c.operator.kind == .text

/-- The untested conditions are those that become the test for a value. -/
theorem isUntested_iff (c : Condition) :
    c.isUntested = true ↔ c.compile.predicate = .column c.field .present := by
  unfold isUntested unread? compile
  cases c.operator.kind with
  | unknown => simp
  | text => cases c.value.folded <;> simp [causeOf?]
  | numeric => cases c.value.number? <;> simp [causeOf?, ColumnTest.orPresent]
  | date => cases c.value.date? <;> simp [causeOf?, ColumnTest.orPresent]
  | range => cases c.value.bounds? <;> simp

theorem map_condition_notice? {c : Condition} (h : c.isUntested = true) :
    c.notice?.map CompileWarning.condition = some c.id := by
  rw [isUntested, Bool.or_eq_true, beq_iff_eq] at h
  rw [notice?]
  cases hu : c.unread? with
  | some cause => rfl
  | none =>
      -- an operand that is read leaves only the operator
      have hk : c.operator.kind = .unknown := by simpa [hu] using h
      rw [if_pos hk]
      rfl

theorem notice?_eq_none {c : Condition} (h : c.isUntested = false) : c.notice? = none := by
  rw [isUntested, Bool.or_eq_false_iff, beq_eq_false_iff_ne] at h
  obtain ⟨hk, hu⟩ := h
  rw [Option.isSome_eq_false_iff, Option.isNone_iff_eq_none] at hu
  rw [notice?, hu, if_neg hk]

/-- A condition is warned of if this is due and its operator is told. -/
theorem warnings_compile (c : Condition) :
    c.compile.warnings = if c.isTold then c.notice?.toList else [] := by
  unfold isTold notice? unread? compile
  cases c.operator.kind with
  | unknown => rfl
  | text => cases c.value.folded <;> rfl
  | numeric => rfl
  | date => rfl
  | range => cases c.value.bounds? <;> rfl

end Condition

/-! ### Nodes -/

namespace Node

theorem warnings_compile_group (policy : EmptyGroupPolicy) (id : String) (logic : Logic)
    (children : List Node) :
    ((group id logic children).compile policy).warnings
      = children.flatMap fun child => (child.compile policy).warnings := by
  match children with
  | [] => rfl
  | child :: children => rw [compile, compileAll_eq_map, List.flatMap_map]

/-- The warnings of a compiled node are those of all conditions at or below it, depth first. -/
theorem warnings_compile (policy : EmptyGroupPolicy) (node : Node) :
    (node.compile policy).warnings = node.conditions.flatMap (·.compile.warnings) := by
  induction node using Node.induction with
  | condition c => rw [compile, conditions, List.flatMap_singleton]
  | group id logic children ih =>
      rw [warnings_compile_group, conditions, conditionsAll_eq_flatMap, List.flatMap_assoc]
      exact List.flatMap_congr ih

end Node

/-! ### Lists of conditions -/

theorem flatMap_warnings_compile (conditions : List Condition) :
    conditions.flatMap (·.compile.warnings)
      = ((conditions.filter (·.isUntested)).filter (·.isTold)).filterMap (·.notice?) := by
  induction conditions with
  | nil => rfl
  | cons c conditions ih =>
      rw [List.flatMap_cons, Condition.warnings_compile, ih]
      cases hu : c.isUntested with
      | false => simp [hu, Condition.notice?_eq_none hu]
      | true =>
          obtain ⟨warning, hw, -⟩ := Option.map_eq_some_iff.1 (Condition.map_condition_notice? hu)
          cases ht : c.isTold with
          | false => simp [hu, ht]
          | true => simp [hu, ht, hw]

theorem map_condition_filterMap_notice? {conditions : List Condition}
    (h : ∀ c ∈ conditions, c.isUntested = true) :
    (conditions.filterMap (·.notice?)).map CompileWarning.condition = conditions.map (·.id) := by
  rw [List.map_filterMap, ← List.filterMap_eq_map]
  refine List.filterMap_congr fun c hc => ?_
  exact Condition.map_condition_notice? (h c hc)

/-! ### Trees -/

/-- **Which untested conditions are warned of**.  The conditions of a tree whose comparison is not
made are those that become the test for a value.  The compilation gives one warning for each of them
that has an operator that is not known or compares texts, with its identifier and in the order of
the tree.  So it warns of all of them just when none has an operator for numbers or instants. -/
theorem warnings_of_compiled_trees (policy : EmptyGroupPolicy) (tree : Group) :
    let warnings := (tree.compile policy).warnings
    let untested := tree.conditions.filter (·.isUntested)
    (∀ c : Condition, c.isUntested = true ↔ c.compile.predicate = .column c.field .present) ∧
      warnings = (untested.filter (·.isTold)).filterMap (·.notice?) ∧
      warnings.map (·.condition) = (untested.filter (·.isTold)).map (·.id) ∧
      (warnings.map (·.condition) = untested.map (·.id) ↔ ∀ c ∈ untested, c.isTold = true) := by
  intro warnings untested
  have hwarnings : warnings = (untested.filter (·.isTold)).filterMap (·.notice?) :=
    (tree.node.warnings_compile policy).trans (flatMap_warnings_compile tree.conditions)
  have huntested : ∀ c ∈ untested.filter (·.isTold), c.isUntested = true := by
    intro c hc
    exact (List.mem_filter.1 (List.mem_filter.1 hc).1).2
  have hids : warnings.map (·.condition) = (untested.filter (·.isTold)).map (·.id) := by
    rw [hwarnings]
    exact map_condition_filterMap_notice? huntested
  refine ⟨Condition.isUntested_iff, hwarnings, hids, ?_⟩
  rw [hids]
  constructor
  · intro hall
    -- as many conditions are told as there are
    have hlength : (untested.filter (·.isTold)).length = untested.length := by
      simpa using congrArg List.length hall
    exact List.length_filter_eq_length_iff.1 hlength
  · intro hall
    rw [List.filter_eq_self.2 hall]

/-- Rules on a number and a date with lists to compare with. -/
def silentRules : Group where
  id := "root"
  logic := .and
  children :=
    [.condition ⟨"c1", "age", .greaterThan, .list [.int 18]⟩,
     .condition ⟨"c2", "registration_date", .before, .list [.string "2024-01-01"]⟩]

/-- **Not every untested condition is warned of**: these two let everyone in who has an age and a
day of registration, without a warning. -/
theorem silentRules_unwarned :
    (silentRules.compile .inclusive).predicate
        = .all [.column "age" .present, .column "registration_date" .present] ∧
      (silentRules.conditions.filter (·.isUntested)).map (·.id) = ["c1", "c2"] ∧
      (silentRules.compile .inclusive).warnings.map (·.condition) = [] := by
  refine ⟨?_, ?_, ?_⟩
  all_goals decide +kernel

end Audience
