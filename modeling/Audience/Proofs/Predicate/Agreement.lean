import Audience.Proofs.Predicate.Folding
import Audience.Proofs.Rule.Tree

/-!
**Compiled trees agree with evaluated ones**.

A tree can be evaluated on a record, or compiled once and its predicate tried on the record.  The
first decides what to do about an operator that is not known, an operand or a value that cannot be
read, and a group without children while it looks at the record, the second beforehand.  Both come
to the same outcome, at every condition and hence, as groups only combine outcomes, at every node.

Main definitions:

* `settled` — the outcome of a condition, whether its comparison could be made or not;
* `Condition.test?` — the test of its column that a condition becomes;
* `Condition.IsTest` — the **tests of a condition**, each with the reading of the operand that is in
  it.

Main results:

* `Condition.isTest_of_test?` — what a condition becomes is one of its tests;
* `Condition.accepts_compile`, `Node.accepts_compile` — a condition and a node come to the same
  outcome both ways;
* `Node.tests_compile` — the tests of a compiled tree are tests of its conditions, in their order;
* `Node.isFolded_compile` — a compiled tree is one fixed outcome or has none;
* `compiled_accepts_eq` — **a compiled tree accepts the records that belong to the tree**.
-/

set_option relaxedAutoImplicit false
set_option autoImplicit false

namespace Audience

/-! ### Comparisons that may not be made -/

/-- The outcome of a condition, whether its comparison could be made or not. -/
def settled : Except AnomalyKind Bool → Bool
  | .ok holds => holds
  | .error kind => kind.outcome

@[simp] theorem Condition.holds_conclude (c : Condition) (outcome : Except AnomalyKind Bool) :
    (c.conclude outcome).holds = settled outcome := by
  cases outcome <;> rfl

theorem settled_reading {α : Type} (reading : Except Uncoercible α) (test : α → Bool) :
    settled (do let value ← orAnomaly reading; return test value) = passes test reading := by
  cases reading <;> rfl

theorem settled_readings {α β : Type} (actual : Except Uncoercible α)
    (expected : Except Uncoercible β) (test : α → β → Bool) :
    settled (do
        let value ← orAnomaly actual
        let operand ← orAnomaly expected
        return test value operand)
      = match expected with
        | .ok operand => passes (test · operand) actual
        | .error _ => true := by
  cases actual <;> cases expected <;> rfl

/-! ### Conditions -/

namespace Condition

/-- The test of its column that a condition becomes; a range without two ends becomes none. -/
def test? (c : Condition) : Option ColumnTest :=
  match c.operator.kind with
  | .unknown => some .present
  | .text => some (ColumnTest.orPresent (.text c.operator) c.value.folded)
  | .numeric => some (ColumnTest.orPresent (.numeric c.operator) c.value.number?)
  | .date => some (ColumnTest.orPresent (.date c.operator) c.value.date?)
  | .range => c.value.bounds?.map fun (first, last) =>
      .dateRange (Calendar.instantOf? first) (Calendar.instantOf? last)

/-- The **tests of a condition**: the test for a value, and one for each kind of operator, with the
reading of the operand for that kind. -/
inductive IsTest (c : Condition) : ColumnTest → Prop
  /-- The test for a value stands for an operator or an operand that has no other one. -/
  | present : IsTest c .present
  /-- A test of texts. -/
  | text (hk : c.operator.kind = .text) {operand : String} (h : c.value.folded = .ok operand) :
      IsTest c (.text c.operator operand)
  /-- A test of numbers. -/
  | numeric (hk : c.operator.kind = .numeric) {operand : Option Double}
      (h : c.value.number? = .ok operand) : IsTest c (.numeric c.operator operand)
  /-- A test of instants. -/
  | date (hk : c.operator.kind = .date) {operand : Option Instant}
      (h : c.value.date? = .ok operand) : IsTest c (.date c.operator operand)
  /-- A test for a range of instants. -/
  | range (hk : c.operator.kind = .range) {first last : String}
      (h : c.value.bounds? = some (first, last)) :
      IsTest c (.dateRange (Calendar.instantOf? first) (Calendar.instantOf? last))

/-- What a condition becomes is one of its tests. -/
theorem isTest_of_test? {c : Condition} {test : ColumnTest} (h : c.test? = some test) :
    c.IsTest test := by
  unfold test? at h
  cases hk : c.operator.kind with
  | unknown =>
      obtain rfl : ColumnTest.present = test := by simpa [hk] using h
      exact .present
  | text =>
      rw [hk] at h
      obtain rfl := Option.some.inj h
      cases hv : c.value.folded with
      | ok operand => exact .text hk hv
      | error cause => exact .present
  | numeric =>
      rw [hk] at h
      obtain rfl := Option.some.inj h
      cases hv : c.value.number? with
      | ok operand => exact .numeric hk hv
      | error cause => exact .present
  | date =>
      rw [hk] at h
      obtain rfl := Option.some.inj h
      cases hv : c.value.date? with
      | ok operand => exact .date hk hv
      | error cause => exact .present
  | range =>
      rw [hk] at h
      obtain ⟨ends, hends, rfl⟩ := Option.map_eq_some_iff.1 h
      exact .range hk hends

theorem predicate_compile (c : Condition) :
    c.compile.predicate
      = match c.test? with
        | some test => .column c.field test
        | none => .const false := by
  unfold compile test?
  cases c.operator.kind with
  | text => cases c.value.folded <;> rfl
  | range => cases c.value.bounds? <;> rfl
  | numeric => rfl
  | date => rfl
  | unknown => rfl

/-- The comparison of a condition has the outcome of the test that it becomes. -/
theorem settled_compare (c : Condition) (actual : Json) :
    settled (c.operator.compare c.value actual)
      = match c.test? with
        | some test => test.accepts actual
        | none => false := by
  unfold Operator.compare test?
  cases c.operator.kind with
  | text =>
      simp only [settled_readings]
      cases c.value.folded <;> rfl
  | numeric =>
      simp only [settled_readings]
      cases c.value.number? <;> rfl
  | date =>
      simp only [settled_readings]
      cases c.value.date? <;> rfl
  | range =>
      cases c.value.bounds? with
      | none => rfl
      | some ends => exact settled_reading actual.date _
  | unknown => rfl

/-- A condition comes to the same outcome whether it is evaluated or compiled. -/
theorem accepts_compile (c : Condition) (record : Record) :
    c.compile.predicate.accepts record = (c.evaluate record).holds := by
  rw [evaluate, holds_conclude, outcome, predicate_compile]
  cases hr : record.get? c.field with
  -- a value that is missing passes no test, and its anomaly does not hold
  | none => cases c.test? <;> simp [Predicate.accepts, hr, settled, AnomalyKind.outcome]
  | some actual =>
      rw [settled_compare]
      cases c.test? <;> simp [Predicate.accepts, hr]

theorem mem_tests_compile {c : Condition} {name : String} {test : ColumnTest}
    (h : (name, test) ∈ c.compile.predicate.tests) : name = c.field ∧ c.test? = some test := by
  rw [predicate_compile] at h
  cases ht : c.test? with
  | none => simp [ht, Predicate.tests] at h
  | some t => simpa [ht, Predicate.tests, eq_comm] using h

theorem isFolded_compile (c : Condition) : c.compile.predicate.isFolded = true := by
  rw [predicate_compile]
  cases c.test? <;> rfl

end Condition

/-! ### Nodes -/

namespace Node

theorem compileAll_eq_map (policy : EmptyGroupPolicy) (nodes : List Node) :
    compileAll policy nodes = nodes.map (·.compile policy) := by
  induction nodes with
  | nil => rfl
  | cons node nodes ih => rw [compileAll, ih, List.map_cons]

theorem predicate_compile_group (policy : EmptyGroupPolicy) (id : String) (logic : Logic)
    {children : List Node} (h : children ≠ []) :
    ((group id logic children).compile policy).predicate
      = logic.combine (children.map fun child => (child.compile policy).predicate) := by
  match children with
  | child :: children => rw [compile, compileAll_eq_map, List.map_map]; rfl

theorem evaluateAll_congr {p q : EmptyGroupPolicy} {r s : Record} (logic : Logic)
    {nodes nexts : List Node} (h : nodes.map (evaluate p r) = nexts.map (evaluate q s)) :
    evaluateAll p r logic nodes = evaluateAll q s logic nexts := by
  induction nodes generalizing nexts with
  | nil => rw [List.map_eq_nil_iff.1 h.symm, evaluateAll, evaluateAll]
  | cons node nodes ih =>
      match nexts with
      | next :: nexts =>
          obtain ⟨hnode, hnodes⟩ := List.cons.inj h
          rw [evaluateAll, evaluateAll, hnode, ih hnodes]

theorem holds_evaluateAll (policy : EmptyGroupPolicy) (record : Record) (logic : Logic)
    (nodes : List Node) :
    (evaluateAll policy record logic nodes).holds
      = logic.outcomeOf (nodes.map fun node => (node.evaluate policy record).holds) := by
  induction nodes with
  | nil => cases logic <;> rfl
  | cons node nodes ih =>
      rw [List.map_cons, Logic.outcomeOf_cons, evaluateAll]
      -- the first child decides, or the others do
      split
      · next hd => exact hd
      · exact ih

theorem holds_evaluate_group (policy : EmptyGroupPolicy) (record : Record) (id : String)
    (logic : Logic) {children : List Node} (h : children ≠ []) :
    ((group id logic children).evaluate policy record).holds
      = logic.outcomeOf (children.map fun child => (child.evaluate policy record).holds) := by
  match children with
  | child :: children => exact holds_evaluateAll policy record logic _

/-- A node comes to the same outcome whether it is evaluated or compiled. -/
theorem accepts_compile (policy : EmptyGroupPolicy) (record : Record) (node : Node) :
    (node.compile policy).predicate.accepts record = (node.evaluate policy record).holds := by
  induction node using Node.induction with
  | condition c => exact c.accepts_compile record
  | group id logic children ih =>
      by_cases hc : children = []
      · -- the policy settles both sides
        subst hc
        rfl
      · rw [predicate_compile_group policy id logic hc, Logic.accepts_combine, List.map_map,
          holds_evaluate_group policy record id logic hc]
        exact congrArg logic.outcomeOf (List.map_congr_left ih)

/-- The tests of a compiled tree are tests of its conditions, in their order. -/
theorem tests_compile (policy : EmptyGroupPolicy) (node : Node) :
    (node.compile policy).predicate.tests.Sublist
      (node.conditions.flatMap (·.compile.predicate.tests)) := by
  induction node using Node.induction with
  | condition c => simp [compile, conditions]
  | group id logic children ih =>
      by_cases hc : children = []
      · subst hc
        exact List.nil_sublist _
      · rw [predicate_compile_group policy id logic hc, conditions, conditionsAll_eq_flatMap,
          List.flatMap_assoc]
        refine (logic.tests_combine _).trans ?_
        rw [List.flatMap_map]
        exact List.Sublist.flatMap_right children ih

theorem mem_tests_compile {policy : EmptyGroupPolicy} {node : Node} {name : String}
    {test : ColumnTest} (h : (name, test) ∈ (node.compile policy).predicate.tests) :
    ∃ c ∈ node.conditions, name = c.field ∧ c.test? = some test := by
  obtain ⟨c, hc, ht⟩ := List.mem_flatMap.1 ((node.tests_compile policy).subset h)
  exact ⟨c, hc, Condition.mem_tests_compile ht⟩

/-- A compiled tree is one fixed outcome or has none. -/
theorem isFolded_compile (policy : EmptyGroupPolicy) (node : Node) :
    (node.compile policy).predicate.isFolded = true := by
  induction node using Node.induction with
  | condition c => exact c.isFolded_compile
  | group id logic children ih =>
      by_cases hc : children = []
      · subst hc
        rfl
      · rw [predicate_compile_group policy id logic hc]
        refine logic.isFolded_combine fun part hp => ?_
        obtain ⟨child, hm, rfl⟩ := List.mem_map.1 hp
        exact ih child hm

end Node

/-! ### Trees -/

/-- **A compiled tree accepts the records that belong to the tree**. -/
theorem compiled_accepts_eq (policy : EmptyGroupPolicy) (tree : Group) (record : Record) :
    (tree.compile policy).predicate.accepts record = tree.accepts policy record := by
  rw [Group.compile, Group.accepts, Group.evaluate]
  exact tree.node.accepts_compile policy record

end Audience
