import Audience.Proofs.Rule.Replacement

/-!
**The two policies** for groups without children.

They differ on disjunctions without children, which hold under the inclusive policy and do not under
the vacuous one.  Groups never turn an outcome around, so wherever such a group stands in a tree,
the inclusive policy can only let more records in.  A tree without any comes to the same verdict and
to the same predicate under both.

Main definitions:

* `Node.OccursIn` — a node **occurs in** another one.

Main results:

* `Node.holds_inclusive_of_vacuous` — what holds under the vacuous policy holds under the
  inclusive one;
* `Node.evaluate_eq_of_policies`, `Node.compile_eq_of_policies` — without disjunctions without
  children the policies make no difference;
* `inclusive_policy_widens` — **the inclusive policy only widens** what belongs to a tree.
-/

set_option relaxedAutoImplicit false
set_option autoImplicit false

namespace Audience

/-- A node **occurs in** another one: it is that one, or occurs in a child of it. -/
inductive Node.OccursIn (node : Node) : Node → Prop
  /-- A node occurs in itself. -/
  | self : OccursIn node node
  /-- What occurs in a child occurs in the group. -/
  | child {id : String} {logic : Logic} {children : List Node} {child : Node}
      (hchild : child ∈ children) (h : OccursIn node child) :
      OccursIn node (.group id logic children)

namespace Node

theorem occursIn_condition {node : Node} {c : Condition} :
    node.OccursIn (condition c) ↔ node = condition c := by
  constructor
  · intro h
    cases h
    rfl
  · rintro rfl
    exact .self

theorem occursIn_group {node : Node} {id : String} {logic : Logic} {children : List Node} :
    node.OccursIn (group id logic children)
      ↔ node = group id logic children ∨ ∃ child ∈ children, node.OccursIn child := by
  constructor
  · intro h
    cases h with
    | self => exact .inl rfl
    | child hchild h => exact .inr ⟨_, hchild, h⟩
  · rintro (rfl | ⟨child, hchild, h⟩)
    · exact .self
    · exact .child hchild h

/-! ### Under both policies -/

/-- What holds under the vacuous policy holds under the inclusive one. -/
theorem holds_inclusive_of_vacuous {record : Record} {node : Node}
    (h : (node.evaluate .vacuous record).holds = true) :
    (node.evaluate .inclusive record).holds = true := by
  induction node using Node.induction with
  | condition c => exact h
  | group id logic children ih =>
      by_cases hc : children = []
      · subst hc
        rfl
      · rw [holds_evaluate_group .vacuous record id logic hc] at h
        rw [holds_evaluate_group .inclusive record id logic hc]
        refine Logic.outcomeOf_eq_of_forall₂ ?_ h
        rw [List.forall₂_map_left_iff, List.forall₂_map_right_iff, List.forall₂_same]
        exact ih

theorem outcome_eq_of_policies {id : String} {logic : Logic}
    (h : ∀ other, ¬ (group other .or []).OccursIn (group id logic [])) (p q : EmptyGroupPolicy) :
    p.outcome logic = q.outcome logic := by
  cases logic with
  | and => cases p <;> cases q <;> rfl
  | or => exact absurd .self (h id)

/-- Without disjunctions without children a node comes to the same verdict under both
policies. -/
theorem evaluate_eq_of_policies {node : Node}
    (h : ∀ id, ¬ (group id .or []).OccursIn node) (p q : EmptyGroupPolicy) (record : Record) :
    node.evaluate p record = node.evaluate q record := by
  induction node using Node.induction with
  | condition c => rfl
  | group id logic children ih =>
      match children with
      | [] => rw [evaluate, evaluate, outcome_eq_of_policies h p q]
      | child :: children =>
          rw [evaluate, evaluate]
          refine evaluateAll_congr logic (List.map_congr_left fun node hnode => ?_)
          exact ih node hnode fun other hother => h other (.child hnode hother)

/-- Without disjunctions without children a node is compiled to the same predicate, with the same
warnings, under both policies. -/
theorem compile_eq_of_policies {node : Node}
    (h : ∀ id, ¬ (group id .or []).OccursIn node) (p q : EmptyGroupPolicy) :
    node.compile p = node.compile q := by
  induction node using Node.induction with
  | condition c => rfl
  | group id logic children ih =>
      match children with
      | [] => rw [compile, compile, outcome_eq_of_policies h p q]
      | child :: children =>
          have hchildren : compileAll p (child :: children) = compileAll q (child :: children) := by
            rw [compileAll_eq_map, compileAll_eq_map]
            refine List.map_congr_left fun node hnode => ?_
            exact ih node hnode fun other hother => h other (.child hnode hother)
          rw [compile, compile, hchildren]

end Node

/-! ### Trees -/

/-- **The inclusive policy only widens** what belongs to a tree.  A record that belongs to it under
the vacuous policy does so under the inclusive one, whether the tree is evaluated or compiled; and
if no disjunction without children occurs in it, it comes to the same verdict on every record, and
to the same predicate, under both. -/
theorem inclusive_policy_widens (tree : Group) :
    (∀ record, tree.accepts .vacuous record = true → tree.accepts .inclusive record = true) ∧
      (∀ record, (tree.compile .vacuous).predicate.accepts record = true →
        (tree.compile .inclusive).predicate.accepts record = true) ∧
      ((∀ id, ¬ (Node.group id .or []).OccursIn tree.node) →
        (∀ record, tree.evaluate .vacuous record = tree.evaluate .inclusive record) ∧
          tree.compile .vacuous = tree.compile .inclusive) := by
  have hwidens : ∀ record, tree.accepts .vacuous record = true →
      tree.accepts .inclusive record = true := by
    intro record
    exact Node.holds_inclusive_of_vacuous
  refine ⟨hwidens, ?_, ?_⟩
  · intro record h
    rw [Group.compile, Node.accepts_compile] at h ⊢
    exact hwidens record h
  · intro hnone
    refine ⟨fun record => ?_, tree.node.compile_eq_of_policies hnone _ _⟩
    exact Node.evaluate_eq_of_policies hnone _ _ record

/-- Rules with a disjunction that has no children yet. -/
def unfinishedRules : Group where
  id := "root"
  logic := .or
  children := [.condition ⟨"c1", "status", .equals, .text "Active"⟩, .group "g1" .or []]

/-- Rules with a conjunction that has no children yet. -/
def unconditionalRules : Group where
  id := "root"
  logic := .or
  children :=
    [.group "g1" .and
      [.condition ⟨"c1", "status", .equals, .text "Active"⟩, .group "g2" .and []]]

/-- Active people belong to the unfinished rules under both policies, and all others under the
inclusive one only; on the rules with a conjunction the policies agree. -/
theorem unfinishedRules_widen :
    let active : Record := ⟨[("status", .string "Active")]⟩
    let inactive : Record := ⟨[("status", .string "Inactive")]⟩
    unfinishedRules.accepts .vacuous active = true ∧
      unfinishedRules.accepts .inclusive active = true ∧
      (unfinishedRules.compile .vacuous).predicate.accepts active = true ∧
      (unfinishedRules.compile .inclusive).predicate.accepts active = true ∧
      unfinishedRules.accepts .vacuous inactive = false ∧
      unfinishedRules.accepts .inclusive inactive = true ∧
      (∀ id, ¬ (Node.group id .or []).OccursIn unconditionalRules.node) ∧
      unconditionalRules.evaluate .vacuous inactive
        = unconditionalRules.evaluate .inclusive inactive ∧
      unconditionalRules.compile .vacuous = unconditionalRules.compile .inclusive := by
  intro active inactive
  obtain ⟨hwidens, hcompiled, -⟩ := inclusive_policy_widens unfinishedRules
  obtain ⟨-, -, hagree⟩ := inclusive_policy_widens unconditionalRules
  have hactive : unfinishedRules.accepts .vacuous active = true := by decide +kernel
  have hpredicate : (unfinishedRules.compile .vacuous).predicate.accepts active = true :=
    (unfinishedRules.node.accepts_compile .vacuous active).trans hactive
  have hnone : ∀ id, ¬ (Node.group id .or []).OccursIn unconditionalRules.node := by
    intro id
    simp [unconditionalRules, Group.node, Node.occursIn_group, Node.occursIn_condition]
  obtain ⟨hverdicts, hcompilations⟩ := hagree hnone
  refine ⟨hactive, hwidens active hactive, hpredicate, hcompiled active hpredicate, ?_, ?_, hnone,
    hverdicts inactive, hcompilations⟩
  · decide +kernel
  · decide +kernel

end Audience
