import Audience.Proofs.Predicate.Agreement
import Mathlib.Data.List.Basic

/-!
**What is left of a tree** when it is compiled.

Some nodes have an outcome that no record can change: ranges without two ends, groups without
children, and groups that one such child settles or that have no other children.  Such a node is
folded away with everything below it.  What is left are the conditions outside of them, in their
order, and these are the tests of the compiled tree.

Main definitions:

* `Logic.certain?`, `Node.certain?` — the **outcome that is certain**, if there is one;
* `Node.remaining`, `Group.remaining` — the **conditions that are left**.

Main results:

* `Node.constant?_compile` — a node is compiled to a fixed outcome just when this is certain;
* `Node.tests_compile_eq` — the tests of a compiled tree are those of the conditions that are left;
* `Node.remaining_sublist` — which are conditions of the tree, in their order.
-/

set_option relaxedAutoImplicit false
set_option autoImplicit false

namespace Audience

/-! ### Certain outcomes -/

/-- The outcome of a group that is **certain** from what is certain of its children: the decisive
one if a child has it, and the other one if all children do. -/
def Logic.certain? (logic : Logic) (outcomes : List (Option Bool)) : Option Bool :=
  if some logic.decisive ∈ outcomes then some logic.decisive
  else if none ∈ outcomes then none
  else some !logic.decisive

mutual

/-- The outcome of a node that is **certain**, whatever the record. -/
def Node.certain? (policy : EmptyGroupPolicy) : Node → Option Bool
  | .condition c => if c.test?.isSome then none else some false
  | .group _ logic [] => some (policy.outcome logic)
  | .group _ logic (child :: children) =>
    logic.certain? (Node.certainAll policy (child :: children))

/-- What is certain of the nodes of a list. -/
def Node.certainAll (policy : EmptyGroupPolicy) : List Node → List (Option Bool)
  | [] => []
  | node :: nodes => node.certain? policy :: Node.certainAll policy nodes

end

mutual

/-- The **conditions that are left** at or below a node, depth first: those that become a test and
are in no group with a certain outcome. -/
def Node.remaining (policy : EmptyGroupPolicy) : Node → List Condition
  | .condition c => if c.test?.isSome then [c] else []
  | .group id logic children =>
    if ((Node.group id logic children).certain? policy).isSome then []
    else Node.remainingAll policy children

/-- The conditions that are left at or below a list of nodes. -/
def Node.remainingAll (policy : EmptyGroupPolicy) : List Node → List Condition
  | [] => []
  | node :: nodes => node.remaining policy ++ Node.remainingAll policy nodes

end

/-- The **conditions of a tree that are left**, depth first. -/
def Group.remaining (policy : EmptyGroupPolicy) (g : Group) : List Condition :=
  g.node.remaining policy

/-! ### Fixed outcomes -/

namespace Predicate

/-- The fixed outcome that a predicate is, if it is one. -/
def constant? : Predicate → Option Bool
  | const holds => some holds
  | _ => none

theorem constant?_eq_some_iff {p : Predicate} {holds : Bool} :
    p.constant? = some holds ↔ p = const holds := by
  cases p <;> simp [constant?]

theorem isConst_eq_isSome (p : Predicate) : p.isConst = p.constant?.isSome := by
  cases p <;> rfl

theorem constant?_join (empty : Bool) {node : List Predicate → Predicate}
    (hn : ∀ parts, (node parts).constant? = none) {parts : List Predicate}
    (h : ∀ part ∈ parts, part.isConst = false) :
    (join empty node parts).constant? = if parts = [] then some empty else none := by
  match parts with
  | [] => rfl
  | [part] =>
    have hpart := h part List.mem_cons_self
    rw [isConst_eq_isSome, Option.isSome_eq_false_iff, Option.isNone_iff_eq_none] at hpart
    simpa [join] using hpart
  | first :: second :: parts => simpa [join] using hn _

end Predicate

open Predicate

/-- A combination is a fixed outcome just when this is certain from its parts. -/
theorem Logic.constant?_combine (logic : Logic) (parts : List Predicate) :
    (logic.combine parts).constant? = logic.certain? (parts.map constant?) := by
  have hdecisive : some logic.decisive ∈ parts.map constant? ↔ const logic.decisive ∈ parts := by
    simp [constant?_eq_some_iff]
  -- nothing is left to join if every part is a fixed outcome
  have hnone : none ∈ parts.map constant? ↔ parts.filter (!·.isConst) ≠ [] := by
    simp [isConst_eq_isSome]
  have hnode : ∀ parts, (logic.node parts).constant? = none := by
    intro parts
    cases logic <;> rfl
  rw [combine_eq, certain?]
  simp only [hdecisive, hnone]
  by_cases hb : const logic.decisive ∈ parts
  · rw [if_pos hb, if_pos hb, constant?]
  · rw [if_neg hb, if_neg hb, constant?_join _ hnode (by simp)]
    by_cases hleft : parts.filter (!·.isConst) = []
    · rw [if_pos hleft, if_neg (not_not_intro hleft)]
    · rw [if_neg hleft, if_pos hleft]

/-! ### Nodes -/

namespace Condition

/-- A condition that becomes no test is compiled to the outcome that is certain of it. -/
theorem constant?_compile (c : Condition) :
    c.compile.predicate.constant? = if c.test?.isSome then none else some false := by
  rw [predicate_compile]
  cases c.test? <;> rfl

theorem tests_compile (c : Condition) :
    c.compile.predicate.tests = (c.test?.map fun test => (c.field, test)).toList := by
  rw [predicate_compile]
  cases c.test? <;> rfl

end Condition

namespace Node

variable {policy : EmptyGroupPolicy}

theorem certainAll_eq_map (nodes : List Node) :
    certainAll policy nodes = nodes.map (certain? policy) := by
  induction nodes with
  | nil => rfl
  | cons node nodes ih => rw [certainAll, ih, List.map_cons]

theorem remainingAll_eq_flatMap (nodes : List Node) :
    remainingAll policy nodes = nodes.flatMap (remaining policy) := by
  induction nodes with
  | nil => rfl
  | cons node nodes ih => rw [remainingAll, ih, List.flatMap_cons]

theorem certain?_group (id : String) (logic : Logic) {children : List Node} (h : children ≠ []) :
    (group id logic children).certain? policy
      = logic.certain? (children.map (certain? policy)) := by
  match children with
  | child :: children => rw [certain?, certainAll_eq_map]

/-- A node is compiled to a fixed outcome just when this is certain. -/
theorem constant?_compile (policy : EmptyGroupPolicy) (node : Node) :
    (node.compile policy).predicate.constant? = node.certain? policy := by
  induction node using Node.induction with
  | condition c => exact c.constant?_compile
  | group id logic children ih =>
      by_cases hc : children = []
      · subst hc
        rfl
      · rw [predicate_compile_group policy id logic hc, Logic.constant?_combine, List.map_map,
          certain?_group id logic hc]
        exact congrArg logic.certain? (List.map_congr_left ih)

/-- The tests of a compiled tree are those of the conditions that are left. -/
theorem tests_compile_eq (policy : EmptyGroupPolicy) (node : Node) :
    (node.compile policy).predicate.tests
      = (node.remaining policy).flatMap (·.compile.predicate.tests) := by
  induction node using Node.induction with
  | condition c =>
      rw [compile, remaining, Condition.tests_compile]
      split
      · rw [List.flatMap_singleton, Condition.tests_compile]
      · next hnone => simp [Option.not_isSome_iff_eq_none.1 hnone]
  | group id logic children ih =>
      have hconstant := constant?_compile policy (group id logic children)
      rw [remaining]
      cases hcertain : (group id logic children).certain? policy with
      | some holds =>
          rw [hcertain, constant?_eq_some_iff] at hconstant
          rw [hconstant]
          rfl
      | none =>
          have hc : children ≠ [] := by
            rintro rfl
            cases hcertain
          -- no child is decisive, so the tests of all children are left
          have hb : const logic.decisive
              ∉ children.map fun child => (child.compile policy).predicate := by
            intro hmem
            rw [certain?_group id logic hc, Logic.certain?] at hcertain
            split at hcertain
            · cases hcertain
            · next hnone =>
              obtain ⟨child, hchild, hconst⟩ := List.mem_map.1 hmem
              refine hnone (List.mem_map.2 ⟨child, hchild, ?_⟩)
              rw [← constant?_compile, hconst, constant?]
          rw [predicate_compile_group policy id logic hc, Logic.tests_combine_eq, if_neg hb,
            List.flatMap_map, remainingAll_eq_flatMap]
          exact (List.flatMap_congr ih).trans List.flatMap_assoc.symm

/-- The conditions that are left are **conditions of the tree**, in their order. -/
theorem remaining_sublist (policy : EmptyGroupPolicy) (node : Node) :
    (node.remaining policy).Sublist node.conditions := by
  induction node using Node.induction with
  | condition c =>
      rw [remaining, conditions]
      split
      · exact List.Sublist.refl _
      · exact List.nil_sublist _
  | group id logic children ih =>
      rw [remaining, conditions]
      split
      · exact List.nil_sublist _
      · rw [remainingAll_eq_flatMap, conditionsAll_eq_flatMap]
        exact List.Sublist.flatMap_right children ih

/-- Every condition that is left becomes a test. -/
theorem isSome_test?_of_mem_remaining {node : Node} {c : Condition}
    (h : c ∈ node.remaining policy) : c.test?.isSome = true := by
  induction node using Node.induction with
  | condition other =>
      rw [remaining] at h
      split at h
      · next hsome => rwa [List.mem_singleton.1 h]
      · cases h
  | group id logic children ih =>
      rw [remaining] at h
      split at h
      · cases h
      · rw [remainingAll_eq_flatMap] at h
        obtain ⟨child, hchild, h⟩ := List.mem_flatMap.1 h
        exact ih child hchild h

end Node

end Audience
