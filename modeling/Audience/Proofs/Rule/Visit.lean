import Audience.Evaluation
import Audience.Proofs.Rule.Tree
import Mathlib.Data.List.Basic

/-!
**The conditions that an evaluation visits**.

The children of a group are looked at from the left, up to the first one that decides the group.
What stands after it is not looked at, whatever conditions are in it.  So an evaluation visits some
of the conditions of a tree, in their order, and the anomalies of a verdict are those of the ones
that have been visited.

Main definitions:

* `Logic.decidedBy`, `Logic.consulted` — the children that decide a group, and those that are
  **looked at**;
* `Node.visited`, `Group.visited` — the conditions that are **visited**;
* `Condition.anomaly?` — the report of a condition, if no comparison can be made for it.

Main results:

* `Node.visited_group` — a group visits what the children visit that are looked at;
* `Node.visited_sublist` — what is visited are conditions of the tree, in their order;
* `Node.anomalies_evaluate` — the anomalies of a verdict are **those of the visited conditions**.
-/

set_option relaxedAutoImplicit false
set_option autoImplicit false

namespace Audience

/-- The report of a condition, if no comparison can be made for it on a record. -/
def Condition.anomaly? (record : Record) (c : Condition) : Option Anomaly :=
  match c.outcome record with
  | .ok _ => none
  | .error kind => some ⟨c.id, c.field, kind⟩

/-- Is a group **decided by a child** on a record? -/
def Logic.decidedBy (logic : Logic) (policy : EmptyGroupPolicy) (record : Record) (child : Node) :
    Bool :=
  (child.evaluate policy record).holds == logic.decisive

/-- The children of a group that are looked at: those before the first one that decides it, and
this one. -/
def Logic.consulted (logic : Logic) (policy : EmptyGroupPolicy) (record : Record)
    (children : List Node) : List Node :=
  children.takeWhile (!logic.decidedBy policy record ·)
    ++ (children.find? (logic.decidedBy policy record)).toList

mutual

/-- The conditions at or below a node that are **visited** on a record, depth first. -/
def Node.visited (policy : EmptyGroupPolicy) (record : Record) : Node → List Condition
  | .condition c => [c]
  | .group _ logic children => Node.visitedAll policy record logic children

/-- The conditions that are visited below the children of a group. -/
def Node.visitedAll (policy : EmptyGroupPolicy) (record : Record) (logic : Logic) :
    List Node → List Condition
  | [] => []
  | node :: nodes =>
    if logic.decidedBy policy record node then node.visited policy record
    else node.visited policy record ++ Node.visitedAll policy record logic nodes

end

/-- The conditions of a tree that are **visited** on a record. -/
def Group.visited (policy : EmptyGroupPolicy) (record : Record) (g : Group) : List Condition :=
  g.node.visited policy record

variable {policy : EmptyGroupPolicy} {record : Record}

namespace Logic

theorem consulted_cons (logic : Logic) (child : Node) (children : List Node) :
    logic.consulted policy record (child :: children) =
      if logic.decidedBy policy record child then [child]
      else child :: logic.consulted policy record children := by
  unfold consulted
  cases hd : logic.decidedBy policy record child with
  | true => simp [hd]
  | false => simp [hd]

theorem consulted_sublist (logic : Logic) (children : List Node) :
    (logic.consulted policy record children).Sublist children := by
  induction children with
  | nil => exact List.nil_sublist _
  | cons child children ih =>
      rw [consulted_cons]
      split
      · exact (List.nil_sublist children).cons_cons child
      · exact ih.cons_cons child

end Logic

namespace Node

/-- A group visits what the children visit that are looked at. -/
theorem visited_group (policy : EmptyGroupPolicy) (record : Record) (id : String) (logic : Logic)
    (children : List Node) :
    (group id logic children).visited policy record
      = (logic.consulted policy record children).flatMap (visited policy record) := by
  rw [visited]
  induction children with
  | nil => rfl
  | cons child children ih =>
      rw [visitedAll, Logic.consulted_cons]
      split
      · rw [List.flatMap_singleton]
      · rw [List.flatMap_cons, ih]

/-- What is visited are conditions of the tree, in their order. -/
theorem visited_sublist (policy : EmptyGroupPolicy) (record : Record) (node : Node) :
    (node.visited policy record).Sublist node.conditions := by
  induction node using Node.induction with
  | condition c => exact List.Sublist.refl _
  | group id logic children ih =>
      rw [visited_group, conditions, conditionsAll_eq_flatMap]
      have hconsulted : ∀ child ∈ logic.consulted policy record children,
          (child.visited policy record).Sublist child.conditions := by
        intro child hchild
        exact ih child ((logic.consulted_sublist children).subset hchild)
      exact (List.Sublist.flatMap_right _ hconsulted).trans
        (List.Sublist.flatMap (logic.consulted_sublist children) conditions)

theorem anomalies_evaluateAll (policy : EmptyGroupPolicy) (record : Record) (logic : Logic)
    (children : List Node) :
    (evaluateAll policy record logic children).anomalies
      = (logic.consulted policy record children).flatMap
        fun child => (child.evaluate policy record).anomalies := by
  induction children with
  | nil => rfl
  | cons child children ih =>
      rw [evaluateAll, Logic.consulted_cons, Logic.decidedBy]
      by_cases hd : (child.evaluate policy record).holds = logic.decisive
      · simp [hd]
      · simp [hd, ih]

/-- The anomalies of a verdict are **those of the conditions that are visited**. -/
theorem anomalies_evaluate (policy : EmptyGroupPolicy) (record : Record) (node : Node) :
    (node.evaluate policy record).anomalies
      = (node.visited policy record).filterMap (Condition.anomaly? record) := by
  induction node using Node.induction with
  | condition c =>
      rw [evaluate, Condition.evaluate, visited]
      cases h : c.outcome record <;> simp [Condition.conclude, Condition.anomaly?, h]
  | group id logic children ih =>
      have hverdict : ((group id logic children).evaluate policy record).anomalies
          = (evaluateAll policy record logic children).anomalies := by
        cases children <;> rfl
      rw [hverdict, anomalies_evaluateAll, visited_group, List.filterMap_flatMap]
      refine List.flatMap_congr fun child hchild => ?_
      exact ih child ((logic.consulted_sublist children).subset hchild)

end Node

end Audience
