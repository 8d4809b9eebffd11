import Audience.Comparison
import Audience.Record
import Audience.Rule.EmptyGroup

/-!
**Evaluation** of rule trees on records.

The children of a group are evaluated from the left, and no further than the first one that
decides the group.  Every condition on the way that no comparison can be made for is reported.

Main definitions:

* `Anomaly`, `Verdict` — the report of a condition, and an outcome with the reports on the way;
* `Condition.evaluate`, `Node.evaluate`, `Group.evaluate` — the verdict on a record;
* `Group.accepts` — does a record belong to a tree?
* `Group.filter` — the records of a list that belong to a tree.
-/

set_option relaxedAutoImplicit false
set_option autoImplicit false

namespace Audience

/-- The report of a condition that **no comparison** could be made for. -/
structure Anomaly where
  /-- The identifier of the condition. -/
  condition : String
  /-- Its field. -/
  field : String
  /-- Why there was no comparison. -/
  kind : AnomalyKind
  deriving DecidableEq, Repr

/-- A **verdict**: an outcome, and the anomalies met on the way to it. -/
structure Verdict where
  /-- The outcome. -/
  holds : Bool
  /-- The anomalies, in the order in which they were met. -/
  anomalies : List Anomaly
  deriving DecidableEq, Repr

/-- The outcome of a comparison for a condition, with the report if it was not made. -/
def Condition.conclude (c : Condition) : Except AnomalyKind Bool → Verdict
  | .ok holds => ⟨holds, []⟩
  | .error kind => ⟨kind.outcome, [⟨c.id, c.field, kind⟩]⟩

/-- The comparison that a condition makes on a record. -/
def Condition.outcome (c : Condition) (record : Record) : Except AnomalyKind Bool :=
  match record.get? c.field with
  | none => .error .missingField
  | some actual => c.operator.compare c.value actual

/-- The verdict of a **condition** on a record. -/
def Condition.evaluate (record : Record) (c : Condition) : Verdict := c.conclude (c.outcome record)

/-- The outcome of a child that decides its group. -/
def Logic.decisive : Logic → Bool
  | .and => false
  | .or => true

mutual

/-- The verdict of a **node** on a record. -/
def Node.evaluate (policy : EmptyGroupPolicy) (record : Record) : Node → Verdict
  | .condition c => c.evaluate record
  | .group _ logic [] => ⟨policy.outcome logic, []⟩
  | .group _ logic (child :: children) => Node.evaluateAll policy record logic (child :: children)

/-- The verdict on the children of a group: the first decisive child settles it. -/
def Node.evaluateAll (policy : EmptyGroupPolicy) (record : Record) (logic : Logic) :
    List Node → Verdict
  | [] => ⟨!logic.decisive, []⟩
  | node :: nodes =>
    let verdict := node.evaluate policy record
    if verdict.holds = logic.decisive then verdict
    else
      let rest := Node.evaluateAll policy record logic nodes
      ⟨rest.holds, verdict.anomalies ++ rest.anomalies⟩

end

/-- The **verdict of a tree** on a record. -/
def Group.evaluate (policy : EmptyGroupPolicy) (record : Record) (g : Group) : Verdict :=
  g.node.evaluate policy record

/-- **Does a record belong** to a tree? -/
def Group.accepts (policy : EmptyGroupPolicy) (g : Group) (record : Record) : Bool :=
  (g.evaluate policy record).holds

/-- The records of a list that belong to a tree, in their order. -/
def Group.filter (policy : EmptyGroupPolicy) (g : Group) (records : List Record) : List Record :=
  records.filter (g.accepts policy)

end Audience
