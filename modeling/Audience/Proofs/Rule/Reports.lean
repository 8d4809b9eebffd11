import Audience.Proofs.Rule.Replacement
import Audience.Proofs.Rule.Visit

/-!
**Reports follow the order of evaluation**.

A place in a rule tree is reached if no group on the way to it is decided before: of the children
that stand to the left of the way all hold in a conjunction, and none does in a disjunction.  This
says of each place for itself, and with regard to outcomes alone, whether an evaluation comes to it.
The reports of an evaluation are those of the conditions at the places that are reached, in the
order of the tree, and where a condition reports its group has the outcome that the report counts
for in its place.

Main definitions:

* `Node.occurrences`, `Group.occurrences` — the conditions of a tree, each with the **way** to it;
* `Node.isReached` — is the place at the end of a way **reached**?
* `Group.reached` — the conditions at the places that are reached.

Main results:

* `Node.visited_eq` — an evaluation visits what is reached;
* `Node.holds_group_of_anomaly?` — a report contributes its own outcome to the group;
* `reports_follow_evaluation` — the reports of an evaluation are **those of the conditions that are
  reached**.
-/

set_option relaxedAutoImplicit false
set_option autoImplicit false

namespace Audience

/-! ### Places of conditions -/

mutual

/-- The **conditions at or below a node with the ways to them**, depth first. -/
def Node.occurrences : Node → List (List Nat × Condition)
  | .condition c => [([], c)]
  | .group _ _ children => Node.occurrencesAmong 0 children

/-- The conditions at or below a list of nodes with the ways to them, where the first node has the
place `place` among its siblings. -/
def Node.occurrencesAmong (place : Nat) : List Node → List (List Nat × Condition)
  | [] => []
  | node :: nodes =>
    node.occurrences.map (fun (path, c) => (place :: path, c))
      ++ Node.occurrencesAmong (place + 1) nodes

end

/-- The **conditions of a tree with the ways to them**, depth first. -/
def Group.occurrences (g : Group) : List (List Nat × Condition) := g.node.occurrences

/-- Is the place at the end of a way **reached**?  Of the children that stand before the way, in
each group on it, none decides the group: in a conjunction they all hold, and in a disjunction none
of them does. -/
def Node.isReached (policy : EmptyGroupPolicy) (record : Record) : List Nat → Node → Bool
  | [], _ => true
  | _ :: _, .condition _ => false
  | place :: path, .group _ logic children =>
    (children.take place).all (!logic.decidedBy policy record ·)
      && (children[place]?).any (Node.isReached policy record path)

/-- The conditions of a tree that are reached on a record, depth first. -/
def Group.reached (policy : EmptyGroupPolicy) (record : Record) (g : Group) : List Condition :=
  (g.occurrences.filter fun (path, _) => g.node.isReached policy record path).map (·.2)

variable {policy : EmptyGroupPolicy} {record : Record}

namespace Node

theorem map_occurrences (node : Node) : node.occurrences.map (·.2) = node.conditions := by
  have hall : ∀ (nodes : List Node) (place : Nat),
      (∀ node ∈ nodes, node.occurrences.map (·.2) = node.conditions) →
      (occurrencesAmong place nodes).map (·.2) = conditionsAll nodes := by
    intro nodes place h
    induction nodes generalizing place with
    | nil => rfl
    | cons node nodes ih =>
        rw [List.forall_mem_cons] at h
        rw [occurrencesAmong, conditionsAll, List.map_append, List.map_map, ih _ h.2, ← h.1]
        rfl
  induction node using Node.induction with
  | condition c => rfl
  | group id logic children ih => exact hall children 0 ih

/-- A way into a child is reached if the children before it leave the group open and the rest of the
way is reached in the child. -/
theorem isReached_group (id : String) (logic : Logic) (before : List Node) (child : Node)
    (after : List Node) (path : List Nat) :
    (group id logic (before ++ child :: after)).isReached policy record (before.length :: path)
      = (before.all (!logic.decidedBy policy record ·) && child.isReached policy record path) := by
  simp [isReached]

/-- The conditions that are reached from some child on, if every child visits what is reached in
it: none if a child before has decided the group, and else those that are visited. -/
theorem filter_occurrencesAmong (id : String) (logic : Logic) (before nodes : List Node)
    (h : ∀ node ∈ nodes, node.visited policy record
      = (node.occurrences.filter fun (path, _) => node.isReached policy record path).map (·.2)) :
    ((occurrencesAmong before.length nodes).filter fun (path, _) =>
        (group id logic (before ++ nodes)).isReached policy record path).map (·.2)
      = if before.all (!logic.decidedBy policy record ·) then visitedAll policy record logic nodes
        else [] := by
  induction nodes generalizing before with
  | nil => simp [occurrencesAmong, visitedAll]
  | cons node nodes ih =>
      rw [List.forall_mem_cons] at h
      have hrest := ih (before ++ [node]) h.2
      rw [List.append_assoc, List.length_append, List.length_singleton, List.singleton_append,
        List.all_append] at hrest
      rw [occurrencesAmong, List.filter_append, List.map_append, hrest, List.filter_map,
        List.map_map, visitedAll, h.1]
      cases hbefore : before.all (!logic.decidedBy policy record ·) with
      | false => simp [Function.comp_def, isReached_group, hbefore]
      | true =>
          -- what stands after the node is visited only if the node leaves the group open
          cases hdecided : logic.decidedBy policy record node <;>
            simp [Function.comp_def, isReached_group, hbefore, hdecided]

/-- An evaluation visits what is reached. -/
theorem visited_eq (policy : EmptyGroupPolicy) (record : Record) (node : Node) :
    node.visited policy record
      = (node.occurrences.filter fun (path, _) => node.isReached policy record path).map (·.2) := by
  induction node using Node.induction with
  | condition c => rfl
  | group id logic children ih => exact (filter_occurrencesAmong id logic [] children ih).symm

end Node

/-! ### Reports -/

namespace Condition

theorem anomalies_evaluate (record : Record) (c : Condition) :
    (c.evaluate record).anomalies = (c.anomaly? record).toList := by
  rw [evaluate, anomaly?]
  cases c.outcome record <;> rfl

theorem holds_of_anomaly? {c : Condition} {a : Anomaly} (h : c.anomaly? record = some a) :
    (c.evaluate record).holds = a.kind.outcome := by
  rw [anomaly?] at h
  cases ho : c.outcome record with
  | ok holds => simp [ho] at h
  | error kind =>
      obtain rfl : (⟨c.id, c.field, kind⟩ : Anomaly) = a := by simpa [ho] using h
      exact holds_of_outcome ho

theorem map_filterMap_anomaly? (record : Record) (conditions : List Condition) :
    (conditions.filterMap (·.anomaly? record)).map (fun a => (a.condition, a.field))
      = (conditions.filter fun c => (c.anomaly? record).isSome).map fun c => (c.id, c.field) := by
  induction conditions with
  | nil => rfl
  | cons c conditions ih =>
      cases h : c.outcome record with
      | ok holds => simpa [anomaly?, h] using ih
      | error kind => simpa [anomaly?, h] using ih

end Condition

/-- A report contributes its own outcome to the group of its condition. -/
theorem Node.holds_group_of_anomaly? (policy : EmptyGroupPolicy) (id : String) (logic : Logic)
    (before : List Node) {c : Condition} (after : List Node) {a : Anomaly}
    (h : c.anomaly? record = some a) :
    ((group id logic (before ++ .condition c :: after)).evaluate policy record).holds
      = logic.outcomeOf (before.map (fun node => (node.evaluate policy record).holds)
          ++ a.kind.outcome :: after.map fun node => (node.evaluate policy record).holds) := by
  rw [holds_evaluate_group policy record id logic (by simp), List.map_append, List.map_cons,
    evaluate, Condition.holds_of_anomaly? h]

/-! ### Trees -/

/-- **Reports follow the order of evaluation.**  The reports of an evaluation are, in their order,
those of the conditions at the places that are reached.  Each of these reports once or not at all,
a condition that reports contributes the outcome of its report to its group, and the reports are
about conditions of the tree in the order of the tree. -/
theorem reports_follow_evaluation (policy : EmptyGroupPolicy) (record : Record) (tree : Group) :
    let reports := (tree.evaluate policy record).anomalies
    reports = (tree.reached policy record).filterMap (·.anomaly? record) ∧
      (∀ c : Condition, (c.evaluate record).anomalies = (c.anomaly? record).toList) ∧
      (∀ id logic before after c a, c.anomaly? record = some a →
        ((Node.group id logic (before ++ .condition c :: after)).evaluate policy record).holds
          = logic.outcomeOf (before.map (fun node => (node.evaluate policy record).holds)
            ++ a.kind.outcome :: after.map fun node => (node.evaluate policy record).holds)) ∧
      tree.occurrences.map (·.2) = tree.conditions ∧
      (reports.map fun a => (a.condition, a.field)).Sublist
        (tree.conditions.map fun c => (c.id, c.field)) := by
  intro reports
  have hvisited : tree.node.visited policy record = tree.reached policy record :=
    tree.node.visited_eq policy record
  have hreports : reports = (tree.reached policy record).filterMap (·.anomaly? record) := by
    rw [← hvisited]
    exact tree.node.anomalies_evaluate policy record
  refine ⟨hreports, Condition.anomalies_evaluate record, ?_, tree.node.map_occurrences, ?_⟩
  · intro id logic before after c a h
    exact Node.holds_group_of_anomaly? policy id logic before after h
  · rw [hreports, Condition.map_filterMap_anomaly?, ← hvisited]
    have hsublist := tree.node.visited_sublist policy record
    exact (List.filter_sublist.trans hsublist).map _

/-- Rules in which three conditions report on a person of 36 called Ada, and two are not reached. -/
def interruptedRules : Group where
  id := "root"
  logic := .and
  children :=
    [.condition ⟨"c1", "age", .unknown "is_square", .text ""⟩,
     .group "g1" .or
      [.condition ⟨"c2", "city", .equals, .text "Lima"⟩,
       .condition ⟨"c3", "name", .equals, .text "ada"⟩,
       .condition ⟨"c4", "name", .unknown "sounds_like", .text "Eda"⟩],
     .group "g2" .and [],
     .condition ⟨"c5", "age", .between, .text "2024-01-01"⟩,
     .condition ⟨"c6", "status", .equals, .text "Active"⟩]

/-- The name settles the inner group, and the range without two ends the whole; what stands after
them is not reached.  The city that is missing counts as false in the inner group. -/
theorem interruptedRules_report :
    let record : Record := ⟨[("age", .int 36), ("name", .string "Ada")]⟩
    let city : Condition := ⟨"c2", "city", .equals, .text "Lima"⟩
    let others : List Node :=
      [.condition ⟨"c3", "name", .equals, .text "ada"⟩,
       .condition ⟨"c4", "name", .unknown "sounds_like", .text "Eda"⟩]
    (interruptedRules.reached .inclusive record).map (·.id) = ["c1", "c2", "c3", "c5"] ∧
      (interruptedRules.evaluate .inclusive record).anomalies
        = [⟨"c1", "age", .unknownOperator "is_square"⟩, ⟨"c2", "city", .missingField⟩,
          ⟨"c5", "age", .malformedRange⟩] ∧
      city.anomaly? record = some ⟨"c2", "city", .missingField⟩ ∧
      ((Node.group "g1" .or (.condition city :: others)).evaluate .inclusive record).holds
        = Logic.or.outcomeOf [false, true, true] := by
  intro record city others
  obtain ⟨hreports, -, hgroup, -, -⟩ := reports_follow_evaluation .inclusive record interruptedRules
  have hreached : (interruptedRules.reached .inclusive record).map (·.id)
      = ["c1", "c2", "c3", "c5"] := by decide +kernel
  have hcity : city.anomaly? record = some ⟨"c2", "city", .missingField⟩ := by decide +kernel
  refine ⟨hreached, hreports.trans ?_, hcity, (hgroup "g1" .or [] others city _ hcity).trans ?_⟩
  · decide +kernel
  · decide +kernel

end Audience
