import Audience.Authoring.Program
import Audience.Proofs.Authoring.Edit
import Audience.Proofs.Rule.Depth

/-!
**Trees that programs build**.

A program adds nodes to the group that it works on, one after the other.  The nodes of a nested
group are added to a root of their own, whose identifier is no new one; the group takes its own
identifier when all the nodes in it have taken theirs.  So the nodes of the tree that is built are
those that the program finishes, and the new identifiers come in the order in which it does so.

Main definitions:

* `Authoring.Finished` — a node that a program finishes, without its identifier;
* `Authoring.Step.finished`, `Authoring.Step.nesting` — the nodes that a step finishes, in order,
  and how deep its groups are nested;
* `Authoring.named` — nodes with the new identifiers that they take;
* `Authoring.Extends` — what steps do to the group they work on.

Main results:

* `Authoring.Extends.trans` — steps one after the other extend a group by the nodes of both;
* `Authoring.Extends.nested` — the nodes of a nested root become those of one group when it is
  given an identifier of its own;
* `Authoring.Step.extends_run`, `Authoring.Step.extends_runAll` — a step and a list of steps extend
  a group by the nodes that they finish;
* `Authoring.built_trees_mirror_programs` — **a program can be read off the tree that it builds**.
-/

set_option relaxedAutoImplicit false
set_option autoImplicit false

namespace Audience

/-! ### One more child -/

theorem Node.depthAll_append (nodes more : List Node) :
    depthAll (nodes ++ more) = max (depthAll nodes) (depthAll more) := by
  induction nodes with
  | nil => exact (Nat.zero_max _).symm
  | cons node nodes ih => rw [List.cons_append, depthAll, depthAll, ih, Nat.max_assoc]

namespace Group

theorem depth_append (g : Group) (child : Node) :
    (g.append child).depth = max g.depth (child.depth + 1) := by
  have hchildren : Node.depthAll (g.children ++ [child])
      = max (Node.depthAll g.children) child.depth := by
    rw [Node.depthAll_append, Node.depthAll, Node.depthAll, Nat.max_zero]
  change Node.depthAll (g.children ++ [child]) + 1 = max (Node.depthAll g.children + 1) _
  rw [hchildren, Nat.add_max_add_right]

theorem conditions_append (g : Group) (child : Node) :
    (g.append child).conditions = g.conditions ++ child.conditions := by
  change Node.conditionsAll (g.children ++ [child]) = Node.conditionsAll g.children ++ _
  simp [Node.conditionsAll_eq_flatMap]

end Group

namespace Authoring

/-! ### What programs finish -/

/-- A node that a program **finishes**, without its identifier. -/
inductive Finished where
  /-- A condition with its field, its operator and its value. -/
  | condition (field : String) (operator : Operator) (value : Operand)
  /-- A group. -/
  | group

/-- The condition that a finished node is under an identifier, if it is one. -/
def Finished.condition? (id : String) : Finished → Option Condition
  | condition field operator value => some ⟨id, field, operator, value⟩
  | group => none

namespace Step

mutual

/-- The nodes that a step finishes, in order: a group after the nodes in it. -/
def finished : Step → List Finished
  | condition field operator value => [.condition field operator value]
  | withOr => []
  | group _ steps => finishedAll steps ++ [.group]

/-- The nodes that a list of steps finishes, in order. -/
def finishedAll : List Step → List Finished
  | [] => []
  | step :: steps => step.finished ++ finishedAll steps

end

mutual

/-- How many groups of a step are nested in each other at most. -/
def nesting : Step → Nat
  | condition .. => 0
  | withOr => 0
  | group _ steps => nestingAll steps + 1

/-- How many groups of a list of steps are nested in each other at most. -/
def nestingAll : List Step → Nat
  | [] => 0
  | step :: steps => max step.nesting (nestingAll steps)

end

mutual

/-- Induction on steps: a property holds of every step if it holds of a group whenever it holds
of the steps in it, and of all other steps. -/
theorem induction {motive : Step → Prop}
    (condition : ∀ field operator value, motive (.condition field operator value))
    (withOr : motive .withOr)
    (group : ∀ logic (steps : List Step), (∀ step ∈ steps, motive step) →
      motive (.group logic steps)) : ∀ step, motive step
  | .condition field operator value => condition field operator value
  | .withOr => withOr
  | .group logic steps => group logic steps (inductionAll condition withOr group steps)

theorem inductionAll {motive : Step → Prop}
    (condition : ∀ field operator value, motive (.condition field operator value))
    (withOr : motive .withOr)
    (group : ∀ logic (steps : List Step), (∀ step ∈ steps, motive step) →
      motive (.group logic steps)) : ∀ (steps : List Step), ∀ step ∈ steps, motive step
  | [], _, h => nomatch h
  | first :: steps, step, h => by
    rcases List.mem_cons.1 h with h | h
    · exact h ▸ induction condition withOr group first
    · exact inductionAll condition withOr group steps step h

end

end Step

/-! ### New identifiers -/

variable {ids : Nat → String}

/-- Nodes with the new identifiers that they take, from the place `next` on. -/
def named (ids : Nat → String) (next : Nat) (nodes : List Finished) : List (String × Finished) :=
  (nodes.zipIdx next).map fun (node, n) => (ids n, node)

/-- The new identifiers that a program takes: the first ones, as many as it finishes nodes. -/
def idsTaken (ids : Nat → String) (steps : List Step) : List String :=
  (List.range (Step.finishedAll steps).length).map ids

/-- The conditions among nodes with identifiers, in order. -/
def conditionsOf (nodes : List (String × Finished)) : List Condition :=
  nodes.filterMap fun (id, node) => node.condition? id

theorem named_append (next : Nat) (nodes more : List Finished) :
    named ids next (nodes ++ more)
      = named ids next nodes ++ named ids (next + nodes.length) more := by
  rw [named, List.zipIdx_append, List.map_append]
  rfl

theorem conditionsOf_append (nodes more : List (String × Finished)) :
    conditionsOf (nodes ++ more) = conditionsOf nodes ++ conditionsOf more :=
  List.filterMap_append

theorem map_fst_named (next : Nat) (nodes : List Finished) :
    (named ids next nodes).map Prod.fst = (List.range' next nodes.length).map ids := by
  rw [named, List.map_map, ← List.zipIdx_map_snd next nodes, List.map_map]
  rfl

/-! ### What steps do to a group -/

/-- A group is extended by nodes: they are below it afterwards, under the new identifiers that
come next, with all that was below it before. -/
structure Extends (ids : Nat → String) (nodes : List Finished) (nesting : Nat)
    (before after : Nat × Group) : Prop where
  /-- Each node takes one new identifier. -/
  next : after.1 = before.1 + nodes.length
  /-- The group has its identifier as before. -/
  id : after.2.id = before.2.id
  /-- The identifiers in the group are the old ones and those of the nodes. -/
  identifiers : after.2.ids.Perm (before.2.ids ++ (named ids before.1 nodes).map Prod.fst)
  /-- The conditions in the group are the old ones and then those among the nodes. -/
  conditions : after.2.conditions
    = before.2.conditions ++ conditionsOf (named ids before.1 nodes)
  /-- The group is as deep as before, or as the nodes are nested in it. -/
  depth : after.2.depth = max before.2.depth (nesting + 1)

namespace Extends

variable {nodes more : List Finished} {nesting deeper : Nat} {first second third : Nat × Group}

theorem refl (state : Nat × Group) : Extends ids [] 0 state state where
  next := rfl
  id := rfl
  identifiers := by rw [named, List.zipIdx_nil, List.map_nil, List.map_nil, List.append_nil]
  conditions := (List.append_nil _).symm
  depth := by
    obtain ⟨n, hn⟩ := state.2.exists_depth
    omega

/-- Steps one after the other extend a group by the nodes of both. -/
theorem trans (h : Extends ids nodes nesting first second)
    (hmore : Extends ids more deeper second third) :
    Extends ids (nodes ++ more) (max nesting deeper) first third where
  next := by rw [hmore.next, h.next, List.length_append, Nat.add_assoc]
  id := hmore.id.trans h.id
  identifiers := by
    have hids := hmore.identifiers.trans (h.identifiers.append_right _)
    rw [h.next] at hids
    rwa [named_append, List.map_append, ← List.append_assoc]
  conditions := by
    rw [hmore.conditions, h.conditions, h.next, named_append, conditionsOf_append,
      List.append_assoc]
  depth := by rw [hmore.depth, h.depth, Nat.max_assoc, Nat.add_max_add_right]

theorem condition (next : Nat) (g : Group) (field : String) (operator : Operator)
    (value : Operand) :
    Extends ids [.condition field operator value] 0 (next, g)
      (next + 1, g.append (.condition ⟨ids next, field, operator, value⟩)) where
  next := rfl
  id := rfl
  identifiers := by
    rw [Group.ids_append]
    rfl
  conditions := Group.conditions_append g _
  depth := Group.depth_append g _

/-- The nodes of a nested root become those of one group when it is given an identifier of its
own, after all of theirs. -/
theorem nested {logic : Logic} {next : Nat} {g : Group} {after : Nat × Group}
    (h : Extends ids nodes nesting (next, .root logic) after) :
    Extends ids (nodes ++ [.group]) (nesting + 1) (next, g)
      (after.1 + 1, g.append (.group (ids after.1) after.2.logic after.2.children)) where
  next := by
    rw [h.next, List.length_append, Nat.add_assoc]
    rfl
  id := rfl
  identifiers := by
    -- the identifier of the nested root is taken off, and the new one put behind the others
    have hbelow : (after.2.children.flatMap Node.ids).Perm
        ((named ids next nodes).map Prod.fst) := by
      have hids := h.identifiers
      rw [Group.ids_eq, h.id] at hids
      exact hids.cons_inv
    rw [Group.ids_append, Node.ids, Node.idsAll_eq_flatMap, named_append, List.map_append]
    refine List.Perm.append_left _ ?_
    have hnext : after.1 = next + nodes.length := h.next
    rw [hnext]
    exact (hbelow.cons _).trans (List.perm_append_singleton _ _).symm
  conditions := by
    rw [Group.conditions_append, named_append, conditionsOf_append]
    have hbelow : after.2.conditions = conditionsOf (named ids next nodes) := h.conditions
    have hgroup : conditionsOf (named ids (next + nodes.length) [.group]) = [] := rfl
    rw [hgroup, List.append_nil, ← hbelow]
    rfl
  depth := by
    have hdepth : after.2.depth = nesting + 1 := by
      rw [h.depth]
      exact Nat.max_eq_right (Nat.le_add_left 1 nesting)
    rw [Group.depth_append]
    exact congrArg (fun n => max g.depth (n + 1)) hdepth

end Extends

namespace Step

theorem extends_runAll_of_forall {steps : List Step}
    (h : ∀ step ∈ steps, ∀ state,
      Extends ids step.finished step.nesting state (step.run ids state))
    (state : Nat × Group) :
    Extends ids (finishedAll steps) (nestingAll steps) state (runAll ids steps state) := by
  induction steps generalizing state with
  | nil => exact Extends.refl state
  | cons step steps ih =>
      rw [List.forall_mem_cons] at h
      exact (h.1 state).trans (ih h.2 _)

/-- A step extends a group by the nodes that it finishes. -/
theorem extends_run (ids : Nat → String) (step : Step) (state : Nat × Group) :
    Extends ids step.finished step.nesting state (step.run ids state) := by
  induction step using Step.induction generalizing state with
  | condition field operator value =>
      exact Extends.condition state.1 state.2 field operator value
  | withOr =>
      -- what a group combines its children by is no part of what is below it
      have h : Extends ids [] 0 state state := .refl state
      exact ⟨rfl, rfl, h.identifiers, h.conditions, h.depth⟩
  | group logic steps ih =>
      exact (extends_runAll_of_forall ih (state.1, .root logic)).nested

/-- A list of steps extends a group by the nodes that they finish. -/
theorem extends_runAll (ids : Nat → String) (steps : List Step) (state : Nat × Group) :
    Extends ids (finishedAll steps) (nestingAll steps) state (runAll ids steps state) :=
  extends_runAll_of_forall (fun step _ => extends_run ids step) state

end Step

/-- **A program can be read off the tree that it builds.**  Whatever the new identifiers are, the
tree has the identifier of a root, and besides it just those that the program takes, one for every
node that it finishes; so its identifiers are different if and only if the ones taken are different
from each other and from that of the root.  Its conditions are those of the program, in its order,
each under the new identifier that came when it was added.  It has one level more than the groups of
the program are nested in each other.  Steps for common conditions, such as `Step.equals`,
`Step.greaterThan` and `Step.between`, are conditions like all others. -/
theorem built_trees_mirror_programs (ids : Nat → String) (logic : Logic) (steps : List Step) :
    (build ids logic steps).id = Group.rootId ∧
    (build ids logic steps).ids.Perm (Group.rootId :: idsTaken ids steps) ∧
    ((build ids logic steps).ids.Nodup ↔
      (idsTaken ids steps).Nodup ∧ Group.rootId ∉ idsTaken ids steps) ∧
    (build ids logic steps).conditions = conditionsOf (named ids 0 (Step.finishedAll steps)) ∧
    (build ids logic steps).depth = 1 + Step.nestingAll steps := by
  have h := Step.extends_runAll ids steps (0, .root logic)
  have hids : (build ids logic steps).ids.Perm (Group.rootId :: idsTaken ids steps) := by
    rw [idsTaken, List.range_eq_range', ← map_fst_named]
    exact h.identifiers
  refine ⟨h.id, hids, ?_, h.conditions, ?_⟩
  · rw [hids.nodup_iff, List.nodup_cons, and_comm]
  · have hdepth : (build ids logic steps).depth = max 1 (Step.nestingAll steps + 1) := h.depth
    omega

/-- A nested group takes its identifier after the conditions in it. -/
example :
    let tree := build (fun n => ["c1", "c2", "c3", "g1"].getD n "") .and
      [.equals "status" (.text "Active"),
       .group .or [.greaterThan "age" (Double.ofInt 30),
         .between "registration_date" "2024-01-01" "2024-12-31"]]
    tree.ids = ["root", "c1", "g1", "c2", "c3"] ∧ tree.depth = 2 := by
  decide +kernel

end Authoring

end Audience
