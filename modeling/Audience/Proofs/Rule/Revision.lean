import Audience.Proofs.Rule.Distinct

/-!
**Revising a tree node by node**.

A revision gives every group another way to combine its children, by the identifier of the group,
and puts another condition in the place of every condition.  It leaves the shape of the tree as it
is.  Two revisions one after the other are one revision, so that their order matters no more than it
does for the ways to combine and for the conditions.

Main definitions:

* `Revision`, with `Revision.andThen` — the revisions, and one after another;
* `Revision.Leaves` — a revision leaves the nodes with an identifier as they are;
* `Node.revise`, `Group.revise` — **a tree after a revision**.

Main results:

* `Group.revise_revise` — two revisions one after the other are one revision;
* `Group.groups_revise`, `Group.ids_revise` — what a revision makes of the groups in a tree, and of
  the identifiers;
* `Context.revise_plug` — a revision that leaves the nodes around a group as they are is made in
  the group;
* `Group.mapConditions_eq_revise` — a change of conditions is a revision.
-/

set_option relaxedAutoImplicit false
set_option autoImplicit false

namespace Audience

/-- A revision of rule trees. -/
structure Revision where
  /-- How a group combines its children afterwards, by its identifier. -/
  logic : String → Logic → Logic := fun _ logic => logic
  /-- What stands in the place of a condition afterwards. -/
  condition : Condition → Condition := fun c => c

namespace Revision

/-- One revision after another. -/
def andThen (first second : Revision) : Revision where
  logic id logic := second.logic id (first.logic id logic)
  condition c := second.condition (first.condition c)

/-- A revision leaves the nodes with an identifier as they are. -/
structure Leaves (r : Revision) (id : String) : Prop where
  /-- A group with the identifier combines its children as before. -/
  logic : ∀ logic, r.logic id logic = logic
  /-- A condition with the identifier stays. -/
  condition : ∀ c, c.id = id → r.condition c = c

end Revision

/-! ### Nodes -/

namespace Node

mutual

/-- The node **after a revision**. -/
def revise (r : Revision) : Node → Node
  | condition c => condition (r.condition c)
  | group id logic children => group id (r.logic id logic) (reviseAll r children)

/-- The nodes after a revision. -/
def reviseAll (r : Revision) : List Node → List Node
  | [] => []
  | node :: nodes => node.revise r :: reviseAll r nodes

end

end Node

/-- The tree **after a revision**. -/
def Group.revise (r : Revision) (g : Group) : Group :=
  ⟨g.id, r.logic g.id g.logic, Node.reviseAll r g.children⟩

namespace Node

variable {r s : Revision}

theorem reviseAll_eq_map (nodes : List Node) : reviseAll r nodes = nodes.map (revise r) := by
  induction nodes with
  | nil => rfl
  | cons node nodes ih => rw [reviseAll, ih, List.map_cons]

theorem revise_group (id : String) (logic : Logic) (children : List Node) :
    (group id logic children).revise r
      = group id (r.logic id logic) (children.map (revise r)) := by
  rw [revise, reviseAll_eq_map]

theorem revise_revise (r s : Revision) (node : Node) :
    (node.revise r).revise s = node.revise (r.andThen s) := by
  induction node using Node.induction with
  | condition c => rfl
  | group id logic children ih =>
      rw [revise_group, revise_group, revise_group, List.map_map]
      exact congrArg (group id _) (List.map_congr_left ih)

/-- A revision that keeps the identifiers of conditions keeps all identifiers. -/
theorem ids_revise (hids : ∀ c, (r.condition c).id = c.id) (node : Node) :
    (node.revise r).ids = node.ids := by
  induction node using Node.induction with
  | condition c => exact congrArg (fun id => [id]) (hids c)
  | group id logic children ih =>
      rw [revise_group, ids, ids, idsAll_eq_flatMap, idsAll_eq_flatMap, List.flatMap_map]
      exact congrArg (id :: ·) (List.flatMap_congr ih)

/-- The groups after a revision are the groups, revised. -/
theorem groups_revise (r : Revision) (node : Node) :
    (node.revise r).groups = node.groups.map (Group.revise r) := by
  induction node using Node.induction with
  | condition c => rfl
  | group id logic children ih =>
      rw [revise_group, groups, groups, groupsAll_eq_flatMap_groups, groupsAll_eq_flatMap_groups,
        List.flatMap_map, List.map_cons, List.map_flatMap, Group.revise, reviseAll_eq_map]
      exact congrArg (_ :: ·) (List.flatMap_congr ih)

theorem revise_eq_self {node : Node} (h : ∀ id ∈ node.ids, r.Leaves id) :
    node.revise r = node := by
  induction node using Node.induction with
  | condition c => exact congrArg condition ((h c.id (List.mem_singleton.2 rfl)).condition c rfl)
  | group id logic children ih =>
      rw [ids, idsAll_eq_flatMap, List.forall_mem_cons] at h
      obtain ⟨hid, hbelow⟩ := h
      have hchildren : children.map (revise r) = children := by
        refine (List.map_congr_left fun child hchild => ?_).trans (List.map_id' children)
        refine ih child hchild fun id hid => ?_
        exact hbelow id (List.mem_flatMap.2 ⟨child, hchild, hid⟩)
      rw [revise_group, hid.logic, hchildren]

theorem reviseAll_eq_self {nodes : List Node}
    (h : ∀ id ∈ nodes.flatMap ids, r.Leaves id) : reviseAll r nodes = nodes := by
  rw [reviseAll_eq_map]
  refine (List.map_congr_left fun node hnode => ?_).trans (List.map_id' nodes)
  refine revise_eq_self fun id hid => ?_
  exact h id (List.mem_flatMap.2 ⟨node, hnode, hid⟩)

/-- A change of conditions **is a revision**. -/
theorem mapConditions_eq_revise (f : Condition → Condition) (node : Node) :
    node.mapConditions f = node.revise { condition := f } := by
  induction node using Node.induction with
  | condition c => rfl
  | group id logic children ih =>
      rw [mapConditions, mapConditionsAll_eq_map, revise_group]
      exact congrArg (group id logic) (List.map_congr_left ih)

end Node

/-! ### Trees -/

namespace Group

theorem revise_revise (r s : Revision) (g : Group) :
    (g.revise r).revise s = g.revise (r.andThen s) :=
  node_injective (Node.revise_revise r s g.node)

theorem ids_revise {r : Revision} (hids : ∀ c, (r.condition c).id = c.id) (g : Group) :
    (g.revise r).ids = g.ids :=
  Node.ids_revise hids g.node

theorem groups_revise (r : Revision) (g : Group) :
    (g.revise r).groups = g.groups.map (revise r) :=
  Node.groups_revise r g.node

theorem mapConditions_eq_revise (f : Condition → Condition) (g : Group) :
    g.mapConditions f = g.revise { condition := f } :=
  node_injective (Node.mapConditions_eq_revise f g.node)

end Group

/-- A revision that leaves the nodes around a group as they are is made in the group. -/
theorem Context.revise_plug {r : Revision} {g : Group} {context : Context}
    (h : ∀ id ∈ context.idsBefore ++ context.idsAfter, r.Leaves id) :
    (context.plug g).revise r = context.plug (g.revise r) := by
  induction context with
  | hole => rfl
  | inside id logic before inner after ih =>
      simp only [idsBefore, idsAfter, Node.idsAll_eq_flatMap, List.cons_append, List.append_assoc,
        List.forall_mem_cons, List.forall_mem_append] at h
      obtain ⟨hid, hbefore, hinner, hinner', hafter⟩ := h
      have hchild : (inner.plug g).node.revise r = (inner.plug (g.revise r)).node :=
        congrArg Group.node (ih (List.forall_mem_append.2 ⟨hinner, hinner'⟩))
      rw [plug, plug, Group.revise, hid.logic, Node.reviseAll_eq_map, List.map_append,
        List.map_cons, hchild, ← Node.reviseAll_eq_map, ← Node.reviseAll_eq_map,
        Node.reviseAll_eq_self hbefore, Node.reviseAll_eq_self hafter]

end Audience
