import Audience.Rule.Basic
import Mathlib.Data.List.Flatten
import Mathlib.Data.List.Forall2

/-!
**Rule trees node by node**: what a tree holds is what its nodes hold, and a change of every
condition of a tree is made node by node.

Main definitions:

* `Node.mapConditions`, `Group.mapConditions` — a tree with every condition changed in one way.

Main results:

* `Node.idsAll_eq_flatMap`, `Node.conditionsAll_eq_flatMap` — a list of nodes holds what its nodes
  hold;
* `Node.mem_conditions_group` — the conditions of a group are those of its children;
* `forall₂_of_forall_mem` — a relation of two lists item by item follows from another one by an
  argument on the items of the first list, as inductions on nodes make it;
* `Group.mapConditions_eq_self` — a change that leaves every condition of a tree as it is leaves
  the tree as it is.
-/

set_option relaxedAutoImplicit false
set_option autoImplicit false

namespace Audience

/-- Two lists that are related item by item are so by a weaker relation, which may be shown for
the items of the first list alone. -/
theorem forall₂_of_forall_mem {α β : Type} {R S : α → β → Prop} {as : List α} {bs : List β}
    (h : List.Forall₂ R as bs) (hs : ∀ a ∈ as, ∀ b, R a b → S a b) : List.Forall₂ S as bs := by
  have hmem : List.Forall₂ (fun a b => a ∈ as ∧ R a b) as bs :=
    (List.forall₂_and_left as bs).2 ⟨fun _ ha => ha, h⟩
  exact hmem.imp fun a b hab => hs a hab.1 b hab.2

namespace Node

/-! ### Lists of nodes -/

theorem idsAll_eq_flatMap (nodes : List Node) : idsAll nodes = nodes.flatMap ids := by
  induction nodes with
  | nil => rfl
  | cons node nodes ih => rw [idsAll, ih, List.flatMap_cons]

theorem conditionsAll_eq_flatMap (nodes : List Node) :
    conditionsAll nodes = nodes.flatMap conditions := by
  induction nodes with
  | nil => rfl
  | cons node nodes ih => rw [conditionsAll, ih, List.flatMap_cons]

theorem mem_conditions_group {id : String} {logic : Logic} {children : List Node} {c : Condition} :
    c ∈ (group id logic children).conditions ↔ ∃ child ∈ children, c ∈ child.conditions := by
  rw [conditions, conditionsAll_eq_flatMap, List.mem_flatMap]

end Node

theorem Group.ids_eq (g : Group) : g.ids = g.id :: g.children.flatMap Node.ids := by
  rw [Group.ids, Group.node, Node.ids, Node.idsAll_eq_flatMap]

theorem Group.mem_conditions {g : Group} {c : Condition} :
    c ∈ g.conditions ↔ ∃ child ∈ g.children, c ∈ child.conditions :=
  Node.mem_conditions_group

@[simp] theorem Group.ids_node (g : Group) : g.node.ids = g.ids := rfl

namespace Node

/-! ### Changing every condition -/

mutual

/-- The node with **every condition** `c` at or below it replaced by `f c`. -/
def mapConditions (f : Condition → Condition) : Node → Node
  | condition c => condition (f c)
  | group id logic children => group id logic (mapConditionsAll f children)

/-- The nodes with every condition `c` at or below them replaced by `f c`. -/
def mapConditionsAll (f : Condition → Condition) : List Node → List Node
  | [] => []
  | node :: nodes => node.mapConditions f :: mapConditionsAll f nodes

end

variable {f : Condition → Condition}

theorem mapConditionsAll_eq_map (nodes : List Node) :
    mapConditionsAll f nodes = nodes.map (mapConditions f) := by
  induction nodes with
  | nil => rfl
  | cons node nodes ih => rw [mapConditionsAll, ih, List.map_cons]

/-- A change that **leaves every condition as it is** leaves the node as it is. -/
theorem mapConditions_eq_self {node : Node} (h : ∀ c ∈ node.conditions, f c = c) :
    node.mapConditions f = node := by
  induction node using Node.induction with
  | condition c => exact congrArg condition (h c (List.mem_singleton.2 rfl))
  | group id logic children ih =>
      rw [mapConditions, mapConditionsAll_eq_map]
      have hchildren : ∀ child ∈ children, child.mapConditions f = child := by
        intro child hm
        refine ih child hm ?_
        intro c hc
        exact h c (mem_conditions_group.2 ⟨child, hm, hc⟩)
      rw [List.map_congr_left hchildren, List.map_id']

end Node

/-- The tree with **every condition** `c` replaced by `f c`. -/
def Group.mapConditions (f : Condition → Condition) (g : Group) : Group :=
  { g with children := Node.mapConditionsAll f g.children }

theorem Group.node_injective {g h : Group} (e : g.node = h.node) : g = h := by
  obtain ⟨id, logic, children⟩ := g
  obtain ⟨rfl, rfl, rfl⟩ := Node.group.inj e
  rfl

theorem Group.mapConditions_eq_self {f : Condition → Condition} {g : Group}
    (h : ∀ c ∈ g.conditions, f c = c) : g.mapConditions f = g :=
  Group.node_injective (Node.mapConditions_eq_self h)

end Audience
