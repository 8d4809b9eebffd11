import Audience.Proofs.Rule.Context
import Audience.Proofs.Rule.Shape
import Mathlib.Data.List.Nodup
import Mathlib.Data.List.Pairwise
import Mathlib.Data.List.Perm.Basic

/-!
**Trees in which all identifiers are different**.

The first group with an identifier is found by going through the groups of the tree, depth first.
If no identifier is used twice there is only one such group; and a node is known by any of the
identifiers at or below it, so that no other place of the tree has to be looked at.

Main results:

* `Node.find?_eq_find?_groups` — the group that is found is the first one of the groups of a tree;
* `Group.find?_eq_some_iff` — there it is the one with the identifier;
* `Node.eq_of_mem_ids` — children of a group that share an identifier are one child;
* `Group.parent_unique` — a node that is not the root is a child of one group only;
* `Context.mapConditions_plug` — a change of conditions that are not around a group is made in the
  group.
-/

set_option relaxedAutoImplicit false
set_option autoImplicit false

namespace Audience

/-! ### Groups -/

namespace Node

variable {target : String}

theorem findAmong?_eq_find?_groupsAll {nodes : List Node}
    (h : ∀ node ∈ nodes, node.find? target = node.groups.find? (·.id == target)) :
    findAmong? target nodes = (groupsAll nodes).find? (·.id == target) := by
  induction nodes with
  | nil => rfl
  | cons node nodes ih =>
      rw [List.forall_mem_cons] at h
      rw [findAmong?, groupsAll, List.find?_append, h.1, ih h.2]

/-- The group that is found is the first one with the identifier, depth first. -/
theorem find?_eq_find?_groups (target : String) (node : Node) :
    node.find? target = node.groups.find? (·.id == target) := by
  induction node using Node.induction with
  | condition c => rfl
  | group id logic children ih =>
      rw [find?, groups, List.find?_cons, findAmong?_eq_find?_groupsAll ih]
      by_cases hid : id = target
      · simp [hid]
      · rw [if_neg hid, beq_false_of_ne hid]

theorem map_id_groupsAll_sublist {nodes : List Node}
    (h : ∀ node ∈ nodes, (node.groups.map Group.id).Sublist node.ids) :
    ((groupsAll nodes).map Group.id).Sublist (idsAll nodes) := by
  induction nodes with
  | nil => exact List.Sublist.refl _
  | cons node nodes ih =>
      rw [List.forall_mem_cons] at h
      rw [groupsAll, idsAll, List.map_append]
      exact h.1.append (ih h.2)

theorem map_id_groups_sublist (node : Node) : (node.groups.map Group.id).Sublist node.ids := by
  induction node using Node.induction with
  | condition c => exact List.nil_sublist _
  | group id logic children ih => exact (map_id_groupsAll_sublist ih).cons_cons id

end Node

/-- If the identifiers in a tree are different, the group that is found is the one with the
identifier. -/
theorem Group.find?_eq_some_iff {tree g : Group} {target : String} (hids : tree.ids.Nodup) :
    tree.find? target = some g ↔ g ∈ tree.groups ∧ g.id = target := by
  rw [Group.find?, Node.find?_eq_find?_groups]
  exact find?_key_eq_some_iff (hids.sublist tree.node.map_id_groups_sublist)

/-! ### Children of one group -/

theorem Group.nodup_children_of_find? {tree g : Group} {target : String} (hids : tree.ids.Nodup)
    (hfind : tree.find? target = some g) : (g.children.flatMap Node.ids).Nodup := by
  obtain ⟨context, htree, -⟩ := Node.exists_context hfind
  obtain rfl := Group.node_injective htree
  exact Context.nodup_children hids

/-- Children that share an identifier, of their own or below, are one child. -/
theorem Node.eq_of_mem_ids {nodes : List Node} {first second : Node} {id : String}
    (hids : (nodes.flatMap Node.ids).Nodup) (hfirst : first ∈ nodes) (hsecond : second ∈ nodes)
    (hid : id ∈ first.ids) (hid' : id ∈ second.ids) : first = second := by
  by_contra hne
  have hsymm : Std.Symm (Function.onFun List.Disjoint Node.ids) := ⟨fun _ _ => List.disjoint_symm⟩
  exact (List.nodup_flatMap.1 hids).2.forall hfirst hsecond hne hid hid'

theorem Node.id_mem_ids_of_mem_conditions {node : Node} {c : Condition} (h : c ∈ node.conditions) :
    c.id ∈ node.ids := by
  induction node using Node.induction with
  | condition own => exact List.mem_singleton.2 (congrArg Condition.id (List.mem_singleton.1 h))
  | group id logic children ih =>
      obtain ⟨child, hchild, hc⟩ := Node.mem_conditions_group.1 h
      rw [Node.ids, Node.idsAll_eq_flatMap]
      exact List.mem_cons_of_mem _ (List.mem_flatMap.2 ⟨child, hchild, ih child hchild hc⟩)

/-! ### Groups and their children -/

theorem Node.groupsAll_eq_flatMap_groups (nodes : List Node) :
    groupsAll nodes = nodes.flatMap groups := by
  induction nodes with
  | nil => rfl
  | cons node nodes ih => rw [groupsAll, ih, List.flatMap_cons]

/-- The identifiers in a tree are that of the root and those of the children of its groups. -/
theorem Node.ids_perm (node : Node) :
    node.ids.Perm (node.id :: node.groups.flatMap fun g => g.children.map Node.id) := by
  induction node using Node.induction with
  | condition c => exact List.Perm.refl _
  | group id logic children ih =>
      rw [ids, idsAll_eq_flatMap, Node.id, groups, groupsAll_eq_flatMap_groups, List.flatMap_cons,
        List.flatMap_assoc]
      refine List.Perm.cons id ?_
      exact (List.Perm.flatMap_left children ih).trans
        (List.map_append_flatMap_perm children Node.id _).symm

/-- If the identifiers in a tree are different, a node that is not the root is a child of one
group only. -/
theorem Group.parent_unique {tree g h : Group} {first second : Node} (hids : tree.ids.Nodup)
    (hg : g ∈ tree.groups) (hh : h ∈ tree.groups) (hfirst : first ∈ g.children)
    (hsecond : second ∈ h.children) (hid : first.id = second.id) : g = h ∧ first = second := by
  have hall := ((tree.node.ids_perm.nodup_iff).1 hids).of_cons
  obtain ⟨hchildren, hgroups⟩ := List.nodup_flatMap.1 hall
  have hin : first.id ∈ g.children.map Node.id := List.mem_map_of_mem hfirst
  have hin' : first.id ∈ h.children.map Node.id := hid ▸ List.mem_map_of_mem hsecond
  have hsame : g = h := by
    by_contra hne
    have hsymm : Std.Symm (Function.onFun List.Disjoint fun g : Group => g.children.map Node.id) :=
      ⟨fun _ _ => List.disjoint_symm⟩
    exact hgroups.forall hg hh hne hin hin'
  subst hsame
  exact ⟨rfl, List.inj_on_of_nodup_map (hchildren g hg) hfirst hsecond hid⟩

/-! ### Around a group -/

namespace Context

variable {g : Group} {c : Condition}

/-- The identifier of a condition around a group is among those around it. -/
theorem id_mem_of_mem_conditions {context : Context} (h : c ∈ context.conditions) :
    c.id ∈ context.idsBefore ++ context.idsAfter := by
  have hnodes {nodes : List Node} (hc : c ∈ Node.conditionsAll nodes) :
      c.id ∈ Node.idsAll nodes := by
    rw [Node.conditionsAll_eq_flatMap, List.mem_flatMap] at hc
    obtain ⟨node, hnode, hc⟩ := hc
    rw [Node.idsAll_eq_flatMap]
    exact List.mem_flatMap.2 ⟨node, hnode, Node.id_mem_ids_of_mem_conditions hc⟩
  induction context with
  | hole => cases h
  | inside id logic before inner after ih =>
      rw [conditions, List.mem_append, List.mem_append] at h
      simp only [idsBefore, idsAfter, List.cons_append, List.mem_cons, List.mem_append]
      rcases h with (hbefore | hinner) | hafter
      · exact .inr (.inl (.inl (hnodes hbefore)))
      · rcases List.mem_append.1 (ih hinner) with h | h
        · exact .inr (.inl (.inr h))
        · exact .inr (.inr (.inl h))
      · exact .inr (.inr (.inr (hnodes hafter)))

theorem not_mem_ids {context : Context} (hids : (context.plug g).ids.Nodup) {id : String}
    (h : id ∈ context.idsBefore ++ context.idsAfter) : id ∉ g.ids := by
  intro hid
  rw [context.ids_plug, List.append_assoc] at hids
  have hmoved : (g.ids ++ (context.idsBefore ++ context.idsAfter)).Nodup :=
    (List.perm_append_comm_assoc _ _ _).nodup_iff.1 hids
  exact List.disjoint_of_nodup_append hmoved hid h

theorem not_mem_of_mem_conditions {context : Context} (hids : (context.plug g).ids.Nodup)
    (h : c ∈ context.conditions) : c.id ∉ g.ids :=
  not_mem_ids hids (id_mem_of_mem_conditions h)

/-- A change that leaves the conditions around a group as they are is made **in the group**. -/
theorem mapConditions_plug {f : Condition → Condition} {context : Context}
    (h : ∀ c ∈ context.conditions, f c = c) :
    (context.plug g).mapConditions f = context.plug (g.mapConditions f) := by
  induction context with
  | hole => rfl
  | inside id logic before inner after ih =>
      have hfixed {nodes : List Node} (hnodes : ∀ c ∈ Node.conditionsAll nodes, f c = c) :
          nodes.map (Node.mapConditions f) = nodes := by
        rw [Node.conditionsAll_eq_flatMap] at hnodes
        refine (List.map_congr_left fun node hnode => ?_).trans (List.map_id' nodes)
        exact Node.mapConditions_eq_self fun c hc =>
          hnodes c (List.mem_flatMap.2 ⟨node, hnode, hc⟩)
      simp only [conditions, List.forall_mem_append] at h
      obtain ⟨⟨hbefore, hinner⟩, hafter⟩ := h
      have hchild : (inner.plug g).node.mapConditions f = (inner.plug (g.mapConditions f)).node :=
        congrArg Group.node (ih hinner)
      rw [plug, plug, Group.mapConditions, Node.mapConditionsAll_eq_map, List.map_append,
        List.map_cons, hfixed hbefore, hfixed hafter, hchild]

end Context

end Audience
