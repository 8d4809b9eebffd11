import Audience.Authoring.Edit
import Audience.Proofs.Rule.Tree

/-!
**Places in rule trees**.

A place of a group in a tree is what is around it: the groups on the way from the root, each without
the child that the way goes on with.  A tree is a group put into its context, and to edit a group is
to put another one into the same context; so whatever an edit leaves as it is can be read off the
context, however the place was found.

Main definitions:

* `Context`, `Context.plug` — what is around a group, and the tree with a group put into it;
* `Context.path` — the way to the place;
* `Context.idsBefore`, `Context.idsAfter` — the identifiers around a group;
* `Context.conditions` — the conditions around a group;
* `Context.Avoids` — no group on the way to the place, or before it, has an identifier.

Main results:

* `Context.rewriteAt_plug` — rewriting a group at the end of the way puts the new one into the
  context;
* `Context.find?_plug`, `Context.pathTo?_plug` — a group put into a context that avoids its
  identifier is found, and so is the way to it;
* `Node.exists_context` — a group that is found is in such a context;
* `Group.pathTo?_cases` — a way is found where the group is;
* `Group.edit?_cases` — an edit is made where the group is found, and puts the edited group into
  its context;
* `Group.find?_of_edit?` — there it is found again;
* `Group.edit?_edit?` — two edits of the same group, one after the other, are one edit;
* `Context.ids_plug` — the identifiers in a tree are those around a group, with those in it between
  them;
* `Context.mem_conditions_plug` — the conditions in a tree are those around a group and those in it.
-/

set_option relaxedAutoImplicit false
set_option autoImplicit false

namespace Audience

/-- What is **around a group** in a tree: nothing, or another group without one of its children, in
a context of its own. -/
inductive Context where
  /-- The group is the root. -/
  | hole
  /-- The context `inner` is that of the group below a child of a group. -/
  | inside (id : String) (logic : Logic) (before : List Node) (inner : Context)
      (after : List Node)

namespace Context

/-- The tree with a group put into a context. -/
def plug (g : Group) : Context → Group
  | hole => g
  | inside id logic before inner after => ⟨id, logic, before ++ (inner.plug g).node :: after⟩

/-- The way from the root to the place of a context. -/
def path : Context → List Nat
  | hole => []
  | inside _ _ before inner _ => before.length :: inner.path

/-- Rewriting at the end of the way puts the new group into the context. -/
theorem rewriteAt_plug (f : Group → Group) (g : Group) (context : Context) :
    (context.plug g).rewriteAt f context.path = context.plug (f g) := by
  induction context with
  | hole => rfl
  | inside id logic before inner after ih =>
      rw [plug, path, Group.rewriteAt, plug, ← ih]
      simp [List.modify_eq_take_drop, Node.mapGroup, Group.node]

theorem id_plug {g next : Group} (h : next.id = g.id) (context : Context) :
    (context.plug next).id = (context.plug g).id := by
  cases context with
  | hole => exact h
  | inside id logic before inner after => rfl

/-! ### Identifiers around a group -/

/-- The identifiers that come before those of the group. -/
def idsBefore : Context → List String
  | hole => []
  | inside id _ before inner _ => id :: Node.idsAll before ++ inner.idsBefore

/-- The identifiers that come after those of the group. -/
def idsAfter : Context → List String
  | hole => []
  | inside _ _ _ inner after => inner.idsAfter ++ Node.idsAll after

/-- The identifiers in a tree are those around a group, with those in it between them. -/
theorem ids_plug (g : Group) (context : Context) :
    (context.plug g).ids = context.idsBefore ++ g.ids ++ context.idsAfter := by
  induction context with
  | hole => simp [plug, idsBefore, idsAfter]
  | inside id logic before inner after ih =>
      rw [plug, Group.ids_eq, List.flatMap_append, List.flatMap_cons, Group.ids_node, ih]
      simp [idsBefore, idsAfter, Node.idsAll_eq_flatMap]

theorem nodup_children {g : Group} {context : Context} (h : (context.plug g).ids.Nodup) :
    (g.children.flatMap Node.ids).Nodup := by
  rw [ids_plug, Group.ids_eq] at h
  have hgroup := (List.nodup_append.1 (List.nodup_append.1 h).1).2.1
  exact (List.nodup_cons.1 hgroup).2

/-! ### Conditions around a group -/

/-- The conditions around a group. -/
def conditions : Context → List Condition
  | hole => []
  | inside _ _ before inner after =>
    Node.conditionsAll before ++ inner.conditions ++ Node.conditionsAll after

/-- The conditions in a tree are those around a group **and those in it**. -/
theorem mem_conditions_plug {c : Condition} {g : Group} (context : Context) :
    c ∈ (context.plug g).conditions ↔ c ∈ context.conditions ∨ c ∈ g.conditions := by
  induction context with
  | hole => simp [plug, conditions]
  | inside id logic before inner after ih =>
      have hinner : c ∈ (inner.plug g).node.conditions ↔ c ∈ inner.conditions ∨ c ∈ g.conditions :=
        ih
      rw [plug, Group.mem_conditions, conditions]
      simp only [List.mem_append, List.mem_cons, Node.conditionsAll_eq_flatMap, List.mem_flatMap,
        or_and_right, exists_or, exists_eq_left, hinner]
      grind

end Context

/-! ### Finding a place -/

namespace Node

variable {target : String} {g : Group}

theorem findAmong?_eq_none {nodes : List Node} :
    findAmong? target nodes = none ↔ ∀ node ∈ nodes, node.find? target = none := by
  induction nodes with
  | nil => simp [findAmong?]
  | cons node nodes ih => simp [findAmong?, ih]

/-- A group that is found among nodes is found in the first node that has it. -/
theorem findAmong?_eq_some {nodes : List Node} (h : findAmong? target nodes = some g) :
    ∃ before child after, nodes = before ++ child :: after ∧ child.find? target = some g ∧
      ∀ node ∈ before, node.find? target = none := by
  induction nodes with
  | nil => cases h
  | cons node nodes ih =>
      rw [findAmong?] at h
      cases hnode : node.find? target with
      | some found =>
          rw [hnode, Option.some_or] at h
          exact ⟨[], node, nodes, rfl, h ▸ hnode, nofun⟩
      | none =>
          rw [hnode, Option.none_or] at h
          obtain ⟨before, child, after, rfl, hchild, hbefore⟩ := ih h
          exact ⟨node :: before, child, after, rfl, hchild, List.forall_mem_cons.2 ⟨hnode, hbefore⟩⟩

theorem id_of_find? {node : Node} (h : node.find? target = some g) : g.id = target := by
  induction node using Node.induction with
  | condition c => cases h
  | group id logic children ih =>
      rw [find?] at h
      split at h
      · next hid =>
        obtain rfl := Option.some.inj h
        exact hid
      · obtain ⟨before, child, after, rfl, hchild, -⟩ := findAmong?_eq_some h
        exact ih child (by simp) hchild

theorem findAmong?_append {before : List Node} (h : ∀ node ∈ before, node.find? target = none)
    (nodes : List Node) : findAmong? target (before ++ nodes) = findAmong? target nodes := by
  induction before with
  | nil => rfl
  | cons node before ih =>
      rw [List.forall_mem_cons] at h
      rw [List.cons_append, findAmong?, h.1, Option.none_or, ih h.2]

theorem pathAmong?_append {before : List Node} (h : ∀ node ∈ before, node.pathTo? target = none)
    (place : Nat) (nodes : List Node) :
    pathAmong? target place (before ++ nodes)
      = pathAmong? target (place + before.length) nodes := by
  induction before generalizing place with
  | nil => rfl
  | cons node before ih =>
      rw [List.forall_mem_cons] at h
      rw [List.cons_append, pathAmong?, h.1]
      refine (ih h.2 (place + 1)).trans ?_
      rw [List.length_cons, Nat.add_right_comm, Nat.add_assoc]

theorem pathTo?_eq_none {node : Node} (h : node.find? target = none) :
    node.pathTo? target = none := by
  induction node using Node.induction with
  | condition c => rfl
  | group id logic children ih =>
      rw [find?] at h
      split at h
      · cases h
      · next hid =>
        rw [pathTo?, if_neg hid]
        have hchildren : ∀ node ∈ children, node.pathTo? target = none := by
          intro node hm
          exact ih node hm (findAmong?_eq_none.1 h node hm)
        exact (List.append_nil children) ▸ pathAmong?_append hchildren 0 []

end Node

namespace Context

variable {target : String} {g : Group} {context : Context}

/-- No group on the way to the place of a context, and none before it, has an identifier. -/
def Avoids (target : String) : Context → Prop
  | hole => True
  | inside id _ before inner _ =>
    id ≠ target ∧ (∀ node ∈ before, node.find? target = none) ∧ inner.Avoids target

/-- In a context that avoids its identifier a group is found. -/
theorem find?_plug (h : context.Avoids target) (hid : g.id = target) :
    (context.plug g).find? target = some g := by
  induction context with
  | hole => exact if_pos hid
  | inside id logic before inner after ih =>
      obtain ⟨hother, hbefore, hinner⟩ := h
      have hchild : (inner.plug g).node.find? target = some g := ih hinner
      rw [plug, Group.find?, Group.node, Node.find?, if_neg hother,
        Node.findAmong?_append hbefore, Node.findAmong?, hchild, Option.some_or]

/-- In a context that avoids its identifier the way to a group is that of the context. -/
theorem pathTo?_plug (h : context.Avoids target) (hid : g.id = target) :
    (context.plug g).pathTo? target = some context.path := by
  induction context with
  | hole => exact if_pos hid
  | inside id logic before inner after ih =>
      obtain ⟨hother, hbefore, hinner⟩ := h
      have hchild : (inner.plug g).node.pathTo? target = some inner.path := ih hinner
      -- the way passes by the nodes before the child, since nothing is found in them
      have hnone : ∀ node ∈ before, node.pathTo? target = none := by
        intro node hm
        exact Node.pathTo?_eq_none (hbefore node hm)
      rw [plug, Group.pathTo?, Group.node, Node.pathTo?, if_neg hother,
        Node.pathAmong?_append hnone, Node.pathAmong?, hchild, Nat.zero_add]
      rfl

end Context

/-- A group that is found is in a context that avoids its identifier. -/
theorem Node.exists_context {node : Node} {target : String} {g : Group}
    (h : node.find? target = some g) :
    ∃ context : Context, node = (context.plug g).node ∧ context.Avoids target := by
  induction node using Node.induction with
  | condition c => cases h
  | group id logic children ih =>
      rw [find?] at h
      split at h
      · obtain rfl := Option.some.inj h
        exact ⟨.hole, rfl, trivial⟩
      · next hid =>
        obtain ⟨before, child, after, rfl, hchild, hbefore⟩ := findAmong?_eq_some h
        obtain ⟨inner, rfl, hinner⟩ := ih child (by simp) hchild
        exact ⟨.inside id logic before inner after, rfl, hid, hbefore, hinner⟩

/-- A way is found just where the group is found, and is that of its context. -/
theorem Group.pathTo?_cases (tree : Group) (target : String) :
    (tree.find? target = none ∧ tree.pathTo? target = none) ∨
      ∃ (context : Context) (g : Group), context.Avoids target ∧ tree = context.plug g ∧
        tree.find? target = some g ∧ tree.pathTo? target = some context.path := by
  cases hfind : tree.find? target with
  | none => exact .inl ⟨rfl, Node.pathTo?_eq_none hfind⟩
  | some g =>
      obtain ⟨context, htree, havoids⟩ := Node.exists_context hfind
      obtain rfl := Group.node_injective htree
      have hway := Context.pathTo?_plug havoids (Node.id_of_find? hfind)
      exact .inr ⟨context, g, havoids, rfl, rfl, hway⟩

/-! ### Edits -/

namespace Group

variable {tree : Group} {target : String}

theorem edit?_plug {context : Context} {g : Group} (h : context.Avoids target)
    (hid : g.id = target) (f : Group → Group) :
    (context.plug g).edit? target f = some (context.plug (f g)) := by
  rw [edit?, Context.pathTo?_plug h hid, Option.map_some, context.rewriteAt_plug]

/-- An edit is made just where the group is found, and puts the edited group into its
context. -/
theorem edit?_cases (tree : Group) (target : String) :
    (tree.find? target = none ∧ ∀ f, tree.edit? target f = none) ∨
      ∃ (context : Context) (g : Group), tree.find? target = some g ∧ tree = context.plug g ∧
        ∀ f, tree.edit? target f = some (context.plug (f g)) := by
  rcases tree.pathTo?_cases target with ⟨hfind, hpath⟩ | ⟨context, g, havoids, rfl, hfind, -⟩
  · refine .inl ⟨hfind, fun f => ?_⟩
    rw [edit?, hpath]
    rfl
  · exact .inr ⟨context, g, hfind, rfl, edit?_plug havoids (Node.id_of_find? hfind)⟩

theorem exists_avoids_of_edit? {f : Group → Group} {next : Group}
    (h : tree.edit? target f = some next) :
    ∃ (context : Context) (g : Group), context.Avoids target ∧ g.id = target ∧
      tree = context.plug g ∧ next = context.plug (f g) := by
  rcases tree.pathTo?_cases target with ⟨-, hpath⟩ | ⟨context, g, havoids, rfl, hfind, -⟩
  · rw [edit?, hpath] at h
    cases h
  · have hid : g.id = target := Node.id_of_find? hfind
    have hedit := Option.some.inj (h.symm.trans (edit?_plug havoids hid f))
    exact ⟨context, g, havoids, hid, rfl, hedit⟩

theorem exists_context_of_edit? {f : Group → Group} {next : Group}
    (h : tree.edit? target f = some next) :
    ∃ (context : Context) (g : Group), tree.find? target = some g ∧ tree = context.plug g ∧
      next = context.plug (f g) := by
  obtain ⟨context, g, havoids, hid, rfl, rfl⟩ := exists_avoids_of_edit? h
  exact ⟨context, g, Context.find?_plug havoids hid, rfl, rfl⟩

/-- An edit that leaves the identifier of the group as it is puts the edited group where it is
found again. -/
theorem find?_of_edit? {f : Group → Group} {next : Group} (hf : ∀ g, (f g).id = g.id)
    (h : tree.edit? target f = some next) :
    ∃ g, tree.find? target = some g ∧ next.find? target = some (f g) := by
  obtain ⟨context, g, havoids, hid, rfl, rfl⟩ := exists_avoids_of_edit? h
  exact ⟨g, Context.find?_plug havoids hid, Context.find?_plug havoids ((hf g).trans hid)⟩

/-- Two edits of the same group, one after the other, are one edit. -/
theorem edit?_edit? {f : Group → Group} {next : Group} (hf : ∀ g, (f g).id = g.id)
    (h : tree.edit? target f = some next) (again : Group → Group) :
    next.edit? target again = tree.edit? target fun g => again (f g) := by
  obtain ⟨context, g, havoids, hid, rfl, rfl⟩ := exists_avoids_of_edit? h
  rw [edit?_plug havoids ((hf g).trans hid), edit?_plug havoids hid]

theorem edit?_eq_self {f : Group → Group} {g : Group} (hfind : tree.find? target = some g)
    (hf : f g = g) : tree.edit? target f = some tree := by
  rcases edit?_cases tree target with ⟨hnone, -⟩ | ⟨context, found, hfound, htree, hedit⟩
  · exact nomatch hnone.symm.trans hfind
  · obtain rfl := Option.some.inj (hfind.symm.trans hfound)
    rw [hedit, hf, ← htree]

end Group

end Audience
