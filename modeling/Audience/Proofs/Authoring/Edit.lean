import Audience.Proofs.Rule.Context

/-!
**What the edits of a tree do**.

Every edit that is made puts another group into the context of the group that was found; the edits
differ in what they do to that group.  So what they do to the identifiers in a tree is what they do
to those of one group.

Main definitions:

* `Authoring.adding` — a tree with a node added, whichever node it is.

Main results:

* `Authoring.adding_cases` — a node is added just where its group is found;
* `Authoring.mem_of_conditionIn?`, `Authoring.id_of_conditionIn?`,
  `Authoring.conditionIn?_eq_none_iff` — the condition that is found in a group, and when none is;
* `Authoring.fresh?_eq_some` — a new identifier has been offered and is not in the tree;
* `Authoring.addCondition?_eq_some`, `Authoring.addGroup?_eq_some`, `Authoring.remove?_eq_some`,
  `Authoring.setLogic?_eq_some`, `Authoring.update_eq_updated` — what has been done when an edit has
  been made;
* `Group.ids_append`, `Node.filter_id_ne`, `Group.ids_mapChildren` — what that does to the
  identifiers of the group.
-/

set_option relaxedAutoImplicit false
set_option autoImplicit false

namespace Audience

/-! ### Identifiers of one group -/

theorem Node.id_mem_ids (node : Node) : node.id ∈ node.ids := by
  cases node with
  | condition c => exact List.mem_singleton.2 rfl
  | group id logic children => exact List.mem_cons_self

theorem Group.ids_append (g : Group) (child : Node) : (g.append child).ids = g.ids ++ child.ids := by
  simp [Group.append, Group.ids_eq]

theorem Group.ids_mapChildren (g : Group) {change : Node → Node}
    (h : ∀ node, (change node).ids = node.ids) :
    ({ g with children := g.children.map change } : Group).ids = g.ids := by
  simp [Group.ids_eq, List.flatMap_map, h]

/-- Among nodes whose identifiers are pairwise different, leaving out one identifier leaves out
**one node**. -/
theorem Node.filter_id_ne {nodes : List Node} {node : Node}
    (hnodup : (nodes.flatMap Node.ids).Nodup) (hm : node ∈ nodes) :
    ∃ before after, nodes = before ++ node :: after ∧
      nodes.filter (·.id != node.id) = before ++ after := by
  obtain ⟨before, after, rfl⟩ := List.append_of_mem hm
  rw [List.flatMap_append, List.flatMap_cons] at hnodup
  have hother : ∀ other ∈ before ++ after, (other.id != node.id) = true := by
    intro other hmem
    rw [bne_iff_ne]
    intro heq
    have hin : node.id ∈ other.ids := heq ▸ other.id_mem_ids
    rcases List.mem_append.1 hmem with hbefore | hafter
    · exact (List.nodup_append.1 hnodup).2.2 _ (List.mem_flatMap.2 ⟨other, hbefore, hin⟩) _
        (List.mem_append_left _ node.id_mem_ids) rfl
    · have hrest := (List.nodup_append.1 hnodup).2.1
      exact (List.nodup_append.1 hrest).2.2 _ node.id_mem_ids _
        (List.mem_flatMap.2 ⟨other, hafter, hin⟩) rfl
  refine ⟨before, after, rfl, ?_⟩
  rw [List.filter_append, List.filter_cons_of_neg (by simp), ← List.filter_append]
  exact List.filter_eq_self.2 hother

namespace Authoring

variable {tree next : Group} {target : String}

theorem ids_replaceCondition (changed : Condition) (node : Node) :
    (replaceCondition changed node).ids = node.ids := by
  cases node with
  | condition c =>
      rw [replaceCondition]
      split
      · next h => simp [Node.ids, h]
      · rfl
  | group id logic children => rfl

/-! ### Finding a condition -/

/-- A condition that is found in a list of nodes is one of them. -/
theorem mem_of_conditionIn? {id : String} {nodes : List Node} {c : Condition}
    (h : conditionIn? id nodes = some c) : .condition c ∈ nodes := by
  induction nodes with
  | nil => cases h
  | cons node nodes ih =>
      cases node with
      | group id logic children => exact List.mem_cons_of_mem _ (ih h)
      | condition first =>
          rw [conditionIn?] at h
          split at h
          · obtain rfl := Option.some.inj h
            exact List.mem_cons_self
          · exact List.mem_cons_of_mem _ (ih h)

theorem conditionIn?_eq_none_iff {id : String} {nodes : List Node} :
    conditionIn? id nodes = none ↔ ∀ c, .condition c ∈ nodes → c.id ≠ id := by
  induction nodes with
  | nil => simp [conditionIn?]
  | cons node nodes ih =>
      cases node with
      | group other logic children => simp [conditionIn?, ih]
      | condition first =>
          rw [conditionIn?]
          by_cases hid : first.id = id
          · simp [hid]
          · simp [hid, ih, or_imp, forall_and]

theorem id_of_conditionIn? {id : String} {nodes : List Node} {c : Condition}
    (h : conditionIn? id nodes = some c) : c.id = id := by
  induction nodes with
  | nil => cases h
  | cons node nodes ih =>
      cases node with
      | group other logic children => exact ih h
      | condition first =>
          rw [conditionIn?] at h
          split at h
          · next hid => exact Option.some.inj h ▸ hid
          · exact ih h

/-! ### Edits that have been made -/

theorem fresh?_eq_some {taken offered : List String} {id : String}
    (h : fresh? taken offered = some id) : id ∈ offered ∧ id ∉ taken :=
  ⟨List.mem_of_find?_eq_some h, by simpa using List.find?_some h⟩

/-- A tree with a **node added** to one of its groups, made with the first new identifier of those
that are offered; the identifier is told with it. -/
def adding (make : String → Node) (tree : Group) (target : String) (offered : List String) :
    Option (Group × String) := do
  let id ← fresh? tree.ids offered
  let next ← tree.edit? target (·.append (make id))
  return (next, id)

theorem adding_eq_some {make : String → Node} {offered : List String} {id : String}
    (h : adding make tree target offered = some (next, id)) :
    id ∈ offered ∧ id ∉ tree.ids ∧ ∃ (context : Context) (g : Group),
      tree.find? target = some g ∧ tree = context.plug g ∧
        next = context.plug (g.append (make id)) := by
  simp only [adding, Option.bind_eq_bind, Option.bind_eq_some_iff, Option.pure_def,
    Option.some.injEq, Prod.mk.injEq] at h
  obtain ⟨id, hid, next, hedit, rfl, rfl⟩ := h
  obtain ⟨hoffered, hnew⟩ := fresh?_eq_some hid
  exact ⟨hoffered, hnew, Group.exists_context_of_edit? hedit⟩

/-- A node is added just where the group is found, if an identifier that is offered is new, and
the group is found again with the node at its end. -/
theorem adding_cases (make : String → Node) {offered : List String}
    (hfresh : ∃ id ∈ offered, id ∉ tree.ids) :
    (tree.find? target = none ∧ adding make tree target offered = none) ∨
      ∃ g next id, tree.find? target = some g ∧
        adding make tree target offered = some (next, id) ∧
        next.find? target = some (g.append (make id)) := by
  obtain ⟨id, hid⟩ : ∃ id, fresh? tree.ids offered = some id := by
    rw [← Option.isSome_iff_exists, fresh?, List.find?_isSome]
    simpa using hfresh
  have hadding : adding make tree target offered
      = (tree.edit? target (·.append (make id))).map fun next => (next, id) := by
    rw [adding, hid, Option.map_eq_bind]
    rfl
  rcases tree.edit?_cases target with ⟨hfind, hnone⟩ | ⟨context, g, hfind, -, hedit⟩
  · exact .inl ⟨hfind, by rw [hadding, hnone]; rfl⟩
  · have hmade := hedit (·.append (make id))
    have happend : ∀ g : Group, (g.append (make id)).id = g.id := fun _ => rfl
    obtain ⟨found, hfound, hagain⟩ := Group.find?_of_edit? happend hmade
    obtain rfl := Option.some.inj (hfind.symm.trans hfound)
    exact .inr ⟨g, _, id, hfind, by rw [hadding, hmade]; rfl, hagain⟩

theorem addCondition?_eq_some {catalog : Catalog} {offered : List String} {id : String}
    (h : addCondition? catalog offered target tree = some (next, id)) :
    id ∈ offered ∧ id ∉ tree.ids ∧ ∃ (context : Context) (g : Group),
      tree.find? target = some g ∧ tree = context.plug g ∧
        next = context.plug (g.append (.condition (newCondition catalog id))) :=
  have hadding : adding (fun id => .condition (newCondition catalog id)) tree target offered
      = some (next, id) := h
  adding_eq_some hadding

theorem addGroup?_eq_some {offered : List String} {id : String}
    (h : addGroup? offered target tree = some (next, id)) :
    id ∈ offered ∧ id ∉ tree.ids ∧ ∃ (context : Context) (g : Group),
      tree.find? target = some g ∧ tree = context.plug g ∧
        next = context.plug (g.append (.group id .and [])) :=
  have hadding : adding (fun id => .group id .and []) tree target offered = some (next, id) := h
  adding_eq_some hadding

/-- Children have been removed: the group that was found had one with the identifier, and has
none any more. -/
theorem remove?_eq_some {child : String} (h : remove? target child tree = some next) :
    ∃ (context : Context) (g : Group), tree.find? target = some g ∧ tree = context.plug g ∧
      (∃ node ∈ g.children, node.id = child) ∧
      next = context.plug { g with children := g.children.filter (·.id != child) } := by
  simp only [remove?, Option.bind_eq_bind, Option.bind_eq_some_iff] at h
  obtain ⟨parent, hparent, h⟩ := h
  split at h
  · next hany =>
    obtain ⟨context, g, hfind, htree, hnext⟩ := Group.exists_context_of_edit? h
    obtain rfl := Option.some.inj (hparent.symm.trans hfind)
    exact ⟨context, parent, hfind, htree, by simpa using hany, hnext⟩
  · cases h

theorem setLogic?_eq_some {logic : Logic} (h : setLogic? target logic tree = some next) :
    ∃ (context : Context) (g : Group), tree.find? target = some g ∧ tree = context.plug g ∧
      next = context.plug { g with logic := logic } :=
  Group.exists_context_of_edit? h

/-- A condition has been updated: the group that was found has a condition with the identifier,
which has taken the patch. -/
theorem update_eq_updated {catalog : Catalog} {condition : String} {patch : Patch}
    (h : update catalog target condition patch tree = .updated next) :
    ∃ (context : Context) (g : Group) (current changed : Condition),
      tree.find? target = some g ∧ tree = context.plug g ∧
      conditionIn? condition g.children = some current ∧
      patch.apply catalog current = .ok changed ∧
      next = context.plug { g with children := g.children.map (replaceCondition changed) } := by
  unfold update at h
  split at h
  · cases h
  · next current hcurrent =>
    split at h
    · cases h
    · next changed hchanged =>
      split at h
      · next updated hedit =>
        obtain rfl := Update.updated.inj h
        obtain ⟨context, g, hfind, htree, hnext⟩ := Group.exists_context_of_edit? hedit
        rw [hfind, Option.bind_some] at hcurrent
        exact ⟨context, g, current, changed, hfind, htree, hcurrent, hchanged, hnext⟩
      · cases h

end Authoring

end Audience
