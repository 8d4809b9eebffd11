import Audience.Proofs.Authoring.Edit

/-!
**Adding a node and removing it again**.

A node is added at the end of a group under an identifier that no node of the tree has, and removed
by this identifier from the first group with the identifier of its own.  The group that is found
then is the one the node was added to, since nothing before it has changed; and of its children only
the new one has the identifier, so that the others stay.  Nothing is asked of the other identifiers:
they may be used as often as one likes.

Main results:

* `Authoring.remove?_of_adding` — to remove a node that has been added gives the old tree;
* `Authoring.isSome_adding_iff` — when a node is added at all;
* `Authoring.removing_undoes_adding` — **removing undoes adding**, for conditions and for groups.
-/

set_option relaxedAutoImplicit false
set_option autoImplicit false

namespace Audience

theorem Group.id_mem_ids_of_find? {tree g : Group} {target : String}
    (h : tree.find? target = some g) {child : Node} (hchild : child ∈ g.children) :
    child.id ∈ tree.ids := by
  obtain ⟨context, htree, -⟩ := Node.exists_context h
  obtain rfl := Group.node_injective htree
  have hin : child.id ∈ g.ids := by
    rw [Group.ids_eq]
    exact List.mem_cons_of_mem _ (List.mem_flatMap.2 ⟨child, hchild, child.id_mem_ids⟩)
  rw [context.ids_plug]
  exact List.mem_append_left _ (List.mem_append_right _ hin)

namespace Authoring

variable {tree next : Group} {target id : String} {offered : List String}

theorem filter_append {g : Group} {child : Node} (h : ∀ other ∈ g.children, other.id ≠ child.id) :
    { g.append child with children := (g.append child).children.filter (·.id != child.id) } = g := by
  have hothers : g.children.filter (·.id != child.id) = g.children :=
    List.filter_eq_self.2 fun other hm => bne_iff_ne.2 (h other hm)
  have hchild : [child].filter (·.id != child.id) = [] := by simp
  rw [Group.append, List.filter_append, hothers, hchild, List.append_nil]

/-- To remove a node that has been added gives the old tree. -/
theorem remove?_of_adding (make : String → Node) (hmake : ∀ id, (make id).id = id)
    (h : adding make tree target offered = some (next, id)) :
    remove? target id next = some tree := by
  simp only [adding, Option.bind_eq_bind, Option.bind_eq_some_iff, Option.pure_def,
    Option.some.injEq, Prod.mk.injEq] at h
  obtain ⟨id, hfresh, next, hedit, rfl, rfl⟩ := h
  obtain ⟨-, hnew⟩ := fresh?_eq_some hfresh
  have happend : ∀ g : Group, (g.append (make id)).id = g.id := fun _ => rfl
  obtain ⟨g, hfind, hagain⟩ := Group.find?_of_edit? happend hedit
  have hany : (g.append (make id)).children.any (·.id == id) = true := by
    simp [Group.append, hmake]
  have hothers : ∀ other ∈ g.children, other.id ≠ (make id).id := by
    intro other hother heq
    rw [hmake] at heq
    exact hnew (heq ▸ Group.id_mem_ids_of_find? hfind hother)
  have hdrop := filter_append hothers
  rw [hmake] at hdrop
  calc remove? target id next
      = next.edit? target fun g => { g with children := g.children.filter (·.id != id) } := by
        rw [remove?, hagain, Option.bind_eq_bind, Option.bind_some, if_pos hany]
    _ = tree.edit? target fun g =>
          { g.append (make id) with
            children := (g.append (make id)).children.filter (·.id != id) } :=
        Group.edit?_edit? happend hedit _
    _ = some tree := Group.edit?_eq_self hfind hdrop

/-- A node is added if its group is found and an identifier that is offered is new. -/
theorem isSome_adding_iff (make : String → Node) (offered : List String) :
    (adding make tree target offered).isSome = true ↔
      (tree.find? target).isSome = true ∧ ∃ id ∈ offered, id ∉ tree.ids := by
  by_cases hfresh : ∃ id ∈ offered, id ∉ tree.ids
  · rcases @adding_cases tree target make offered hfresh with
      ⟨hfind, hnone⟩ | ⟨g, next, id, hfind, hmade, -⟩
    · simp [hfind, hnone]
    · simp [hfind, hmade, hfresh]
  · have hnone : fresh? tree.ids offered = none := by
      rw [fresh?, List.find?_eq_none]
      simpa using hfresh
    simp [adding, hnone, hfresh]

/-- **Removing undoes adding.**  A condition or a group is added to a tree just when the group that
it is to be added to is found and an identifier that is offered is new, and to remove it from this
group by the identifier that was told gives the tree as it was.  The identifiers in the tree need
not be different. -/
theorem removing_undoes_adding (catalog : Catalog) (offered : List String) (target : String)
    (tree : Group) :
    ((addCondition? catalog offered target tree).isSome = true ↔
      (tree.find? target).isSome = true ∧ ∃ id ∈ offered, id ∉ tree.ids) ∧
    ((addGroup? offered target tree).isSome = true ↔
      (tree.find? target).isSome = true ∧ ∃ id ∈ offered, id ∉ tree.ids) ∧
    ∀ next id,
      (addCondition? catalog offered target tree = some (next, id) ∨
        addGroup? offered target tree = some (next, id)) →
      remove? target id next = some tree := by
  refine ⟨isSome_adding_iff _ offered, isSome_adding_iff _ offered, ?_⟩
  rintro next id (h | h)
  · exact remove?_of_adding (fun id => .condition (newCondition catalog id)) (fun _ => rfl) h
  · exact remove?_of_adding (fun id => .group id .and []) (fun _ => rfl) h

/-- A tree in which two groups and two conditions go by one identifier each. -/
def doubledRules : Group where
  id := "root"
  logic := .or
  children :=
    [.group "g1" .and [.condition ⟨"c1", "age", .greaterThan, .number (Double.ofInt 30)⟩],
     .group "g1" .or [.condition ⟨"c1", "status", .equals, .text "Active"⟩]]

/-- The first of the groups is given another group, whose identifier is the second one offered, and
loses it again. -/
theorem doubledRules_undo_adding :
    let grown : Group :=
      { doubledRules with
        children :=
          [.group "g1" .and
            [.condition ⟨"c1", "age", .greaterThan, .number (Double.ofInt 30)⟩,
             .group "g2" .and []],
           .group "g1" .or [.condition ⟨"c1", "status", .equals, .text "Active"⟩]] }
    addGroup? ["c1", "g2"] "g1" doubledRules = some (grown, "g2") ∧
      remove? "g1" "g2" grown = some doubledRules := by
  intro grown
  have hadded : addGroup? ["c1", "g2"] "g1" doubledRules = some (grown, "g2") := by
    decide +kernel
  obtain ⟨-, -, hundo⟩ := removing_undoes_adding .customers ["c1", "g2"] "g1" doubledRules
  exact ⟨hadded, hundo grown "g2" (.inr hadded)⟩

end Authoring

end Audience
