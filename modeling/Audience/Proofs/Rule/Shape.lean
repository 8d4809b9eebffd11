import Audience.Proofs.Keyed
import Audience.Proofs.Rule.Tree
import Audience.Rule.Validation

/-!
**What validation refuses**.

Validation goes through the identifiers in a tree with a list of those it has seen, and through its
groups from the root down, and stops at the first fault.  What it looks at can be listed beforehand:
the identifiers and the groups, depth first.

Main definitions:

* `Node.groups`, `Group.groups` — the groups at or below a node and in a tree, depth first;
* `Group.IsSound` — no identifier in the tree is blank, and all are pairwise different;
* `Group.Exceeds` — what can be too much in a tree.

Main results:

* `TreeFault.ofIds?_eq_firstFault?` — identifiers are checked one by one;
* `TreeFault.ofIds?_eq_none_iff` — identifiers are without fault if they are pairwise different,
  new and not blank;
* `Node.tooWide?_eq` — the group that is reported for its children is the first one with too many;
* `Group.IsSound.exceeds` — a sound tree **can only be too deep or too wide**.
-/

set_option relaxedAutoImplicit false
set_option autoImplicit false

namespace Audience

/-! ### Identifiers -/

namespace TreeFault

/-- What is wrong with an identifier that comes after the identifiers `seen`. -/
def ofId? (seen : List String) (id : String) : Option TreeFault :=
  if Text.isBlankText id then some .blankId
  else if id ∈ seen then some (.duplicateId id)
  else none

/-- Identifiers are checked one by one. -/
theorem ofIds?_eq_firstFault? (seen ids : List String) :
    ofIds? seen ids = firstFault? (fun id => id) ofId? seen ids := by
  induction ids generalizing seen with
  | nil => rfl
  | cons id ids ih =>
      rw [ofIds?, firstFault?, ofId?, ih]
      split
      · rfl
      · split <;> rfl

/-- Identifiers are without fault if they are pairwise different, new and not blank. -/
theorem ofIds?_eq_none_iff {seen ids : List String} :
    ofIds? seen ids = none ↔
      (∀ id ∈ ids, Text.isBlankText id = false ∧ id ∉ seen) ∧ ids.Nodup := by
  have hcheck : ∀ seen id, ofId? seen id = none ↔ Text.isBlankText id = false ∧ id ∉ seen := by
    intro seen id
    rw [ofId?]
    cases Text.isBlankText id <;> simp
  rw [ofIds?_eq_firstFault?, firstFault?_eq_none_iff hcheck, List.map_id']

end TreeFault

/-! ### Groups -/

mutual

/-- The groups at or below a node, depth first. -/
def Node.groups : Node → List Group
  | .condition _ => []
  | .group id logic children => ⟨id, logic, children⟩ :: Node.groupsAll children

/-- The groups at or below a list of nodes, depth first. -/
def Node.groupsAll : List Node → List Group
  | [] => []
  | node :: nodes => node.groups ++ Node.groupsAll nodes

end

/-- The **groups** of a tree, depth first, the root first. -/
def Group.groups (g : Group) : List Group := g.node.groups

/-- The fault of a group that has too many children of its own. -/
def Group.ownFault? (most : Nat) (g : Group) : Option TreeFault :=
  if most < g.children.length then some (.tooWide g.id g.children.length most) else none

namespace Node

theorem tooWideAmong?_eq {most : Nat} {nodes : List Node}
    (h : ∀ node ∈ nodes, node.tooWide? most = node.groups.findSome? (Group.ownFault? most)) :
    tooWideAmong? most nodes = (groupsAll nodes).findSome? (Group.ownFault? most) := by
  induction nodes with
  | nil => rfl
  | cons node nodes ih =>
      rw [List.forall_mem_cons] at h
      rw [tooWideAmong?, groupsAll, List.findSome?_append, h.1, ih h.2]

/-- The group that is reported for its children is the first one with too many. -/
theorem tooWide?_eq (most : Nat) (node : Node) :
    node.tooWide? most = node.groups.findSome? (Group.ownFault? most) := by
  induction node using Node.induction with
  | condition c => rfl
  | group id logic children ih =>
      rw [tooWide?, groups, List.findSome?_cons, Group.ownFault?, tooWideAmong?_eq ih]
      split <;> rfl

end Node

/-! ### Trees -/

/-- A tree is sound if no identifier in it is blank and all are pairwise different. -/
structure Group.IsSound (g : Group) : Prop where
  /-- No identifier is blank. -/
  present : ∀ id ∈ g.ids, Text.isBlankText id = false
  /-- The identifiers are pairwise different. -/
  nodup : g.ids.Nodup

/-- What can be too much in a tree: its depth, or the number of children of one of its groups. -/
def Group.Exceeds (g : Group) (limits : TreeLimits) (fault : TreeFault) : Prop :=
  (limits.maxDepth < g.depth ∧ fault = .tooDeep g.depth limits.maxDepth) ∨
    ∃ group ∈ g.groups, limits.maxChildren < group.children.length ∧
      fault = .tooWide group.id group.children.length limits.maxChildren

theorem Group.IsSound.ofIds?_eq_none {g : Group} (h : g.IsSound) :
    TreeFault.ofIds? [] g.ids = none :=
  TreeFault.ofIds?_eq_none_iff.2 ⟨fun id hid => ⟨h.present id hid, nofun⟩, h.nodup⟩

/-- A sound tree **can only be too deep or too wide**. -/
theorem Group.IsSound.exceeds {g : Group} (h : g.IsSound) {limits : TreeLimits} {fault : TreeFault}
    (hfault : g.validate limits = .error fault) : g.Exceeds limits fault := by
  have hfound : g.fault? limits = some fault := by
    unfold Group.validate at hfault
    split at hfault
    · cases hfault
    · next found hfound => rw [hfound, Except.error.inj hfault]
  unfold Group.fault? at hfound
  split at hfound
  · next hdeep => exact .inl ⟨hdeep, (Option.some.inj hfound).symm⟩
  · rw [h.ofIds?_eq_none, Option.none_or, Node.tooWide?_eq] at hfound
    obtain ⟨group, hm, hown⟩ := List.exists_of_findSome?_eq_some hfound
    unfold Group.ownFault? at hown
    split at hown
    · next hwide => exact .inr ⟨group, hm, hwide, (Option.some.inj hown).symm⟩
    · cases hown

end Audience
