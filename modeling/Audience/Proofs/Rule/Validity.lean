import Audience.Proofs.Rule.Depth
import Audience.Proofs.Text.Blank

/-!
**What validation accepts**, and what it reports of the other trees.

A tree is accepted just when it is well-shaped.  Of any other tree one fault is reported: its depth
before anything else, then the first identifier that is blank or has come before, and the number of
children of a group last, for the first group that has too many.

Main definitions:

* `AreIdentifiers` — nothing is wrong with a list of identifiers;
* `Group.IsWellShaped` — **the trees to be accepted**;
* `Group.Reports` — the fault to be reported of a tree.

Main results:

* `TreeFault.ofIds?_eq_some_iff` — the identifier that is reported is the first one that is
  wrong;
* `Group.fault?_eq_none_iff`, `Group.fault?_eq_some_iff` — when there is no fault, and which one is
  the first;
* `Group.validation_finds_first_fault` — **validation accepts the well-shaped trees**, and reports
  the first fault of the others.
-/

set_option relaxedAutoImplicit false
set_option autoImplicit false

namespace Audience

/-! ### Identifiers -/

/-- Nothing is wrong with a list of identifiers: something is left of each one when it is
trimmed, and they are pairwise different. -/
structure AreIdentifiers (ids : List String) : Prop where
  /-- No identifier is empty when trimmed. -/
  present : ∀ id ∈ ids, (Text.trim id).isEmpty = false
  /-- The identifiers are pairwise different. -/
  nodup : ids.Nodup

namespace TreeFault

variable {ids : List String} {fault : TreeFault}

theorem ofIds?_eq_none_iff_areIdentifiers : ofIds? [] ids = none ↔ AreIdentifiers ids := by
  rw [ofIds?_eq_none_iff]
  simp only [← Text.isEmpty_trim, List.not_mem_nil, not_false_eq_true, and_true]
  exact ⟨fun h => ⟨h.1, h.2⟩, fun h => ⟨h.present, h.nodup⟩⟩

theorem ofId?_eq_some_iff {seen : List String} {id : String} :
    ofId? seen id = some fault ↔
      ((Text.trim id).isEmpty = true ∧ fault = .blankId) ∨
        ((Text.trim id).isEmpty = false ∧ id ∈ seen ∧ fault = .duplicateId id) := by
  rw [ofId?, Text.isEmpty_trim]
  cases Text.isBlankText id with
  | true => simp [eq_comm]
  | false => simp [eq_comm]

/-- A fault of identifiers is that of the first one that is blank or has come before. -/
theorem ofIds?_eq_some_iff :
    ofIds? [] ids = some fault ↔
      ∃ before id after, ids = before ++ id :: after ∧ AreIdentifiers before ∧
        (((Text.trim id).isEmpty = true ∧ fault = .blankId) ∨
          ((Text.trim id).isEmpty = false ∧ id ∈ before ∧ fault = .duplicateId id)) := by
  rw [ofIds?_eq_firstFault?, firstFault?_eq_some_iff]
  simp only [← ofIds?_eq_firstFault?, ofIds?_eq_none_iff_areIdentifiers, ofId?_eq_some_iff,
    List.map_id', List.append_nil, List.mem_reverse]

end TreeFault

/-! ### Trees -/

namespace Group

/-- The trees that are to be **accepted**: no chain of nested groups is too long, nothing is wrong
with the identifiers, and no group has too many children. -/
structure IsWellShaped (limits : TreeLimits) (g : Group) : Prop where
  /-- No chain of nested groups is longer than the greatest depth. -/
  shallow : ∀ chain, g.Chain chain → chain.length ≤ limits.maxDepth
  /-- Nothing is wrong with the identifiers of groups and conditions. -/
  identified : AreIdentifiers g.ids
  /-- No group has too many children. -/
  narrow : ∀ group ∈ g.groups, group.children.length ≤ limits.maxChildren

/-- The fault to be reported of a tree: each kind of fault only if there is none of the kinds
before it, and of its kind the first one, depth first. -/
inductive Reports (limits : TreeLimits) (g : Group) : TreeFault → Prop
  /-- The longest chain of nested groups is too long. -/
  | tooDeep {chain : List Group} (hchain : g.Chain chain)
      (hlongest : ∀ other, g.Chain other → other.length ≤ chain.length)
      (hdeep : limits.maxDepth < chain.length) :
      Reports limits g (.tooDeep chain.length limits.maxDepth)
  /-- An identifier is empty when trimmed. -/
  | blankId {before after : List String} {id : String}
      (hshallow : ∀ chain, g.Chain chain → chain.length ≤ limits.maxDepth)
      (hids : g.ids = before ++ id :: after) (hbefore : AreIdentifiers before)
      (hblank : (Text.trim id).isEmpty = true) : Reports limits g .blankId
  /-- An identifier has come before. -/
  | duplicateId {before after : List String} {id : String}
      (hshallow : ∀ chain, g.Chain chain → chain.length ≤ limits.maxDepth)
      (hids : g.ids = before ++ id :: after) (hbefore : AreIdentifiers before)
      (hpresent : (Text.trim id).isEmpty = false) (hseen : id ∈ before) :
      Reports limits g (.duplicateId id)
  /-- A group has too many children. -/
  | tooWide {before after : List Group} {group : Group}
      (hshallow : ∀ chain, g.Chain chain → chain.length ≤ limits.maxDepth)
      (hids : AreIdentifiers g.ids) (hgroups : g.groups = before ++ group :: after)
      (hbefore : ∀ earlier ∈ before, earlier.children.length ≤ limits.maxChildren)
      (hwide : limits.maxChildren < group.children.length) :
      Reports limits g (.tooWide group.id group.children.length limits.maxChildren)

variable {limits : TreeLimits} {g : Group} {fault : TreeFault}

theorem ownFault?_eq_none_iff {most : Nat} :
    g.ownFault? most = none ↔ g.children.length ≤ most := by
  simp [ownFault?]

theorem ownFault?_eq_some_iff {most : Nat} :
    g.ownFault? most = some fault ↔
      most < g.children.length ∧ fault = .tooWide g.id g.children.length most := by
  simp [ownFault?, eq_comm]

/-- There is no fault just in a well-shaped tree. -/
theorem fault?_eq_none_iff : g.fault? limits = none ↔ g.IsWellShaped limits := by
  have hshape : g.IsWellShaped limits ↔
      g.depth ≤ limits.maxDepth ∧ TreeFault.ofIds? [] g.ids = none ∧
        g.node.tooWide? limits.maxChildren = none := by
    rw [depth_le_iff_chains, TreeFault.ofIds?_eq_none_iff_areIdentifiers, Node.tooWide?_eq,
      List.findSome?_eq_none_iff]
    simp only [ownFault?_eq_none_iff]
    exact ⟨fun h => ⟨h.shallow, h.identified, h.narrow⟩, fun h => ⟨h.1, h.2.1, h.2.2⟩⟩
  rw [hshape, fault?]
  split
  · next hdeep => simp [Nat.not_le_of_lt hdeep]
  · next hshallow => simp [Nat.le_of_not_lt hshallow]

/-- The first fault of a tree is the one to be reported. -/
theorem fault?_eq_some_iff : g.fault? limits = some fault ↔ g.Reports limits fault := by
  obtain ⟨longest, hchain, hlength⟩ := g.exists_chain
  rw [fault?]
  split
  · next hdeep =>
    constructor
    · intro h
      obtain rfl := Option.some.inj h
      rw [← hlength] at hdeep ⊢
      refine .tooDeep hchain ?_ hdeep
      intro other hother
      exact hlength ▸ hother.length_le_depth
    · intro h
      -- a tree that is too deep is reported for nothing else
      have hlong : ¬ ∀ chain, g.Chain chain → chain.length ≤ limits.maxDepth := by
        rw [← depth_le_iff_chains]
        exact Nat.not_le_of_lt hdeep
      cases h with
      | @tooDeep chain hchain' hlongest =>
          have hdepth : chain.length = g.depth :=
            Nat.le_antisymm hchain'.length_le_depth (hlength ▸ hlongest longest hchain)
          rw [hdepth]
      | blankId hshallow => exact absurd hshallow hlong
      | duplicateId hshallow => exact absurd hshallow hlong
      | tooWide hshallow => exact absurd hshallow hlong
  · next hdeep =>
    have hshallow := depth_le_iff_chains.1 (Nat.le_of_not_lt hdeep)
    rw [Option.or_eq_some_iff, TreeFault.ofIds?_eq_some_iff,
      TreeFault.ofIds?_eq_none_iff_areIdentifiers, Node.tooWide?_eq, List.findSome?_eq_some_iff]
    constructor
    · rintro (⟨before, id, after, hids, hbefore, ⟨hblank, rfl⟩ | ⟨hpresent, hseen, rfl⟩⟩ |
        ⟨hids, before, group, after, hgroups, hgroup, hbefore⟩)
      · exact .blankId hshallow hids hbefore hblank
      · exact .duplicateId hshallow hids hbefore hpresent hseen
      · obtain ⟨hwide, rfl⟩ := ownFault?_eq_some_iff.1 hgroup
        refine .tooWide hshallow hids hgroups ?_ hwide
        intro earlier hearlier
        exact ownFault?_eq_none_iff.1 (hbefore earlier hearlier)
    · intro h
      cases h with
      | tooDeep hchain' _ hlong => exact absurd hlong (Nat.not_lt_of_le (hshallow _ hchain'))
      | blankId _ hids hbefore hblank =>
          exact .inl ⟨_, _, _, hids, hbefore, .inl ⟨hblank, rfl⟩⟩
      | duplicateId _ hids hbefore hpresent hseen =>
          exact .inl ⟨_, _, _, hids, hbefore, .inr ⟨hpresent, hseen, rfl⟩⟩
      | tooWide _ hids hgroups hbefore hwide =>
          refine .inr ⟨hids, _, _, _, hgroups, ownFault?_eq_some_iff.2 ⟨hwide, rfl⟩, ?_⟩
          intro earlier hearlier
          exact ownFault?_eq_none_iff.2 (hbefore earlier hearlier)

/-- **Validation accepts just the well-shaped trees**, whatever their depth and width and whatever
the limits, and of every other tree it reports the first fault; it reports the depth just when a
walk through the tree measures too much, and what the walk measures. -/
theorem validation_finds_first_fault (limits : TreeLimits) (g : Group) :
    (g.validate limits = .ok () ↔ g.IsWellShaped limits) ∧
    (∀ fault, g.validate limits = .error fault ↔ g.Reports limits fault) ∧
    ∀ depth most, g.validate limits = .error (.tooDeep depth most) ↔
      limits.maxDepth < g.measure ∧ depth = g.measure ∧ most = limits.maxDepth := by
  have herror : ∀ fault, g.validate limits = .error fault ↔ g.fault? limits = some fault := by
    intro fault
    rw [validate]
    cases g.fault? limits <;> simp
  refine ⟨?_, ?_, ?_⟩
  · rw [← fault?_eq_none_iff, validate]
    cases g.fault? limits <;> simp
  · intro fault
    rw [herror, fault?_eq_some_iff]
  · intro depth most
    rw [herror, measure_eq_depth, fault?]
    split
    · next hdeep => simp [hdeep, eq_comm]
    · next hshallow =>
      -- a tree that is not too deep is not reported for its depth
      have hother : g.fault? limits ≠ some (.tooDeep depth most) := by
        intro h
        cases fault?_eq_some_iff.1 h with
        | tooDeep hchain _ hlong => exact hshallow (Nat.lt_of_lt_of_le hlong hchain.length_le_depth)
      rw [fault?, if_neg hshallow] at hother
      simp [hshallow, hother]

end Group

end Audience
