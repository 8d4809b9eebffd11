import Audience.Proofs.Authoring.Edit
import Audience.Proofs.Authoring.Patch
import Audience.Proofs.Rule.Distinct

/-!
**Updating one condition**.

An update looks for its condition among the children of a group, makes another one of it, and goes
back to the group to put it in its place.  Both times the group is the first one with an identifier,
and the condition is known by its identifier only.  Where no identifier is used twice, the condition
that is looked at is the one that is replaced, and it is the only one.

Main definitions:

* `Group.Holds` — a condition is a child of the group with an identifier;
* `Group.replace` — a tree with another condition in place of one.

Main results:

* `Authoring.conditionIn?_eq_some_iff` — the condition that is found is the one with the identifier;
* `Authoring.edit?_replaceCondition` — a condition is replaced where it is, and nowhere else;
* `Authoring.update_replaces_one_condition` — **an update is made just where it may be**, and
  replaces one condition.
-/

set_option relaxedAutoImplicit false
set_option autoImplicit false

namespace Audience

/-- A condition is a **child of the group** with an identifier. -/
def Group.Holds (tree : Group) (target : String) (c : Condition) : Prop :=
  ∃ g ∈ tree.groups, g.id = target ∧ .condition c ∈ g.children

/-- The tree with another condition in place of one. -/
def Group.replace (current changed : Condition) (tree : Group) : Group :=
  tree.mapConditions fun c => if c = current then changed else c

namespace Authoring

variable {catalog : Catalog} {patch : Patch} {current changed : Condition}

/-! ### Conditions of one group -/

/-- If the identifiers are different, the condition that is found is the one with the
identifier. -/
theorem conditionIn?_eq_some_iff {id : String} {nodes : List Node} {c : Condition}
    (hids : (nodes.flatMap Node.ids).Nodup) :
    conditionIn? id nodes = some c ↔ .condition c ∈ nodes ∧ c.id = id := by
  constructor
  · intro h
    exact ⟨mem_of_conditionIn? h, id_of_conditionIn? h⟩
  · rintro ⟨hc, rfl⟩
    cases hfound : conditionIn? c.id nodes with
    | none => exact absurd rfl (conditionIn?_eq_none_iff.1 hfound c hc)
    | some found =>
        have hid : found.id ∈ (Node.condition c).ids :=
          List.mem_singleton.2 (id_of_conditionIn? hfound)
        have hsame := Node.eq_of_mem_ids hids (mem_of_conditionIn? hfound) hc
          (Node.id_mem_ids (.condition found)) hid
        rw [Node.condition.inj hsame]

/-- Among children with different identifiers, to replace the conditions with an identifier is to
replace one condition, and the groups among the children are left as they are. -/
theorem map_replaceCondition {nodes : List Node} (hids : (nodes.flatMap Node.ids).Nodup)
    (hcurrent : .condition current ∈ nodes) (hid : changed.id = current.id) :
    nodes.map (replaceCondition changed)
      = nodes.map (Node.mapConditions fun c => if c = current then changed else c) := by
  refine List.map_congr_left fun node hnode => ?_
  have hmem : current.id ∈ (Node.condition current).ids := List.mem_singleton.2 rfl
  cases node with
  | condition c =>
      rw [replaceCondition, Node.mapConditions, hid]
      by_cases hsame : c = current
      · rw [hsame, if_pos rfl, if_pos rfl]
      · have hne : c.id ≠ current.id := by
          intro heq
          refine hsame (Node.condition.inj ?_)
          exact Node.eq_of_mem_ids hids hnode hcurrent (List.mem_singleton.2 heq.symm) hmem
        rw [if_neg hne, if_neg hsame]
  | group id logic children =>
      rw [replaceCondition, Node.mapConditions_eq_self]
      intro c hc
      refine if_neg ?_
      rintro rfl
      -- the group would be the condition
      have hid' := Node.id_mem_ids_of_mem_conditions hc
      have hsame := Node.eq_of_mem_ids hids hnode hcurrent hid' hmem
      cases hsame

/-! ### Trees -/

variable {tree next g : Group} {target id : String}

/-- Where the identifiers are different, a condition of the group that is found is replaced where
it is, and nowhere else. -/
theorem edit?_replaceCondition (hids : tree.ids.Nodup) (hfind : tree.find? target = some g)
    (hcurrent : .condition current ∈ g.children) (hid : changed.id = current.id) :
    (tree.edit? target fun g => { g with children := g.children.map (replaceCondition changed) })
      = some (tree.replace current changed) := by
  rcases tree.edit?_cases target with ⟨hnone, -⟩ | ⟨context, found, hfound, rfl, hedit⟩
  · exact nomatch hnone.symm.trans hfind
  · obtain rfl := Option.some.inj (hfind.symm.trans hfound)
    have hheld : current ∈ g.node.conditions :=
      Group.mem_conditions.2 ⟨_, hcurrent, List.mem_singleton.2 rfl⟩
    have hin : current.id ∈ g.ids := Node.id_mem_ids_of_mem_conditions hheld
    have haround : ∀ c ∈ context.conditions, (if c = current then changed else c) = c := by
      intro c hc
      refine if_neg ?_
      rintro rfl
      exact Context.not_mem_of_mem_conditions hids hc hin
    have hchildren := map_replaceCondition (Group.nodup_children_of_find? hids hfind) hcurrent hid
    rw [hedit, hchildren, Group.replace, Context.mapConditions_plug haround, Group.mapConditions,
      Node.mapConditionsAll_eq_map]

/-- An update that is made: a condition is found in a group, it takes the patch, and the group
takes the condition. -/
theorem tree?_update_eq_some_iff :
    (update catalog target id patch tree).tree? = some next ↔
      ∃ g current changed, tree.find? target = some g ∧
        conditionIn? id g.children = some current ∧ patch.Makes catalog current changed ∧
        (tree.edit? target fun g =>
          { g with children := g.children.map (replaceCondition changed) }) = some next := by
  unfold update
  constructor
  · intro h
    split at h
    · cases h
    · next current hcurrent =>
      split at h
      · cases h
      · next changed hchanged =>
        split at h
        · next updated hedit =>
          obtain ⟨g, hfind, hfound⟩ := Option.bind_eq_some_iff.1 hcurrent
          obtain rfl := Option.some.inj h
          exact ⟨g, current, changed, hfind, hfound, Patch.apply_eq_ok_iff.1 hchanged, hedit⟩
        · cases h
  · rintro ⟨g, current, changed, hfind, hfound, hmakes, hedit⟩
    rw [hfind, Option.bind_some, hfound]
    simp only [Patch.apply_eq_ok_iff.2 hmakes, hedit]
    rfl

/-- Where the identifiers are different, an update replaces one condition, the child of the
group with the identifier, by what the patch makes of it. -/
theorem tree?_update_eq_some_iff_replace (hids : tree.ids.Nodup) :
    (update catalog target id patch tree).tree? = some next ↔
      ∃ current changed, tree.Holds target current ∧ current.id = id ∧
        patch.Makes catalog current changed ∧ next = tree.replace current changed := by
  rw [tree?_update_eq_some_iff]
  constructor
  · rintro ⟨g, current, changed, hfind, hfound, hmakes, hedit⟩
    have hchildren := Group.nodup_children_of_find? hids hfind
    obtain ⟨hcurrent, hid⟩ := (conditionIn?_eq_some_iff hchildren).1 hfound
    obtain ⟨hgroup, htarget⟩ := (Group.find?_eq_some_iff hids).1 hfind
    rw [edit?_replaceCondition hids hfind hcurrent hmakes.id_eq] at hedit
    exact ⟨current, changed, ⟨g, hgroup, htarget, hcurrent⟩, hid, hmakes,
      (Option.some.inj hedit).symm⟩
  · rintro ⟨current, changed, ⟨g, hgroup, htarget, hcurrent⟩, hid, hmakes, rfl⟩
    have hfind := (Group.find?_eq_some_iff hids).2 ⟨hgroup, htarget⟩
    have hchildren := Group.nodup_children_of_find? hids hfind
    have hfound := (conditionIn?_eq_some_iff hchildren).2 ⟨hcurrent, hid⟩
    exact ⟨g, current, changed, hfind, hfound, hmakes,
      edit?_replaceCondition hids hfind hcurrent hmakes.id_eq⟩

/-- **An update is made just where it may be, and replaces one condition.**  In a tree whose
identifiers are different an update is made if and only if the group has a condition with the
identifier among its children and the patch changes the field of this condition, or asks for no
operator, or for one that the field allows.  Then the tree that comes of it is the old one with what
the patch makes of the condition in its place: on another field the condition has the default
operator and the empty value, whatever else the patch asks for, and on its own field the new operator
and the new value in place of the old ones; its identifier stays in any case. -/
theorem update_replaces_one_condition {tree : Group} (hids : tree.ids.Nodup) (catalog : Catalog)
    (target id : String) (patch : Patch) :
    ((update catalog target id patch tree).tree?.isSome = true ↔
      ∃ current, tree.Holds target current ∧ current.id = id ∧
        (patch.Moves current ∨
          ∀ op ∈ patch.operator, catalog.allows current.field op = true)) ∧
    ∀ next, (update catalog target id patch tree).tree? = some next →
      ∃ current changed, tree.Holds target current ∧ current.id = id ∧
        patch.Makes catalog current changed ∧ next = tree.replace current changed := by
  constructor
  · simp only [Option.isSome_iff_exists, tree?_update_eq_some_iff_replace hids,
      ← Patch.exists_makes_iff]
    constructor
    · rintro ⟨next, current, changed, hholds, hid, hmakes, -⟩
      exact ⟨current, hholds, hid, changed, hmakes⟩
    · rintro ⟨current, hholds, hid, changed, hmakes⟩
      exact ⟨_, current, changed, hholds, hid, hmakes, rfl⟩
  · intro next h
    exact (tree?_update_eq_some_iff_replace hids).1 h

/-- Rules on a country, for groups of travellers and for others. -/
def countryRules : Group where
  id := "g1"
  logic := .or
  children :=
    [.group "g2" .and [.condition ⟨"c2", "country", .equals, .text "Fiji"⟩],
     .condition ⟨"c3", "country", .equals, .text "Fiji"⟩]

/-- Rules on the state of an account and on a country. -/
def travelRules : Group where
  id := "root"
  logic := .and
  children := [.condition ⟨"c1", "status", .equals, .text "Active"⟩, countryRules.node]

/-- The same rules with the last condition on an age. -/
def agedRules : Group where
  id := "root"
  logic := .and
  children :=
    [.condition ⟨"c1", "status", .equals, .text "Active"⟩,
     .group "g1" .or
      [.group "g2" .and [.condition ⟨"c2", "country", .equals, .text "Fiji"⟩],
       .condition ⟨"c3", "age", .equals, .empty⟩]]

/-- A condition is moved to the age, without the operator and the value that the patch asks for too.
The state of an account is not to be compared by size, and `c2` is not a child of `g1`. -/
theorem travelRules_replace_one_condition :
    let moving : Patch :=
      { field := some "age", operator := some .contains, value := some (.text "3") }
    travelRules.ids.Nodup ∧
      (update .customers "g1" "c3" moving travelRules).tree?.isSome = true ∧
      (∃ current changed, travelRules.Holds "g1" current ∧ current.id = "c3" ∧
        moving.Makes .customers current changed ∧ agedRules = travelRules.replace current changed) ∧
      (update .customers "root" "c1" { operator := some .greaterThan } travelRules).tree? = none ∧
      (update .customers "g1" "c2" moving travelRules).tree? = none := by
  intro moving
  have hids : travelRules.ids.Nodup := by decide +kernel
  obtain ⟨hmade, hreplaced⟩ := update_replaces_one_condition hids .customers "g1" "c3" moving
  have hholds : travelRules.Holds "g1" ⟨"c3", "country", .equals, .text "Fiji"⟩ :=
    ⟨countryRules, by decide +kernel, rfl, by decide +kernel⟩
  refine ⟨hids, hmade.2 ⟨_, hholds, rfl, .inl ⟨"age", rfl, by decide⟩⟩, ?_, ?_, ?_⟩
  · exact hreplaced agedRules (by decide +kernel)
  · decide +kernel
  · decide +kernel

end Authoring

end Audience
