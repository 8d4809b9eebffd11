import Audience.Proofs.Authoring.Update
import Audience.Proofs.Rule.Revision

/-!
**Changes of different nodes**, in either order.

To set the logic of a group and to update a condition leave the shape of a tree and its identifiers
as they are.  Where the identifiers are different, such a change is a revision of the tree, and
which one it is, if any, can be told from its own node alone.  So it does not matter whether another
node has been changed before, be it around that node, below it or beside it.

Main definitions:

* `Authoring.Change`, `Authoring.Change.aim` — the changes, and the node that one is aimed at;
* `Authoring.Change.made?`, `Authoring.Change.leave` — the tree that a change makes, and the one
  that is left when it may not be made;
* `Authoring.Change.Revises` — **what a change does** to a tree.

Main results:

* `Authoring.Change.made?_eq_some_iff` — a change that is made is a revision;
* `Authoring.Change.revises_revise_iff` — it is the same one after a change of another node;
* `Authoring.Change.Revises.comm` — two of them come to the same in either order;
* `Authoring.changes_commute` — **changes of different nodes commute**, made or not.
-/

set_option relaxedAutoImplicit false
set_option autoImplicit false

namespace Audience

/-! ### Two kinds of revisions -/

namespace Revision

variable {target other : String} {logic : Logic} {current changed : Condition}

/-- A group with an identifier combines its children in another way. -/
def setLogic (target : String) (logic : Logic) : Revision where
  logic id old := if id = target then logic else old

/-- Another condition in place of one. -/
def replace (current changed : Condition) : Revision where
  condition c := if c = current then changed else c

theorem leaves_setLogic {id : String} (h : id ≠ target) : (setLogic target logic).Leaves id :=
  ⟨fun _ => if_neg h, fun _ _ => rfl⟩

@[simp] theorem condition_replace (c : Condition) :
    (replace current changed).condition c = if c = current then changed else c := rfl

theorem id_condition_replace (h : changed.id = current.id) (c : Condition) :
    ((replace current changed).condition c).id = c.id := by
  rw [condition_replace]
  split
  · next hc => rw [h, hc]
  · rfl

theorem setLogic_comm (h : target ≠ other) (l m : Logic) :
    (setLogic target l).andThen (setLogic other m)
      = (setLogic other m).andThen (setLogic target l) := by
  simp only [andThen, setLogic, mk.injEq, and_true]
  funext id old
  by_cases hid : id = target
  · simp [hid, h]
  · simp [hid]

theorem replace_comm {current' changed' : Condition} (h : changed.id = current.id)
    (h' : changed'.id = current'.id) (hne : current.id ≠ current'.id) :
    (replace current changed).andThen (replace current' changed')
      = (replace current' changed').andThen (replace current changed) := by
  -- neither of the new conditions is taken for one to be replaced
  have hnew : changed ≠ current' := fun heq => hne (h.symm.trans (congrArg Condition.id heq))
  have hnew' : changed' ≠ current := fun heq => hne ((congrArg Condition.id heq).symm.trans h')
  have hother : current ≠ current' := fun heq => hne (congrArg Condition.id heq)
  simp only [andThen, replace, mk.injEq, true_and]
  funext c
  by_cases hc : c = current
  · simp [hc, hnew, hother]
  · by_cases hc' : c = current'
    · simp [hc', hnew', hother.symm]
    · simp [hc, hc']

end Revision

/-! ### What is seen of a tree after a revision -/

namespace Group

variable {tree : Group} {target : String} {r : Revision} {c d : Condition}

theorem replace_eq_revise (current changed : Condition) (tree : Group) :
    tree.replace current changed = tree.revise (.replace current changed) :=
  tree.mapConditions_eq_revise _

theorem exists_group_revise_iff (r : Revision) :
    (∃ g ∈ (tree.revise r).groups, g.id = target) ↔ ∃ g ∈ tree.groups, g.id = target := by
  simp only [groups_revise, List.mem_map, exists_exists_and_eq_and]
  exact Iff.rfl

/-- A group holds the conditions that it held, revised. -/
theorem holds_revise_iff :
    (tree.revise r).Holds target c ↔ ∃ old, tree.Holds target old ∧ r.condition old = c := by
  have hchild : ∀ g : Group, .condition c ∈ (g.revise r).children ↔
      ∃ old, .condition old ∈ g.children ∧ r.condition old = c := by
    intro g
    rw [revise, Node.reviseAll_eq_map, List.mem_map]
    constructor
    · rintro ⟨node, hnode, heq⟩
      cases node with
      | condition old => exact ⟨old, hnode, Node.condition.inj heq⟩
      | group id logic children => cases heq
    · rintro ⟨old, hold, rfl⟩
      exact ⟨.condition old, hold, rfl⟩
  simp only [Holds, groups_revise, List.mem_map]
  constructor
  · rintro ⟨_, ⟨g, hg, rfl⟩, hid, hc⟩
    obtain ⟨old, hold, heq⟩ := (hchild g).1 hc
    exact ⟨old, ⟨g, hg, hid, hold⟩, heq⟩
  · rintro ⟨old, ⟨g, hg, hid, hold⟩, heq⟩
    exact ⟨g.revise r, ⟨g, hg, rfl⟩, hid, (hchild g).2 ⟨old, hold, heq⟩⟩

theorem Holds.unique {target' : String} (hids : tree.ids.Nodup) (hc : tree.Holds target c)
    (hd : tree.Holds target' d) (hid : c.id = d.id) : target = target' ∧ c = d := by
  obtain ⟨g, hg, rfl, hmem⟩ := hc
  obtain ⟨h, hh, rfl, hmem'⟩ := hd
  obtain ⟨rfl, hsame⟩ := parent_unique hids hg hh hmem hmem' hid
  exact ⟨rfl, Node.condition.inj hsame⟩

end Group

namespace Authoring

/-! ### Changes -/

/-- A change of one node, in its place. -/
inductive Change where
  | setLogic (group : String) (logic : Logic)
  | update (group condition : String) (patch : Patch)
  deriving DecidableEq, Repr

/-- A node that a change may be aimed at. -/
inductive Aim where
  | group (id : String)
  /-- A condition among the children of a group. -/
  | condition (group id : String)
  deriving DecidableEq, Repr

namespace Change

/-- The node that a change is aimed at. -/
def aim : Change → Aim
  | setLogic group _ => .group group
  | update group condition _ => .condition group condition

/-- The tree that a change makes, if it may be made. -/
def made? (catalog : Catalog) (tree : Group) : Change → Option Group
  | setLogic group logic => setLogic? group logic tree
  | update group condition patch => (Authoring.update catalog group condition patch tree).tree?

/-- The tree that a change leaves: the one that it makes, or else the old one. -/
def leave (catalog : Catalog) (change : Change) (tree : Group) : Group :=
  (change.made? catalog tree).getD tree

/-- **What a change does** to a tree in which all identifiers are different. -/
inductive Revises (catalog : Catalog) (tree : Group) : Change → Revision → Prop
  /-- A group of the tree combines its children in another way. -/
  | setLogic {target : String} {logic : Logic} (hgroup : ∃ g ∈ tree.groups, g.id = target) :
      Revises catalog tree (setLogic target logic) (.setLogic target logic)
  /-- What a patch makes of a condition takes its place. -/
  | update {target : String} {patch : Patch} {current changed : Condition}
      (hholds : tree.Holds target current) (hmakes : patch.Makes catalog current changed) :
      Revises catalog tree (update target current.id patch) (.replace current changed)

end Change

variable {catalog : Catalog} {tree next : Group} {target : String}

/-- Where the identifiers are different, to set the logic of a group is a revision. -/
theorem setLogic?_eq_some_iff {logic : Logic} (hids : tree.ids.Nodup) :
    setLogic? target logic tree = some next ↔
      (∃ g ∈ tree.groups, g.id = target) ∧ next = tree.revise (.setLogic target logic) := by
  rcases tree.edit?_cases target with ⟨hnone, hedit⟩ | ⟨context, g, hfind, rfl, hedit⟩
  · rw [setLogic?, hedit]
    constructor
    · nofun
    · rintro ⟨⟨g, hg, hid⟩, -⟩
      exact nomatch hnone.symm.trans ((Group.find?_eq_some_iff hids).2 ⟨hg, hid⟩)
  · obtain ⟨hg, rfl⟩ := (Group.find?_eq_some_iff hids).1 hfind
    have haround : ∀ id ∈ context.idsBefore ++ context.idsAfter,
        (Revision.setLogic g.id logic).Leaves id := by
      intro id hid
      refine Revision.leaves_setLogic ?_
      rintro rfl
      exact Context.not_mem_ids hids hid g.node.id_mem_ids
    have hbelow : ∀ id ∈ g.children.flatMap Node.ids,
        (Revision.setLogic g.id logic).Leaves id := by
      intro id hid
      refine Revision.leaves_setLogic ?_
      rintro rfl
      rw [context.ids_plug] at hids
      have hown := (List.nodup_append.1 (List.nodup_append.1 hids).1).2.1
      rw [g.ids_eq] at hown
      exact (List.nodup_cons.1 hown).1 hid
    have hrevise : (context.plug g).revise (.setLogic g.id logic)
        = context.plug { g with logic := logic } := by
      rw [Context.revise_plug haround, Group.revise, Node.reviseAll_eq_self hbelow]
      simp [Revision.setLogic]
    rw [setLogic?, hedit, hrevise]
    constructor
    · intro h
      exact ⟨⟨g, hg, rfl⟩, (Option.some.inj h).symm⟩
    · rintro ⟨-, rfl⟩
      rfl

namespace Change

variable {change other : Change} {r s : Revision}

theorem Revises.id_condition (h : change.Revises catalog tree r) (c : Condition) :
    (r.condition c).id = c.id := by
  cases h with
  | setLogic => rfl
  | update hholds hmakes => exact Revision.id_condition_replace hmakes.id_eq c

/-- A change that is made is a revision of the tree. -/
theorem made?_eq_some_iff (hids : tree.ids.Nodup) :
    change.made? catalog tree = some next ↔
      ∃ r, change.Revises catalog tree r ∧ next = tree.revise r := by
  cases change with
  | setLogic group logic =>
      rw [made?, setLogic?_eq_some_iff hids]
      constructor
      · rintro ⟨hgroup, rfl⟩
        exact ⟨_, .setLogic hgroup, rfl⟩
      · rintro ⟨_, ⟨hgroup⟩, rfl⟩
        exact ⟨hgroup, rfl⟩
  | update group condition patch =>
      rw [made?, tree?_update_eq_some_iff_replace hids]
      constructor
      · rintro ⟨current, changed, hholds, rfl, hmakes, rfl⟩
        exact ⟨_, .update hholds hmakes, Group.replace_eq_revise ..⟩
      · rintro ⟨_, ⟨⟩ | ⟨hholds, hmakes⟩, rfl⟩
        exact ⟨_, _, hholds, rfl, hmakes, (Group.replace_eq_revise ..).symm⟩

theorem Revises.condition_eq_self {c : Condition} (hids : tree.ids.Nodup)
    (h : other.Revises catalog tree s) (hc : tree.Holds target c)
    (haim : .condition target c.id ≠ other.aim) : s.condition c = c := by
  cases h with
  | setLogic => rfl
  | update hholds hmakes =>
      refine if_neg ?_
      rintro rfl
      obtain ⟨rfl, -⟩ := hc.unique hids hholds rfl
      exact haim rfl

/-- What a change does to a tree is the same after a change of another node. -/
theorem revises_revise_iff (hids : tree.ids.Nodup) (haim : change.aim ≠ other.aim)
    (h : other.Revises catalog tree s) :
    change.Revises catalog (tree.revise s) r ↔ change.Revises catalog tree r := by
  constructor
  · intro hr
    cases hr with
    | setLogic hgroup => exact .setLogic ((Group.exists_group_revise_iff s).1 hgroup)
    | update hholds hmakes =>
        obtain ⟨old, hold, rfl⟩ := Group.holds_revise_iff.1 hholds
        rw [aim, h.id_condition] at haim
        have hsame := h.condition_eq_self hids hold haim
        rw [hsame] at hmakes ⊢
        exact .update hold hmakes
  · intro hr
    cases hr with
    | setLogic hgroup => exact .setLogic ((Group.exists_group_revise_iff s).2 hgroup)
    | update hholds hmakes =>
        have hsame := h.condition_eq_self hids hholds haim
        exact .update (Group.holds_revise_iff.2 ⟨_, hholds, hsame⟩) hmakes

/-- Two changes of different nodes come to the same in either order. -/
theorem Revises.comm (hids : tree.ids.Nodup) (haim : change.aim ≠ other.aim)
    (hr : change.Revises catalog tree r) (hs : other.Revises catalog tree s) :
    (tree.revise r).revise s = (tree.revise s).revise r := by
  suffices hcomm : r.andThen s = s.andThen r by
    rw [Group.revise_revise, Group.revise_revise, hcomm]
  cases hr with
  | setLogic hgroup =>
      cases hs with
      | setLogic hgroup' =>
          exact Revision.setLogic_comm (fun heq => haim (congrArg Aim.group heq)) _ _
      | update hholds' hmakes' => rfl
  | update hholds hmakes =>
      cases hs with
      | setLogic hgroup' => rfl
      | update hholds' hmakes' =>
          refine Revision.replace_comm hmakes.id_eq hmakes'.id_eq fun hid => ?_
          obtain ⟨rfl, rfl⟩ := hholds.unique hids hholds' hid
          exact haim rfl

/-! ### In either order -/

theorem isSome_made?_iff (hids : tree.ids.Nodup) :
    (change.made? catalog tree).isSome = true ↔ ∃ r, change.Revises catalog tree r := by
  simp [Option.isSome_iff_exists, made?_eq_some_iff hids]

theorem Revises.leave_eq (hids : tree.ids.Nodup) (h : change.Revises catalog tree r) :
    change.leave catalog tree = tree.revise r := by
  rw [leave, (made?_eq_some_iff hids).2 ⟨r, h, rfl⟩, Option.getD_some]

theorem leave_eq_self (hids : tree.ids.Nodup) (h : ¬ ∃ r, change.Revises catalog tree r) :
    change.leave catalog tree = tree := by
  rw [← isSome_made?_iff hids, Option.not_isSome_iff_eq_none] at h
  rw [leave, h, Option.getD_none]

theorem revises_leave_iff (hids : tree.ids.Nodup) (haim : change.aim ≠ other.aim) :
    change.Revises catalog (other.leave catalog tree) r ↔ change.Revises catalog tree r := by
  by_cases h : ∃ s, other.Revises catalog tree s
  · obtain ⟨s, hs⟩ := h
    rw [hs.leave_eq hids, revises_revise_iff hids haim hs]
  · rw [leave_eq_self hids h]

theorem nodup_leave (hids : tree.ids.Nodup) : (change.leave catalog tree).ids.Nodup := by
  by_cases h : ∃ r, change.Revises catalog tree r
  · obtain ⟨r, hr⟩ := h
    rwa [hr.leave_eq hids, Group.ids_revise hr.id_condition]
  · rwa [leave_eq_self hids h]

theorem isSome_made?_leave (hids : tree.ids.Nodup) (haim : change.aim ≠ other.aim) :
    (change.made? catalog (other.leave catalog tree)).isSome
      = (change.made? catalog tree).isSome := by
  rw [Bool.eq_iff_iff, isSome_made?_iff hids, isSome_made?_iff (nodup_leave hids)]
  simp only [revises_leave_iff hids haim]

/-- Two changes of different nodes leave the same tree in either order. -/
theorem leave_comm (hids : tree.ids.Nodup) (haim : change.aim ≠ other.aim) :
    change.leave catalog (other.leave catalog tree)
      = other.leave catalog (change.leave catalog tree) := by
  have hnodup {change : Change} : (change.leave catalog tree).ids.Nodup := nodup_leave hids
  by_cases hchange : ∃ r, change.Revises catalog tree r
  · obtain ⟨r, hr⟩ := hchange
    have hafter := ((revises_leave_iff hids haim).2 hr).leave_eq hnodup
    by_cases hother : ∃ s, other.Revises catalog tree s
    · obtain ⟨s, hs⟩ := hother
      have hafter' := ((revises_leave_iff hids haim.symm).2 hs).leave_eq hnodup
      rw [hafter, hafter', hr.leave_eq hids, hs.leave_eq hids, hr.comm hids haim hs]
    · have hnone : ¬ ∃ s, other.Revises catalog (change.leave catalog tree) s := by
        simpa only [revises_leave_iff hids haim.symm] using hother
      rw [hafter, leave_eq_self hnodup hnone, leave_eq_self hids hother, hr.leave_eq hids]
  · have hnone : ¬ ∃ r, change.Revises catalog (other.leave catalog tree) r := by
      simpa only [revises_leave_iff hids haim] using hchange
    rw [leave_eq_self hnodup hnone, leave_eq_self hids hchange]

end Change

/-- **Changes of different nodes commute.**  In a tree whose identifiers are different, let two
changes be aimed at two groups, at two conditions, or at a group and a condition, wherever these
are.  Either change may be made after the other one just when it may be made before it, where a
change that may not be made leaves the tree as it is; and both orders lead to the same tree. -/
theorem changes_commute {tree : Group} (hids : tree.ids.Nodup) (catalog : Catalog)
    {first second : Change} (haim : first.aim ≠ second.aim) :
    (first.made? catalog (second.leave catalog tree)).isSome
        = (first.made? catalog tree).isSome ∧
      (second.made? catalog (first.leave catalog tree)).isSome
        = (second.made? catalog tree).isSome ∧
      second.leave catalog (first.leave catalog tree)
        = first.leave catalog (second.leave catalog tree) :=
  ⟨Change.isSome_made?_leave hids haim, Change.isSome_made?_leave hids haim.symm,
    Change.leave_comm hids haim.symm⟩

/-- The rules on travellers with the group of the countries combined in the other way, and the
condition in it on another country. -/
def relocatedRules : Group where
  id := "root"
  logic := .and
  children :=
    [.condition ⟨"c1", "status", .equals, .text "Active"⟩,
     .group "g1" .and
      [.group "g2" .and [.condition ⟨"c2", "country", .equals, .text "Fiji"⟩],
       .condition ⟨"c3", "country", .equals, .text "Chad"⟩]]

/-- A group is changed and a condition in it too, in either order.  The state of an account is not
to be compared by size, whatever happens to the group. -/
theorem travelRules_changes_commute :
    let joining : Change := .setLogic "g1" .and
    let moving : Change := .update "g1" "c3" { value := some (.text "Chad") }
    let sizing : Change := .update "root" "c1" { operator := some .greaterThan }
    travelRules.ids.Nodup ∧ joining.aim ≠ moving.aim ∧ joining.aim ≠ sizing.aim ∧
      moving.leave .customers (joining.leave .customers travelRules) = relocatedRules ∧
      joining.leave .customers (moving.leave .customers travelRules) = relocatedRules ∧
      (sizing.made? .customers (joining.leave .customers travelRules)).isSome = false := by
  intro joining moving sizing
  have hids : travelRules.ids.Nodup := by decide +kernel
  have hmoving : joining.aim ≠ moving.aim := by decide
  have hsizing : joining.aim ≠ sizing.aim := by decide
  obtain ⟨-, -, hcommute⟩ := changes_commute hids .customers hmoving
  obtain ⟨-, hrefused, -⟩ := changes_commute hids .customers hsizing
  have hleft : moving.leave .customers (joining.leave .customers travelRules) = relocatedRules := by
    decide +kernel
  have hnone : (sizing.made? .customers travelRules).isSome = false := by decide +kernel
  exact ⟨hids, hmoving, hsizing, hleft, hcommute.symm.trans hleft, hrefused.trans hnone⟩

end Authoring

end Audience
