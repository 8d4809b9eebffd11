import Audience.Proofs.Rule.Places
import Audience.Proofs.Rule.Reading
import Audience.Proofs.Rule.Tree

/-!
**Reading mirrors what is written**, but for groups that pass for conditions.

The children of a tagged value are to become the children of a group.  A child is tried as a group
first; if anything in it is wrong, at whatever depth, it is tried as a condition, and a condition may
have any other members.  So a value that is tagged, or that lists children, can still be taken for a
condition if it has the fields of one, and then everything below it is lost.  This is the only way
in which a tree that has been read differs from what was written.

Main definitions:

* `Json.listed`, `Json.isTagged` — the children that a value lists, and the tag of a group;
* `Mirrors` — a tree has **a node for every value** that is reached through lists of children, and
  a group for every tagged one.

Main results:

* `Group.forall₂_listed` — the children of a group that has been read are those that are listed;
* `Node.exists_at?` — every node of a tree has been read from the value at its place;
* `mirrors_of_untaken` — a tree mirrors the value if nothing that matters is taken for a condition;
* `tagged_groups_are_kept` — when a tree mirrors the value that it has been read from;
* `misreadRules_lose_group` — a tree that does not.
-/

set_option relaxedAutoImplicit false
set_option autoImplicit false

namespace Audience

/-! ### What is written -/

namespace Json

/-- The items of a list, if there is one. -/
def itemsOf : Option Json → List Json
  | some (array items) => items
  | _ => []

/-- The values that a value lists as children: an object under their key, and a list of fields
after its tag. -/
def listed : Json → List Json
  | object members => itemsOf (Members.find? "children" members)
  | array fields =>
    match fields[1]?.map Group.tagOfJson with
    | some (.ok ()) => itemsOf fields[3]?
    | _ => []
  | _ => []

/-- Is the value an object tagged as a group? -/
def isTagged : Json → Bool
  | object members => Members.find? "type" members == some (string Group.tag)
  | _ => false

/-- The value at the end of a way through lists of children. -/
def at? (path : List Nat) (json : Json) : Option Json := follow? listed path json

end Json

/-- A tree **mirrors** a value: there is a node just where the value or one below it lists one, and
where the value is tagged it is a group with as many children as are listed. -/
structure Mirrors (json : Json) (node : Node) : Prop where
  /-- Nothing is dropped and nothing is added. -/
  places : ∀ path, (node.at? path).isSome = (json.at? path).isSome
  /-- Tagged values are groups. -/
  groups : ∀ path part, json.at? path = some part → part.isTagged = true →
    ∃ g : Group, node.at? path = some g.node ∧ g.children.length = part.listed.length

/-! ### What is read -/

variable {json : Json}

theorem Node.forall₂_itemsOf {value : Option Json} {nodes : List Node}
    (h : (match value with
      | some json => listOfJson json
      | none => .ok []) = .ok nodes) :
    List.Forall₂ (fun item node => Node.ofJson item = .ok node) (Json.itemsOf value) nodes := by
  cases value with
  | none =>
      rw [← Except.ok.inj h]
      exact .nil
  | some json =>
      obtain ⟨items, rfl, hitems⟩ := listOfJson_eq_ok.1 h
      exact allOfJson_eq_ok.1 hitems

/-- The children of a group that has been read are those that are listed. -/
theorem Group.forall₂_listed {g : Group} (h : Group.ofJson json = .ok g) :
    List.Forall₂ (fun item node => Node.ofJson item = .ok node) json.listed g.children := by
  rcases Group.object_or_array_of_ofJson h with ⟨members, rfl⟩ | ⟨fields, rfl⟩
  · obtain ⟨hchildren, -, -, -⟩ := Group.ofJson_object_eq_ok.1 h
    rw [Node.childrenOf_eq] at hchildren
    exact Node.forall₂_itemsOf hchildren
  · obtain ⟨-, htag, -, hchildren, -⟩ := Group.ofJson_array_eq_ok.1 h
    have hsecond : fields[1]?.map Group.tagOfJson = some (.ok ()) := by
      rw [Json.element] at htag
      split at htag
      · next tag hfound => rw [hfound, Option.map_some, htag]
      · cases htag
    rw [Node.childrenAt_eq] at hchildren
    rw [Json.listed, hsecond]
    exact Node.forall₂_itemsOf hchildren

theorem Node.ofJson_of_group {g : Group} (h : Group.ofJson json = .ok g) :
    Node.ofJson json = .ok g.node :=
  Node.ofJson_eq_ok.2 (.inl ⟨g, h, rfl⟩)

theorem Node.ofJson_cases {node : Node} (h : Node.ofJson json = .ok node) :
    (∃ g : Group, node = g.node ∧
        List.Forall₂ (fun item node => Node.ofJson item = .ok node) json.listed g.children) ∨
      ∃ c, node = .condition c ∧ Condition.ofJson json = .ok c := by
  rcases Node.ofJson_eq_ok.1 h with ⟨g, hg, rfl⟩ | ⟨_, c, -, hc, rfl⟩
  · exact .inl ⟨g, rfl, Group.forall₂_listed hg⟩
  · exact .inr ⟨c, rfl, hc⟩

/-- Every node of a tree has been read from the value at its place. -/
theorem Node.exists_at? {node last : Node} {path : List Nat} (h : Node.ofJson json = .ok node)
    (hlast : node.at? path = some last) :
    ∃ part, json.at? path = some part ∧ Node.ofJson part = .ok last := by
  refine exists_follow? (R := fun json node => Node.ofJson json = .ok node) ?_ h hlast
  intro json node h place child hchild
  rcases Node.ofJson_cases h with ⟨g, rfl, hlisted⟩ | ⟨c, rfl, -⟩
  · have hrel := rel_getElem? hlisted place
    rw [show g.children[place]? = some child from hchild] at hrel
    generalize json.listed[place]? = item at hrel
    cases hrel with
    | some hitem => exact ⟨_, rfl, hitem⟩
  · cases hchild

/-- A tree mirrors the value that it has been read from if nothing that is tagged or lists
children is taken for a condition. -/
theorem mirrors_of_untaken {node : Node} (h : Node.ofJson json = .ok node)
    (huntaken : ∀ path part, json.at? path = some part → ∀ c, Node.ofJson part = .ok (.condition c) →
      part.isTagged = false ∧ part.listed = []) : Mirrors json node := by
  -- what is read from the value at the end of a way is the node at the end of it
  have hrel : ∀ path, Option.Rel
      (fun part last => Node.ofJson part = .ok last ∧
        ∀ rest below, part.at? rest = some below → ∀ c, Node.ofJson below = .ok (.condition c) →
          below.isTagged = false ∧ below.listed = [])
      (json.at? path) (node.at? path) := by
    refine rel_follow? ?_ ⟨h, huntaken⟩
    rintro part last ⟨hpart, hbelow⟩
    obtain ⟨hself, hchildren⟩ := forall_follow?_iff.1 hbelow
    rcases Node.ofJson_cases hpart with ⟨g, rfl, hlisted⟩ | ⟨c, rfl, -⟩
    · exact forall₂_of_forall_mem hlisted fun item hitem child hchild =>
        ⟨hchild, hchildren item hitem⟩
    · rw [(hself c hpart).2]
      exact .nil
  constructor
  · intro path
    have hpath := hrel path
    generalize json.at? path = part at hpath ⊢
    generalize node.at? path = last at hpath ⊢
    cases hpath <;> rfl
  · intro path part hpart htagged
    have hpath := hrel path
    rw [hpart] at hpath
    generalize hlast : node.at? path = last at hpath ⊢
    cases hpath with
    | @some _ last hread =>
        rcases Node.ofJson_cases hread.1 with ⟨g, rfl, hlisted⟩ | ⟨c, rfl, -⟩
        · exact ⟨g, rfl, hlisted.length_eq.symm⟩
        · rw [(hread.2 [] part rfl c hread.1).1] at htagged
          cases htagged

/-- Nothing that is tagged or lists children is taken for a condition in a value that is
mirrored. -/
theorem Mirrors.untaken {node : Node} (hmirrors : Mirrors json node)
    (h : Node.ofJson json = .ok node) {path : List Nat} {part : Json} {c : Condition}
    (hpart : json.at? path = some part) (hc : Node.ofJson part = .ok (.condition c)) :
    part.isTagged = false ∧ part.listed = [] := by
  have hsome : (node.at? path).isSome = true := by
    rw [hmirrors.places, hpart]
    rfl
  obtain ⟨last, hlast⟩ := Option.isSome_iff_exists.1 hsome
  obtain ⟨found, hfound, hread⟩ := Node.exists_at? h hlast
  obtain rfl := Option.some.inj (hpart.symm.trans hfound)
  obtain rfl := Except.ok.inj (hc.symm.trans hread)
  constructor
  · rw [Bool.eq_false_iff]
    intro htagged
    obtain ⟨g, hg, -⟩ := hmirrors.groups path part hpart htagged
    cases hlast.symm.trans hg
  · rw [List.eq_nil_iff_forall_not_mem]
    intro item hitem
    -- a way to the item would lead on from the condition
    obtain ⟨place, hplace⟩ := List.mem_iff_getElem?.1 hitem
    have hway := hmirrors.places (path ++ [place])
    rw [Node.at?, follow?_append, Json.at?, follow?_append, show follow? _ path node = _ from hlast,
      show follow? _ path json = _ from hpart] at hway
    simp [follow?, hplace, Node.children] at hway

/-- **Tagged groups are kept, unless they pass for conditions**: every node of a tree has been read
from the value at its place; and the tree mirrors the whole value just when every value in it that
is tagged or lists children, if it has the fields of a condition, can be read as a group all the
same. -/
theorem tagged_groups_are_kept {tree : Group} (h : Group.ofJson json = .ok tree) :
    (∀ path node, tree.node.at? path = some node →
      ∃ part, json.at? path = some part ∧ Node.ofJson part = .ok node) ∧
    (Mirrors json tree.node ↔
      ∀ path part, json.at? path = some part → part.isTagged = true ∨ part.listed ≠ [] →
        ∀ c, Condition.ofJson part = .ok c → ∃ g, Group.ofJson part = .ok g) := by
  have hread := Node.ofJson_of_group h
  refine ⟨fun path node hnode => Node.exists_at? hread hnode, ?_, ?_⟩
  · intro hmirrors path part hpart hmatters c hc
    cases hgroup : Group.ofJson part with
    | ok g => exact ⟨g, rfl⟩
    | error e =>
        have htaken := Node.ofJson_eq_ok.2 (.inr ⟨e, c, hgroup, hc, rfl⟩)
        obtain ⟨htagged, hlisted⟩ := hmirrors.untaken hread hpart htaken
        simp [htagged, hlisted] at hmatters
  · intro hgroups
    refine mirrors_of_untaken hread ?_
    intro path part hpart c htaken
    rcases Node.ofJson_eq_ok.1 htaken with ⟨g, -, hg⟩ | ⟨e, _, herror, hc, -⟩
    · cases hg
    · have hneither : ¬ (part.isTagged = true ∨ part.listed ≠ []) := by
        intro hmatters
        obtain ⟨g, hg⟩ := hgroups path part hpart hmatters _ hc
        cases hg.symm.trans herror
      rwa [not_or, Bool.not_eq_true, not_not] at hneither

/-- A condition on the age of a customer, as it is written. -/
def writtenAge (id : String) : Json :=
  .object [("field", .string "age"), ("id", .string id), ("operator", .string "greater_than"),
    ("value", .string "30")]

/-- A group in a group, and a group that is a list of its fields. -/
def keptRules : Json :=
  .object [("children", .array [
      .object [("children", .array [writtenAge "c1"]), ("id", .string "g1"),
        ("logic", .string "OR"), ("type", .string "group")],
      .array [.string "g2", .string "group", .string "and", .array [writtenAge "c2"]]]),
    ("id", .string "root"), ("logic", .string "AND"), ("type", .string "group")]

/-- The tree that is read from it. -/
def keptTree : Group :=
  ⟨"root", .and,
    [.group "g1" .or [.condition ⟨"c1", "age", .greaterThan, .text "30"⟩],
      .group "g2" .and [.condition ⟨"c2", "age", .greaterThan, .text "30"⟩]]⟩

theorem keptRules_are_mirrored :
    Group.ofJson keptRules = .ok keptTree ∧ Mirrors keptRules keptTree.node := by
  have hread : Group.ofJson keptRules = .ok keptTree := rfl
  refine ⟨hread, (tagged_groups_are_kept hread).2.2 ?_⟩
  -- a written condition has no tag and lists nothing
  have hleaf : ∀ id path part, (writtenAge id).at? path = some part →
      part.isTagged = true ∨ part.listed ≠ [] →
        ∀ c, Condition.ofJson part = .ok c → ∃ g, Group.ofJson part = .ok g := by
    intro id
    refine forall_follow?_iff.2 ⟨?_, nofun⟩
    rintro (htagged | hlisted)
    · cases htagged
    · exact absurd rfl hlisted
  refine forall_follow?_iff.2 ⟨nofun, List.forall_mem_cons.2 ⟨?_, List.forall_mem_singleton.2 ?_⟩⟩
  · exact forall_follow?_iff.2 ⟨nofun, List.forall_mem_singleton.2 (hleaf "c1")⟩
  -- the list of fields passes for a condition on the field `group`, but is read as a group
  · exact forall_follow?_iff.2 ⟨fun _ _ _ => ⟨_, rfl⟩, List.forall_mem_singleton.2 (hleaf "c2")⟩

/-- A group that has the fields of a condition as well, and a child without any. -/
def misreadRules : Json :=
  .object [("children", .array [
      .object [("children", .array [writtenAge "c1", .object [("id", .string "c2")]]),
        ("field", .string "status"), ("id", .string "g1"), ("logic", .string "AND"),
        ("operator", .string "equals"), ("type", .string "group"), ("value", .string "Active")]]),
    ("id", .string "root"), ("logic", .string "AND"), ("type", .string "group")]

/-- The tree that is read from it: the group has become a condition, and its children are
lost. -/
def misreadTree : Group := ⟨"root", .and, [.condition ⟨"g1", "status", .equals, .text "Active"⟩]⟩

theorem misreadRules_lose_group :
    Group.ofJson misreadRules = .ok misreadTree ∧ ¬ Mirrors misreadRules misreadTree.node := by
  refine ⟨rfl, fun hmirrors => ?_⟩
  obtain ⟨g, hg, -⟩ := hmirrors.groups [0] _ rfl rfl
  cases hg

end Audience
