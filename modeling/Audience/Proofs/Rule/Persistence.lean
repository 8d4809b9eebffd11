import Audience.Proofs.Rule.Reading
import Audience.Proofs.Rule.Tree

/-!
**Storing rule trees loses nothing**.

A tree is stored in JSON and read again.  Every child is tried as a group first and taken for a
condition if it is none, so two things have to be kept apart: a condition that has been written
has no tag and is never taken for a group, and a group that has been written is read as a group,
since everything below it is read again.  What comes back is the tree with the operators and the
values of its conditions as they are read from what was written of them.

Most operators and values come back as they were.  Those that do not, such as a number that is not
finite, are never read from a text; so a tree that has been read can be stored as often as one
likes.

Main definitions:

* `Operator.isStorable`, `Operand.isStorable`, `Condition.isStorable` — what comes back as it was;
* `Group.IsStorable` — a tree all of whose conditions do;
* `Condition.stored`, `Group.stored` — what comes back of any condition and of any tree.

Main results:

* `Operator.ofIdentifier_identifier_iff`, `Operand.ofJson_toJson_iff` — the storable operators and
  values are those that come back as they were;
* `Group.ofJson_condition` — a condition that has been written is never taken for a group;
* `Group.ofJson_toJson` — what comes back of any tree;
* `Group.isStorable_of_ofJson` — a tree that has been read is storable;
* `stored_tree_reads_back` — **every tree that has been read is storable, and every storable tree
  comes back as it was**.
-/

set_option relaxedAutoImplicit false
set_option autoImplicit false

namespace Audience

/-! ### Operators and values -/

/-- Does the operator **come back as it was**?  It is a comparison, or its identifier is that of
none. -/
def Operator.isStorable : Operator → Bool
  | unknown identifier => comparisons.all fun op => op.identifier != identifier
  | _ => true

theorem Operator.ofIdentifier_identifier_iff (op : Operator) :
    ofIdentifier op.identifier = op ↔ op.isStorable = true := by
  cases op with
  | unknown identifier =>
      -- the identifier is kept just when it names no comparison
      rw [isStorable, List.all_eq_true, show (unknown identifier).identifier = identifier from rfl,
        ofIdentifier]
      cases h : comparisons.find? (·.identifier == identifier) with
      | none => simpa using List.find?_eq_none.1 h
      | some op =>
          have hop : op ∈ comparisons := List.mem_of_find?_eq_some h
          have hname : op.identifier = identifier := by simpa using List.find?_some h
          have hknown : ∀ op ∈ comparisons, op.isKnown = true := by decide
          constructor
          · rintro rfl
            exact absurd (hknown _ hop) nofun
          · intro hall
            exact absurd hname (by simpa using hall op hop)
  | _ => exact ⟨fun _ => rfl, fun _ => rfl⟩

theorem Operator.isStorable_ofIdentifier (identifier : String) :
    (ofIdentifier identifier).isStorable = true :=
  (ofIdentifier_identifier_iff _).1 (by rw [identifier_ofIdentifier])

/-- Does the value **come back as it was**?  It is a text, a finite number, a list, or a truth
value or an object kept as it is. -/
def Operand.isStorable : Operand → Bool
  | text _ | list _ | other (.bool _) | other (.object _) => true
  | number x => x.isFinite
  | other _ => false

theorem Operand.ofJson_toJson_iff (value : Operand) :
    ofJson value.toJson = value ↔ value.isStorable = true := by
  cases value with
  | text s => exact ⟨fun _ => rfl, fun _ => rfl⟩
  | number x =>
      simp only [toJson, Json.ofDouble, isStorable]
      cases x.isFinite <;> simp [ofJson, empty]
  | list items => exact ⟨fun _ => rfl, fun _ => rfl⟩
  | other json => cases json <;> simp [toJson, ofJson, isStorable, empty]

theorem Operand.isStorable_ofJson {json : Json} (h : json.isProper = true) :
    (ofJson json).isStorable = true := by
  cases json with
  | int n => exact Json.isFinite_ofInt_of_isWord (by simpa [Json.isProper] using h)
  | float x => exact (by simpa [Json.isProper] using h : x.isFinite = true)
  | _ => rfl

/-! ### Conditions -/

namespace Condition

/-- Does the condition **come back as it was**? -/
def isStorable (c : Condition) : Bool := c.operator.isStorable && c.value.isStorable

/-- What comes back of a condition: the operator and the value that are read from what is
written of them. -/
def stored (c : Condition) : Condition :=
  { c with operator := .ofIdentifier c.operator.identifier, value := .ofJson c.value.toJson }

theorem stored_eq_self (c : Condition) (h : c.isStorable = true) : c.stored = c := by
  obtain ⟨hop, hvalue⟩ := Bool.and_eq_true_iff.1 h
  rw [stored, (Operator.ofIdentifier_identifier_iff _).2 hop,
    (Operand.ofJson_toJson_iff _).2 hvalue]

theorem ofJson_toJson (c : Condition) : ofJson c.toJson = .ok c.stored := rfl

theorem isStorable_of_ofJson {json : Json} {c : Condition} (hjson : json.isProper = true)
    (h : ofJson json = .ok c) : c.isStorable = true := by
  -- in both forms the value is what is found for it, and empty if nothing is
  suffices ∃ operator found, c.operator = .ofIdentifier operator ∧
      c.value = (Option.map Operand.ofJson found).getD .empty ∧
      ∀ value, found = some value → value.isProper = true by
    obtain ⟨operator, found, hop, hvalue, hfound⟩ := this
    rw [isStorable, hop, hvalue, Operator.isStorable_ofIdentifier, Bool.true_and]
    cases found with
    | none => rfl
    | some value => exact Operand.isStorable_ofJson (hfound value rfl)
  rcases object_or_array_of_ofJson h with ⟨members, rfl⟩ | ⟨items, rfl⟩
  · obtain ⟨-, -, ⟨operator, -, hop⟩, hvalue⟩ := ofJson_object_eq_ok.1 h
    refine ⟨operator, _, hop, hvalue, ?_⟩
    intro value hfound
    exact Json.isProper_of_mem_parts hjson (Members.mem_parts_of_find? hfound)
  · obtain ⟨-, -, ⟨operator, -, hop⟩, hvalue, -⟩ := ofJson_array_eq_ok.1 h
    refine ⟨operator, _, hop, hvalue, ?_⟩
    intro value hfound
    exact Json.isProper_of_mem_parts hjson (List.mem_of_getElem? hfound)

end Condition

/-! ### Reading what has been written -/

/-- A condition that has been written is never taken for a group: it has no tag. -/
theorem Group.ofJson_condition (c : Condition) :
    Group.ofJson c.toJson = .error (.missingField "type") := rfl

theorem Node.toJsonAll_eq_map (nodes : List Node) : toJsonAll nodes = nodes.map toJson := by
  induction nodes with
  | nil => rfl
  | cons node nodes ih => rw [toJsonAll, ih, List.map_cons]

/-- What comes back of a tree: every condition as it comes back. -/
def Group.stored (g : Group) : Group := g.mapConditions Condition.stored

theorem Group.ofJson_toJson_of_children {g : Group}
    (h : ∀ child ∈ g.children,
      Node.ofJson child.toJson = .ok (child.mapConditions Condition.stored)) :
    Group.ofJson g.toJson = .ok g.stored := by
  refine Group.ofJson_object_eq_ok.2 ⟨?_, rfl, ?_, rfl⟩
  · rw [Node.childrenOf_eq]
    refine Node.listOfJson_eq_ok.2 ⟨_, rfl, Node.allOfJson_eq_ok.2 ?_⟩
    rw [Node.toJsonAll_eq_map, Group.stored, Group.mapConditions, Node.mapConditionsAll_eq_map,
      List.forall₂_map_left_iff, List.forall₂_map_right_iff, List.forall₂_same]
    exact h
  · obtain ⟨id, logic, children⟩ := g
    cases logic <;> rfl

theorem Node.ofJson_toJson (node : Node) :
    Node.ofJson node.toJson = .ok (node.mapConditions Condition.stored) := by
  induction node using Node.induction with
  | condition c =>
      have hnone := Group.ofJson_condition c
      exact Node.ofJson_eq_ok.2 (.inr ⟨_, c.stored, hnone, c.ofJson_toJson, rfl⟩)
  | group id logic children ih =>
      have hgroup := Group.ofJson_toJson_of_children (g := ⟨id, logic, children⟩) ih
      exact Node.ofJson_eq_ok.2 (.inl ⟨_, hgroup, rfl⟩)

/-- Any tree that has been written is read again, with what comes back of its conditions. -/
theorem Group.ofJson_toJson (g : Group) : Group.ofJson g.toJson = .ok g.stored := by
  refine Group.ofJson_toJson_of_children ?_
  intro child _
  exact child.ofJson_toJson

/-! ### What has been read -/

/-- Do all conditions at or below the node come back as they were? -/
def Node.IsStorable (node : Node) : Prop := ∀ c ∈ node.conditions, c.isStorable = true

/-- A tree is storable if all its conditions come back as they were. -/
def Group.IsStorable (g : Group) : Prop := ∀ c ∈ g.conditions, c.isStorable = true

instance (g : Group) : Decidable g.IsStorable := inferInstanceAs (Decidable (∀ c ∈ g.conditions, _))

theorem Group.stored_eq_self {g : Group} (h : g.IsStorable) : g.stored = g := by
  refine Group.mapConditions_eq_self ?_
  intro c hc
  exact c.stored_eq_self (h c hc)

theorem Group.IsStorable.of_children {g : Group} (h : ∀ child ∈ g.children, child.IsStorable) :
    g.IsStorable := by
  intro c hc
  obtain ⟨child, hm, hchild⟩ := Node.mem_conditions_group.1 hc
  exact h child hm c hchild

theorem Group.children_of_ofJson {json : Json} {g : Group} (h : Group.ofJson json = .ok g) :
    g.children = [] ∨ ∃ part ∈ json.parts, Node.listOfJson part = .ok g.children := by
  rcases Group.object_or_array_of_ofJson h with ⟨members, rfl⟩ | ⟨items, rfl⟩
  · have hchildren := (Group.ofJson_object_eq_ok.1 h).1
    rw [Node.childrenOf_eq] at hchildren
    split at hchildren
    · next part hfound => exact .inr ⟨part, Members.mem_parts_of_find? hfound, hchildren⟩
    · exact .inl (Except.ok.inj hchildren).symm
  · obtain ⟨-, -, -, hchildren, -⟩ := Group.ofJson_array_eq_ok.1 h
    rw [Node.childrenAt_eq] at hchildren
    split at hchildren
    · next part hfound => exact .inr ⟨part, List.mem_of_getElem? hfound, hchildren⟩
    · exact .inl (Except.ok.inj hchildren).symm

/-- A value that is read as a tree, or as a list of nodes, gives storable ones only. -/
theorem isStorable_of_read {json : Json} (hjson : json.isProper = true) :
    (∀ g, Group.ofJson json = .ok g → g.IsStorable) ∧
      ∀ nodes, Node.listOfJson json = .ok nodes → ∀ node ∈ nodes, node.IsStorable := by
  -- the children of a group are listed in a part of it, and nodes are parts of their list, so
  -- each half of the statement needs the other one for the parts
  induction json using Json.induction with
  | step json ih =>
      have hpart : ∀ part ∈ json.parts, part.isProper = true := by
        intro part hm
        exact Json.isProper_of_mem_parts hjson hm
      constructor
      · intro g hg
        refine Group.IsStorable.of_children ?_
        rcases Group.children_of_ofJson hg with hnone | ⟨part, hm, hlist⟩
        · rw [hnone]
          nofun
        · exact (ih part hm (hpart part hm)).2 _ hlist
      · intro nodes hnodes node hnode
        obtain ⟨items, rfl, hall⟩ := Node.listOfJson_eq_ok.1 hnodes
        obtain ⟨item, hm, hread⟩ := Node.exists_mem_of_allOfJson hall hnode
        rcases Node.ofJson_eq_ok.1 hread with ⟨g, hg, rfl⟩ | ⟨-, c, -, hc, rfl⟩
        · exact (ih item hm (hpart item hm)).1 g hg
        · intro c' hc'
          obtain rfl := List.mem_singleton.1 hc'
          exact Condition.isStorable_of_ofJson (hpart item hm) hc

theorem Group.isStorable_of_ofJson {json : Json} {g : Group} (hjson : json.isProper = true)
    (h : Group.ofJson json = .ok g) : g.IsStorable :=
  (isStorable_of_read hjson).1 g h

/-- **Storing a tree loses nothing**: every tree that has been read from a text is storable, and
every storable tree comes back as it was from what is written of it, and is written the same way
again. -/
theorem stored_tree_reads_back :
    (∀ (json : Json) (tree : Group), json.isProper = true → Group.ofJson json = .ok tree →
      tree.IsStorable) ∧
    ∀ tree : Group, tree.IsStorable →
      Group.ofJson tree.toJson = .ok tree ∧
      (Group.ofJson tree.toJson).map Group.toJson = .ok tree.toJson := by
  constructor
  · intro json tree hjson hread
    exact Group.isStorable_of_ofJson hjson hread
  · intro tree htree
    have hread : Group.ofJson tree.toJson = .ok tree := by
      rw [Group.ofJson_toJson, Group.stored_eq_self htree]
    exact ⟨hread, by rw [hread]; rfl⟩

/-- A tree as another program might write it: one child is a list of fields, one has an operator
that is not known, one is tagged as a group but has no logic, so that it is read as a condition,
and one is a group that leaves out its children. -/
def foreignRules : Json :=
  .object [("children", .array [
      .array [.string "c1", .string "age", .string "greater_than", .int 30],
      .object [("field", .string "name"), ("id", .string "c2"), ("operator", .string "similar_to"),
        ("value", .null)],
      .object [("children", .array []), ("field", .string "tags"), ("id", .string "c3"),
        ("operator", .string "between"), ("type", .string "group"),
        ("value", .array [.int 1, .null])],
      .object [("id", .string "g"), ("logic", .string "or"), ("type", .string "group")]]),
    ("id", .string "root"), ("logic", .string "AND"), ("type", .string "group")]

/-- The tree that is read from it. -/
def foreignTree : Group :=
  ⟨"root", .and,
    [.condition ⟨"c1", "age", .greaterThan, .number (Double.ofInt 30)⟩,
      .condition ⟨"c2", "name", .unknown "similar_to", .text ""⟩,
      .condition ⟨"c3", "tags", .between, .list [.int 1, .null]⟩,
      .group "g" .or []]⟩

theorem foreignTree_reads_back :
    Group.ofJson foreignRules = .ok foreignTree ∧ foreignTree.IsStorable ∧
      Group.ofJson foreignTree.toJson = .ok foreignTree := by
  have hread : Group.ofJson foreignRules = .ok foreignTree := rfl
  have hstorable : foreignTree.IsStorable :=
    stored_tree_reads_back.1 foreignRules foreignTree (by decide +kernel) hread
  exact ⟨hread, hstorable, (stored_tree_reads_back.2 foreignTree hstorable).1⟩

end Audience
