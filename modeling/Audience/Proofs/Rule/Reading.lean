import Audience.Proofs.Json.Proper
import Audience.Rule.Codec
import Mathlib.Data.List.Forall2

/-!
**What the readers of rule trees accept**.

A reader goes through the parts of a value in an order of its own and stops at the first one that
is wrong.  What it accepts can be told without that order: every part is accepted, and the result
has the parts.

Main results:

* `Node.childrenOf_eq`, `Node.childrenAt_eq` — where the children of a group are looked for;
* `Node.allOfJson_eq_ok` — a list of nodes is read node by node;
* `Group.ofJson_object_eq_ok`, `Group.ofJson_array_eq_ok` — the objects and the lists that are
  read as groups;
* `Condition.ofJson_object_eq_ok`, `Condition.ofJson_array_eq_ok` — and those that are conditions;
* `Condition.value_of_writtenValue?` — a condition compares with what it is written with;
* `Node.ofJson_eq_ok` — a node is a group, or a condition that is no group.
-/

set_option relaxedAutoImplicit false
set_option autoImplicit false

namespace Audience

/-! ### Reading in steps -/

theorem Decoded.bind_eq_ok {α β : Type} {first : Decoded α} {next : α → Decoded β} {b : β} :
    (first >>= next) = .ok b ↔ ∃ a, first = .ok a ∧ next a = .ok b := by
  cases first with
  | error e => simp [bind, Except.bind]
  | ok a => simp [bind, Except.bind]

namespace Json

theorem required_eq_ok {α : Type} {name : String} {found : Option α} {value : α} :
    required name found = .ok value ↔ found = some value := by
  cases found with
  | none => simp [required]
  | some other => simp [required]

theorem atMost_eq_ok {items : List Json} {count : Nat} {done : Unit} :
    atMost count items = .ok done ↔ items.length ≤ count := by
  unfold atMost
  split
  · simp; omega
  · simp; omega

end Json

/-! ### Nodes -/

namespace Node

/-- The children of an object are listed under their key, which may be missing. -/
theorem childrenOf_eq (members : Members) :
    childrenOf members
      = match members.find? "children" with
        | some json => listOfJson json
        | none => .ok [] := by
  induction members with
  | nil => rfl
  | cons entry members ih =>
      obtain ⟨key, value⟩ := entry
      rw [childrenOf, Members.find?]
      split
      · rfl
      · exact ih

/-- The children in a list of fields are listed at their place, which may be missing. -/
theorem childrenAt_eq (place : Nat) (items : List Json) :
    childrenAt place items
      = match items[place]? with
        | some json => listOfJson json
        | none => .ok [] := by
  induction items generalizing place with
  | nil => rw [childrenAt]; rfl
  | cons item items ih =>
      cases place with
      | zero => rfl
      | succ place => exact ih place

theorem listOfJson_eq_ok {json : Json} {nodes : List Node} :
    listOfJson json = .ok nodes ↔ ∃ items, json = .array items ∧ allOfJson items = .ok nodes := by
  cases json <;> simp [listOfJson]

/-- A list of nodes is read node by node. -/
theorem allOfJson_eq_ok {items : List Json} {nodes : List Node} :
    allOfJson items = .ok nodes ↔
      List.Forall₂ (fun item node => Node.ofJson item = .ok node) items nodes := by
  induction items generalizing nodes with
  | nil => simp [allOfJson, eq_comm]
  | cons item items ih =>
      simp only [allOfJson, Decoded.bind_eq_ok]
      constructor
      · rintro ⟨node, hnode, rest, hrest, h⟩
        obtain rfl := Except.ok.inj h
        exact .cons hnode (ih.1 hrest)
      · rintro ⟨⟩
        next node rest hnode hrest => exact ⟨node, hnode, rest, ih.2 hrest, rfl⟩

theorem exists_mem_of_allOfJson {items : List Json} {nodes : List Node} {node : Node}
    (h : allOfJson items = .ok nodes) (hnode : node ∈ nodes) :
    ∃ item ∈ items, Node.ofJson item = .ok node := by
  induction allOfJson_eq_ok.1 h with
  | nil => exact absurd hnode List.not_mem_nil
  | @cons item first items rest hfirst hrest ih =>
      rcases List.mem_cons.1 hnode with rfl | hmem
      · exact ⟨item, List.mem_cons_self, hfirst⟩
      · obtain ⟨item, hitem, hread⟩ := ih (allOfJson_eq_ok.2 hrest) hmem
        exact ⟨item, List.mem_cons_of_mem _ hitem, hread⟩

/-- A node is **a group, or else a condition**. -/
theorem ofJson_eq_ok {json : Json} {node : Node} :
    Node.ofJson json = .ok node ↔
      (∃ g, Group.ofJson json = .ok g ∧ node = g.node) ∨
        ∃ e c, Group.ofJson json = .error e ∧ Condition.ofJson json = .ok c ∧
          node = .condition c := by
  unfold Node.ofJson orCondition
  cases Group.ofJson json with
  | ok g => simp [eq_comm]
  | error e => cases Condition.ofJson json <;> simp [eq_comm]

end Node

/-! ### Groups -/

namespace Group

variable {g : Group}

/-- An object is a group if it has the tag, an identifier, a logic and children that are
nodes. -/
theorem ofJson_object_eq_ok {members : Members} :
    ofJson (.object members) = .ok g ↔
      Node.childrenOf members = .ok g.children ∧
      Json.member? members "id" Json.asString = .ok (some g.id) ∧
      Json.member? members "logic" Logic.ofJson = .ok (some g.logic) ∧
      Json.member? members "type" tagOfJson = .ok (some ()) := by
  obtain ⟨id, logic, children⟩ := g
  simp only [ofJson, Decoded.bind_eq_ok, Json.required_eq_ok]
  constructor
  · rintro ⟨_, hchildren, _, hid, _, hlogic, _, htag, _, rfl, _, rfl, _, rfl, h⟩
    obtain ⟨rfl, rfl, rfl⟩ := Group.mk.inj (Except.ok.inj h)
    exact ⟨hchildren, hid, hlogic, htag⟩
  · rintro ⟨hchildren, hid, hlogic, htag⟩
    exact ⟨_, hchildren, _, hid, _, hlogic, _, htag, _, rfl, _, rfl, _, rfl, rfl⟩

/-- A list is a group if it has an identifier, the tag, a logic and children that are nodes, in
this order and no more. -/
theorem ofJson_array_eq_ok {items : List Json} :
    ofJson (.array items) = .ok g ↔
      Json.element items 0 listForm Json.asString = .ok g.id ∧
      Json.element items 1 listForm tagOfJson = .ok () ∧
      Json.element items 2 listForm Logic.ofJson = .ok g.logic ∧
      Node.childrenAt 3 items = .ok g.children ∧ items.length ≤ 4 := by
  obtain ⟨id, logic, children⟩ := g
  simp only [ofJson, Decoded.bind_eq_ok, Json.atMost_eq_ok]
  constructor
  · rintro ⟨_, hid, _, htag, _, hlogic, _, hchildren, _, hlength, h⟩
    obtain ⟨rfl, rfl, rfl⟩ := Group.mk.inj (Except.ok.inj h)
    exact ⟨hid, htag, hlogic, hchildren, hlength⟩
  · rintro ⟨hid, htag, hlogic, hchildren, hlength⟩
    exact ⟨_, hid, (), htag, _, hlogic, _, hchildren, (), hlength, rfl⟩

theorem object_or_array_of_ofJson {json : Json} (h : ofJson json = .ok g) :
    (∃ members, json = .object members) ∨ ∃ items, json = .array items := by
  cases json with
  | object members => exact .inl ⟨members, rfl⟩
  | array items => exact .inr ⟨items, rfl⟩
  | _ => simp [ofJson] at h

end Group

/-! ### Conditions -/

namespace Condition

variable {c : Condition}

/-- An object is a condition if it has a field, an identifier and an operator; its value is the
empty text if it has none. -/
theorem ofJson_object_eq_ok {members : Members} :
    ofJson (.object members) = .ok c ↔
      Json.member? members "field" Json.asString = .ok (some c.field) ∧
      Json.member? members "id" Json.asString = .ok (some c.id) ∧
      (∃ operator, Json.member? members "operator" Json.asString = .ok (some operator) ∧
        c.operator = .ofIdentifier operator) ∧
      c.value = ((members.find? "value").map Operand.ofJson).getD .empty := by
  obtain ⟨id, field, operator, value⟩ := c
  simp only [ofJson, Decoded.bind_eq_ok, Json.required_eq_ok]
  constructor
  · rintro ⟨_, hfield, _, hid, _, hoperator, _, rfl, _, rfl, text, rfl, h⟩
    obtain ⟨rfl, rfl, rfl, rfl⟩ := Condition.mk.inj (Except.ok.inj h)
    exact ⟨hfield, hid, ⟨text, hoperator, rfl⟩, rfl⟩
  · rintro ⟨hfield, hid, ⟨text, hoperator, rfl⟩, rfl⟩
    exact ⟨_, hfield, _, hid, _, hoperator, _, rfl, _, rfl, text, rfl, rfl⟩

/-- A list is a condition if it has an identifier, a field and an operator, in this order, and
then a value at most. -/
theorem ofJson_array_eq_ok {items : List Json} :
    ofJson (.array items) = .ok c ↔
      Json.element items 0 listForm Json.asString = .ok c.id ∧
      Json.element items 1 listForm Json.asString = .ok c.field ∧
      (∃ operator, Json.element items 2 listForm Json.asString = .ok operator ∧
        c.operator = .ofIdentifier operator) ∧
      c.value = (items[3]?.map Operand.ofJson).getD .empty ∧ items.length ≤ 4 := by
  obtain ⟨id, field, operator, value⟩ := c
  simp only [ofJson, Decoded.bind_eq_ok, Json.atMost_eq_ok]
  constructor
  · rintro ⟨_, hid, _, hfield, text, hoperator, _, hlength, h⟩
    obtain ⟨rfl, rfl, rfl, rfl⟩ := Condition.mk.inj (Except.ok.inj h)
    exact ⟨hid, hfield, ⟨text, hoperator, rfl⟩, rfl, hlength⟩
  · rintro ⟨hid, hfield, ⟨text, hoperator, rfl⟩, rfl, hlength⟩
    exact ⟨_, hid, _, hfield, text, hoperator, (), hlength, rfl⟩

theorem object_or_array_of_ofJson {json : Json} (h : ofJson json = .ok c) :
    (∃ members, json = .object members) ∨ ∃ items, json = .array items := by
  cases json with
  | object members => exact .inl ⟨members, rfl⟩
  | array items => exact .inr ⟨items, rfl⟩
  | _ => simp [ofJson] at h

/-- The value that a condition is written with, if there is one. -/
def writtenValue? : Json → Option Json
  | .object members => Members.find? "value" members
  | .array items => items[3]?
  | _ => none

/-- A condition compares with what it is written with. -/
theorem value_of_writtenValue? {json value : Json} (h : ofJson json = .ok c)
    (hvalue : writtenValue? json = some value) : c.value = Operand.ofJson value := by
  rcases object_or_array_of_ofJson h with ⟨members, rfl⟩ | ⟨items, rfl⟩
  · obtain ⟨-, -, -, hc⟩ := ofJson_object_eq_ok.1 h
    rw [hc, show Members.find? "value" members = some value from hvalue]
    rfl
  · obtain ⟨-, -, -, hc, -⟩ := ofJson_array_eq_ok.1 h
    rw [hc, show items[3]? = some value from hvalue]
    rfl

end Condition

end Audience
