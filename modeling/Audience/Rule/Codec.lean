import Audience.Json.Shape
import Audience.Rule.Basic

/-!
**Rule trees in JSON**.

A group is an object with the type `group`, a condition one without a type.  A node that is to be
read is taken as a group if it can be, and else as a condition; so a group with something wrong in
it is a condition if it has the fields of one.  Both may also be lists of their fields.

Main definitions:

* `Group.toJson`, `Group.ofJson` — a tree in JSON, and the tree that a value is;
* `Node.toJson`, `Node.ofJson` — the same for a node;
* `Condition.toJson`, `Condition.ofJson` — the same for a condition.
-/

set_option relaxedAutoImplicit false
set_option autoImplicit false

namespace Audience

/-! ### Writing -/

/-- The name of a logic. -/
def Logic.name : Logic → String
  | .and => "AND"
  | .or => "OR"

/-- A logic in JSON. -/
def Logic.toJson (logic : Logic) : Json := .string logic.name

/-- The tag that tells a group from a condition. -/
def Group.tag : String := "group"

/-- A condition in JSON. -/
def Condition.toJson (c : Condition) : Json :=
  .object [("field", .string c.field), ("id", .string c.id),
    ("operator", .string c.operator.identifier), ("value", c.value.toJson)]

mutual

/-- A **node in JSON**. -/
def Node.toJson : Node → Json
  | .condition c => c.toJson
  | .group id logic children =>
    .object [("children", .array (Node.toJsonAll children)), ("id", .string id),
      ("logic", logic.toJson), ("type", .string Group.tag)]

/-- A list of nodes in JSON. -/
def Node.toJsonAll : List Node → List Json
  | [] => []
  | node :: nodes => node.toJson :: Node.toJsonAll nodes

end

/-- A **tree in JSON**. -/
def Group.toJson (g : Group) : Json := g.node.toJson

/-! ### Reading -/

/-- The logics by the names that are understood. -/
def Logic.cases : List (String × Logic) := [("AND", .and), ("and", .and), ("OR", .or), ("or", .or)]

/-- A logic read from JSON. -/
def Logic.ofJson (json : Json) : Decoded Logic := json.asCase Logic.cases

/-- The tag of a group. -/
def Group.tagOfJson (json : Json) : Decoded Unit := json.asCase [(Group.tag, ())]

/-- The description of the list form of a condition. -/
def Condition.listForm : String := "a condition of four fields"

/-- A **condition read from JSON**. -/
def Condition.ofJson : Json → Decoded Condition
  | .object members => do
    let field ← Json.member? members "field" Json.asString
    let id ← Json.member? members "id" Json.asString
    let operator ← Json.member? members "operator" Json.asString
    let value := ((Members.find? "value" members).map Operand.ofJson).getD .empty
    let id ← Json.required "id" id
    let field ← Json.required "field" field
    let operator ← Json.required "operator" operator
    return ⟨id, field, .ofIdentifier operator, value⟩
  | .array items => do
    let id ← Json.element items 0 listForm Json.asString
    let field ← Json.element items 1 listForm Json.asString
    let operator ← Json.element items 2 listForm Json.asString
    let value := (items[3]?.map Operand.ofJson).getD .empty
    Json.atMost 4 items
    return ⟨id, field, .ofIdentifier operator, value⟩
  | other => .error (.wrongKind other "a condition")

/-- The description of the list form of a group. -/
def Group.listForm : String := "struct RawGroup with 4 elements"

/-- The node that a value is: the group that it has been read as, or else the condition that it can
be read as. -/
def Node.orCondition (json : Json) : Decoded Group → Decoded Node
  | .ok g => .ok g.node
  | .error _ =>
    match Condition.ofJson json with
    | .ok c => .ok (.condition c)
    | .error _ => .error (.noAlternative "RuleNode")

mutual

/-- A **tree read from JSON**: the group that a value is. -/
def Group.ofJson : Json → Decoded Group
  | .object members => do
    let children ← Node.childrenOf members
    let id ← Json.member? members "id" Json.asString
    let logic ← Json.member? members "logic" Logic.ofJson
    let tag ← Json.member? members "type" Group.tagOfJson
    let id ← Json.required "id" id
    Json.required "type" tag
    let logic ← Json.required "logic" logic
    return ⟨id, logic, children⟩
  | .array items => do
    let id ← Json.element items 0 Group.listForm Json.asString
    Json.element items 1 Group.listForm Group.tagOfJson
    let logic ← Json.element items 2 Group.listForm Logic.ofJson
    let children ← Node.childrenAt 3 items
    Json.atMost 4 items
    return ⟨id, logic, children⟩
  | other => .error (.wrongKind other "struct RawGroup")

/-- The nodes that a value lists. -/
def Node.listOfJson : Json → Decoded (List Node)
  | .array items => Node.allOfJson items
  | other => .error (.wrongKind other "a sequence")

/-- The nodes that the values of a list are. -/
def Node.allOfJson : List Json → Decoded (List Node)
  | [] => .ok []
  | item :: items => do
    let node ← Node.orCondition item (Group.ofJson item)
    let nodes ← Node.allOfJson items
    return node :: nodes

/-- The children that an object lists; it may leave them out. -/
def Node.childrenOf : List (String × Json) → Decoded (List Node)
  | [] => .ok []
  | (key, value) :: members =>
    if key = "children" then Node.listOfJson value else Node.childrenOf members

/-- The children listed at a place of a list of fields, which may end before it. -/
def Node.childrenAt : Nat → List Json → Decoded (List Node)
  | _, [] => .ok []
  | 0, item :: _ => Node.listOfJson item
  | place + 1, _ :: items => Node.childrenAt place items

end

/-- The **node that a value is**: a group if it can be read as one, else a condition. -/
def Node.ofJson (json : Json) : Decoded Node := Node.orCondition json (Group.ofJson json)

end Audience
