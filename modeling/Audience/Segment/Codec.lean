import Audience.Customer.Codec
import Audience.Rule.Codec
import Audience.Segment.Basic

/-!
**Segments in JSON**.

Main definitions:

* `Segment.toJson`, `Segment.ofJson` — segments;
* `NewSegment.ofJson` — requests for segments, in which the account may go by two names.
-/

set_option relaxedAutoImplicit false
set_option autoImplicit false

namespace Audience

namespace Segment

/-- The rules of a segment in JSON. -/
def rulesToJson : Option Group → Json
  | some rules => rules.toJson
  | none => .null

/-- A segment in JSON. -/
def toJson (segment : Segment) : Json :=
  .object [("createdAt", segment.createdAt.toJson), ("id", segment.id.toJson),
    ("name", .string segment.name), ("ownerId", .string segment.ownerId),
    ("rules", rulesToJson segment.rules), ("updatedAt", segment.updatedAt.toJson)]

/-- The description of the list form of a segment. -/
def listForm : String := "a segment of six fields"

/-- A **segment read from JSON**. -/
def ofJson : Json → Decoded Segment
  | .object members => do
    let createdAt ← Json.member? members "createdAt" Instant.ofJson
    let id ← Json.member? members "id" Uuid.ofJson
    let name ← Json.member? members "name" Json.asString
    let ownerId ← Json.member? members "ownerId" Json.asString
    let rules ← Json.member? members "rules" (Json.asOption Group.ofJson)
    let updatedAt ← Json.member? members "updatedAt" Instant.ofJson
    let id ← Json.required "id" id
    let name ← Json.required "name" name
    let ownerId ← Json.required "ownerId" ownerId
    let createdAt ← Json.required "createdAt" createdAt
    let updatedAt ← Json.required "updatedAt" updatedAt
    return ⟨id, name, ownerId, rules.join, createdAt, updatedAt⟩
  | .array items => do
    let id ← Json.element items 0 listForm Uuid.ofJson
    let name ← Json.element items 1 listForm Json.asString
    let ownerId ← Json.element items 2 listForm Json.asString
    let rules ← Json.element items 3 listForm (Json.asOption Group.ofJson)
    let createdAt ← Json.element items 4 listForm Instant.ofJson
    let updatedAt ← Json.element items 5 listForm Instant.ofJson
    Json.atMost 6 items
    return ⟨id, name, ownerId, rules, createdAt, updatedAt⟩
  | other => .error (.wrongKind other "a segment")

end Segment

namespace NewSegment

/-- The description of the list form of a request. -/
def listForm : String := "a request of three fields"

/-- The account of a request, which goes by one of two names. -/
def ownerOf (members : Members) : Decoded String := do
  let ownerId ← Json.member? members "ownerId" Json.asString
  let userId ← Json.member? members "userId" Json.asString
  match ownerId, userId with
  | some _, some _ => throw (.duplicateField "ownerId")
  | some owner, none | none, some owner => return owner
  | none, none => throw (.missingField "ownerId")

/-- A **request read from JSON**. -/
def ofJson : Json → Decoded NewSegment
  | .object members => do
    let name ← Json.member? members "name" Json.asString
    let rules ← Json.member? members "rules" (Json.asOption .ok)
    let owner ← ownerOf members
    let name ← Json.required "name" name
    return ⟨name, owner, rules.join⟩
  | .array items => do
    let name ← Json.element items 0 listForm Json.asString
    let owner ← Json.element items 1 listForm Json.asString
    let rules ← Json.elementOr items 2 none (Json.asOption .ok)
    Json.atMost 3 items
    return ⟨name, owner, rules⟩
  | other => .error (.wrongKind other "a request")

end NewSegment

end Audience
