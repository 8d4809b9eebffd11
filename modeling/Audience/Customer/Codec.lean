import Audience.Calendar.Reader
import Audience.Customer.Basic

/-!
**Customers and orders in JSON**.

Main definitions:

* `Uuid.ofJson`, `Date.ofJson`, `Instant.ofJson` — identifiers and times as texts;
* `Order.toJson`, `Order.ofJson` — orders;
* `Customer.toJson`, `Customer.ofJson` — customers.
-/

set_option relaxedAutoImplicit false
set_option autoImplicit false

namespace Audience

/-- A value that a text denotes. -/
def Json.asParsed {α : Type} (expected : String) (parse : String → Option α) (json : Json) :
    Decoded α := do
  match parse (← json.asString) with
  | some value => return value
  | none => throw (.badValue expected)

/-- An identifier in JSON. -/
def Uuid.toJson (id : Uuid) : Json := .string id.write

/-- An identifier read from JSON. -/
def Uuid.ofJson : Json → Decoded Uuid := Json.asParsed "an identifier" Uuid.ofText?

/-- A day read from JSON. -/
def Date.ofJson : Json → Decoded Date :=
  Json.asParsed "a day" fun s => Calendar.spacedDay? s.toList

/-- An instant in JSON. -/
def Instant.toJson (t : Instant) : Json := .string (t.write .letter)

/-- An instant read from JSON. -/
def Instant.ofJson : Json → Decoded Instant :=
  Json.asParsed "an instant" fun s => Calendar.lenient? s.toList

/-- The name of the state of an order. -/
def OrderStatus.name : OrderStatus → String
  | confirmed => "confirmed"
  | pending => "pending"
  | refunded => "refunded"

/-- The states of an order by their names. -/
def OrderStatus.cases : List (String × OrderStatus) :=
  [("confirmed", confirmed), ("pending", pending), ("refunded", refunded)]

/-- The state of an order read from JSON. -/
def OrderStatus.ofJson (json : Json) : Decoded OrderStatus := json.asCase OrderStatus.cases

namespace Order

/-- An order in JSON. -/
def toJson (order : Order) : Json :=
  .object [("amount", Json.ofDouble order.amount), ("customerId", order.customerId.toJson),
    ("id", order.id.toJson), ("orderDate", .string order.date.write),
    ("status", .string order.status.name)]

/-- The description of the list form of an order. -/
def listForm : String := "an order of five fields"

/-- An **order read from JSON**. -/
def ofJson : Json → Decoded Order
  | .object members => do
    let amount ← Json.member? members "amount" Json.asDouble
    let customerId ← Json.member? members "customerId" Uuid.ofJson
    let id ← Json.member? members "id" Uuid.ofJson
    let date ← Json.member? members "orderDate" Date.ofJson
    let status ← Json.member? members "status" OrderStatus.ofJson
    let id ← Json.required "id" id
    let customerId ← Json.required "customerId" customerId
    let status ← Json.required "status" status
    let amount ← Json.required "amount" amount
    let date ← Json.required "orderDate" date
    return ⟨id, customerId, status, amount, date⟩
  | .array items => do
    let id ← Json.element items 0 listForm Uuid.ofJson
    let customerId ← Json.element items 1 listForm Uuid.ofJson
    let status ← Json.element items 2 listForm OrderStatus.ofJson
    let amount ← Json.element items 3 listForm Json.asDouble
    let date ← Json.element items 4 listForm Date.ofJson
    Json.atMost 5 items
    return ⟨id, customerId, status, amount, date⟩
  | other => .error (.wrongKind other "an order")

end Order

/-- A text, or null where there is none. -/
def Json.ofOptionString : Option String → Json
  | some s => .string s
  | none => .null

namespace Customer

/-- A customer in JSON. -/
def toJson (customer : Customer) : Json :=
  .object [("age", .int customer.age), ("createdAt", customer.createdAt.toJson),
    ("email", .string customer.email), ("id", customer.id.toJson),
    ("name", .string customer.name), ("ownerId", .string customer.ownerId),
    ("phoneNumber", .string customer.phoneNumber),
    ("status", Json.ofOptionString customer.status)]

/-- The description of the list form of a customer. -/
def listForm : String := "a customer of eight fields"

/-- A **customer read from JSON**. -/
def ofJson : Json → Decoded Customer
  | .object members => do
    let age ← Json.member? members "age" (Json.asNat 32)
    let createdAt ← Json.member? members "createdAt" Instant.ofJson
    let email ← Json.member? members "email" Json.asString
    let id ← Json.member? members "id" Uuid.ofJson
    let name ← Json.member? members "name" Json.asString
    let ownerId ← Json.member? members "ownerId" Json.asString
    let phoneNumber ← Json.member? members "phoneNumber" Json.asString
    let status ← Json.member? members "status" (Json.asOption Json.asString)
    let id ← Json.required "id" id
    let ownerId ← Json.required "ownerId" ownerId
    let name ← Json.required "name" name
    let email ← Json.required "email" email
    let phoneNumber ← Json.required "phoneNumber" phoneNumber
    let age ← Json.required "age" age
    let createdAt ← Json.required "createdAt" createdAt
    return ⟨id, ownerId, name, email, phoneNumber, age, status.join, createdAt⟩
  | .array items => do
    let id ← Json.element items 0 listForm Uuid.ofJson
    let ownerId ← Json.element items 1 listForm Json.asString
    let name ← Json.element items 2 listForm Json.asString
    let email ← Json.element items 3 listForm Json.asString
    let phoneNumber ← Json.element items 4 listForm Json.asString
    let age ← Json.element items 5 listForm (Json.asNat 32)
    let status ← Json.element items 6 listForm (Json.asOption Json.asString)
    let createdAt ← Json.element items 7 listForm Instant.ofJson
    Json.atMost 8 items
    return ⟨id, ownerId, name, email, phoneNumber, age, status, createdAt⟩
  | other => .error (.wrongKind other "a customer")

end Customer

end Audience
