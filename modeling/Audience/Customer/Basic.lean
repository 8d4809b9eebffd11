import Audience.Calendar.Instant
import Audience.Double.Rounding
import Audience.Record
import Audience.Text.Blank
import Audience.Text.Search
import Audience.Uuid

/-!
**Customers and their orders**, and the records that they are evaluated as.

What a customer has spent is not stored but derived from the orders: those of the customer that
are not refunded and have a proper amount.

Main definitions:

* `Order`, `Order.fault?` — orders, and what is wrong with one;
* `Customer`, `Customer.fault?` — customers, and what is wrong with one;
* `Customer.counts` — does an order count towards the spend of a customer?
* `Customer.record` — the record of a customer with the given orders.
-/

set_option relaxedAutoImplicit false
set_option autoImplicit false

namespace Audience

/-- The state of an order. -/
inductive OrderStatus where
  | confirmed
  | pending
  | refunded
  deriving DecidableEq, Repr

/-- An **order** of a customer. -/
structure Order where
  /-- The identifier of the order. -/
  id : Uuid
  /-- The customer. -/
  customerId : Uuid
  /-- The state. -/
  status : OrderStatus
  /-- The amount. -/
  amount : Double
  /-- The day. -/
  date : Date
  deriving DecidableEq, Repr

/-- What is wrong with an order. -/
inductive OrderFault where
  | badAmount
  deriving DecidableEq, Repr

/-- What is wrong with an order, in words. -/
def OrderFault.message : OrderFault → String
  | badAmount => "Amount must be non-negative"

/-- **What is wrong with an order**, if anything is. -/
def Order.fault? (order : Order) : Option OrderFault :=
  if !order.amount.isFinite || order.amount.isBelow Double.zero then some .badAmount else none

/-- A **customer** of an account. -/
structure Customer where
  /-- The identifier of the customer. -/
  id : Uuid
  /-- The account. -/
  ownerId : String
  /-- The name. -/
  name : String
  /-- The address for mail. -/
  email : String
  /-- The telephone number. -/
  phoneNumber : String
  /-- The age in years. -/
  age : Nat
  /-- The state of the account, if it has one. -/
  status : Option String
  /-- When the customer was registered. -/
  createdAt : Instant
  deriving DecidableEq, Repr

/-- What is wrong with a customer. -/
inductive CustomerFault where
  | noName
  | noPhoneNumber
  /-- The address has not the form of one. -/
  | badEmail (email : String)
  deriving DecidableEq, Repr

/-- What is wrong with a customer, in words. -/
def CustomerFault.message : CustomerFault → String
  | noName => "Name is required"
  | noPhoneNumber => "Phone number is required"
  | badEmail email => "Invalid email '" ++ email ++ "'"

/-- Has a text the form of an address: something before its first at sign and a point after it? -/
def isEmail (s : String) : Bool :=
  match Text.splitOnce '@' s.toList with
  | some (name, domain) => !name.isEmpty && domain.contains '.'
  | none => false

namespace Customer

/-- **What is wrong with a customer**, if anything is. -/
def fault? (customer : Customer) : Option CustomerFault :=
  if Text.isBlankText customer.name then some .noName
  else if Text.isBlankText customer.phoneNumber then some .noPhoneNumber
  else if isEmail customer.email then none
  else some (.badEmail customer.email)

/-- Does an order **count** towards what a customer has spent? -/
def counts (customer : Customer) (order : Order) : Bool :=
  order.customerId == customer.id && order.status != .refunded && order.fault?.isNone

/-- Gives a field a value where there is one. -/
def insertText (record : Record) (field : String) : Option String → Record
  | some s => record.insert field (.string s)
  | none => record

/-- The **record of a customer** with the given orders. -/
def record (customer : Customer) (orders : List Order) : Record :=
  let counted := orders.filter customer.counts
  let fields : Record :=
    ⟨Members.ofList
      [("id", .string customer.id.write),
       ("name", .string customer.name),
       ("email", .string customer.email),
       ("phoneNumber", .string customer.phoneNumber),
       ("age", .int customer.age),
       ("registration_date", .string customer.createdAt.date.write),
       ("order_count", .int counted.length),
       ("total_spend", Json.ofDouble (Double.sum (counted.map (·.amount))))]⟩
  let dated := insertText fields "last_order_date"
    ((Date.latest? (counted.map (·.date))).map Date.write)
  insertText dated "status" customer.status

end Customer

end Audience
