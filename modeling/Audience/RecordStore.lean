import Audience.Customer.Basic
import Audience.Journal

/-!
**The records of accounts**, and the import of customers and orders.

Every account has records of its own, customers and orders.  Customers are turned into records only
when the records are asked for, so that orders imported later count as well.  Imports go row by
row: what is wrong with a row keeps that row out and no other.

Main definitions:

* `RecordStore`, `RecordStore.recordsFor` — what is stored, and the records of an account;
* `RecordStore.insert` — one more record;
* `Rejection`, `Screening`, `screen` — why a row is kept out, and the rows of an import sorted by
  that;
* `RecordStore.importCustomers`, `RecordStore.importOrders` — the imports.
-/

set_option relaxedAutoImplicit false
set_option autoImplicit false

namespace Audience

/-- **What is stored**: records, customers and orders with the account they belong to, in the order
in which they came. -/
structure RecordStore where
  /-- The records. -/
  records : List (String × Record) := []
  /-- The customers. -/
  customers : List (String × Customer) := []
  /-- The orders. -/
  orders : List (String × Order) := []
  deriving DecidableEq, Repr, Inhabited

/-- What belongs to an account. -/
def ownedBy {α : Type} (owner : String) (entries : List (String × α)) : List α :=
  entries.filterMap fun (holder, entry) => if holder = owner then some entry else none

@[simp] theorem ownedBy_nil {α : Type} (owner : String) :
    ownedBy owner ([] : List (String × α)) = [] := rfl

@[simp] theorem ownedBy_append {α : Type} (owner : String) (xs ys : List (String × α)) :
    ownedBy owner (xs ++ ys) = ownedBy owner xs ++ ownedBy owner ys := by
  simp [ownedBy]

/-- What is added to an account belongs to it. -/
@[simp] theorem ownedBy_map_self {α : Type} (owner : String) (xs : List α) :
    ownedBy owner (xs.map fun x => (owner, x)) = xs := by
  induction xs with
  | nil => rfl
  | cons x xs ih => simp_all [ownedBy]

/-- What is added to an account belongs to no other one. -/
theorem ownedBy_map_of_ne {α : Type} {owner other : String} (h : owner ≠ other) (xs : List α) :
    ownedBy other (xs.map fun x => (owner, x)) = [] := by
  induction xs with
  | nil => rfl
  | cons x xs ih => simp_all [ownedBy]

/-! ### Imports -/

/-- Why a **row of an import is kept out**. -/
inductive Rejection where
  | foreignCustomer
  | badCustomer (fault : CustomerFault)
  | badOrder (fault : OrderFault)
  | unknownCustomer (id : Uuid)
  deriving DecidableEq, Repr

/-- Why a row is kept out, in words. -/
def Rejection.message : Rejection → String
  | foreignCustomer => "Customer belongs to another account"
  | badCustomer fault => fault.message
  | badOrder fault => fault.message
  | unknownCustomer id => "Customer with ID '" ++ id.write ++ "' not found"

/-- The rows of an import **sorted**: those to be stored, and the places of the others. -/
structure Screening (α : Type) where
  /-- The rows to be stored, in their order. -/
  accepted : List α := []
  /-- The places of the other rows, and why they are kept out. -/
  rejected : List (Nat × Rejection) := []
  deriving DecidableEq, Repr

/-- Sorts rows, the first of which has the place `place`. -/
def screen {α : Type} (check : α → Option Rejection) (place : Nat) : List α → Screening α
  | [] => {}
  | row :: rows =>
    let rest := screen check (place + 1) rows
    match check row with
    | none => { rest with accepted := row :: rest.accepted }
    | some rejection => { rest with rejected := (place, rejection) :: rest.rejected }

/-- The **outcome of an import**: how many rows were stored and how many not, and why not. -/
structure ImportSummary where
  /-- The number of rows that were stored. -/
  succeeded : Nat
  /-- The number of rows that were kept out. -/
  failed : Nat
  /-- Why they were, by their places. -/
  errors : List (Nat × Rejection)
  deriving DecidableEq, Repr

/-- The outcome of an import whose rows have been sorted. -/
def Screening.summary {α : Type} (screening : Screening α) : ImportSummary where
  succeeded := screening.accepted.length
  failed := screening.rejected.length
  errors := screening.rejected

/-- The log entry about an import. -/
def ImportSummary.entry (summary : ImportSummary) (message owner : String) : LogEntry :=
  { level := .info
    message := message
    fields :=
      [("owner_id", .string owner), ("succeeded", .int summary.succeeded),
       ("failed", .int summary.failed)] }

/-- Why a customer is kept out of an account, if anything is wrong. -/
def Customer.rejection? (owner : String) (customer : Customer) : Option Rejection :=
  if customer.ownerId ≠ owner then some .foreignCustomer
  else customer.fault?.map .badCustomer

/-- Why an order is kept out of an account with the given customers, if anything is wrong. -/
def Order.rejection? (known : List Uuid) (order : Order) : Option Rejection :=
  match order.fault? with
  | some fault => some (.badOrder fault)
  | none => if order.customerId ∈ known then none else some (.unknownCustomer order.customerId)

namespace RecordStore

/-- The customers of an account. -/
def customersOf (store : RecordStore) (owner : String) : List Customer :=
  ownedBy owner store.customers

/-- The orders of an account. -/
def ordersOf (store : RecordStore) (owner : String) : List Order := ownedBy owner store.orders

/-- The **records of an account**: its own ones, and those of its customers. -/
def recordsFor (store : RecordStore) (owner : String) : List Record :=
  ownedBy owner store.records
    ++ (store.customersOf owner).map fun customer => customer.record (store.ordersOf owner)

/-- Adds a record to an account. -/
def insert (store : RecordStore) (owner : String) (record : Record) : RecordStore :=
  { store with records := store.records ++ [(owner, record)] }

/-- The customers of an import, sorted. -/
def screenCustomers (owner : String) (customers : List Customer) : Screening Customer :=
  screen (·.rejection? owner) 0 customers

/-- **Imports customers** into an account. -/
def importCustomers (store : RecordStore) (owner : String) (customers : List Customer) :
    RecordStore × ImportSummary :=
  let screening := screenCustomers owner customers
  let added := screening.accepted.map fun customer => (owner, customer)
  ({ store with customers := store.customers ++ added }, screening.summary)

/-- The orders of an import, sorted by the customers that the account has. -/
def screenOrders (store : RecordStore) (owner : String) (orders : List Order) : Screening Order :=
  screen (·.rejection? ((store.customersOf owner).map (·.id))) 0 orders

/-- **Imports orders** into an account. -/
def importOrders (store : RecordStore) (owner : String) (orders : List Order) :
    RecordStore × ImportSummary :=
  let screening := store.screenOrders owner orders
  let added := screening.accepted.map fun order => (owner, order)
  ({ store with orders := store.orders ++ added }, screening.summary)

/-- What the log says of an import of customers. -/
def customersImported (owner : String) (summary : ImportSummary) : LogEntry :=
  summary.entry "customer import finished" owner

/-- What the log says of an import of orders. -/
def ordersImported (owner : String) (summary : ImportSummary) : LogEntry :=
  summary.entry "order import finished" owner

end RecordStore

end Audience
