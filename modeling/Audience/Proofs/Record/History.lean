import Audience.Proofs.Record.Import

/-!
**Records and their history**.

Accounts bring in records, customers and orders, in whatever order they come.  A deposit adds to
what its account has just what the receipt for it accepts, and nothing to what the others have.  So
what an account has can be read off its receipts: the records it brought in, and a record of every
customer that was accepted, with all orders that were accepted, before the customer or after.

Main definitions:

* `Deposit`, `Receipt` — what an account brings in, and what it is told of it;
* `RecordStore.deposit`, `RecordStore.replay` — one deposit, and a **history** of them;
* `RecordStore.add` — a store with what a receipt accepts;
* `RecordStore.IsSound` — customers belong to their accounts, orders to customers of theirs, and
  all are without fault.

Main results:

* `RecordStore.deposit_eq_add` — a deposit adds what its receipt accepts;
* `RecordStore.ownedBy_replay` — what an account has after a history;
* `RecordStore.isSound_deposit`, `RecordStore.isSound_replay` — deposits keep a store sound;
* `RecordStore.recordsFor_deposit_of_ne` — a deposit leaves the records of the other accounts;
* `RecordStore.records_refine_history` — all of this together.
-/

set_option relaxedAutoImplicit false
set_option autoImplicit false

namespace Audience

variable {α : Type}

/-! ### Deposits -/

/-- What an account brings in at one time. -/
inductive Deposit where
  | record (record : Record)
  | customers (rows : List Customer)
  | orders (rows : List Order)
  deriving DecidableEq, Repr

/-- What an account is told of a deposit.  A record is taken as it is, and of an import there is
a report. -/
inductive Receipt where
  | record (record : Record)
  | customers (rows : List Customer) (summary : ImportSummary)
  | orders (rows : List Order) (summary : ImportSummary)
  deriving DecidableEq, Repr

namespace Receipt

/-- The records that have been taken. -/
def records : Receipt → List Record
  | record r => [r]
  | customers .. | orders .. => []

/-- The customers that have been accepted. -/
def acceptedCustomers : Receipt → List Customer
  | customers rows summary => summary.accepted rows
  | record _ | orders .. => []

/-- The orders that have been accepted. -/
def acceptedOrders : Receipt → List Order
  | orders rows summary => summary.accepted rows
  | record _ | customers .. => []

end Receipt

theorem ownedBy_map (owner other : String) (xs : List α) :
    ownedBy other (xs.map (owner, ·)) = if owner = other then xs else [] := by
  split
  · next h => rw [h, ownedBy_map_self]
  · next h => exact ownedBy_map_of_ne h xs

theorem ownedBy_cons (owner other : String) (entry : α) (entries : List (String × α)) :
    ownedBy other ((owner, entry) :: entries)
      = (if owner = other then [entry] else []) ++ ownedBy other entries :=
  (ownedBy_append other [(owner, entry)] entries).trans
    (congrArg (· ++ _) (ownedBy_map owner other [entry]))

namespace RecordStore

/-- **One deposit** of an account, and what the account is told of it. -/
def deposit (store : RecordStore) (owner : String) : Deposit → RecordStore × Receipt
  | .record record => (store.insert owner record, .record record)
  | .customers rows =>
    let (next, summary) := store.importCustomers owner rows
    (next, .customers rows summary)
  | .orders rows =>
    let (next, summary) := store.importOrders owner rows
    (next, .orders rows summary)

/-- A history of deposits, each with the account that makes it: the store in the end, and the
receipts. -/
def replay (store : RecordStore) :
    List (String × Deposit) → RecordStore × List (String × Receipt)
  | [] => (store, [])
  | (owner, deposit) :: history =>
    let (next, receipt) := store.deposit owner deposit
    let (last, receipts) := next.replay history
    (last, (owner, receipt) :: receipts)

/-- A store with what a receipt accepts added to an account. -/
def add (store : RecordStore) (owner : String) (receipt : Receipt) : RecordStore where
  records := store.records ++ receipt.records.map (owner, ·)
  customers := store.customers ++ receipt.acceptedCustomers.map (owner, ·)
  orders := store.orders ++ receipt.acceptedOrders.map (owner, ·)

variable (store : RecordStore) (owner : String)

/-- A deposit adds what its receipt accepts, and nothing else. -/
theorem deposit_eq_add (deposit : Deposit) :
    (store.deposit owner deposit).1 = store.add owner (store.deposit owner deposit).2 := by
  cases deposit with
  | record record => simp [RecordStore.deposit, add, insert, Receipt.records,
      Receipt.acceptedCustomers, Receipt.acceptedOrders]
  | customers rows =>
      rw [RecordStore.deposit, importCustomers_eq]
      simp [add, Receipt.records, Receipt.acceptedCustomers, Receipt.acceptedOrders]
  | orders rows =>
      rw [RecordStore.deposit, importOrders_eq]
      simp [add, Receipt.records, Receipt.acceptedCustomers, Receipt.acceptedOrders]

/-- What an account has after a history is what it had before, and what its receipts accept.
The statement is about a part of the store and the part of a receipt that is added to it. -/
theorem ownedBy_replay {part : RecordStore → List (String × α)} {accepted : Receipt → List α}
    (hadd : ∀ store owner receipt,
      part (store.add owner receipt) = part store ++ (accepted receipt).map (owner, ·))
    (history : List (String × Deposit)) :
    ownedBy owner (part (store.replay history).1)
      = ownedBy owner (part store)
        ++ (ownedBy owner (store.replay history).2).flatMap accepted := by
  induction history generalizing store with
  | nil => simp [replay]
  | cons entry history ih =>
      obtain ⟨other, deposit⟩ := entry
      rw [replay]
      dsimp only
      rw [ih, deposit_eq_add, hadd, ownedBy_append, ownedBy_map, ownedBy_cons,
        List.flatMap_append, List.append_assoc]
      congr 2
      split
      · simp
      · rfl

theorem customersOf_replay (history : List (String × Deposit)) :
    (store.replay history).1.customersOf owner
      = store.customersOf owner
        ++ (ownedBy owner (store.replay history).2).flatMap Receipt.acceptedCustomers :=
  store.ownedBy_replay owner (fun _ _ _ => rfl) history

theorem ordersOf_replay (history : List (String × Deposit)) :
    (store.replay history).1.ordersOf owner
      = store.ordersOf owner
        ++ (ownedBy owner (store.replay history).2).flatMap Receipt.acceptedOrders :=
  store.ownedBy_replay owner (fun _ _ _ => rfl) history

/-! ### Other accounts -/

theorem ownedBy_deposit_of_ne {part : RecordStore → List (String × α)} {accepted : Receipt → List α}
    (hadd : ∀ store owner receipt,
      part (store.add owner receipt) = part store ++ (accepted receipt).map (owner, ·))
    {other : String} (hne : other ≠ owner) (deposit : Deposit) :
    ownedBy owner (part (store.deposit other deposit).1) = ownedBy owner (part store) := by
  rw [deposit_eq_add, hadd, ownedBy_append, ownedBy_map_of_ne hne, List.append_nil]

variable {store owner}

/-- A deposit leaves the records of the other accounts as they are. -/
theorem recordsFor_deposit_of_ne {other : String} (hne : other ≠ owner) (deposit : Deposit) :
    (store.deposit other deposit).1.recordsFor owner = store.recordsFor owner := by
  have hrecords : ownedBy owner (store.deposit other deposit).1.records
      = ownedBy owner store.records :=
    ownedBy_deposit_of_ne store owner (fun _ _ _ => rfl) hne deposit
  have hcustomers : (store.deposit other deposit).1.customersOf owner = store.customersOf owner :=
    ownedBy_deposit_of_ne store owner (fun _ _ _ => rfl) hne deposit
  have horders : (store.deposit other deposit).1.ordersOf owner = store.ordersOf owner :=
    ownedBy_deposit_of_ne store owner (fun _ _ _ => rfl) hne deposit
  rw [recordsFor, recordsFor, hrecords, hcustomers, horders]

/-! ### What is stored -/

/-- A store is sound if customers belong to their accounts, orders to customers of theirs, and
all are without fault. -/
structure IsSound (store : RecordStore) : Prop where
  /-- Customers belong to their accounts and are without fault. -/
  customers : ∀ owner, ∀ customer ∈ store.customersOf owner,
    customer.ownerId = owner ∧ customer.fault? = none
  /-- Orders belong to customers of their accounts and are without fault. -/
  orders : ∀ owner, ∀ order ∈ store.ordersOf owner,
    order.fault? = none ∧ ∃ customer ∈ store.customersOf owner, customer.id = order.customerId

theorem mem_customersOf_add {receipt : Receipt} {other : String} {customer : Customer} :
    customer ∈ (store.add other receipt).customersOf owner
      ↔ customer ∈ store.customersOf owner
        ∨ other = owner ∧ customer ∈ receipt.acceptedCustomers := by
  rw [customersOf, add, ownedBy_append, ownedBy_map, List.mem_append, ← customersOf]
  simp

theorem mem_ordersOf_add {receipt : Receipt} {other : String} {order : Order} :
    order ∈ (store.add other receipt).ordersOf owner
      ↔ order ∈ store.ordersOf owner ∨ other = owner ∧ order ∈ receipt.acceptedOrders := by
  rw [ordersOf, add, ownedBy_append, ownedBy_map, List.mem_append, ← ordersOf]
  simp

theorem of_mem_acceptedCustomers {deposit : Deposit} {customer : Customer}
    (h : customer ∈ (store.deposit owner deposit).2.acceptedCustomers) :
    customer.ownerId = owner ∧ customer.fault? = none := by
  cases deposit with
  | record record => cases h
  | orders rows => cases h
  | customers rows =>
      rw [RecordStore.deposit, Receipt.acceptedCustomers, accepted_importCustomers] at h
      simpa using (List.mem_filter.1 h).2

theorem of_mem_acceptedOrders {deposit : Deposit} {order : Order}
    (h : order ∈ (store.deposit owner deposit).2.acceptedOrders) :
    order.fault? = none ∧ ∃ customer ∈ store.customersOf owner, customer.id = order.customerId := by
  cases deposit with
  | record record => cases h
  | customers rows => cases h
  | orders rows =>
      rw [RecordStore.deposit, Receipt.acceptedOrders, accepted_importOrders] at h
      simpa using (List.mem_filter.1 h).2

/-- A deposit keeps a store sound. -/
theorem isSound_deposit (hstore : store.IsSound) (other : String) (deposit : Deposit) :
    (store.deposit other deposit).1.IsSound := by
  rw [deposit_eq_add]
  constructor
  · intro owner customer hm
    rcases mem_customersOf_add.1 hm with hold | ⟨rfl, hnew⟩
    · exact hstore.customers owner customer hold
    · exact of_mem_acceptedCustomers hnew
  · intro owner order hm
    -- the customer of an order was there before, and stays
    have hstays : (∃ customer ∈ store.customersOf owner, customer.id = order.customerId) →
        ∃ customer ∈ (store.add other (store.deposit other deposit).2).customersOf owner,
          customer.id = order.customerId := by
      rintro ⟨customer, hcustomer, hid⟩
      exact ⟨customer, mem_customersOf_add.2 (.inl hcustomer), hid⟩
    rcases mem_ordersOf_add.1 hm with hold | ⟨rfl, hnew⟩
    · exact ⟨(hstore.orders owner order hold).1, hstays (hstore.orders owner order hold).2⟩
    · exact ⟨(of_mem_acceptedOrders hnew).1, hstays (of_mem_acceptedOrders hnew).2⟩

/-- A history keeps a store sound. -/
theorem isSound_replay (hstore : store.IsSound) (history : List (String × Deposit)) :
    (store.replay history).1.IsSound := by
  induction history generalizing store with
  | nil => exact hstore
  | cons entry history ih => exact ih (isSound_deposit hstore entry.1 entry.2)

theorem isSound_empty : IsSound {} where
  customers _ _ h := (List.not_mem_nil h).elim
  orders _ _ h := (List.not_mem_nil h).elim

/-! ### Histories -/

/-- **The store refines its history**.  After any deposits of any accounts, the records of an
account are those it brought in, in their order, and one of every customer that was accepted for
it, in the order of the imports, with all the orders that were accepted for it.  Every customer it
has is its own and without fault, and every order it has is without fault and of a customer that it
has.  What is accepted next are just the customers and orders of which this is true, and what other
accounts bring in changes nothing. -/
theorem records_refine_history (history : List (String × Deposit)) (owner : String) :
    let store := (replay {} history).1
    let receipts := ownedBy owner (replay {} history).2
    let customers := receipts.flatMap Receipt.acceptedCustomers
    let orders := receipts.flatMap Receipt.acceptedOrders
    store.recordsFor owner
        = receipts.flatMap Receipt.records ++ customers.map (·.record orders) ∧
      store.customersOf owner = customers ∧ store.ordersOf owner = orders ∧
      (∀ customer ∈ customers, customer.ownerId = owner ∧ customer.fault? = none) ∧
      (∀ order ∈ orders, order.fault? = none ∧
        ∃ customer ∈ customers, customer.id = order.customerId) ∧
      (∀ rows, (store.importCustomers owner rows).2.accepted rows
        = rows.filter fun customer => customer.ownerId = owner ∧ customer.fault? = none) ∧
      (∀ rows, (store.importOrders owner rows).2.accepted rows
        = rows.filter fun order => order.fault? = none ∧ order.customerId ∈ customers.map (·.id)) ∧
      ∀ other ≠ owner, ∀ deposit,
        (store.deposit other deposit).1.recordsFor owner = store.recordsFor owner := by
  intro store receipts customers orders
  have hrecords : ownedBy owner store.records = receipts.flatMap Receipt.records :=
    ownedBy_replay {} owner (fun _ _ _ => rfl) history
  have hcustomers : store.customersOf owner = customers := customersOf_replay {} owner history
  have horders : store.ordersOf owner = orders := ordersOf_replay {} owner history
  have hsound : store.IsSound := isSound_replay isSound_empty history
  refine ⟨?records, hcustomers, horders, ?customersSound, ?ordersSound,
    accepted_importCustomers store owner, ?accepted, fun _ hne => recordsFor_deposit_of_ne hne⟩
  case records => rw [recordsFor, hrecords, hcustomers, horders]
  case customersSound => exact hcustomers ▸ hsound.customers owner
  case ordersSound =>
    have hkept := hsound.orders owner
    rwa [horders, hcustomers] at hkept
  case accepted => exact hcustomers ▸ accepted_importOrders store owner

/-- A customer of an account, without fault. -/
def customerNamed (owner name : String) (n : Nat) : Customer where
  id := Uuid.ofNat n
  ownerId := owner
  name := name
  email := "someone@example.com"
  phoneNumber := "555-0100"
  age := 36
  status := none
  createdAt := default

/-- An order of the customer with a number. -/
def orderOf (customer n : Nat) (status : OrderStatus) : Order where
  id := Uuid.ofNat n
  customerId := Uuid.ofNat customer
  status := status
  amount := Double.ofInt 10
  date := default

/-- Deposits of two accounts, with an order that comes before its customer, customers that are
foreign or nameless, and an order of a customer of the other account. -/
def mixedHistory : List (String × Deposit) :=
  [("o1", .record ⟨[("name", .string "Ann")]⟩),
    ("o1", .orders [orderOf 1 10 .confirmed]),
    ("o1", .customers
      [customerNamed "o1" "Ada" 1, customerNamed "o2" "Eve" 2, customerNamed "o1" " " 3]),
    ("o2", .customers [customerNamed "o2" "Eve" 2]),
    ("o1", .orders [orderOf 1 11 .confirmed, orderOf 2 12 .confirmed]),
    ("o2", .orders [orderOf 2 12 .confirmed])]

/-- Of the orders of the account only the second one counts, and what the other account does next
changes nothing. -/
theorem mixedHistory_records :
    (replay {} mixedHistory).1.recordsFor "o1"
        = [⟨[("name", .string "Ann")]⟩,
            (customerNamed "o1" "Ada" 1).record [orderOf 1 11 .confirmed]] ∧
      "o2" ≠ "o1" ∧
      ∀ deposit, ((replay {} mixedHistory).1.deposit "o2" deposit).1.recordsFor "o1"
        = (replay {} mixedHistory).1.recordsFor "o1" := by
  obtain ⟨hrecords, -, -, -, -, -, -, hothers⟩ := records_refine_history mixedHistory "o1"
  have hother : "o2" ≠ "o1" := by decide
  have hreceipts :
      (ownedBy "o1" (replay {} mixedHistory).2).flatMap Receipt.records
          = [⟨[("name", .string "Ann")]⟩] ∧
        (ownedBy "o1" (replay {} mixedHistory).2).flatMap Receipt.acceptedCustomers
          = [customerNamed "o1" "Ada" 1] ∧
        (ownedBy "o1" (replay {} mixedHistory).2).flatMap Receipt.acceptedOrders
          = [orderOf 1 11 .confirmed] := by decide +kernel
  refine ⟨?_, hother, hothers "o2" hother⟩
  rw [hrecords, hreceipts.1, hreceipts.2.1, hreceipts.2.2]
  rfl

end RecordStore

end Audience
