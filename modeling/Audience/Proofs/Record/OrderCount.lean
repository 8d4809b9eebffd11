import Audience.Proofs.Record.History
import Mathlib.Algebra.BigOperators.Group.List.Basic
import Mathlib.Algebra.Ring.Nat

/-!
**Where orders are counted**.

The record of a customer says how many orders of the customer count.  Orders find their customer by
its identifier, and nothing keeps a customer from being imported more than once.  So an order counts
in the record of every customer that has its identifier: **no order is lost**, and it is counted
once just when its customer has been accepted once.

Main definitions:

* `Record.orderCount` — the number of orders that a record tells of;
* `Order.sales` — the orders that have **not been refunded**;
* `Deposit.isImport` — deposits of customers or orders.

Main results:

* `sum_countP_comm` — pairs are counted from either side;
* `Customer.orderCount_record` — what the record of a customer counts;
* `sum_orderCount_record` — what the records of all customers count;
* `RecordStore.orderCount_recordsFor` — what the records of an account count after any imports.
-/

set_option relaxedAutoImplicit false
set_option autoImplicit false

namespace Audience

/-! ### Counting pairs -/

section Pairs

variable {α β : Type} (r : α → β → Bool)

theorem sum_countP_cons (x : α) (xs : List α) (ys : List β) :
    (ys.map fun y => (x :: xs).countP (r · y)).sum
      = ys.countP (r x) + (ys.map fun y => xs.countP (r · y)).sum := by
  induction ys with
  | nil => rfl
  | cons y ys ih =>
      simp only [List.map_cons, List.sum_cons, List.countP_cons] at ih ⊢
      omega

/-- The pairs in a relation are counted from either side. -/
theorem sum_countP_comm (xs : List α) (ys : List β) :
    (xs.map fun x => ys.countP (r x)).sum = (ys.map fun y => xs.countP (r · y)).sum := by
  induction xs with
  | nil => simp
  | cons x xs ih => rw [List.map_cons, List.sum_cons, ih, sum_countP_cons]

end Pairs

theorem sum_eq_length_iff {counts : List Nat} (h : ∀ n ∈ counts, 1 ≤ n) :
    counts.sum = counts.length ↔ ∀ n ∈ counts, n = 1 := by
  induction counts with
  | nil => simp
  | cons n counts ih =>
      obtain ⟨hn, hcounts⟩ := List.forall_mem_cons.1 h
      have hle := List.length_le_sum_of_one_le counts hcounts
      rw [List.forall_mem_cons, ← ih hcounts, List.sum_cons, List.length_cons]
      omega

/-! ### What records count -/

/-- The number of orders that a record tells of. -/
def Record.orderCount (record : Record) : Nat :=
  match record.get? "order_count" with
  | some (.int n) => n.toNat
  | _ => 0

/-- The orders that have **not been refunded**. -/
def Order.sales (orders : List Order) : List Order := orders.filter (·.status != .refunded)

theorem Customer.get?_insertText_of_ne {field other : String} (h : other ≠ field) (record : Record)
    (text : Option String) : (insertText record field text).get? other = record.get? other := by
  cases text with
  | none => rfl
  | some s => exact Record.get?_insert_of_ne record h _

theorem Customer.get?_order_count (customer : Customer) (orders : List Order) :
    (customer.record orders).get? "order_count"
      = some (.int (orders.filter customer.counts).length) := by
  rw [record, get?_insertText_of_ne (by decide), get?_insertText_of_ne (by decide)]
  simp [Record.get?, Members.ofList, Members.find?_insert_of_ne, Json.isNull]

theorem Customer.get?_total_spend (customer : Customer) (orders : List Order) :
    (customer.record orders).get? "total_spend"
      = (some (Json.ofDouble (Double.sum ((orders.filter customer.counts).map (·.amount))))).filter
          (!·.isNull) := by
  rw [record, get?_insertText_of_ne (by decide), get?_insertText_of_ne (by decide)]
  simp [Record.get?, Members.ofList]

theorem Customer.orderCount_record (customer : Customer) (orders : List Order) :
    (customer.record orders).orderCount = orders.countP customer.counts := by
  rw [Record.orderCount, get?_order_count, List.countP_eq_length_filter]
  rfl

theorem Customer.countP_counts {orders : List Order} (h : ∀ order ∈ orders, order.fault? = none)
    (customer : Customer) :
    orders.countP customer.counts
      = (Order.sales orders).countP fun order => customer.id == order.customerId := by
  rw [Order.sales, List.countP_filter]
  refine List.countP_congr fun order horder => ?_
  rw [counts, h order horder, Bool.beq_comm (a := order.customerId)]
  simp

/-- The records of customers count every order once for each customer with its identifier. -/
theorem sum_orderCount_record {orders : List Order} (h : ∀ order ∈ orders, order.fault? = none)
    (customers : List Customer) :
    ((customers.map (·.record orders)).map (·.orderCount)).sum
      = ((Order.sales orders).map fun order =>
          customers.countP (·.id == order.customerId)).sum := by
  rw [← sum_countP_comm, List.map_map]
  refine congrArg List.sum (List.map_congr_left fun customer _ => ?_)
  exact (customer.orderCount_record orders).trans (customer.countP_counts h)

/-! ### Imports -/

/-- Is a deposit an import of customers or orders? -/
def Deposit.isImport : Deposit → Bool
  | record _ => false
  | customers _ | orders _ => true

namespace RecordStore

theorem records_replay_of_imports {history : List (String × Deposit)}
    (himports : ∀ entry ∈ history, entry.2.isImport = true) (store : RecordStore) :
    (store.replay history).1.records = store.records := by
  induction history generalizing store with
  | nil => rfl
  | cons entry history ih =>
      obtain ⟨hentry, hhistory⟩ := List.forall_mem_cons.1 himports
      obtain ⟨owner, deposit⟩ := entry
      refine (ih hhistory _).trans ?_
      cases deposit with
      | record record => cases hentry
      | customers rows => rfl
      | orders rows => rfl

/-- **No order is lost.**  After any imports the records of an account count every order that was
accepted for it and not refunded, once for each time that its customer was accepted; so they count
no fewer orders than there are, and just as many when the customers of these orders were accepted
once each. -/
theorem orderCount_recordsFor {history : List (String × Deposit)}
    (himports : ∀ entry ∈ history, entry.2.isImport = true) (owner : String) :
    let receipts := ownedBy owner (replay {} history).2
    let customers := receipts.flatMap Receipt.acceptedCustomers
    let sales := Order.sales (receipts.flatMap Receipt.acceptedOrders)
    let total := (((replay {} history).1.recordsFor owner).map (·.orderCount)).sum
    total = (sales.map fun order => customers.countP (·.id == order.customerId)).sum ∧
      sales.length ≤ total ∧
      (total = sales.length
        ↔ ∀ order ∈ sales, customers.countP (·.id == order.customerId) = 1) := by
  intro receipts customers sales total
  have hcustomers : (replay {} history).1.customersOf owner = customers :=
    customersOf_replay {} owner history
  have horders : (replay {} history).1.ordersOf owner = receipts.flatMap Receipt.acceptedOrders :=
    ordersOf_replay {} owner history
  have hsound := (isSound_replay isSound_empty history).orders owner
  rw [hcustomers, horders] at hsound
  have htotal :
      total = (sales.map fun order => customers.countP (·.id == order.customerId)).sum := by
    rw [← sum_orderCount_record fun order horder => (hsound order horder).1]
    simp only [total, recordsFor]
    rw [records_replay_of_imports himports, hcustomers, horders]
    rfl
  -- the customer of an accepted order has been accepted
  have hone : ∀ n ∈ sales.map fun order => customers.countP (·.id == order.customerId), 1 ≤ n := by
    refine List.forall_mem_map.2 fun order horder => ?_
    obtain ⟨-, customer, hcustomer, hid⟩ := hsound order (List.mem_filter.1 horder).1
    exact List.countP_pos_iff.2 ⟨customer, hcustomer, beq_iff_eq.2 hid⟩
  have hlength : sales.length
      = (sales.map fun order => customers.countP (·.id == order.customerId)).length :=
    (List.length_map _).symm
  rw [htotal, hlength]
  exact ⟨rfl, List.length_le_sum_of_one_le _ hone,
    (sum_eq_length_iff hone).trans List.forall_mem_map⟩

/-- Imports of customers that come once each, and of orders one of which comes twice and one of
which has been refunded. -/
def onceImported : List (String × Deposit) :=
  [("o1", .customers [customerNamed "o1" "Ada" 1, customerNamed "o1" "Ann" 2]),
    ("o1", .orders [orderOf 1 10 .confirmed, orderOf 1 11 .refunded]),
    ("o1", .orders [orderOf 1 10 .confirmed, orderOf 2 12 .pending])]

/-- The order that came twice counts as two, and the refunded one does not count. -/
theorem onceImported_counted :
    (∀ entry ∈ onceImported, entry.2.isImport = true) ∧
      (((replay {} onceImported).1.recordsFor "o1").map (·.orderCount)).sum = 3 := by
  have himports : ∀ entry ∈ onceImported, entry.2.isImport = true := by decide
  obtain ⟨-, -, htotal⟩ := orderCount_recordsFor himports "o1"
  refine ⟨himports, (htotal.2 (by decide +kernel)).trans (by decide +kernel)⟩

/-- Imports that bring in a customer twice. -/
def twiceImported : List (String × Deposit) :=
  [("o1", .customers [customerNamed "o1" "Ada" 1, customerNamed "o1" "Ada" 1]),
    ("o1", .orders [orderOf 1 10 .confirmed])]

/-- What records count need **not be the number of orders**: the order of a customer that was
imported twice is counted twice. -/
theorem twiceImported_not_conserved :
    ¬ ∀ (history : List (String × Deposit)) (owner : String),
      (∀ entry ∈ history, entry.2.isImport = true) →
      (((replay {} history).1.recordsFor owner).map (·.orderCount)).sum
        = (Order.sales ((ownedBy owner (replay {} history).2).flatMap
            Receipt.acceptedOrders)).length := by
  intro h
  have htwo : (((replay {} twiceImported).1.recordsFor "o1").map (·.orderCount)).sum = 2 := by
    decide +kernel
  have hone : (Order.sales ((ownedBy "o1" (replay {} twiceImported).2).flatMap
      Receipt.acceptedOrders)).length = 1 := by decide +kernel
  have hequal := h twiceImported "o1" (by decide)
  rw [htwo, hone] at hequal
  cases hequal

end RecordStore

end Audience
