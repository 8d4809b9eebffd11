import Audience.Proofs.Record.Table
import Mathlib.Data.List.Basic

/-!
**Imports say what they do**.

An import stores the rows that nothing is wrong with, in their order, and reports the places of the
others.  So whoever gets the report can tell which rows have been accepted, and these are the ones
that have been stored.

Main definitions:

* `ImportSummary.accepted` — the rows that a report **does not name**.

Main results:

* `accepted_screen` — the rows to be stored are those that nothing is wrong with;
* `accepted_summary_screen` — they are the rows that the report does not name;
* `RecordStore.importCustomers_eq`, `RecordStore.importOrders_eq` — an import adds the rows that
  its report accepts to the account, and nothing else;
* `RecordStore.accepted_importCustomers`, `RecordStore.accepted_importOrders` — which rows these
  are.
-/

set_option relaxedAutoImplicit false
set_option autoImplicit false

namespace Audience

variable {α : Type}

/-- The rows of an import that its report **does not name**. -/
def ImportSummary.accepted (summary : ImportSummary) (rows : List α) : List α :=
  (rows.zipIdx.filter fun row => summary.errors.all (·.1 != row.2)).map (·.1)

/-! ### Screening -/

variable {check : α → Option Rejection} {place : Nat} {row : α} {rows : List α}

theorem screen_cons_of_none (h : check row = none) :
    screen check place (row :: rows) =
      { accepted := row :: (screen check (place + 1) rows).accepted,
        rejected := (screen check (place + 1) rows).rejected } := by
  rw [screen, h]

theorem screen_cons_of_some {rejection : Rejection} (h : check row = some rejection) :
    screen check place (row :: rows) =
      { accepted := (screen check (place + 1) rows).accepted,
        rejected := (place, rejection) :: (screen check (place + 1) rows).rejected } := by
  rw [screen, h]

/-- The rows to be stored are those that nothing is wrong with. -/
theorem accepted_screen (check : α → Option Rejection) (place : Nat) (rows : List α) :
    (screen check place rows).accepted = rows.filter fun row => (check row).isNone := by
  induction rows generalizing place with
  | nil => rfl
  | cons row rows ih =>
      cases hrow : check row with
      | none => rw [screen_cons_of_none hrow, List.filter_cons_of_pos (by simp [hrow]), ih]
      | some rejection =>
          rw [screen_cons_of_some hrow, List.filter_cons_of_neg (by simp [hrow]), ih]

theorem le_of_mem_rejected {entry : Nat × Rejection}
    (h : entry ∈ (screen check place rows).rejected) : place ≤ entry.1 := by
  induction rows generalizing place with
  | nil => cases h
  | cons row rows ih =>
      cases hrow : check row with
      | none =>
          rw [screen_cons_of_none hrow] at h
          exact Nat.le_of_succ_le (ih h)
      | some rejection =>
          rw [screen_cons_of_some hrow] at h
          rcases List.mem_cons.1 h with rfl | hrest
          · exact Nat.le_refl place
          · exact Nat.le_of_succ_le (ih hrest)

/-- The rows to be stored are those that the report does not name. -/
theorem filter_zipIdx_screen (check : α → Option Rejection) (place : Nat) (rows : List α) :
    ((rows.zipIdx place).filter fun row =>
        (screen check place rows).rejected.all (·.1 != row.2)).map (·.1)
      = (screen check place rows).accepted := by
  induction rows generalizing place with
  | nil => rfl
  | cons row rows ih =>
      cases hrow : check row with
      | none =>
          -- the report names later places only
          have hlater : (screen check (place + 1) rows).rejected.all (·.1 != place) = true := by
            rw [List.all_eq_true]
            intro entry hentry
            have hle := le_of_mem_rejected hentry
            rw [bne_iff_ne]
            omega
          rw [screen_cons_of_none hrow, List.zipIdx_cons, List.filter_cons_of_pos (by exact hlater),
            List.map_cons, ih]
      | some rejection =>
          -- what is reported of this row says nothing of the later ones
          have hothers : ∀ other ∈ rows.zipIdx (place + 1),
              (((place, rejection) :: (screen check (place + 1) rows).rejected).all
                  (·.1 != other.2))
                = (screen check (place + 1) rows).rejected.all (·.1 != other.2) := by
            intro other hother
            have hle := List.le_snd_of_mem_zipIdx hother
            have hne : (place != other.2) = true := by
              rw [bne_iff_ne]
              omega
            rw [List.all_cons, hne, Bool.true_and]
          rw [screen_cons_of_some hrow, List.zipIdx_cons, List.filter_cons_of_neg (by simp),
            List.filter_congr hothers, ih]

theorem accepted_summary_screen (check : α → Option Rejection) (rows : List α) :
    (screen check 0 rows).summary.accepted rows = (screen check 0 rows).accepted :=
  filter_zipIdx_screen check 0 rows

/-! ### Imports -/

theorem Customer.rejection?_eq_none {owner : String} {customer : Customer} :
    customer.rejection? owner = none ↔ customer.ownerId = owner ∧ customer.fault? = none := by
  rw [rejection?]
  split
  · next hne => simp [hne]
  · next heq => simp [not_not.1 heq]

theorem Order.rejection?_eq_none {known : List Uuid} {order : Order} :
    order.rejection? known = none ↔ order.fault? = none ∧ order.customerId ∈ known := by
  rw [rejection?]
  cases order.fault? with
  | some fault => simp
  | none => simp

namespace RecordStore

variable (store : RecordStore) (owner : String)

/-- An import of customers adds those that its report accepts, and nothing else. -/
theorem importCustomers_eq (rows : List Customer) :
    (store.importCustomers owner rows).1 =
      { store with customers := store.customers
          ++ ((store.importCustomers owner rows).2.accepted rows).map (owner, ·) } := by
  rw [importCustomers, screenCustomers]
  simp only [accepted_summary_screen]

/-- An import of orders adds those that its report accepts, and nothing else. -/
theorem importOrders_eq (rows : List Order) :
    (store.importOrders owner rows).1 =
      { store with orders := store.orders
          ++ ((store.importOrders owner rows).2.accepted rows).map (owner, ·) } := by
  rw [importOrders, screenOrders]
  simp only [accepted_summary_screen]

/-- A customer is accepted just when it belongs to the account and is without fault. -/
theorem accepted_importCustomers (rows : List Customer) :
    (store.importCustomers owner rows).2.accepted rows
      = rows.filter fun customer => customer.ownerId = owner ∧ customer.fault? = none := by
  rw [importCustomers, screenCustomers, accepted_summary_screen, accepted_screen]
  refine List.filter_congr fun customer _ => ?_
  rw [Bool.eq_iff_iff, Option.isNone_iff_eq_none, Customer.rejection?_eq_none, decide_eq_true_iff]

/-- An order is accepted just when it **is without fault and of a customer of the account**. -/
theorem accepted_importOrders (rows : List Order) :
    (store.importOrders owner rows).2.accepted rows
      = rows.filter fun order => order.fault? = none ∧
          order.customerId ∈ (store.customersOf owner).map (·.id) := by
  rw [importOrders, screenOrders, accepted_summary_screen, accepted_screen]
  refine List.filter_congr fun order _ => ?_
  rw [Bool.eq_iff_iff, Option.isNone_iff_eq_none, Order.rejection?_eq_none, decide_eq_true_iff]

end RecordStore

end Audience
