import Audience.Proofs.Record.Import

/-!
**Imports in batches**.

An import accounts for every row: each one is stored or reported, at its place.  What is found wrong
with a row does not depend on the rows that come with it, nor on what an import adds to the store;
so rows can be brought in at once or one batch after another, and come to the same.

Main definitions:

* `ImportSummary.AccountsFor` — a report **names just the rows** that a check keeps out;
* `ImportSummary.followedBy` — two reports in a row, with the places of the second one shifted;
* `TakesRowByRow` — an import that accounts for every row, stores the others in their order, and
  can be split anywhere.

Main results:

* `rejected_screen` — the rows that are kept out, with their places;
* `summary_screen_append` — the report on rows in two parts is the reports on the parts;
* `takesRowByRow_of_screen` — rows are taken one by one if what is added does not change the check;
* `RecordStore.imports_take_rows_one_by_one` — this holds of customers and of orders.
-/

set_option relaxedAutoImplicit false
set_option autoImplicit false

namespace Audience

variable {α : Type}

/-! ### Reports -/

/-- A report **accounts for** the rows of an import: every row is counted, and the places that are
named, each once and in order, are those of the rows that the check keeps out, with what is wrong
with them. -/
structure ImportSummary.AccountsFor (summary : ImportSummary) (check : α → Option Rejection)
    (rows : List α) : Prop where
  /-- Every row is counted. -/
  total : summary.succeeded + summary.failed = rows.length
  /-- As many places are named as rows are kept out. -/
  length_errors : summary.errors.length = summary.failed
  /-- No place is named twice. -/
  increasing : (summary.errors.map (·.1)).Pairwise (· < ·)
  /-- The rows at these places are those that are kept out. -/
  mem_errors : ∀ place rejection, (place, rejection) ∈ summary.errors ↔
    ∃ row, rows[place]? = some row ∧ check row = some rejection

/-- The report on so many rows, followed by the report on further ones. -/
def ImportSummary.followedBy (first : ImportSummary) (count : Nat) (second : ImportSummary) :
    ImportSummary where
  succeeded := first.succeeded + second.succeeded
  failed := first.failed + second.failed
  errors := first.errors ++ second.errors.map fun entry => (count + entry.1, entry.2)

/-! ### Screening -/

variable (check : α → Option Rejection) (place : Nat)

/-- The rows that are kept out, with their places. -/
theorem rejected_screen (rows : List α) :
    (screen check place rows).rejected
      = (rows.zipIdx place).filterMap fun row => (check row.1).map fun rejection =>
          (row.2, rejection) := by
  induction rows generalizing place with
  | nil => rfl
  | cons row rows ih =>
      rw [List.zipIdx_cons, List.filterMap_cons]
      cases hrow : check row with
      | none => rw [screen_cons_of_none hrow, ih]; rfl
      | some rejection => rw [screen_cons_of_some hrow, ih]; rfl

/-- Every row is stored or kept out. -/
theorem length_screen (rows : List α) :
    (screen check place rows).accepted.length + (screen check place rows).rejected.length
      = rows.length := by
  induction rows generalizing place with
  | nil => rfl
  | cons row rows ih =>
      have hrest := ih (place + 1)
      cases hrow : check row with
      | none =>
          rw [screen_cons_of_none hrow]
          simp only [List.length_cons]
          omega
      | some rejection =>
          rw [screen_cons_of_some hrow]
          simp only [List.length_cons]
          omega

/-- The report on rows that have been screened accounts for them. -/
theorem accountsFor_screen (rows : List α) :
    (screen check 0 rows).summary.AccountsFor check rows where
  total := length_screen check 0 rows
  length_errors := rfl
  increasing := by
    have hplaces : (rows.zipIdx.map Prod.snd).Pairwise (· < ·) := by
      rw [List.zipIdx_map_snd]
      exact List.pairwise_lt_range'
    -- the places of the rows that are kept out come in the order of all places
    rw [Screening.summary, rejected_screen, List.pairwise_map]
    refine (List.pairwise_map.1 hplaces).filterMap _ ?_
    intro row other hlt entry hentry another hanother
    obtain ⟨_, -, rfl⟩ := Option.map_eq_some_iff.1 hentry
    obtain ⟨_, -, rfl⟩ := Option.map_eq_some_iff.1 hanother
    exact hlt
  mem_errors := by
    intro place rejection
    rw [Screening.summary, rejected_screen, List.mem_filterMap]
    constructor
    · rintro ⟨⟨row, index⟩, hmem, hrow⟩
      obtain ⟨found, hfound, h⟩ := Option.map_eq_some_iff.1 hrow
      obtain ⟨rfl, rfl⟩ := Prod.mk.inj h
      exact ⟨row, List.mk_mem_zipIdx_iff_getElem?.1 hmem, hfound⟩
    · rintro ⟨row, hrow, hfound⟩
      refine ⟨(row, place), List.mk_mem_zipIdx_iff_getElem?.2 hrow, ?_⟩
      rw [hfound]
      rfl

/-- The report on rows in two parts is the report on the first part, followed by that on the
second. -/
theorem summary_screen_append (first second : List α) :
    (screen check 0 (first ++ second)).summary
      = (screen check 0 first).summary.followedBy first.length (screen check 0 second).summary := by
  have hrejected : (screen check 0 (first ++ second)).rejected
      = (screen check 0 first).rejected
        ++ (screen check 0 second).rejected.map fun entry => (first.length + entry.1, entry.2) := by
    rw [rejected_screen, rejected_screen, rejected_screen, List.zipIdx_append,
      List.filterMap_append, Nat.zero_add, List.zipIdx_eq_map_add (l := second),
      List.filterMap_map, List.map_filterMap]
    simp [Function.comp_def]
  simp [Screening.summary, ImportSummary.followedBy, hrejected, accepted_screen]

/-! ### Imports -/

/-- An import takes its rows one by one: the report accounts for every row, those that the check
does not keep out are added in their order, and rows can be brought in by two imports as well, with
the same store in the end and one report followed by the other. -/
structure TakesRowByRow (check : RecordStore → α → Option Rejection)
    (add : RecordStore → List α → RecordStore)
    (bring : RecordStore → List α → RecordStore × ImportSummary) : Prop where
  /-- Every row is accounted for. -/
  accounts : ∀ store rows, (bring store rows).2.AccountsFor (check store) rows
  /-- The rows that nothing is wrong with are added in their order. -/
  appends : ∀ store rows,
    (bring store rows).1 = add store (rows.filter fun row => (check store row).isNone)
  /-- Two imports in a row are one. -/
  splits : ∀ store first second,
    bring store (first ++ second) =
      ((bring (bring store first).1 second).1,
        (bring store first).2.followedBy first.length (bring (bring store first).1 second).2)

/-- Rows are taken one by one if what is added does not change the check. -/
theorem takesRowByRow_of_screen {check : RecordStore → α → Option Rejection}
    {add : RecordStore → List α → RecordStore}
    {bring : RecordStore → List α → RecordStore × ImportSummary}
    (hbring : ∀ store rows, bring store rows =
      (add store (screen (check store) 0 rows).accepted, (screen (check store) 0 rows).summary))
    (hadd : ∀ store xs ys, add store (xs ++ ys) = add (add store xs) ys)
    (hcheck : ∀ store xs, check (add store xs) = check store) :
    TakesRowByRow check add bring where
  accounts := by
    intro store rows
    rw [hbring]
    exact accountsFor_screen (check store) rows
  appends := by
    intro store rows
    rw [hbring, accepted_screen]
  splits := by
    intro store first second
    simp only [hbring, hcheck]
    rw [summary_screen_append, accepted_screen, accepted_screen, accepted_screen,
      List.filter_append, hadd]

/-- **Imports account for every row and can be split**.  A customer is kept out for what is wrong
with it or for its account, and an order for what is wrong with it or if the account has no customer
of its identifier when the import begins. -/
theorem RecordStore.imports_take_rows_one_by_one (owner : String) :
    TakesRowByRow (fun _ => Customer.rejection? owner)
      (fun store rows => { store with customers := store.customers ++ rows.map (owner, ·) })
      (fun store => store.importCustomers owner) ∧
    TakesRowByRow (fun store => Order.rejection? ((store.customersOf owner).map (·.id)))
      (fun store rows => { store with orders := store.orders ++ rows.map (owner, ·) })
      (fun store => store.importOrders owner) := by
  constructor
  · refine takesRowByRow_of_screen ?_ ?_ ?_
    · intro store rows
      rfl
    · intro store xs ys
      simp
    · intro store xs
      rfl
  · refine takesRowByRow_of_screen ?_ ?_ ?_
    · intro store rows
      rfl
    · intro store xs ys
      simp
    -- orders do not change the customers of an account
    · intro store xs
      rfl

end Audience
