import Audience.Proofs.Calendar.Latest
import Audience.Proofs.Record.OrderCount
import Mathlib.Logic.Relation

/-!
**Orders that do not count leave no trace**.

The record of a customer is made of the orders that count: those of the customer that have not been
refunded and are without fault.  Other orders may be there or not, in any place.  Of the orders that
count the record tells their number, their latest day and the sum of their amounts.  The number and
the latest day do not depend on the order in which they came.  The sum may depend on it, because
every addition is rounded, and may be too great for a number in one order only.  It always has its
place in the record, as null if it is not a number.

Main definitions:

* `Customer.Excludes` — an order **does not count** for a customer;
* `Customer.Gains` — a list of orders **gains one** that does not count;
* `Record.names` — the names of the fields of a record, those with the value null included;
* `Record.SameBut` — records with **the same fields**, and the same values in all but one of them.

Main results:

* `Customer.record_eq_of_gains` — an order that does not count leaves the record as it is;
* `Customer.sameBut_record_perm` — the order of the list shows in the sum alone;
* `excluded_orders_leave_no_trace` — both of this together.
-/

set_option relaxedAutoImplicit false
set_option autoImplicit false

namespace Audience

/-! ### Records that differ in one value -/

/-- The names of the fields of a record. -/
def Record.names (record : Record) : List String := record.fields.map (·.1)

/-- What names there are after giving a key a value depends on the names before. -/
theorem Members.map_fst_insert {members others : Members}
    (h : members.map (·.1) = others.map (·.1)) (key : String) (value other : Json) :
    (members.insert key value).map (·.1) = (others.insert key other).map (·.1) := by
  induction members generalizing others with
  | nil =>
      obtain rfl : others = [] := List.map_eq_nil_iff.1 h.symm
      rfl
  | cons entry members ih =>
      obtain ⟨entry', others', rfl, hkey, hrest⟩ := List.map_eq_cons_iff.1 h.symm
      obtain ⟨k, v⟩ := entry
      obtain ⟨k', v'⟩ := entry'
      obtain rfl : k' = k := hkey
      simp only [insert]
      split
      · simp [hrest]
      · split
        · simp [hrest]
        · simp [ih hrest.symm]

/-- Two records have **the same fields**, and the same values in all but one of them. -/
structure Record.SameBut (field : String) (a b : Record) : Prop where
  /-- The fields are the same. -/
  names : a.names = b.names
  /-- The other values are the same. -/
  get? : ∀ other ≠ field, a.get? other = b.get? other

namespace Record.SameBut

variable {field : String} {a b : Record}

theorem insert_field (record : Record) (field : String) (value other : Json) :
    SameBut field (record.insert field value) (record.insert field other) where
  names := Members.map_fst_insert rfl field value other
  get? name hname := by rw [get?_insert_of_ne record hname, get?_insert_of_ne record hname]

theorem insert (h : SameBut field a b) (name : String) (value : Json) :
    SameBut field (a.insert name value) (b.insert name value) where
  names := Members.map_fst_insert h.names name value value
  get? other hother := by
    by_cases hname : other = name
    · rw [hname, get?_insert_self, get?_insert_self]
    · rw [get?_insert_of_ne a hname, get?_insert_of_ne b hname, h.get? other hother]

theorem insertText (h : SameBut field a b) (name : String) (text : Option String) :
    SameBut field (Customer.insertText a name text) (Customer.insertText b name text) := by
  cases text with
  | none => exact h
  | some s => exact h.insert name (.string s)

end Record.SameBut

/-! ### Which orders count -/

namespace Customer

/-- An order **does not count** for a customer: it is another customer's, it has been refunded, or
something is wrong with it. -/
def Excludes (customer : Customer) (order : Order) : Prop :=
  order.customerId ≠ customer.id ∨ order.status = .refunded ∨ order.fault? ≠ none

variable {customer : Customer} {orders others : List Order}

theorem counts_eq_true_iff {order : Order} :
    customer.counts order = true ↔
      order.customerId = customer.id ∧ order.status ≠ .refunded ∧ order.fault? = none := by
  simp [counts, and_assoc]

theorem counts_eq_false_iff {order : Order} :
    customer.counts order = false ↔ customer.Excludes order := by
  rw [← Bool.not_eq_true, counts_eq_true_iff, Excludes]
  simp only [ne_eq, not_and_or, not_not]

theorem filter_counts (customer : Customer) (orders : List Order) :
    orders.filter customer.counts = orders.filter fun order =>
      order.customerId = customer.id ∧ order.status ≠ .refunded ∧ order.fault? = none := by
  refine List.filter_congr ?_
  intro order _
  rw [Bool.eq_iff_iff, decide_eq_true_iff, counts_eq_true_iff]

theorem record_eq_of_filter_eq (h : orders.filter customer.counts = others.filter customer.counts) :
    customer.record orders = customer.record others := by
  simp only [record, h]

/-- A list of orders **gains one** that does not count, in any place. -/
inductive Gains (customer : Customer) : List Order → List Order → Prop
  | one (before : List Order) {order : Order} (after : List Order)
      (h : customer.Excludes order) :
      Gains customer (before ++ after) (before ++ order :: after)

/-- An order that does not count leaves the record as it is. -/
theorem record_eq_of_gains (h : customer.Gains orders others) :
    customer.record orders = customer.record others := by
  obtain ⟨before, after, hexcluded⟩ := h
  refine record_eq_of_filter_eq ?_
  rw [List.filter_append, List.filter_append, List.filter_cons_of_neg]
  rw [counts_eq_false_iff.2 hexcluded]
  decide

theorem record_eq_of_eqvGen (h : Relation.EqvGen customer.Gains orders others) :
    customer.record orders = customer.record others := by
  have hclass : Quot.mk customer.Gains orders = Quot.mk customer.Gains others :=
    Quot.eqvGen_sound h
  exact congrArg (Quot.lift customer.record fun _ _ => record_eq_of_gains) hclass

/-- The order of the list shows in the sum alone. -/
theorem sameBut_record_perm (customer : Customer) (h : orders.Perm others) :
    Record.SameBut "total_spend" (customer.record orders) (customer.record others) := by
  have hcounted := h.filter customer.counts
  have hlatest := Date.latest?_perm (hcounted.map (·.date))
  simp only [record]
  rw [hcounted.length_eq, hlatest]
  -- the sum is entered last, and what comes after it is the same
  exact ((Record.SameBut.insert_field _ _ _ _).insertText _ _).insertText _ _

end Customer

/-- **Orders that do not count leave no trace**, and the order in which the others came shows in the
sum of their amounts alone.  The record of a customer is that of the orders of the customer which
have not been refunded and are without fault; it stays the same if orders of other customers,
refunded ones and faulty ones are put in or taken out in any places.  In another order the same
orders give a record with the same fields and the same values, so that their number and their latest
day are the same, but for what was spent.

The field `total_spend` keeps its place, but its value need not be a number in every order: `2^969`
twice after the largest double is lost in rounding, so that the sum is the largest double, and
before it takes the sum to infinity, which is written as null.  Hence `get?` finds the field in one
order and not in another. -/
theorem excluded_orders_leave_no_trace (customer : Customer) (orders : List Order) :
    customer.record orders = customer.record (orders.filter fun order =>
        order.customerId = customer.id ∧ order.status ≠ .refunded ∧ order.fault? = none) ∧
      (∀ others, Relation.EqvGen customer.Gains orders others →
        customer.record others = customer.record orders) ∧
      ∀ others, orders.Perm others →
        (customer.record others).names = (customer.record orders).names ∧
          ∀ field ≠ "total_spend",
            (customer.record others).get? field = (customer.record orders).get? field := by
  refine ⟨?own, ?gains, ?perm⟩
  case own =>
    refine Customer.record_eq_of_filter_eq ?_
    rw [← customer.filter_counts, List.filter_filter]
    simp only [Bool.and_self]
  case gains =>
    intro others h
    exact (Customer.record_eq_of_eqvGen h).symm
  case perm =>
    intro others h
    have hsame := customer.sameBut_record_perm h.symm
    exact ⟨hsame.names, hsame.get?⟩

/-- A foreign order and a refunded one leave no trace in the record, and the other two may change
places. -/
theorem mixedOrders_leave_no_trace :
    let customer := RecordStore.customerNamed "o1" "Ada" 1
    let first := RecordStore.orderOf 1 10 .confirmed
    let second := RecordStore.orderOf 1 11 .pending
    let foreign := RecordStore.orderOf 2 12 .confirmed
    let refunded := RecordStore.orderOf 1 13 .refunded
    Relation.EqvGen customer.Gains [first, foreign, second] [refunded, first, second] ∧
      customer.record [refunded, first, second] = customer.record [first, foreign, second] ∧
      [first, second].Perm [second, first] ∧
      (customer.record [second, first]).get? "order_count" = some (.int 2) := by
  intro customer first second foreign refunded
  have hforeign : customer.Gains [first, second] [first, foreign, second] :=
    .one [first] [second] (.inl (by decide))
  have hrefunded : customer.Gains [first, second] [refunded, first, second] :=
    .one [] [first, second] (.inr (.inl rfl))
  have hgains : Relation.EqvGen customer.Gains [first, foreign, second] [refunded, first, second] :=
    .trans _ _ _ (.symm _ _ (.rel _ _ hforeign)) (.rel _ _ hrefunded)
  have hperm : [first, second].Perm [second, first] := List.Perm.swap second first []
  obtain ⟨-, hsame, -⟩ := excluded_orders_leave_no_trace customer [first, foreign, second]
  obtain ⟨-, -, hother⟩ := excluded_orders_leave_no_trace customer [first, second]
  refine ⟨hgains, hsame _ hgains, hperm, ?_⟩
  rw [(hother _ hperm).2 "order_count" (by decide)]
  decide +kernel

/-- What was spent is the exception: of the same amounts the sum is finite in one order and not in
another. -/
example :
    let largest := Double.signed false ⟨Double.top - 1, by decide⟩
    let small := Double.ofInt (2 ^ 969)
    (Double.sum [largest, small, small]).isFinite = true ∧
      (Double.sum [small, small, largest]).isFinite = false := by decide +kernel

end Audience
