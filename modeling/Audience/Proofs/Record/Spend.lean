import Audience.Proofs.Double.Sum
import Audience.Proofs.Predicate.Agreement
import Audience.Proofs.Record.Counted

/-!
**What a customer has spent** is a number, unless it is beyond all doubles.

The amounts of orders are finite and not negative, or else the orders do not count.  So their sum is
not negative and not below any of the amounts.  It is rounded at every step, and many large amounts
may come to infinity, for which JSON has no number: then the record of the customer holds null, and
every condition on the field finds it without a value.  This is the only way in which the field can
be without a value, and it takes amounts beyond `2 ^ 970` or more than `2 ^ 53` orders.

Main definitions:

* `Customer.spend` — **what a customer has spent**.

Main results:

* `Order.exists_hasRank` — the amount of an order without fault is finite and not negative;
* `Customer.get?_total_spend_eq` — the record of a customer holds what was spent, unless it is
  infinite;
* `Condition.outcome_eq_missingField_iff` — when a condition finds no value;
* `RecordStore.spend_is_present_iff` — what all records of customers hold, **after any deposits**.
-/

set_option relaxedAutoImplicit false
set_option autoImplicit false

namespace Audience

/-! ### Amounts -/

/-- The amount of an order without fault is finite and not negative. -/
theorem Order.exists_hasRank {order : Order} (h : order.fault? = none) :
    ∃ r, order.amount.HasRank r ∧ r < Double.top := by
  have hproper : order.amount.isFinite = true ∧ order.amount.isBelow .zero = false := by
    simpa [fault?] using h
  obtain ⟨hfinite, hbelow⟩ := hproper
  cases hamount : order.amount with
  | nan =>
      rw [hamount] at hfinite
      cases hfinite
  | signed negative rank =>
      rw [hamount] at hfinite hbelow
      have htop : rank.val < Double.top := of_decide_eq_true hfinite
      cases negative with
      | false => exact ⟨rank.val, .nonneg rank, htop⟩
      | true =>
          -- of the negative doubles only zero is not below zero
          have hzero : rank = 0 := by
            by_contra hne
            have hpos : 0 < rank.val := Nat.pos_of_ne_zero fun h => hne (Fin.ext h)
            have hlt : compare (-(rank.val : Int)) 0 = .lt := Int.compare_eq_lt.2 (by omega)
            simp [Double.isBelow, Double.compare?, Double.place, Double.zero, Double.zeroOf, hlt]
              at hbelow
          rw [hzero]
          exact ⟨0, .negZero, by decide⟩

/-- A comparison that is made at all does not tell of a missing field. -/
theorem Operator.compare_ne_missingField (op : Operator) (operand : Operand) (value : Json) :
    op.compare operand value ≠ .error .missingField := by
  have horAnomaly : ∀ {α : Type} (reading : Except Uncoercible α) {f : α → Except AnomalyKind Bool},
      (∀ a, f a ≠ .error .missingField) → (orAnomaly reading >>= f) ≠ .error .missingField := by
    intro α reading f hf
    cases reading with
    | ok a => exact hf a
    | error cause => nofun
  unfold compare
  split
  · nofun
  · exact horAnomaly _ fun _ => horAnomaly _ fun _ => nofun
  · exact horAnomaly _ fun _ => horAnomaly _ fun _ => nofun
  · exact horAnomaly _ fun _ => horAnomaly _ fun _ => nofun
  · split
    · nofun
    · exact horAnomaly _ fun _ => nofun

/-- A condition tells of a missing field just when the record has no value for it. -/
theorem Condition.outcome_eq_missingField_iff {c : Condition} {record : Record} :
    c.outcome record = .error .missingField ↔ record.get? c.field = none := by
  unfold outcome
  cases record.get? c.field with
  | none => simp
  | some value => simp [Operator.compare_ne_missingField]

/-! ### Sums of amounts -/

namespace Customer

/-- **What a customer has spent** with the given orders. -/
def spend (customer : Customer) (orders : List Order) : Double :=
  Double.sum ((orders.filter customer.counts).map (·.amount))

variable (customer : Customer) (orders : List Order)

theorem nonneg_amounts : Double.Nonneg ((orders.filter customer.counts).map (·.amount)) := by
  intro amount hamount
  obtain ⟨order, horder, rfl⟩ := List.mem_map.1 hamount
  obtain ⟨-, -, hfault⟩ := counts_eq_true_iff.1 (List.mem_filter.1 horder).2
  obtain ⟨r, hr, -⟩ := Order.exists_hasRank hfault
  exact ⟨r, hr⟩

theorem isFinite_spend_iff :
    (customer.spend orders).isFinite = true ↔ customer.spend orders ≠ .infinity false := by
  obtain ⟨t, ht, -⟩ := Double.exists_sum (customer.nonneg_amounts orders)
  have hle := ht.le_top
  rw [spend, ht.isFinite_iff, ne_eq, ht.eq_infinity_iff]
  omega

/-- The record of a customer holds what was spent, unless it is infinite. -/
theorem get?_total_spend_eq :
    (customer.record orders).get? "total_spend"
      = if customer.spend orders = .infinity false then none
        else some (.float (customer.spend orders)) := by
  have hfinite := customer.isFinite_spend_iff orders
  rw [get?_total_spend, ← spend, Json.ofDouble]
  split
  · next h => simp [hfinite.1 h, Json.isNull]
  · next h =>
    rw [hfinite, not_not] at h
    simp [h]

end Customer

/-! ### Deposits -/

namespace RecordStore

/-- **What customers have spent is a number unless it is infinite.**  After any deposits the record
of every customer of an account holds, as what the customer has spent, a number that is not negative
and not below the amount of any order of the customer that has been accepted and not refunded.  Only
if the amounts come to infinity does it hold none, and just then a condition on the field tells of a
missing field.  Up to `2 ^ 53` orders with amounts of at most `2 ^ 970` do not come to infinity. -/
theorem spend_is_present_iff (history : List (String × Deposit)) (owner : String)
    {customer : Customer} (hcustomer : customer ∈ (replay {} history).1.customersOf owner) :
    let store := (replay {} history).1
    let orders := store.ordersOf owner
    let record := customer.record orders
    let counted := orders.filter fun order =>
      order.customerId = customer.id ∧ order.status ≠ .refunded
    let spend := Double.sum (counted.map (·.amount))
    record ∈ store.recordsFor owner ∧
      (record.get? "total_spend"
        = if spend = .infinity false then none else some (.float spend)) ∧
      Double.zero.isAtMost spend = true ∧
      (∀ order ∈ counted, order.amount.isAtMost spend = true) ∧
      (∀ c : Condition, c.field = "total_spend" →
        (c.outcome record = .error .missingField ↔ spend = .infinity false)) ∧
      ((∀ order ∈ counted, order.amount.isAtMost (.ofInt (2 ^ 970)) = true) →
        counted.length ≤ 2 ^ 53 → spend ≠ .infinity false) := by
  intro store orders record counted spend
  -- every order that has been accepted is without fault
  have hcounted : counted = orders.filter customer.counts := by
    refine List.filter_congr ?_
    intro order horder
    obtain ⟨hfault, -⟩ := (isSound_replay isSound_empty history).orders owner order horder
    rw [Bool.eq_iff_iff, decide_eq_true_iff, Customer.counts_eq_true_iff]
    simp [hfault]
  have hspend : spend = customer.spend orders := by
    simp only [spend, hcounted, Customer.spend]
  have hamounts : Double.Nonneg (counted.map (·.amount)) := by
    rw [hcounted]
    exact customer.nonneg_amounts orders
  have hget := customer.get?_total_spend_eq orders
  rw [← hspend] at hget
  obtain ⟨t, -, hzero, hterms⟩ := Double.exists_sum hamounts
  refine ⟨?member, hget, hzero, ?terms, ?missing, ?finite⟩
  case member =>
    exact List.mem_append_right _ (List.mem_map.2 ⟨customer, hcustomer, rfl⟩)
  case terms =>
    intro order horder
    exact hterms order.amount (List.mem_map.2 ⟨order, horder, rfl⟩)
  case missing =>
    intro c hc
    rw [Condition.outcome_eq_missingField_iff, hc, hget]
    simp
  case finite =>
    intro hsmall hlength
    have hterms : ∀ amount ∈ counted.map (·.amount), amount.isAtMost (.ofInt (2 ^ 970)) = true :=
      List.forall_mem_map.2 hsmall
    have hfinite : spend.isFinite = true :=
      Double.isFinite_sum hamounts (Nat.le_refl 970) hterms (by simpa)
    rw [hspend] at hfinite ⊢
    exact (customer.isFinite_spend_iff orders).1 hfinite

/-- What was spent on two orders is found, and the refunded order is not in it. -/
theorem onceImported_spend_is_present :
    customerNamed "o1" "Ada" 1 ∈ (replay {} onceImported).1.customersOf "o1" ∧
      ∃ record ∈ (replay {} onceImported).1.recordsFor "o1",
        record.get? "total_spend" = some (.float (.ofInt 20)) := by
  have hmember : customerNamed "o1" "Ada" 1 ∈ (replay {} onceImported).1.customersOf "o1" := by
    decide +kernel
  obtain ⟨hrecord, hspend, -⟩ := spend_is_present_iff onceImported "o1" hmember
  refine ⟨hmember, _, hrecord, hspend.trans ?_⟩
  decide +kernel

/-- Imports of two orders whose amounts are finite and come to infinity. -/
def lavishImports : List (String × Deposit) :=
  [("o1", .customers [customerNamed "o1" "Ada" 1]),
    ("o1", .orders [{ orderOf 1 10 .confirmed with amount := .ofDecimal false 1 308 },
      { orderOf 1 11 .confirmed with amount := .ofDecimal false 1 308 }])]

/-- **A spend beyond all numbers is missing**: both orders are accepted, and a customer who has
spent that much is not one who has spent more than a thousand. -/
theorem lavishImports_lose_spend :
    (∀ entry ∈ lavishImports, entry.2.isImport = true) ∧
      ∃ record ∈ (replay {} lavishImports).1.recordsFor "o1",
        record.orderCount = 2 ∧ record.get? "total_spend" = none ∧
          Condition.evaluate record
              ⟨"c1", "total_spend", .greaterThan, .number (.ofInt 1000)⟩
            = ⟨false, [⟨"c1", "total_spend", .missingField⟩]⟩ := by
  refine ⟨by decide, ?_⟩
  decide +kernel

end RecordStore

end Audience
