import Audience.Proofs.Double.Exceptional
import Audience.Proofs.Double.Notation
import Audience.Proofs.Json.Proper
import Audience.Proofs.Record.OrderCount
import Audience.Proofs.Rule.Comparison
import Audience.Proofs.Rule.Number
import Audience.Proofs.Rule.Reading
import Audience.Proofs.Text.Lowercase

/-!
**Equality** of values with operands.

Values are equal to operands if their texts are.  A number of a record is written by itself, and a
number that a condition is written with becomes a double first.  So a whole number need not have the
text of the same number in a condition; it keeps its text if that is the text of the double next to
it, as it is up to `2 ^ 53` but not for all numbers beyond.  Apart from this equal texts are those
of equal doubles, because the text of a double is read as the double.

The order of numbers is that of the doubles.  So equality follows the order but in two cases: for
whole numbers that do not keep their text, and for the two zeros, neither of which is below the
other although their texts differ.  What a customer without orders has spent is negative zero.

Main definitions:

* `Json.keepsText` — has a value **the same text in a condition**?
* `Double.oppositeZeros` — are two doubles the two zeros?
* `Condition.equalityFollowsOrder` — do the comparisons for equality agree with those by order?
* `Condition.OnNumbers` — a condition compares a number of a record with a number.

Main results:

* `Double.compare?_eq_iff` — doubles neither of which is below the other are equal or opposite
  zeros;
* `Json.folded_eq_iff` — the texts of a number and of an operand are equal if the doubles are
  and the number keeps its text;
* `values_equal_themselves` — **which values equal themselves**;
* `equality_follows_order_iff` — **when equality follows the order** of numbers.
-/

set_option relaxedAutoImplicit false
set_option autoImplicit false

namespace Audience

/-! ### Doubles neither of which is below the other -/

/-- Are these the two zeros? -/
def Double.oppositeZeros : Double → Double → Bool
  | signed negative rank, signed negative' rank' =>
    negative != negative' && rank.val == 0 && rank'.val == 0
  | _, _ => false

/-- Doubles neither of which is below the other are equal or opposite zeros. -/
theorem Double.compare?_eq_iff {x y : Double} (hx : x.isNaN = false) :
    x.compare? y = some .eq ↔ x = y ∨ x.oppositeZeros y = true := by
  cases x with
  | nan => simp at hx
  | signed n r =>
    cases y with
    | nan => simp [oppositeZeros]
    | signed m s =>
      rw [compare?, Option.some_inj, compare_eq_iff_eq]
      simp only [oppositeZeros, Bool.and_eq_true, bne_iff_ne, beq_iff_eq, signed.injEq, Fin.ext_iff]
      generalize r.val = a
      generalize s.val = b
      cases n <;> cases m <;>
        simp only [place, reduceCtorEq, if_true, if_false, ne_eq, not_true_eq_false,
          not_false_eq_true, true_and, false_and, or_false, false_or] <;> omega

theorem Double.oppositeZeros_self (x : Double) : x.oppositeZeros x = false := by
  cases x with
  | nan => rfl
  | signed negative rank => simp [oppositeZeros]

theorem Double.eq_zeroOf_of_oppositeZeros {negative : Bool} {rank : Fin (top + 1)} {y : Double}
    (h : (signed negative rank).oppositeZeros y = true) : y = zeroOf (!negative) := by
  cases y with
  | nan => cases h
  | signed negative' rank' =>
    simp only [oppositeZeros, Bool.and_eq_true, bne_iff_ne, beq_iff_eq] at h
    obtain ⟨⟨hsign, -⟩, hrank⟩ := h
    obtain rfl : rank' = 0 := Fin.ext hrank
    obtain rfl : negative' = !negative := Bool.eq_not.2 (Ne.symm hsign)
    rfl

/-! ### Texts of numbers -/

namespace Json

/-- Is this a number? -/
def isNumber : Json → Bool
  | int _ | float _ => true
  | _ => false

/-- Is this a text, a number or a truth value? -/
def isScalar : Json → Bool
  | string _ | bool _ => true
  | json => json.isNumber

/-- Has a value **the same text in a condition**?  There a whole number becomes a double. -/
def keepsText : Json → Bool
  | int n => Double.keepsWhole n
  | _ => true

variable {value operand : Json} {x y : Double}

theorem exists_number (h : value.isNumber = true) (hproper : value.isProper = true) :
    ∃ x, value.number = .ok (some x) := by
  cases value with
  | int n => exact ⟨_, rfl⟩
  | float x =>
      have hnan : x.isNaN = false := by
        cases x with
        | nan => cases hproper
        | signed negative rank => rfl
      exact ⟨x, by rw [number, hnan]; rfl⟩
  | _ => simp [isNumber] at h

theorem folded_ofJson_of_number (h : operand.isNumber = true)
    (hy : operand.number = .ok (some y)) : (Operand.ofJson operand).folded = .ok y.plain := by
  cases operand with
  | int n =>
      obtain rfl : Double.ofInt n = y := Option.some.inj (Except.ok.inj hy)
      rfl
  | float z =>
      obtain ⟨rfl, -⟩ := eq_of_number_float hy
      rfl
  | _ => simp [isNumber] at h

/-- The texts of a number and of an operand are equal if the doubles are and the number keeps
its text. -/
theorem folded_eq_iff (hvalue : value.isNumber = true) (hproper : value.isProper = true)
    (hx : value.number = .ok (some x)) :
    ∃ s, value.folded = .ok s ∧ (s = y.plain ↔ x = y ∧ value.keepsText = true) := by
  cases value with
  | int n =>
      obtain rfl : Double.ofInt n = x := Option.some.inj (Except.ok.inj hx)
      have hkeeps := Double.toString_eq_plain_iff (isFinite_ofInt_of_isWord hproper)
      refine ⟨toString n, congrArg Except.ok (Text.lowercase_eq_self fun c =>
        Double.lt_of_mem_toString), ?_⟩
      constructor
      · intro heq
        -- equal texts are read as one double
        have hread := Double.ofText?_toString n
        rw [heq, Double.ofText?_plain] at hread
        obtain rfl := Option.some.inj hread
        exact ⟨rfl, hkeeps.1 heq⟩
      · rintro ⟨rfl, h⟩
        exact hkeeps.2 h
  | float z =>
      obtain ⟨rfl, -⟩ := eq_of_number_float hx
      refine ⟨z.plain, congrArg Except.ok (Text.lowercase_eq_self fun c =>
        Double.lt_of_mem_plain hproper), ?_⟩
      exact ⟨fun heq => ⟨Double.plain_injective heq, rfl⟩, fun h => congrArg _ h.1⟩
  | _ => simp [isNumber] at hvalue

theorem folded_self_iff (hvalue : value.isScalar = true) (hproper : value.isProper = true) :
    ∃ s t, value.folded = .ok s ∧ (Operand.ofJson value).folded = .ok t ∧
      (s = t ↔ value.keepsText = true) := by
  cases value with
  | string s => exact ⟨_, _, rfl, rfl, iff_of_true rfl rfl⟩
  | bool b => exact ⟨_, _, rfl, rfl, iff_of_true rfl rfl⟩
  | int n =>
      obtain ⟨s, hs, hiff⟩ := folded_eq_iff (y := Double.ofInt n) rfl hproper rfl
      exact ⟨s, _, hs, rfl, hiff.trans (and_iff_right rfl)⟩
  | float z =>
      obtain ⟨x, hx⟩ := exists_number rfl hproper
      obtain ⟨s, hs, hiff⟩ := folded_eq_iff (y := x) rfl hproper hx
      exact ⟨s, _, hs, folded_ofJson_of_number rfl hx, hiff.trans (and_iff_right rfl)⟩
  | _ => simp [isScalar, isNumber] at hvalue

theorem keepsText_of_le (h : ∀ n, value = int n → n.natAbs ≤ 2 ^ 53) :
    value.keepsText = true := by
  cases value with
  | int n => exact Double.keepsWhole_of_le (h n rfl)
  | _ => rfl

end Json

/-! ### Conditions -/

variable {c : Condition} {json : Json}

/-- **Which values equal themselves.**  A condition for equality that is written with a text, a
number or a truth value holds of that value, evaluated or compiled, just if the value keeps its
text, and one for the opposite just if it does not.  All values but whole numbers beyond `2 ^ 53`
keep theirs. -/
theorem values_equal_themselves {record : Record} {value : Json}
    (hread : Condition.ofJson json = .ok c)
    (hwritten : Condition.writtenValue? json = some value) (hvalue : value.isScalar = true)
    (hproper : value.isProper = true) (hrecord : record.get? c.field = some value) :
    (c.operator = .equals → (c.evaluate record).holds = value.keepsText ∧
        c.compile.predicate.accepts record = value.keepsText) ∧
      (c.operator = .notEquals → (c.evaluate record).holds = !value.keepsText ∧
        c.compile.predicate.accepts record = !value.keepsText) ∧
      ((∀ n, value = .int n → n.natAbs ≤ 2 ^ 53) → value.keepsText = true) := by
  obtain ⟨s, t, hs, ht, hiff⟩ := Json.folded_self_iff hvalue hproper
  rw [← Condition.value_of_writtenValue? hread hwritten] at ht
  have hequal : (s == t) = value.keepsText := by
    rw [Bool.eq_iff_iff, beq_iff_eq, hiff]
  rw [Condition.accepts_compile, and_self, and_self]
  refine ⟨fun hop => ?_, fun hop => ?_, Json.keepsText_of_le⟩
  · rw [Condition.holds_text hrecord hs ht (by rw [hop]; rfl), hop, ← hequal]
    rfl
  · rw [Condition.holds_text hrecord hs ht (by rw [hop]; rfl), hop, ← hequal]
    rfl

/-- An age equals itself. -/
theorem thirty_equals_itself :
    let json : Json := .object [("field", .string "age"), ("id", .string "c1"),
      ("operator", .string "equals"), ("value", .int 30)]
    let record : Record := ⟨[("age", .int 30)]⟩
    ∃ c, Condition.ofJson json = .ok c ∧ (c.evaluate record).holds = true ∧
      c.compile.predicate.accepts record = true := by
  intro json record
  have hwritten : Condition.writtenValue? json = some (.int 30) := by decide
  have hrecord : record.get? "age" = some (.int 30) := by decide +kernel
  obtain ⟨hequals, -, hkeeps⟩ := values_equal_themselves rfl hwritten rfl (by decide) hrecord
  obtain ⟨hholds, haccepts⟩ := hequals rfl
  have hthirty : (Json.int 30).keepsText = true := hkeeps (by rintro _ ⟨⟩; decide)
  exact ⟨_, rfl, hholds.trans hthirty, haccepts.trans hthirty⟩

/-- **A number that differs from itself**: the first whole number that is no double is written as
another one in a condition. -/
theorem account_differs_from_itself :
    let json (operator : String) : Json := .object [("field", .string "account"),
      ("id", .string "c1"), ("operator", .string operator), ("value", .int 9007199254740993)]
    let record : Record := ⟨[("account", .int 9007199254740993)]⟩
    (∃ c, Condition.ofJson (json "equals") = .ok c ∧ (c.evaluate record).holds = false ∧
      c.compile.predicate.accepts record = false) ∧
    ∃ c, Condition.ofJson (json "not_equals") = .ok c ∧ (c.evaluate record).holds = true ∧
      c.compile.predicate.accepts record = true := by
  intro json record
  refine ⟨⟨_, rfl, ?_, ?_⟩, ⟨_, rfl, ?_, ?_⟩⟩
  all_goals decide +kernel

/-! ### Equality and order -/

namespace Condition

/-- What a condition comes to with another operator. -/
def holdsWith (c : Condition) (record : Record) (op : Operator) : Bool :=
  (Condition.evaluate record { c with operator := op }).holds

/-- Do the comparisons for equality agree with those by order?  Equal means not above and not
below, and the opposite means above or below. -/
def equalityFollowsOrder (c : Condition) (record : Record) : Bool :=
  let holds := c.holdsWith record
  holds .equals == (holds .greaterEqual && holds .lessEqual) &&
    holds .notEquals == (holds .greaterThan || holds .lessThan)

/-- A condition compares a number of a record with a number; these are their doubles. -/
structure OnNumbers (c : Condition) (record : Record) (value : Json) (x y : Double) : Prop where
  /-- The field has the value. -/
  found : record.get? c.field = some value
  /-- It is a number. -/
  isNumber : value.isNumber = true
  /-- It is one that JSON can hold. -/
  isProper : value.isProper = true
  /-- This is its double. -/
  number : value.number = .ok (some x)
  /-- The condition compares texts with the text of the other double. -/
  operandText : c.value.folded = .ok y.plain
  /-- It compares numbers with the other double. -/
  operandNumber : c.value.number? = .ok (some y)

/-- A condition that is written with a number compares numbers with it. -/
theorem onNumbers_of_written {record : Record} {value operand : Json} {x y : Double}
    (hread : ofJson json = .ok c) (hwritten : writtenValue? json = some operand)
    (hoperand : operand.isNumber = true) (hy : operand.number = .ok (some y))
    (hrecord : record.get? c.field = some value) (hvalue : value.isNumber = true)
    (hproper : value.isProper = true) (hx : value.number = .ok (some x)) :
    c.OnNumbers record value x y where
  found := hrecord
  isNumber := hvalue
  isProper := hproper
  number := hx
  operandText := by
    rw [value_of_writtenValue? hread hwritten]
    exact Json.folded_ofJson_of_number hoperand hy
  operandNumber := by
    have hnull : operand.isNull = false := by
      cases operand with
      | null => simp [Json.isNumber] at hoperand
      | _ => rfl
    rw [value_of_writtenValue? hread hwritten, Operand.number?_ofJson hnull, hy]

namespace OnNumbers

variable {record : Record} {value : Json} {x y : Double}

theorem holdsWith_equals (h : c.OnNumbers record value x y) :
    c.holdsWith record .equals = (decide (x = y) && value.keepsText) ∧
      c.holdsWith record .notEquals = !(decide (x = y) && value.keepsText) := by
  obtain ⟨s, hs, hiff⟩ := Json.folded_eq_iff (y := y) h.isNumber h.isProper h.number
  have hequal : (s == y.plain) = (decide (x = y) && value.keepsText) := by
    rw [Bool.eq_iff_iff, beq_iff_eq, hiff, Bool.and_eq_true, decide_eq_true_iff]
  have htext : ∀ op : Operator, op.kind = .text →
      c.holdsWith record op = op.matchesText s y.plain :=
    fun op hop => holds_text (c := { c with operator := op }) h.found hs h.operandText hop
  rw [htext .equals rfl, htext .notEquals rfl, ← hequal]
  exact ⟨rfl, rfl⟩

theorem holdsWith_numeric (h : c.OnNumbers record value x y) {op : Operator}
    (hop : op.kind = .numeric) :
    c.holdsWith record op = op.matchesOrdering (x.compare? y) :=
  holds_numbers (c := { c with operator := op }) h.found h.number h.operandNumber hop

theorem holdsWith_order (h : c.OnNumbers record value x y) :
    (c.holdsWith record .greaterEqual && c.holdsWith record .lessEqual)
        = (x.compare? y == some .eq) ∧
      (c.holdsWith record .greaterThan || c.holdsWith record .lessThan)
        = !(x.compare? y == some .eq) := by
  obtain ⟨ordering, hordering⟩ := Double.exists_compare?
    (value.isNaN_of_number h.number) (Operand.isNaN_of_number? h.operandNumber)
  rw [h.holdsWith_numeric rfl, h.holdsWith_numeric rfl, h.holdsWith_numeric rfl,
    h.holdsWith_numeric rfl, hordering]
  cases ordering <;> decide

theorem compare?_of_equals (h : c.OnNumbers record value x y)
    (heq : (decide (x = y) && value.keepsText) = true) : x.compare? y = some .eq :=
  (Double.compare?_eq_iff (value.isNaN_of_number h.number)).2
    (.inl (of_decide_eq_true (Bool.and_eq_true_iff.1 heq).1))

/-- Equality follows the order unless the numbers are opposite zeros, or one does not keep its
text that is equal to the other as a double. -/
theorem equalityFollowsOrder_iff (h : c.OnNumbers record value x y) :
    c.equalityFollowsOrder record = true ↔
      x.oppositeZeros y = false ∧ (x.compare? y = some .eq → value.keepsText = true) := by
  have hcompare := Double.compare?_eq_iff (y := y) (value.isNaN_of_number h.number)
  obtain ⟨hequals, hnotEquals⟩ := h.holdsWith_equals
  obtain ⟨hboth, heither⟩ := h.holdsWith_order
  unfold equalityFollowsOrder
  dsimp only
  rw [hequals, hnotEquals, hboth, heither, hcompare]
  by_cases heq : x = y
  · subst heq
    simp [Double.oppositeZeros_self, hcompare.2 (.inl rfl)]
  · cases hopposite : x.oppositeZeros y <;> simp [heq, hcompare, hopposite]

end OnNumbers

theorem equalityFollowsOrder_of_none {record : Record} (h : record.get? c.field = none) :
    c.equalityFollowsOrder record = true := by
  simp [equalityFollowsOrder, holdsWith, evaluate, outcome, conclude, AnomalyKind.outcome, h]

/-! ### What is derived from orders -/

section Derived

variable {operand : Json} {y : Double} (hread : ofJson json = .ok c)
  (hwritten : writtenValue? json = some operand) (hoperand : operand.isNumber = true)
  (hy : operand.number = .ok (some y)) (customer : Customer) (orders : List Order)

include hread hwritten hoperand hy

/-- Equality follows the order for what a customer has spent, but for zeros. -/
theorem equalityFollowsOrder_total_spend (hfield : c.field = "total_spend") (hzero : y ≠ .zero)
    (hneg : y ≠ .negZero) : c.equalityFollowsOrder (customer.record orders) = true := by
  have hspend := customer.get?_total_spend orders
  rw [← hfield] at hspend
  generalize Double.sum _ = spend at hspend
  by_cases hfinite : spend.isFinite = true
  · rw [Json.ofDouble, if_pos hfinite] at hspend
    obtain ⟨x, hx⟩ : ∃ x, (Json.float spend).number = .ok (some x) :=
      Json.exists_number rfl hfinite
    have h := onNumbers_of_written hread hwritten hoperand hy hspend rfl hfinite hx
    refine h.equalityFollowsOrder_iff.2 ⟨Bool.eq_false_iff.2 fun hopposite => ?_, fun _ => rfl⟩
    cases x with
    | nan => cases hopposite
    | signed negative rank =>
      have hopposed := Double.eq_zeroOf_of_oppositeZeros hopposite
      cases negative with
      | true => exact hzero hopposed
      | false => exact hneg hopposed
  · -- JSON has no number for the sum, and the field no value
    rw [Json.ofDouble, if_neg hfinite] at hspend
    exact equalityFollowsOrder_of_none hspend

/-- Equality follows the order for the number of orders that count, but for negative zero. -/
theorem equalityFollowsOrder_order_count (hfield : c.field = "order_count") (hneg : y ≠ .negZero)
    (hlength : orders.length ≤ 2 ^ 53) :
    c.equalityFollowsOrder (customer.record orders) = true := by
  have hcount := customer.get?_order_count orders
  rw [← hfield] at hcount
  have hmost := Nat.le_trans (List.length_filter_le customer.counts orders) hlength
  generalize (orders.filter customer.counts).length = count at hcount hmost
  have hproper : (Json.int count).isProper = true := by
    simp only [Json.isProper, Json.isWord, Bool.and_eq_true, decide_eq_true_eq]
    omega
  have hpositive : decide ((count : Int) < 0) = false := decide_eq_false (by omega)
  have h := onNumbers_of_written hread hwritten hoperand hy hcount rfl hproper rfl
  refine h.equalityFollowsOrder_iff.2
    ⟨Bool.eq_false_iff.2 fun hopposite => ?_, fun _ => Double.keepsWhole_of_le (by omega)⟩
  rw [Double.ofInt, hpositive] at hopposite
  exact hneg (Double.eq_zeroOf_of_oppositeZeros hopposite)

end Derived

end Condition

/-- **When equality follows the order of numbers.**  A number that equals another one is neither
above nor below it, and the converse holds unless they are opposite zeros, or the number of the
record does not keep its text.  So equality follows the order for what a customer has spent if the
condition is not written with a zero, and for the number of the customer's orders if it is not
written with negative zero. -/
theorem equality_follows_order_iff {operand : Json} {y : Double}
    (hread : Condition.ofJson json = .ok c)
    (hwritten : Condition.writtenValue? json = some operand) (hoperand : operand.isNumber = true)
    (hy : operand.number = .ok (some y)) :
    (∀ (record : Record) (value : Json) (x : Double), record.get? c.field = some value →
      value.isNumber = true → value.isProper = true → value.number = .ok (some x) →
        let holds := c.holdsWith record
        (holds .equals = true → holds .greaterEqual = true ∧ holds .lessEqual = true) ∧
          (holds .greaterThan = true ∨ holds .lessThan = true → holds .notEquals = true) ∧
          (c.equalityFollowsOrder record = true ↔ x.oppositeZeros y = false ∧
            (x.compare? y = some .eq → value.keepsText = true))) ∧
      ∀ (customer : Customer) (orders : List Order),
        (c.field = "total_spend" → y ≠ .zero → y ≠ .negZero →
          c.equalityFollowsOrder (customer.record orders) = true) ∧
        (c.field = "order_count" → y ≠ .negZero → orders.length ≤ 2 ^ 53 →
          c.equalityFollowsOrder (customer.record orders) = true) := by
  refine ⟨fun record value x hrecord hvalue hproper hx => ?_, fun customer orders =>
    ⟨Condition.equalityFollowsOrder_total_spend hread hwritten hoperand hy customer orders,
      Condition.equalityFollowsOrder_order_count hread hwritten hoperand hy customer orders⟩⟩
  have h := Condition.onNumbers_of_written hread hwritten hoperand hy hrecord hvalue hproper hx
  obtain ⟨hequals, hnotEquals⟩ := h.holdsWith_equals
  obtain ⟨hboth, heither⟩ := h.holdsWith_order
  refine ⟨fun heq => ?_, fun hapart => ?_, h.equalityFollowsOrder_iff⟩
  · rw [← Bool.and_eq_true_iff, hboth, beq_iff_eq]
    exact h.compare?_of_equals (hequals ▸ heq)
  · rw [← Bool.or_eq_true_iff, heither, Bool.not_eq_true', beq_eq_false_iff_ne] at hapart
    rw [hnotEquals, Bool.not_eq_true']
    exact Bool.eq_false_iff.2 fun heq => hapart (h.compare?_of_equals heq)

/-- Equality follows the order for a spend of 120, whole or not, in the record of every customer. -/
theorem spend_follows_order :
    let json : Json := .object [("field", .string "total_spend"), ("id", .string "c1"),
      ("operator", .string "equals"), ("value", .int 120)]
    let record : Record := ⟨[("total_spend", .float (.ofInt 120))]⟩
    ∃ c, Condition.ofJson json = .ok c ∧ c.equalityFollowsOrder record = true ∧
      c.equalityFollowsOrder ((RecordStore.customerNamed "o1" "Ada" 0).record []) = true := by
  intro json record
  have hwritten : Condition.writtenValue? json = some (.int 120) := by decide
  obtain ⟨hnumbers, hcustomers⟩ := equality_follows_order_iff rfl hwritten rfl rfl
  obtain ⟨-, -, hspend⟩ := hnumbers record (.float (.ofInt 120)) (.ofInt 120) (by decide +kernel)
    rfl (by decide +kernel) (by decide +kernel)
  refine ⟨_, rfl, hspend.2 ⟨?_, fun _ => rfl⟩,
    (hcustomers (RecordStore.customerNamed "o1" "Ada" 0) []).1 rfl ?_ ?_⟩
  all_goals decide +kernel

/-- **Zeros that are apart**: what a customer without orders has spent is at least zero and at most
zero and does not equal zero.  A whole number that does not keep its text is at least and at most
itself and does not equal itself, even if it is a double. -/
theorem nothing_spent_differs_from_zero :
    let json (field : String) (n : Int) : Json := .object [("field", .string field),
      ("id", .string "c1"), ("operator", .string "equals"), ("value", .int n)]
    let spendless : Record := (RecordStore.customerNamed "o1" "Ada" 0).record []
    let record : Record := ⟨[("account", .int (2 ^ 60))]⟩
    (∃ c, Condition.ofJson (json "total_spend" 0) = .ok c ∧
      c.holdsWith spendless .greaterEqual = true ∧ c.holdsWith spendless .lessEqual = true ∧
      c.holdsWith spendless .equals = false ∧ c.equalityFollowsOrder spendless = false) ∧
    ∃ c, Condition.ofJson (json "account" (2 ^ 60)) = .ok c ∧
      c.holdsWith record .greaterEqual = true ∧ c.holdsWith record .lessEqual = true ∧
      c.holdsWith record .equals = false ∧ c.equalityFollowsOrder record = false := by
  intro json spendless record
  refine ⟨⟨_, rfl, ?_, ?_, ?_, ?_⟩, ⟨_, rfl, ?_, ?_, ?_, ?_⟩⟩
  all_goals decide +kernel

end Audience
