import Audience.Proofs.Calendar.Strict
import Audience.Proofs.Double.Exceptional
import Audience.Proofs.Rule.Number
import Audience.Proofs.Sql.Agreement

/-!
**Parameters and the operands that they stand for**.

A query has a parameter for everything that its tests compare with, from the left: a text for a
text, a number for a double and a text for an instant.  Texts always say what they stand for, as
themselves or as a pattern that finds just them.  The other two fall short at the ends of what they
write.  There is no JSON number for an infinity, which is null as a parameter; and an instant whose
year needs a sign is written in a text that no notation for instants reads.

Main definitions:

* `Comparand`, `Predicate.comparands` — what tests **compare with**, from the left;
* `Comparand.param` — the parameter for it;
* `Comparand.CarriedBy` — the parameter **says what is compared with**;
* `Comparand.IsWritable` — a text, a finite number, or an instant of a year with four digits.

Main results:

* `Predicate.params_eq_map_comparands` — the parameters of a predicate are those for what it
  compares with;
* `Comparand.carriedBy_param_iff` — a parameter says what is compared with just when this is
  writable;
* `Node.isNaN_of_mem_comparands` — no compiled tree compares with not-a-number;
* `params_carry_comparands` — **how far the parameters of a query carry the operands of a tree**.
-/

set_option relaxedAutoImplicit false
set_option autoImplicit false

namespace Audience

open Sql

/-- Something that a test **compares with**. -/
inductive Comparand where
  | text (op : Operator) (operand : String)
  | number (operand : Double)
  | instant (operand : Instant)
  deriving DecidableEq, Repr

/-- What a test compares with: nothing if it only asks for a value or lacks an operand. -/
def ColumnTest.comparands : ColumnTest → List Comparand
  | text op operand => [.text op operand]
  | numeric _ (some operand) => [.number operand]
  | date _ (some operand) => [.instant operand]
  | dateRange (some first) (some last) => [.instant first, .instant last]
  | present | numeric _ none | date _ none | dateRange none _ | dateRange (some _) none => []

/-- What the tests of a predicate compare with, from the left. -/
def Predicate.comparands (p : Predicate) : List Comparand := p.tests.flatMap (·.2.comparands)

namespace Comparand

/-- The parameter for what is compared with. -/
def param : Comparand → Json
  | text op operand => .string ((likePattern? op operand).getD operand)
  | number operand => Json.ofDouble operand
  | instant operand => instantParam operand

/-- A parameter **says what is compared with**: it is the text, or a pattern that just those texts
fit that compare with it as the operator says; it is the number; or it is a text that denotes the
instant. -/
def CarriedBy (value : Json) : Comparand → Prop
  | text op operand => ∃ s, value = .string s ∧
    if (likePattern? op operand).isSome then
      ∀ actual, fitsPattern? s actual = some (op.matchesText actual operand)
    else s = operand
  | number operand => value = .float operand
  | instant operand => ∃ s, value = .string s ∧ Calendar.instantOf? s = some operand

/-- Something to compare with that can be written as a parameter. -/
def IsWritable : Comparand → Prop
  | text _ _ => True
  | number operand => operand.isFinite = true
  | instant operand => Calendar.HasShortYear operand

theorem carriedBy_param_text (op : Operator) (operand : String) :
    (text op operand).CarriedBy (text op operand).param := by
  refine ⟨_, rfl, ?_⟩
  cases hp : likePattern? op operand with
  | some pattern =>
      intro actual
      exact fitsPattern?_likePattern hp actual
  | none => rfl

theorem carriedBy_param_number (operand : Double) :
    (number operand).CarriedBy (number operand).param ↔ operand.isFinite = true := by
  rw [CarriedBy, param, Json.ofDouble]
  cases operand.isFinite with
  | true => simp
  | false => simp

theorem carriedBy_param_instant (operand : Instant) :
    (instant operand).CarriedBy (instant operand).param ↔ Calendar.HasShortYear operand := by
  have hread := Calendar.instantOf?_write .offset operand
  constructor
  · rintro ⟨s, hs, hdenotes⟩
    obtain rfl := Json.string.inj hs
    rw [hread] at hdenotes
    by_contra hlong
    rw [if_neg hlong] at hdenotes
    cases hdenotes
  · intro hshort
    exact ⟨_, rfl, hread.trans (if_pos hshort)⟩

/-- A parameter says what is compared with just when this is writable. -/
theorem carriedBy_param_iff (c : Comparand) : c.CarriedBy c.param ↔ c.IsWritable := by
  cases c with
  | text op operand => exact iff_of_true (carriedBy_param_text op operand) trivial
  | number operand => exact carriedBy_param_number operand
  | instant operand => exact carriedBy_param_instant operand

theorem param_eq_null_iff {c : Comparand} :
    c.param = .null ↔ ∃ operand, c = number operand ∧ operand.isFinite = false := by
  cases c with
  | text op operand => simp [param]
  | instant operand => simp [param, instantParam]
  | number operand =>
      rw [param, Json.ofDouble]
      cases hf : operand.isFinite with
      | true => simp [hf]
      | false => simp [hf]

end Comparand

/-! ### Predicates -/

theorem ColumnTest.params_expression (name : String) (test : ColumnTest) :
    (test.expression name).params = test.comparands.map Comparand.param := by
  cases test with
  | present => rfl
  | text op operand =>
      rw [expression, comparands, List.map_singleton, Comparand.param]
      cases likePattern? op operand with
      | none => rfl
      | some pattern => rfl
  | numeric op operand => cases operand <;> rfl
  | date op operand => cases operand <;> rfl
  | dateRange first last => cases first <;> cases last <;> rfl

/-- The parameters of a predicate are those for what it compares with, from the left. -/
theorem Predicate.params_eq_map_comparands (p : Predicate) :
    p.expression.params = p.comparands.map Comparand.param := by
  rw [params_expression, comparands, List.map_flatMap]
  exact List.flatMap_congr fun test _ => test.2.params_expression test.1

/-! ### Operands of trees -/

theorem ColumnTest.eq_numeric_of_mem_comparands {test : ColumnTest} {x : Double}
    (h : .number x ∈ test.comparands) : ∃ op, test = .numeric op (some x) := by
  cases test with
  | present => cases h
  | text op operand => simp [comparands] at h
  | numeric op operand => cases operand with
    | none => cases h
    | some y =>
        cases List.mem_singleton.1 h
        exact ⟨op, rfl⟩
  | date op operand => cases operand <;> simp [comparands] at h
  | dateRange first last => cases first <;> cases last <;> simp [comparands] at h

/-- A compiled tree compares with no not-a-number. -/
theorem Node.isNaN_of_mem_comparands {policy : EmptyGroupPolicy} {node : Node} {x : Double}
    (h : .number x ∈ (node.compile policy).predicate.comparands) : x.isNaN = false := by
  obtain ⟨⟨name, test⟩, htest, hx⟩ := List.mem_flatMap.1 h
  obtain ⟨c, -, -, ht⟩ := mem_tests_compile htest
  obtain ⟨op, rfl⟩ := ColumnTest.eq_numeric_of_mem_comparands hx
  cases Condition.isTest_of_test? ht with
  | numeric hk hread => exact Operand.isNaN_of_number? hread

/-! ### Queries -/

/-- **How far the parameters of a query carry the operands of a tree.**  They stand for what the
compiled tree compares with, from the left; each says what it stands for just when that is
writable; and null is among them just when an infinity is compared with. -/
theorem params_carry_comparands {catalog : Catalog} {policy : EmptyGroupPolicy} {tree : Group}
    {fragment : Fragment}
    (hsql : (tree.compile policy).predicate.toSql catalog = .ok fragment) :
    let comparands := (tree.compile policy).predicate.comparands
    fragment.params = comparands.map Comparand.param ∧
      (∀ c ∈ comparands, c.CarriedBy c.param ↔ c.IsWritable) ∧
      (.null ∈ fragment.params ↔
        ∃ negative, .number (Double.infinity negative) ∈ comparands) := by
  intro comparands
  obtain rfl := Predicate.toSql_eq_ok hsql
  have hparams : (tree.compile policy).predicate.expression.fragment.params
      = comparands.map Comparand.param := Predicate.params_eq_map_comparands _
  refine ⟨hparams, fun c _ => c.carriedBy_param_iff, ?_⟩
  rw [hparams, List.mem_map]
  constructor
  · rintro ⟨c, hc, hnull⟩
    obtain ⟨x, rfl, hx⟩ := Comparand.param_eq_null_iff.1 hnull
    rcases Double.eq_nan_or_infinity hx with rfl | rfl | rfl
    · exact absurd (Node.isNaN_of_mem_comparands hc) (by simp)
    · exact ⟨true, hc⟩
    · exact ⟨false, hc⟩
  · rintro ⟨negative, hc⟩
    refine ⟨_, hc, Comparand.param_eq_null_iff.2 ⟨_, rfl, ?_⟩⟩
    cases negative <;> rfl

/-- The parameters of the query for the example rules carry all that these compare with. -/
theorem exampleRules_carry_comparands :
    ∃ fragment, (exampleRules.compile .inclusive).predicate.toSql .customers = .ok fragment ∧
      fragment.params = [.string "%50\\%%", .float (Double.ofInt 18),
        .string "2024-01-01T00:00:00+00:00", .string "2024-12-31T00:00:00+00:00"] ∧
      (∀ c ∈ (exampleRules.compile .inclusive).predicate.comparands, c.CarriedBy c.param) ∧
      .null ∉ fragment.params := by
  have hsql : (exampleRules.compile .inclusive).predicate.toSql .customers
      = .ok (exampleRules.compile .inclusive).predicate.expression.fragment := by rfl
  obtain ⟨-, hcarried, hnull⟩ := params_carry_comparands hsql
  have hcomparands : (exampleRules.compile .inclusive).predicate.comparands
      = [.text .contains "50%", .number (Double.ofInt 18),
        .instant (Instant.midnight ⟨2024, 1, 1, by decide⟩),
        .instant (Instant.midnight ⟨2024, 12, 31, by decide⟩)] := by decide +kernel
  refine ⟨_, hsql, by decide +kernel, fun c hc => (hcarried c hc).2 ?_, fun h => ?_⟩
  · rw [hcomparands] at hc
    simp only [List.mem_cons, List.not_mem_nil, or_false] at hc
    rcases hc with rfl | rfl | rfl | rfl
    · trivial
    · exact (by decide +kernel : (Double.ofInt 18).isFinite = true)
    · exact ⟨by decide, by decide⟩
    · exact ⟨by decide, by decide⟩
  · obtain ⟨negative, hmem⟩ := hnull.1 h
    rw [hcomparands] at hmem
    revert negative
    decide +kernel

/-- Rules with bounds that no age and no day of registration reaches. -/
def boundlessRules : Group where
  id := "root"
  logic := .and
  children :=
    [.condition ⟨"c1", "age", .lessThan, .text "inf"⟩,
     .condition ⟨"c2", "registration_date", .before, .text "+10000-01-01"⟩]

/-- The bounds **are lost in the query**: one is null, and the other a text that denotes no
instant. -/
theorem boundlessRules_lose_bounds :
    boundlessRules.lint .customers = [] ∧
      ∃ fragment, (boundlessRules.compile .inclusive).predicate.toSql .customers = .ok fragment ∧
        fragment.params = [.null, .string "+10000-01-01T00:00:00+00:00"] ∧
        (boundlessRules.compile .inclusive).predicate.tests
          = [("age", .numeric .lessThan (some (.infinity false))),
            ("registration_date", .date .before (Calendar.instantOf? "+10000-01-01"))] ∧
        (Calendar.instantOf? "+10000-01-01").isSome = true ∧
        Calendar.instantOf? "+10000-01-01T00:00:00+00:00" = none := by
  refine ⟨by decide +kernel, _, rfl, ?_, ?_, ?_, ?_⟩
  all_goals decide +kernel

end Audience
