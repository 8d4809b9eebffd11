import Audience.Proofs.Calendar.Order
import Audience.Proofs.Calendar.RoundTrip
import Audience.Proofs.Double.Exceptional
import Audience.Proofs.Predicate.Agreement
import Audience.Proofs.Rule.Fit
import Audience.Proofs.Sql.Reader
import Audience.Proofs.Sql.Truth

/-!
**Queries select what predicates accept**.

A predicate is tried on records with two truth values, and its condition on the rows of a table
with three.  They agree on every row whose columns hold what their types in a catalog say, for the
predicate of a tree that fits the catalog: then no cast fails, a comparison has no truth value only
where the column has no value, and there the test of the predicate fails too.

Main definitions:

* `FieldType.admits`, `Catalog.admits` — values of a type, and rows whose columns hold such values;
* `ColumnTest.Fits` — a test that compares a column of a type with something of its kind.

Main results:

* `ColumnTest.says_expression` — the condition for a test says what the test says;
* `Predicate.says_expression` — the same for predicates all of whose tests do;
* `Predicate.collect_expression` — what is collected from the condition for a predicate comes from
  its tests;
* `Group.says_compile`, `Group.toSql_of_lint` — the same for trees that fit a catalog, each of which
  has a query;
* `query_selects_iff_accepts` — **the text of a query, read with its parameters, is true of the rows
  that the predicate accepts**.
-/

set_option relaxedAutoImplicit false
set_option autoImplicit false

namespace Audience

open Sql

/-! ### Rows with values of their types -/

/-- Is this a **value of a type**? -/
def FieldType.admits : FieldType → Json → Bool
  | text, .string _ | select, .string _ => true
  | number, .int _ => true
  | number, .float x => !x.isNaN
  | date, .string s => (Calendar.instantOf? s).isSome
  | _, _ => false

/-- Does every column of a row that has a value have one **of its type**? -/
def Catalog.admits (catalog : Catalog) (row : Record) : Bool :=
  catalog.fields.all fun field => (row.get? field.name).all field.type.admits

theorem Catalog.admits_get? {catalog : Catalog} {row : Record} (h : catalog.admits row = true)
    {name : String} {type : FieldType} (ht : catalog.fieldType? name = some type) {value : Json}
    (hv : row.get? name = some value) : type.admits value = true := by
  obtain ⟨field, hf, rfl⟩ := Option.map_eq_some_iff.1 ht
  have hmem := List.mem_of_find?_eq_some hf
  have hname : field.name = name := by simpa using List.find?_some hf
  have hall := List.all_eq_true.1 h field hmem
  rw [hname, hv] at hall
  exact hall

namespace FieldType

theorem folded_of_admits {type : FieldType} {value : Json} (h : type.admits value = true) :
    ∃ s, value.folded = .ok s := by
  cases type <;> cases value <;>
    first | exact ⟨_, rfl⟩ | simp [admits] at h

theorem number_of_admits {value : Json} (h : number.admits value = true) :
    ∃ x, value.number = .ok (some x) ∧ x.isNaN = false := by
  cases value with
  | int n => exact ⟨Double.ofInt n, rfl, by rw [Double.ofInt, Double.isNaN_signed]⟩
  | float x =>
      have hx : x.isNaN = false := by simpa [admits] using h
      exact ⟨x, by simp [Json.number, hx], hx⟩
  | _ => simp [admits] at h

theorem date_of_admits {value : Json} (h : date.admits value = true) :
    ∃ t, value.date = .ok (some t) := by
  cases value with
  | string s =>
      rw [admits, Option.isSome_iff_exists] at h
      obtain ⟨t, ht⟩ := h
      exact ⟨t, by rw [Json.date, ht]⟩
  | _ => simp [admits] at h

end FieldType

/-! ### Tests that fit a type -/

/-- Does a test compare a column of a type with something of its kind? -/
def ColumnTest.Fits (type : FieldType) : ColumnTest → Prop
  | present => True
  | text op _ => op.kind = .text
  | numeric op _ => op.kind = .numeric ∧ type = .number
  | date op _ => op.kind = .date ∧ type = .date
  | dateRange _ _ => type = .date

theorem holds_comparisonOf {op : Operator} (h : op.kind = .numeric ∨ op.kind = .date)
    (ordering : Ordering) :
    (comparisonOf op).holds ordering = op.matchesOrdering (some ordering) := by
  cases op <;> simp [Operator.kind] at h <;> cases ordering <;> rfl

theorem holds_comparisonOf_text {op : Operator} (h : op.kind = .text) {operand : String}
    (hp : likePattern? op operand = none) (actual : String) :
    (comparisonOf op).holds (compare actual operand) = op.matchesText actual operand := by
  cases op with
  | equals =>
      rw [Bool.eq_iff_iff]
      simp [comparisonOf, Comparison.holds, Operator.matchesText]
  | notEquals =>
      rw [Bool.eq_iff_iff]
      simp [comparisonOf, Comparison.holds, Operator.matchesText]
  | contains => simp [likePattern?] at hp
  | startsWith => simp [likePattern?] at hp
  | endsWith => simp [likePattern?] at hp
  | _ => simp [Operator.kind] at h

theorem Double.isNaN_of_ofDouble {x : Double} (h : Json.ofDouble x ≠ .null) :
    x.isNaN = false ∧ Json.ofDouble x = .float x := by
  cases hf : x.isFinite with
  | false => simp [Json.ofDouble, hf] at h
  | true =>
      refine ⟨?_, by rw [Json.ofDouble, hf]; rfl⟩
      cases x with
      | nan => simp at hf
      | signed negative rank => rfl

theorem bind_instantParam (t : Instant) :
    Cast.timestamp.bind (instantParam t) = .ok (some (.timestamp t)) := by
  simp [Cast.bind, instantParam, Instant.write, Calendar.lenient?_chars]

/-! ### Tests as conditions -/

namespace ColumnTest

variable {row : Record} {name : String} {type : FieldType}

theorem accepts_column (row : Record) (name : String) (test : ColumnTest) :
    (Predicate.column name test).accepts row = (row.get? name).any test.accepts := by
  rw [Predicate.accepts]
  cases row.get? name <;> rfl

/-- A comparison of a column says what it says of the values that the column may have. -/
theorem says_compare {cast : Cast} {comparison : Comparison} {param : Json} (operand : Value)
    {test : ColumnTest} (hb : cast.bind param = .ok (some operand))
    (hv : ∀ value, row.get? name = some value → ∃ v ordering, cast.apply value = .ok v ∧
      v.compare? operand = some ordering ∧ comparison.holds ordering = test.accepts value) :
    (Expression.compare name cast comparison param).Says row
      ((row.get? name).any test.accepts) := by
  cases hr : row.get? name with
  | none =>
      -- neither true nor false, and the test does not pass
      refine ⟨none, ?_, by simp⟩
      rw [Expression.eval, hr, Cast.applyTo, hb]
      rfl
  | some value =>
      obtain ⟨v, ordering, ha, ho, ht⟩ := hv value hr
      refine ⟨some (comparison.holds ordering), ?_, by simp [ht]⟩
      rw [Expression.eval, hr, Cast.applyTo, ha, hb]
      simp [Except.map, bind, Except.bind, Comparison.apply, ho]

theorem says_false {test : ColumnTest}
    (hv : ∀ value, row.get? name = some value → test.accepts value = false) :
    (Expression.truth false).Says row ((row.get? name).any test.accepts) := by
  have hf : (row.get? name).any test.accepts = false := by
    cases hr : row.get? name with
    | none => rfl
    | some value => exact hv value hr
  rw [hf]
  exact says_truth row false

theorem says_text {op : Operator} {operand : String} (hk : op.kind = .text)
    (hv : ∀ value, row.get? name = some value → ∃ s, value.folded = .ok s) :
    ((text op operand).expression name).Says row ((row.get? name).any (text op operand).accepts) := by
  rw [expression]
  cases hp : likePattern? op operand with
  | none =>
      refine says_compare (.text operand) rfl fun value hvalue => ?_
      obtain ⟨s, hs⟩ := hv value hvalue
      refine ⟨.text s, compare s operand, ?_, rfl, ?_⟩
      · simp [Cast.apply, hs]
      · rw [holds_comparisonOf_text hk hp, accepts, hs]
        rfl
  | some pattern =>
      cases hr : row.get? name with
      | none =>
          refine ⟨none, ?_, by simp⟩
          rw [Expression.eval, hr]
          rfl
      | some value =>
          obtain ⟨s, hs⟩ := hv value hr
          refine ⟨some (op.matchesText s operand), ?_, ?_⟩
          · rw [Expression.eval, hr]
            simp [Cast.applyTo, Cast.apply, hs, Cast.bind, Except.map, bind, Except.bind,
              likeTruth, fitsPattern?_likePattern hp]
          · simp [accepts, hs, passes]

theorem says_numeric {op : Operator} {operand : Option Double} (hk : op.kind = .numeric)
    (hp : Json.null ∉ ((numeric op operand).expression name).params)
    (hv : ∀ value, row.get? name = some value → ∃ x, value.number = .ok (some x) ∧ x.isNaN = false) :
    ((numeric op operand).expression name).Says row
      ((row.get? name).any (numeric op operand).accepts) := by
  cases operand with
  | none =>
      -- a number passes no test with an operand that is none
      refine says_false fun value hvalue => ?_
      obtain ⟨x, hx, -⟩ := hv value hvalue
      rw [accepts, hx]
      rfl
  | some y =>
      -- an operand that is no number would be bound as null
      have hnull : Json.ofDouble y ≠ .null := by
        simpa [expression, Expression.params, eq_comm] using hp
      obtain ⟨hy, hparam⟩ := Double.isNaN_of_ofDouble hnull
      rw [expression, hparam]
      refine says_compare (.double y) rfl fun value hvalue => ?_
      obtain ⟨x, hx, hnan⟩ := hv value hvalue
      obtain ⟨ordering, hordering⟩ := Double.exists_compare? hnan hy
      refine ⟨.double x, ordering, ?_, hordering, ?_⟩
      · simp [Cast.apply, hx]
      · simp [holds_comparisonOf (.inl hk), accepts, hx, passes, orderingOf?, hordering]

theorem says_date {op : Operator} {operand : Option Instant} (hk : op.kind = .date)
    (hv : ∀ value, row.get? name = some value → ∃ t, value.date = .ok (some t)) :
    ((date op operand).expression name).Says row ((row.get? name).any (date op operand).accepts) := by
  cases operand with
  | none =>
      refine says_false fun value hvalue => ?_
      obtain ⟨t, ht⟩ := hv value hvalue
      rw [accepts, ht]
      rfl
  | some t =>
      rw [expression]
      refine says_compare (.timestamp t) (bind_instantParam t) fun value hvalue => ?_
      obtain ⟨s, hs⟩ := hv value hvalue
      refine ⟨.timestamp s, s.compare t, ?_, rfl, ?_⟩
      · simp [Cast.apply, hs]
      · simp [holds_comparisonOf (.inr hk), accepts, hs, passes, orderingOf?, Instant.compare?]

theorem holds_ge_le (t first last : Instant) :
    (Comparison.ge.holds (t.compare first) && Comparison.le.holds (t.compare last))
      = within (some t) (some first) (some last) := by
  -- the range is tested from its first end, the query from the instant
  rw [within, ← Instant.compare_swap t first]
  cases t.compare first <;> cases t.compare last <;> rfl

theorem says_dateRange {first last : Option Instant}
    (hv : ∀ value, row.get? name = some value → ∃ t, value.date = .ok (some t)) :
    ((dateRange first last).expression name).Says row
      ((row.get? name).any (dateRange first last).accepts) := by
  match first, last with
  | some first, some last =>
    rw [expression]
    cases hr : row.get? name with
    | none =>
        refine ⟨none, ?_, by simp⟩
        rw [Expression.eval, hr, bind_instantParam, bind_instantParam]
        rfl
    | some value =>
        obtain ⟨t, ht⟩ := hv value hr
        have hrange := holds_ge_le t first last
        refine ⟨Truth.and (some (Comparison.ge.holds (t.compare first)))
          (some (Comparison.le.holds (t.compare last))), ?_, ?_⟩
        · rw [Expression.eval, hr, bind_instantParam, bind_instantParam]
          simp [Cast.applyTo, Cast.apply, ht, Except.map, bind, Except.bind, Comparison.apply,
            Value.compare?, pure, Except.pure]
        · rw [Truth.and_eq_true, Option.any_some, accepts, ht, passes, ← hrange]
          simp
  | none, last =>
    refine says_false fun value hvalue => ?_
    obtain ⟨t, ht⟩ := hv value hvalue
    rw [accepts, ht]
    rfl
  | some first, none =>
    refine says_false fun value hvalue => ?_
    obtain ⟨t, ht⟩ := hv value hvalue
    rw [accepts, ht]
    rfl

/-- The condition for a test says what the test says of a row whose column has a value of its
type, or none. -/
theorem says_expression {test : ColumnTest} (hfit : test.Fits type)
    (hp : Json.null ∉ (test.expression name).params)
    (hv : ∀ value, row.get? name = some value → type.admits value = true) :
    (test.expression name).Says row ((Predicate.column name test).accepts row) := by
  rw [accepts_column]
  cases test with
  | present =>
      have hp : (row.get? name).any present.accepts = (row.get? name).isSome := by
        cases row.get? name <;> rfl
      rw [hp]
      exact says_notNull row name
  | text op operand =>
      exact says_text hfit fun value hvalue => FieldType.folded_of_admits (hv value hvalue)
  | numeric op operand =>
      obtain ⟨hk, rfl⟩ := hfit
      exact says_numeric hk hp fun value hvalue => FieldType.number_of_admits (hv value hvalue)
  | date op operand =>
      obtain ⟨hk, rfl⟩ := hfit
      exact says_date hk fun value hvalue => FieldType.date_of_admits (hv value hvalue)
  | dateRange first last =>
      obtain rfl : type = .date := hfit
      exact says_dateRange fun value hvalue => FieldType.date_of_admits (hv value hvalue)

end ColumnTest

/-! ### Predicates as conditions -/

namespace Predicate

theorem expressionAll_eq_map (parts : List Predicate) :
    expressionAll parts = parts.map expression := by
  induction parts with
  | nil => rfl
  | cons part parts ih => rw [expressionAll, ih, List.map_cons]

/-- What is collected from the parts of a condition, from the left, is collected from the conditions
for the tests, if the condition is that for a predicate. -/
theorem collect_expression {α : Type} {collect : Expression → List α}
    (htruth : ∀ holds, collect (.truth holds) = [])
    (hall : ∀ parts, collect (.conjunction parts) = parts.flatMap collect)
    (hany : ∀ parts, collect (.disjunction parts) = parts.flatMap collect) (p : Predicate) :
    collect p.expression = p.tests.flatMap fun test => collect (test.2.expression test.1) := by
  have hparts : ∀ (parts : List Predicate),
      (∀ part ∈ parts, collect part.expression
        = part.tests.flatMap fun test => collect (test.2.expression test.1)) →
      (expressionAll parts).flatMap collect
        = (testsAll parts).flatMap fun test => collect (test.2.expression test.1) := by
    intro parts h
    rw [expressionAll_eq_map, testsAll_eq_flatMap, List.flatMap_map, List.flatMap_assoc]
    exact List.flatMap_congr h
  induction p using Predicate.induction with
  | const holds => rw [expression, htruth, tests, List.flatMap_nil]
  | column name test => rw [expression, tests, List.flatMap_singleton]
  | all parts ih => rw [expression, hall, tests, hparts parts ih]
  | any parts ih => rw [expression, hany, tests, hparts parts ih]

theorem params_expression (p : Predicate) :
    p.expression.params = p.tests.flatMap fun test => (test.2.expression test.1).params := by
  have hparts : ∀ parts : List Expression,
      Expression.paramsAll parts = parts.flatMap Expression.params := by
    intro parts
    induction parts with
    | nil => rfl
    | cons part parts ih => rw [Expression.paramsAll, ih, List.flatMap_cons]
  exact collect_expression (fun _ => rfl) hparts hparts p

/-- The test `test` of its column has a condition that says what it says of a row. -/
def TestSays (row : Record) (test : String × ColumnTest) : Prop :=
  (test.2.expression test.1).Says row ((column test.1 test.2).accepts row)

theorem says_parts {row : Record} {parts : List Predicate}
    (h : ∀ test ∈ testsAll parts, TestSays row test)
    (ih : ∀ part ∈ parts, (∀ test ∈ part.tests, TestSays row test) →
      part.expression.Says row (part.accepts row)) :
    ∀ part ∈ parts.map fun p => (p.expression, p.accepts row), part.1.Says row part.2 := by
  intro part hpart
  obtain ⟨p, hp, rfl⟩ := List.mem_map.1 hpart
  refine ih p hp fun test ht => h test ?_
  rw [testsAll_eq_flatMap]
  exact List.mem_flatMap.2 ⟨p, hp, ht⟩

/-- The condition for a predicate says what the predicate says, if those for its tests do. -/
theorem says_expression {row : Record} {p : Predicate} (h : ∀ test ∈ p.tests, TestSays row test) :
    p.expression.Says row (p.accepts row) := by
  induction p using Predicate.induction with
  | const holds => exact says_truth row holds
  | column name test => exact h (name, test) List.mem_cons_self
  | all parts ih =>
      have hc := says_conjunction (says_parts h ih)
      rw [List.map_map, List.all_map] at hc
      rw [expression, expressionAll_eq_map, accepts, acceptsAll_eq_all]
      exact hc
  | any parts ih =>
      have hc := says_disjunction (says_parts h ih)
      rw [List.map_map, List.any_map] at hc
      rw [expression, expressionAll_eq_map, accepts, acceptsAny_eq_any]
      exact hc

theorem isReadable_of_parts {parts : List Predicate}
    (ih : ∀ part ∈ parts, part.isReduced = true → part.expression.isReadable = true)
    (hr : (decide (2 ≤ parts.length) && isReducedAll parts) = true) :
    (decide (2 ≤ (expressionAll parts).length)
      && Expression.isReadableAll (expressionAll parts)) = true := by
  rw [Bool.and_eq_true, isReducedAll_iff] at hr
  rw [expressionAll_eq_map, List.length_map, Bool.and_eq_true, Expression.isReadableAll_iff]
  refine ⟨hr.1, fun e he => ?_⟩
  obtain ⟨part, hp, rfl⟩ := List.mem_map.1 he
  exact ih part hp (hr.2 part hp)

/-- The condition for a reduced predicate can be told from its text. -/
theorem isReadable_of_isReduced {p : Predicate} (h : p.isReduced = true) :
    p.expression.isReadable = true := by
  induction p using Predicate.induction with
  | const holds => rfl
  | column name test =>
      rw [expression]
      unfold ColumnTest.expression
      split
      · rfl
      · split <;> rfl
      all_goals rfl
  | all parts ih => exact isReadable_of_parts ih h
  | any parts ih => exact isReadable_of_parts ih h

theorem isReadable_expression {p : Predicate} (h : p.isFolded = true) :
    p.expression.isReadable = true := by
  rw [isFolded, Bool.or_eq_true, isConst_iff] at h
  rcases h with ⟨holds, rfl⟩ | h
  · rfl
  · exact isReadable_of_isReduced h

/-- The columns of a predicate are those of its tests. -/
theorem columns_eq_map_tests (p : Predicate) : p.columns = p.tests.map (·.1) := by
  have hall : ∀ (parts : List Predicate),
      (∀ part ∈ parts, part.columns = part.tests.map (·.1)) →
      columnsAll parts = (testsAll parts).map (·.1) := by
    intro parts h
    induction parts with
    | nil => rfl
    | cons part parts ih =>
        rw [columnsAll, testsAll, List.map_append, h part List.mem_cons_self,
          ih fun p hp => h p (List.mem_cons_of_mem part hp)]
  induction p using Predicate.induction with
  | const holds => rfl
  | column name test => rfl
  | all parts ih => exact hall parts ih
  | any parts ih => exact hall parts ih

theorem toSql_eq_ok {catalog : Catalog} {p : Predicate} {fragment : Fragment}
    (h : p.toSql catalog = .ok fragment) : fragment = p.expression.fragment := by
  rw [toSql] at h
  split at h
  · cases h
  · cases h
    rfl

end Predicate

/-! ### Trees that fit a catalog -/

theorem FieldType.eq_of_mem_operators {type : FieldType} {op : Operator} (h : op ∈ type.operators) :
    (op.kind = .numeric → type = .number) ∧ (op.kind = .date ∨ op.kind = .range → type = .date) := by
  cases type <;> simp [operators] at h <;> rcases h with rfl | rfl | rfl | rfl | rfl | rfl <;>
    simp [Operator.kind]

theorem Condition.misfit?_eq_none {catalog : Catalog} {c : Condition}
    (h : c.misfit? catalog = none) :
    ∃ type, catalog.fieldType? c.field = some type ∧ c.operator ∈ type.operators := by
  obtain ⟨hcontains, hallows⟩ := Condition.misfit?_eq_none_iff.1 h
  obtain ⟨field, hf⟩ := Option.isSome_iff_exists.1 hcontains
  refine ⟨field.type, by rw [Catalog.fieldType?, hf, Option.map_some], ?_⟩
  simpa [IsAllowed, Catalog.allows, Catalog.operators, Catalog.fieldType?, hf] using hallows

theorem Condition.fits_test? {c : Condition} {type : FieldType} (hop : c.operator ∈ type.operators)
    {test : ColumnTest} (ht : c.test? = some test) : test.Fits type := by
  obtain ⟨hnumeric, hdate⟩ := FieldType.eq_of_mem_operators hop
  cases isTest_of_test? ht with
  | present => exact trivial
  | text hk => exact hk
  | numeric hk => exact ⟨hk, hnumeric hk⟩
  | date hk => exact ⟨hk, hdate (.inl hk)⟩
  | range hk => exact hdate (.inr hk)

/-- A tree that fits the catalog has a query. -/
theorem Group.toSql_of_lint {catalog : Catalog} {tree : Group} (h : tree.lint catalog = [])
    (policy : EmptyGroupPolicy) :
    (tree.compile policy).predicate.toSql catalog
      = .ok (tree.compile policy).predicate.expression.fragment := by
  have hcolumns : ∀ name ∈ (tree.compile policy).predicate.columns, catalog.contains name := by
    intro name hname
    rw [Predicate.columns_eq_map_tests] at hname
    obtain ⟨test, htest, rfl⟩ := List.mem_map.1 hname
    obtain ⟨c, hc, hfield, -⟩ := Node.mem_tests_compile htest
    obtain ⟨type, htype, -⟩ := Condition.misfit?_eq_none (Group.lint_eq_nil_iff.1 h c hc)
    rw [← hfield] at htype
    rw [Catalog.contains, ← Option.isSome_map]
    exact Option.isSome_of_eq_some htype
  have hnone : (tree.compile policy).predicate.columns.find? (!catalog.contains ·) = none := by
    refine List.find?_eq_none.2 fun name hname => ?_
    simp [hcolumns name hname]
  rw [Predicate.toSql, hnone]

/-- The condition for a tree that fits the catalog says what the tree says of every row with
values of their types, unless one of its parameters is null. -/
theorem Group.says_compile {catalog : Catalog} {policy : EmptyGroupPolicy} {tree : Group}
    {row : Record} (hlint : tree.lint catalog = []) (hrow : catalog.admits row = true)
    (hnull : Json.null ∉ (tree.compile policy).predicate.expression.params) :
    (tree.compile policy).predicate.expression.Says row
      ((tree.compile policy).predicate.accepts row) := by
  -- every test comes from a condition, which fits the catalog
  refine Predicate.says_expression fun test htest => ?_
  obtain ⟨c, hc, hname, ht⟩ := Node.mem_tests_compile htest
  obtain ⟨type, htype, hop⟩ := Condition.misfit?_eq_none (Group.lint_eq_nil_iff.1 hlint c hc)
  refine ColumnTest.says_expression (Condition.fits_test? hop ht) (fun hmem => hnull ?_) ?_
  · rw [Predicate.params_expression]
    exact List.mem_flatMap.2 ⟨test, htest, hmem⟩
  · intro value hvalue
    rw [← hname] at htype
    exact Catalog.admits_get? hrow htype hvalue

/-- Rules on a name with a percent sign in it, an age and a day of registration. -/
def exampleRules : Group where
  id := "root"
  logic := .and
  children :=
    [.condition ⟨"c1", "name", .contains, .text "50%"⟩,
     .group "g1" .or
      [.condition ⟨"c2", "age", .greaterEqual, .number (Double.ofInt 18)⟩,
       .condition ⟨"c3", "registration_date", .between, .range "2024-01-01" "2024-12-31"⟩]]

end Audience
