import Audience.Proofs.Predicate.NormalForm
import Audience.Proofs.Predicate.Remainder
import Audience.Proofs.Sql.Agreement

/-!
**Queries and the types of columns**.

A query has a comparison for every condition that is left when a tree is compiled, and for no other
one, so it depends on these alone whether the catalog has all columns that the query asks for.  A
comparison of numbers or instants casts its column.  In a tree that fits the catalog such a
comparison stands only where the column has the type that it is cast to, for no other type has the
operators that make it.

Main definitions:

* `ColumnTest.castType?` — the **type that a column is cast to** for a test.

Main results:

* `Predicate.toSql_isOk_iff` — a predicate has a query if the catalog has its columns, and only then;
* `Group.columns_compile` — the columns of a compiled tree are the fields of the conditions that
  are left;
* `Condition.fieldType?_of_castType?` — the test of a condition that fits a catalog casts only a
  column of the type;
* `queries_of_fitting_trees` — **trees that fit a catalog have a query that casts no column of
  another type**.
-/

set_option relaxedAutoImplicit false
set_option autoImplicit false

namespace Audience

/-- The **type that a column is cast to** for a test, if the test compares numbers or instants. -/
def ColumnTest.castType? : ColumnTest → Option FieldType
  | present | text _ _ => none
  | numeric _ _ => some .number
  | date _ _ | dateRange _ _ => some .date

/-- A test that fits a type casts to no other type. -/
theorem ColumnTest.Fits.castType? {type cast : FieldType} {test : ColumnTest} (h : test.Fits type)
    (hc : test.castType? = some cast) : cast = type := by
  cases test with
  | present => cases hc
  | text op operand => cases hc
  | numeric op operand => exact (Option.some.inj hc).symm.trans h.2.symm
  | date op operand => exact (Option.some.inj hc).symm.trans h.2.symm
  | dateRange first last => exact (Option.some.inj hc).symm.trans (Eq.symm h)

/-- The test of a condition that fits a catalog casts only a column of the type. -/
theorem Condition.fieldType?_of_castType? {catalog : Catalog} {c : Condition}
    (h : c.misfit? catalog = none) {test : ColumnTest} (ht : c.test? = some test)
    {cast : FieldType} (hc : test.castType? = some cast) :
    catalog.fieldType? c.field = some cast := by
  obtain ⟨type, htype, hop⟩ := Condition.misfit?_eq_none h
  rw [htype, (Condition.fits_test? hop ht).castType? hc]

/-! ### Columns -/

/-- A predicate has a query if the catalog has its columns, and only then. -/
theorem Predicate.toSql_isOk_iff {catalog : Catalog} {p : Predicate} :
    (∃ fragment, p.toSql catalog = .ok fragment)
      ↔ ∀ name ∈ p.columns, catalog.contains name = true := by
  have hfind : p.columns.find? (!catalog.contains ·) = none
      ↔ ∀ name ∈ p.columns, catalog.contains name = true := by
    simp [List.find?_eq_none]
  rw [← hfind, toSql]
  cases p.columns.find? (!catalog.contains ·) with
  | some name => simp
  | none => simp

/-- A condition that is left is compiled to a test of its column. -/
theorem Condition.columns_compile {c : Condition} (h : c.test?.isSome = true) :
    c.compile.predicate.tests.map (·.1) = [c.field] := by
  obtain ⟨test, ht⟩ := Option.isSome_iff_exists.1 h
  rw [tests_compile, ht]
  rfl

/-- The columns of a compiled tree are the fields of the conditions that are left. -/
theorem Group.columns_compile (policy : EmptyGroupPolicy) (tree : Group) :
    (tree.compile policy).predicate.columns = (tree.remaining policy).map (·.field) := by
  have hcolumns : ∀ c ∈ tree.remaining policy,
      c.compile.predicate.tests.map (·.1) = [c.field] := by
    intro c hc
    exact Condition.columns_compile (Node.isSome_test?_of_mem_remaining hc)
  calc (tree.compile policy).predicate.columns
      = (tree.compile policy).predicate.tests.map (·.1) := Predicate.columns_eq_map_tests _
    _ = (tree.remaining policy).flatMap fun c => c.compile.predicate.tests.map (·.1) := by
        rw [Group.compile, Node.tests_compile_eq, List.map_flatMap]
        rfl
    _ = (tree.remaining policy).flatMap fun c => [c.field] := List.flatMap_congr hcolumns
    _ = (tree.remaining policy).map (·.field) := List.map_eq_flatMap.symm

/-! ### Trees that fit a catalog -/

/-- **A tree that fits the catalog has a query that casts no column of another type.**  The columns
of any tree are those of the conditions that are left of it, in the order of the tree, and there is
a query just when the catalog has these. -/
theorem queries_of_fitting_trees (catalog : Catalog) (policy : EmptyGroupPolicy) (tree : Group) :
    let p := (tree.compile policy).predicate
    let left := (tree.remaining policy).map (·.field)
    (tree.lint catalog = [] →
        (∃ fragment, p.toSql catalog = .ok fragment) ∧
        ∀ name test, (Predicate.column name test).OccursIn p →
          ∀ type, test.castType? = some type → catalog.fieldType? name = some type) ∧
      p.columns = left ∧
      left.Sublist (tree.conditions.map (·.field)) ∧
      ((∃ fragment, p.toSql catalog = .ok fragment)
        ↔ ∀ name ∈ left, catalog.contains name = true) := by
  intro p left
  have hcolumns : p.columns = left := tree.columns_compile policy
  refine ⟨fun hlint => ⟨⟨_, tree.toSql_of_lint hlint policy⟩, ?_⟩, hcolumns, ?_, ?_⟩
  · intro name test hoccurs type htype
    obtain ⟨c, hc, rfl, htest⟩ := Node.mem_tests_compile (Predicate.mem_tests_iff.2 hoccurs)
    exact Condition.fieldType?_of_castType? (Group.lint_eq_nil_iff.1 hlint c hc) htest htype
  · exact (tree.node.remaining_sublist policy).map _
  · rw [Predicate.toSql_isOk_iff, hcolumns]

/-- Rules in which a group that is certain not to hold is on fields that the catalog lacks. -/
def strayRules : Group where
  id := "root"
  logic := .or
  children :=
    [.group "g1" .and
      [.condition ⟨"c1", "city", .equals, .text "Lima"⟩,
       .condition ⟨"c2", "birthday", .between, .text "2024-01-01"⟩],
     .condition ⟨"c3", "age", .greaterEqual, .number (Double.ofInt 18)⟩,
     .group "g2" .and
      [.condition ⟨"c4", "name", .startsWith, .text "A"⟩,
       .condition ⟨"c5", "last_order_date", .between, .range "2024-01-01" "soon"⟩]]

/-- The example rules fit the catalog, and the columns of their query have the types that they are
cast to; the rules with fields that the catalog lacks do not fit it, but have a query too. -/
theorem exampleRules_have_query :
    exampleRules.lint .customers = [] ∧
      (∃ fragment, (exampleRules.compile .inclusive).predicate.toSql .customers = .ok fragment) ∧
      Catalog.customers.fieldType? "age" = some .number ∧
      Catalog.customers.fieldType? "registration_date" = some .date ∧
      strayRules.lint .customers ≠ [] ∧
      (strayRules.compile .inclusive).predicate.columns = ["age", "name", "last_order_date"] ∧
      ∃ fragment, (strayRules.compile .inclusive).predicate.toSql .customers = .ok fragment := by
  have hlint : exampleRules.lint .customers = [] := by decide +kernel
  obtain ⟨hfits, -⟩ := queries_of_fitting_trees .customers .inclusive exampleRules
  obtain ⟨hquery, hcasts⟩ := hfits hlint
  obtain ⟨-, hcolumns, -, hstray⟩ := queries_of_fitting_trees .customers .inclusive strayRules
  have hleft : (strayRules.remaining .inclusive).map (·.field)
      = ["age", "name", "last_order_date"] := by decide +kernel
  have htests : ∀ test ∈ (exampleRules.compile .inclusive).predicate.tests, ∀ type,
      test.2.castType? = some type → Catalog.customers.fieldType? test.1 = some type := by
    intro test htest
    exact hcasts test.1 test.2 (Predicate.mem_tests_iff.1 htest)
  have hage : ("age", .numeric .greaterEqual (some (Double.ofInt 18)))
      ∈ (exampleRules.compile .inclusive).predicate.tests := by decide +kernel
  have hregistered : ("registration_date", .dateRange (Calendar.instantOf? "2024-01-01")
      (Calendar.instantOf? "2024-12-31"))
      ∈ (exampleRules.compile .inclusive).predicate.tests := by decide +kernel
  refine ⟨hlint, hquery, htests _ hage _ rfl, htests _ hregistered _ rfl, by decide +kernel,
    hcolumns.trans hleft, hstray.2 ?_⟩
  rw [hleft]
  decide +kernel

end Audience
