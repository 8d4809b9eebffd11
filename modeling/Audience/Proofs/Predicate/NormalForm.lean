import Audience.Proofs.Predicate.Agreement
import Audience.Sql.Expression

/-!
**Compiled trees are in normal form**.

Folding leaves a fixed outcome alone or nowhere, and two parts or more in every combination.  The
tests that remain compare with an operator of their own kind, so each of the three tables of
operators (for texts, for orderings, and for the comparisons of queries) has an entry for it.  The
answers that these tables have for all other operators are never asked for.

Main definitions:

* `Predicate.OccursIn` — a predicate occurs in another one;
* `Operator.textComparison?`, `Operator.orderingTest?`, `Operator.comparison?` — the **entries** of
  the three tables, without an answer for all other operators;
* `ColumnTest.IsListed` — a test whose operator is of its kind and has an entry wherever it is looked
  up.

Main results:

* `Predicate.OccursIn.isReduced` — what occurs in a reduced predicate is reduced;
* `Condition.isListed_test?` — the test of a condition is listed;
* `compile_normal_form` — **compiled trees are in normal form**.
-/

set_option relaxedAutoImplicit false
set_option autoImplicit false

namespace Audience

open Sql

/-! ### What occurs in a predicate -/

/-- A predicate occurs in another one: it is that one, or occurs in a part of it. -/
inductive Predicate.OccursIn (q : Predicate) : Predicate → Prop
  /-- A predicate occurs in itself. -/
  | self : OccursIn q q
  /-- What occurs in a part occurs in the conjunction. -/
  | all {part : Predicate} {parts : List Predicate} (hpart : part ∈ parts)
      (h : OccursIn q part) : OccursIn q (.all parts)
  /-- What occurs in a part occurs in the disjunction. -/
  | any {part : Predicate} {parts : List Predicate} (hpart : part ∈ parts)
      (h : OccursIn q part) : OccursIn q (.any parts)

namespace Predicate

/-- What occurs in a reduced predicate is reduced. -/
theorem OccursIn.isReduced {p q : Predicate} (h : q.OccursIn p) (hp : p.isReduced = true) :
    q.isReduced = true := by
  induction h with
  | self => exact hp
  | all hpart _ ih =>
      rw [Predicate.isReduced, Bool.and_eq_true, isReducedAll_iff] at hp
      exact ih (hp.2 _ hpart)
  | any hpart _ ih =>
      rw [Predicate.isReduced, Bool.and_eq_true, isReducedAll_iff] at hp
      exact ih (hp.2 _ hpart)

/-- A predicate makes just those tests that occur in it. -/
theorem mem_tests_iff {p : Predicate} {name : String} {test : ColumnTest} :
    (name, test) ∈ p.tests ↔ (column name test).OccursIn p := by
  constructor
  · induction p using Predicate.induction with
    | const holds => intro h; cases h
    | column other t =>
        intro h
        obtain ⟨rfl, rfl⟩ := Prod.mk.inj (List.mem_singleton.1 h)
        exact .self
    | all parts ih =>
        intro h
        rw [tests, testsAll_eq_flatMap] at h
        obtain ⟨part, hpart, h⟩ := List.mem_flatMap.1 h
        exact .all hpart (ih part hpart h)
    | any parts ih =>
        intro h
        rw [tests, testsAll_eq_flatMap] at h
        obtain ⟨part, hpart, h⟩ := List.mem_flatMap.1 h
        exact .any hpart (ih part hpart h)
  · intro h
    induction h with
    | self => exact List.mem_cons_self
    | all hpart _ ih =>
        rw [tests, testsAll_eq_flatMap]
        exact List.mem_flatMap.2 ⟨_, hpart, ih⟩
    | any hpart _ ih =>
        rw [tests, testsAll_eq_flatMap]
        exact List.mem_flatMap.2 ⟨_, hpart, ih⟩

theorem const_alone_of_isFolded {p : Predicate} (h : p.isFolded = true) :
    (∃ holds, p = const holds) ∨ ∀ holds, ¬ (const holds).OccursIn p := by
  rw [isFolded, Bool.or_eq_true, isConst_iff] at h
  rcases h with hconst | hreduced
  · exact .inl hconst
  · -- no fixed outcome is reduced
    refine .inr fun holds hoccurs => ?_
    exact Bool.false_ne_true (hoccurs.isReduced hreduced)

/-- Every combination in a folded predicate has two parts or more. -/
theorem two_le_length_of_isFolded {p : Predicate} (h : p.isFolded = true) {parts : List Predicate}
    (hoccurs : (all parts).OccursIn p ∨ (any parts).OccursIn p) : 2 ≤ parts.length := by
  rw [isFolded, Bool.or_eq_true, isConst_iff] at h
  rcases h with ⟨holds, rfl⟩ | hreduced
  · -- a fixed outcome has no combinations in it
    rcases hoccurs with hall | hany
    · cases hall
    · cases hany
  · rcases hoccurs with hall | hany
    · have hparts := hall.isReduced hreduced
      rw [Predicate.isReduced, Bool.and_eq_true, decide_eq_true_eq] at hparts
      exact hparts.1
    · have hparts := hany.isReduced hreduced
      rw [Predicate.isReduced, Bool.and_eq_true, decide_eq_true_eq] at hparts
      exact hparts.1

end Predicate

/-! ### The tables of operators -/

namespace Operator

/-- The **comparison of texts** that an operator stands for, if it is in the table of them. -/
def textComparison? : Operator → Option (String → String → Bool)
  | equals => some fun actual expected => actual == expected
  | notEquals => some fun actual expected => actual != expected
  | contains => some Text.contains
  | startsWith => some Text.startsWith
  | endsWith => some Text.endsWith
  | _ => none

/-- The orderings that an operator stands for, if it is in the table of them. -/
def orderingTest? : Operator → Option (Ordering → Bool)
  | greaterThan | after => some fun ordering => ordering == .gt
  | lessThan | before => some fun ordering => ordering == .lt
  | greaterEqual => some fun ordering => ordering != .lt
  | lessEqual => some fun ordering => ordering != .gt
  | _ => none

/-- The comparison of a query that an operator stands for, if it is in the table of them. -/
def comparison? : Operator → Option Comparison
  | equals => some .eq
  | notEquals => some .ne
  | greaterThan | after => some .gt
  | lessThan | before => some .lt
  | greaterEqual => some .ge
  | lessEqual => some .le
  | _ => none

theorem matchesText_eq (op : Operator) (actual expected : String) :
    op.matchesText actual expected = (op.textComparison?.map (· actual expected)).getD false := by
  cases op <;> rfl

theorem matchesOrdering_eq (op : Operator) (ordering : Ordering) :
    op.matchesOrdering (some ordering) = (op.orderingTest?.map (· ordering)).getD false := by
  cases op <;> rfl

theorem comparisonOf_eq (op : Operator) : comparisonOf op = op.comparison?.getD .eq := by
  cases op <;> rfl

theorem isSome_textComparison? {op : Operator} (h : op.kind = .text) :
    op.textComparison?.isSome = true := by
  cases op <;> simp_all [kind, textComparison?]

theorem isSome_comparison?_of_text {op : Operator} (h : op.kind = .text) {operand : String}
    (hp : likePattern? op operand = none) : op.comparison?.isSome = true := by
  cases op <;> simp_all [kind, likePattern?, comparison?]

theorem isSome_orderingTest? {op : Operator} (h : op.kind = .numeric ∨ op.kind = .date) :
    op.orderingTest?.isSome = true ∧ op.comparison?.isSome = true := by
  cases op <;> simp_all [kind, orderingTest?, comparison?]

theorem kind_eq_date_iff {op : Operator} : op.kind = .date ↔ op = before ∨ op = after := by
  cases op <;> simp [kind]

/-- The table of orderings and that of queries have the operator, and answer what is answered
for it. -/
def ListsOrdering (op : Operator) : Prop :=
  (∀ ordering, op.orderingTest?.map (· ordering) = some (op.matchesOrdering (some ordering))) ∧
    op.comparison? = some (comparisonOf op)

theorem listsOrdering {op : Operator} (h : op.kind = .numeric ∨ op.kind = .date) :
    op.ListsOrdering := by
  obtain ⟨hordering, hquery⟩ := isSome_orderingTest? h
  obtain ⟨test, htest⟩ := Option.isSome_iff_exists.1 hordering
  obtain ⟨comparison, hcomparison⟩ := Option.isSome_iff_exists.1 hquery
  refine ⟨fun ordering => ?_, ?_⟩
  · rw [matchesOrdering_eq, htest, Option.map_some, Option.getD_some]
  · rw [comparisonOf_eq, hcomparison, Option.getD_some]

end Operator

/-! ### Tests -/

/-- A test whose operator is of its kind, and has an entry in every table in which it is looked
up, which is what is answered for it. -/
def ColumnTest.IsListed : ColumnTest → Prop
  | present | dateRange _ _ => True
  | text op operand =>
    op.kind = .text ∧
      (∀ actual, op.textComparison?.map (· actual operand) = some (op.matchesText actual operand)) ∧
      (likePattern? op operand = none → op.comparison? = some (comparisonOf op))
  | numeric op _ => op.kind = .numeric ∧ op.ListsOrdering
  | date op _ => (op = .before ∨ op = .after) ∧ op.ListsOrdering

theorem ColumnTest.isListed_text {op : Operator} (h : op.kind = .text) (operand : String) :
    (text op operand).IsListed := by
  obtain ⟨compare, hcompare⟩ := Option.isSome_iff_exists.1 (Operator.isSome_textComparison? h)
  refine ⟨h, fun actual => ?_, fun hpattern => ?_⟩
  · rw [Operator.matchesText_eq, hcompare, Option.map_some, Option.getD_some]
  · obtain ⟨comparison, hcomparison⟩ :=
      Option.isSome_iff_exists.1 (Operator.isSome_comparison?_of_text h hpattern)
    rw [Operator.comparisonOf_eq, hcomparison, Option.getD_some]

/-- The test of a condition is listed: it is made for the kind of the operator. -/
theorem Condition.isListed_test? {c : Condition} {test : ColumnTest} (h : c.test? = some test) :
    test.IsListed := by
  cases isTest_of_test? h with
  | present => exact trivial
  | text hk => exact ColumnTest.isListed_text hk _
  | numeric hk => exact ⟨hk, Operator.listsOrdering (.inl hk)⟩
  | date hk => exact ⟨Operator.kind_eq_date_iff.1 hk, Operator.listsOrdering (.inr hk)⟩
  | range => exact trivial

/-! ### Trees -/

/-- **Compiled trees are in normal form**: a fixed outcome stands alone or nowhere, every
combination has two parts or more, and every test has an operator of its kind, for which none of the
tables of operators falls back on its answer for all others. -/
theorem compile_normal_form (policy : EmptyGroupPolicy) (tree : Group) :
    let p := (tree.compile policy).predicate
    ((∃ holds, p = .const holds) ∨ ∀ holds, ¬ (Predicate.const holds).OccursIn p) ∧
      (∀ parts, (Predicate.all parts).OccursIn p ∨ (Predicate.any parts).OccursIn p →
        2 ≤ parts.length) ∧
      ∀ name test, (Predicate.column name test).OccursIn p → test.IsListed := by
  intro p
  have hfolded : p.isFolded = true := tree.node.isFolded_compile policy
  refine ⟨Predicate.const_alone_of_isFolded hfolded, ?_, ?_⟩
  · intro parts hoccurs
    exact Predicate.two_le_length_of_isFolded hfolded hoccurs
  · intro name test hoccurs
    obtain ⟨c, -, -, htest⟩ := Node.mem_tests_compile (Predicate.mem_tests_iff.2 hoccurs)
    exact Condition.isListed_test? htest

/-- Rules with groups that are certain not to hold, next to some that are left. -/
def foldableRules : Group where
  id := "root"
  logic := .or
  children :=
    [.group "g1" .or [],
     .group "g2" .and
      [.condition ⟨"c1", "status", .equals, .text "Active"⟩,
       .condition ⟨"c2", "registration_date", .between, .text "2024-01-01"⟩],
     .group "g3" .and
      [.group "g4" .and [],
       .condition ⟨"c3", "age", .greaterEqual, .text " 18 "⟩,
       .condition ⟨"c4", "registration_date", .before, .text "2024-01-01"⟩],
     .condition ⟨"c5", "email", .endsWith, .text "@EXAMPLE.com"⟩]

/-- What is left of them: the group with two tests, and the last condition. -/
theorem foldableRules_normal_form :
    let p := (foldableRules.compile .vacuous).predicate
    let age := ColumnTest.numeric .greaterEqual (some (Double.ofInt 18))
    let registered := ColumnTest.date .before (Calendar.instantOf? "2024-01-01")
    let email := ColumnTest.text .endsWith "@example.com"
    p = .any [.all [.column "age" age, .column "registration_date" registered],
      .column "email" email] ∧
      (∀ holds, ¬ (Predicate.const holds).OccursIn p) ∧
      age.IsListed ∧ registered.IsListed ∧ email.IsListed := by
  intro p age registered email
  have hp : p = .any [.all [.column "age" age, .column "registration_date" registered],
      .column "email" email] := by decide +kernel
  obtain ⟨hconst, -, htests⟩ := compile_normal_form .vacuous foldableRules
  have hlisted : ∀ test ∈ p.tests, test.2.IsListed := by
    intro test htest
    exact htests test.1 test.2 (Predicate.mem_tests_iff.1 htest)
  rw [hp] at hlisted
  refine ⟨hp, ?_, hlisted ("age", age) ?_, hlisted ("registration_date", registered) ?_,
    hlisted ("email", email) ?_⟩
  · rcases hconst with ⟨holds, hholds⟩ | hnone
    · exact absurd (hp.symm.trans hholds) (by simp)
    · exact hnone
  all_goals simp [Predicate.tests, Predicate.testsAll]

end Audience
