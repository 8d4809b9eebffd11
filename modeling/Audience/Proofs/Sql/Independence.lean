import Audience.Proofs.Sql.Agreement

/-!
**The text of a query does not depend on operands**.

What a predicate compares with comes from people, and becomes parameters of the query.  Two
predicates that differ in it alone have queries with the same text, in which as many parameters are
asked for.  So the text tells nothing of an operand but that it is there, and no operand has a way
into it.

Main definitions:

* `ColumnTest.Alike`, `Predicate.Alike` — tests and predicates that **differ in the content of
  operands alone**;
* `Sql.Expression.LooksLike` — conditions that are **written alike**.

Main results:

* `ColumnTest.Alike.looksLike` — tests that are alike are written alike;
* `Sql.looksLike_parts` — conditions that are combined are written alike if their parts are;
* `Predicate.Alike.looksLike` — predicates that are alike are written alike;
* `query_text_ignores_operands` — **alike predicates have queries with the same text**, or none for
  the same reason.
-/

set_option relaxedAutoImplicit false
set_option autoImplicit false

namespace Audience

open Sql

/-! ### Alike tests and predicates -/

/-- Two tests **differ in the content of operands alone**: they are of one kind, with one operator,
and where one has an operand the other has one. -/
inductive ColumnTest.Alike : ColumnTest → ColumnTest → Prop
  /-- The test for a value has no operand. -/
  | present : Alike .present .present
  /-- Tests of texts have operands of any content. -/
  | text (op : Operator) (operand other : String) : Alike (.text op operand) (.text op other)
  /-- Tests of numbers have operands both, or neither. -/
  | numeric (op : Operator) {operand other : Option Double} (h : operand.isSome = other.isSome) :
      Alike (.numeric op operand) (.numeric op other)
  /-- Tests of instants have operands both, or neither. -/
  | date (op : Operator) {operand other : Option Instant} (h : operand.isSome = other.isSome) :
      Alike (.date op operand) (.date op other)
  /-- Ranges have the same of their ends. -/
  | dateRange {first last first' last' : Option Instant} (hfirst : first.isSome = first'.isSome)
      (hlast : last.isSome = last'.isSome) : Alike (.dateRange first last) (.dateRange first' last')

/-- Two predicates **differ in the content of operands alone**: they are built in one way, and test
the same columns in alike ways. -/
inductive Predicate.Alike : Predicate → Predicate → Prop
  /-- The outcome is the same. -/
  | const (holds : Bool) : Alike (.const holds) (.const holds)
  /-- The column is the same. -/
  | column (name : String) {test other : ColumnTest} (h : test.Alike other) :
      Alike (.column name test) (.column name other)
  /-- The parts are alike, one by one. -/
  | all {parts others : List Predicate} (h : List.Forall₂ Alike parts others) :
      Alike (.all parts) (.all others)
  /-- The parts are alike, one by one. -/
  | any {parts others : List Predicate} (h : List.Forall₂ Alike parts others) :
      Alike (.any parts) (.any others)

/-- Induction on alike predicates: a relation holds of all of them if it holds of equal outcomes
and of alike tests of a column, and of combinations whenever it holds of their parts, one by one. -/
@[elab_as_elim]
theorem Predicate.Alike.induction {motive : Predicate → Predicate → Prop}
    (const : ∀ holds, motive (.const holds) (.const holds))
    (column : ∀ name (test other : ColumnTest), test.Alike other →
      motive (.column name test) (.column name other))
    (all : ∀ parts others, List.Forall₂ motive parts others → motive (.all parts) (.all others))
    (any : ∀ parts others, List.Forall₂ motive parts others → motive (.any parts) (.any others))
    {p q : Predicate} (h : p.Alike q) : motive p q := by
  induction p using Predicate.induction generalizing q with
  | const holds =>
      cases h
      exact const holds
  | column name test =>
      cases h with
      | column _ h => exact column name test _ h
  | all parts ih =>
      cases h with
      | all h => exact all parts _ (forall₂_of_forall_mem h fun part hm _ hpart => ih part hm hpart)
  | any parts ih =>
      cases h with
      | any h => exact any parts _ (forall₂_of_forall_mem h fun part hm _ hpart => ih part hm hpart)

/-! ### Conditions that are written alike -/

namespace Sql

/-- Two conditions are **written alike**: they are laid out in the same way, wherever the numbers of
their parameters begin, and have as many parameters. -/
structure Expression.LooksLike (e f : Expression) : Prop where
  /-- They are laid out in the same way. -/
  tokens : ∀ next, e.tokens next = f.tokens next
  /-- They have as many parameters. -/
  count : e.params.length = f.params.length

theorem Expression.LooksLike.refl (e : Expression) : e.LooksLike e := ⟨fun _ => rfl, rfl⟩

theorem looksLike_compare (column : String) (cast : Cast) (comparison : Comparison)
    (param other : Json) :
    (Expression.compare column cast comparison param).LooksLike
      (.compare column cast comparison other) :=
  ⟨fun _ => rfl, rfl⟩

theorem looksLike_like (column : String) (pattern other : Json) :
    (Expression.like column pattern).LooksLike (.like column other) :=
  ⟨fun _ => rfl, rfl⟩

theorem looksLike_between (column : String) (first last first' last' : Json) :
    (Expression.between column first last).LooksLike (.between column first' last') :=
  ⟨fun _ => rfl, rfl⟩

theorem likePattern?_eq_none_iff (op : Operator) (operand other : String) :
    likePattern? op operand = none ↔ likePattern? op other = none := by
  cases op <;> simp [likePattern?]

/-- A list of conditions is laid out as its first one, the word between them, and the others with
the numbers that come next. -/
theorem joinTokens_cons_cons (joiner : String) (next : Nat) (e f : Expression)
    (parts : List Expression) :
    Expression.joinTokens joiner next (e :: f :: parts)
      = e.tokens next ++ [.space, .word joiner, .space]
        ++ Expression.joinTokens joiner (next + e.params.length) (f :: parts) := by
  rw [Expression.joinTokens]
  exact List.cons_ne_nil f parts

/-- Conditions that are combined are written alike if their parts are, one by one. -/
theorem looksLike_parts {parts others : List Expression}
    (h : List.Forall₂ Expression.LooksLike parts others) :
    (∀ joiner next, Expression.joinTokens joiner next parts
        = Expression.joinTokens joiner next others) ∧
      (Expression.paramsAll parts).length = (Expression.paramsAll others).length := by
  induction h with
  | nil => exact ⟨fun _ _ => rfl, rfl⟩
  | @cons e f parts others hef hparts ih =>
      obtain ⟨htokens, hcount⟩ := ih
      constructor
      · intro joiner next
        cases hparts with
        | nil => exact hef.tokens next
        | cons =>
            -- the others begin at the same number, as the first ones have as many parameters
            rw [joinTokens_cons_cons, joinTokens_cons_cons, hef.tokens, hef.count, htokens]
      · rw [Expression.paramsAll, Expression.paramsAll, List.length_append, List.length_append,
          hef.count, hcount]

theorem looksLike_conjunction {parts others : List Expression}
    (h : List.Forall₂ Expression.LooksLike parts others) :
    (Expression.conjunction parts).LooksLike (.conjunction others) := by
  obtain ⟨htokens, hcount⟩ := looksLike_parts h
  refine ⟨fun next => ?_, hcount⟩
  rw [Expression.tokens, Expression.tokens, htokens]

theorem looksLike_disjunction {parts others : List Expression}
    (h : List.Forall₂ Expression.LooksLike parts others) :
    (Expression.disjunction parts).LooksLike (.disjunction others) := by
  obtain ⟨htokens, hcount⟩ := looksLike_parts h
  refine ⟨fun next => ?_, hcount⟩
  rw [Expression.tokens, Expression.tokens, htokens]

end Sql

theorem eq_none_or_eq_some_of_isSome_eq {α : Type} {a b : Option α} (h : a.isSome = b.isSome) :
    (a = none ∧ b = none) ∨ ∃ x y, a = some x ∧ b = some y := by
  cases a with
  | none =>
      have hb : b.isNone = true := Option.isSome_eq_false_iff.1 h.symm
      exact .inl ⟨rfl, Option.isNone_iff_eq_none.1 hb⟩
  | some x =>
      obtain ⟨y, hy⟩ := Option.isSome_iff_exists.1 h.symm
      exact .inr ⟨x, y, rfl, hy⟩

/-- Tests that are alike are written alike. -/
theorem ColumnTest.Alike.looksLike {test other : ColumnTest} (h : test.Alike other)
    (name : String) : (test.expression name).LooksLike (other.expression name) := by
  cases h with
  | present => exact .refl _
  | text op operand other =>
      have hnone := likePattern?_eq_none_iff op operand other
      rw [expression, expression]
      cases hp : likePattern? op operand with
      | none =>
          rw [hnone.1 hp]
          exact looksLike_compare ..
      | some pattern =>
          cases hq : likePattern? op other with
          | none =>
              rw [hnone.2 hq] at hp
              cases hp
          | some pattern' => exact looksLike_like ..
  | numeric op h =>
      rcases eq_none_or_eq_some_of_isSome_eq h with ⟨rfl, rfl⟩ | ⟨x, y, rfl, rfl⟩
      · exact .refl _
      · exact looksLike_compare ..
  | date op h =>
      rcases eq_none_or_eq_some_of_isSome_eq h with ⟨rfl, rfl⟩ | ⟨s, t, rfl, rfl⟩
      · exact .refl _
      · exact looksLike_compare ..
  | @dateRange first last _ _ hfirst hlast =>
      rcases eq_none_or_eq_some_of_isSome_eq hfirst with ⟨rfl, rfl⟩ | ⟨s, s', rfl, rfl⟩
      · exact .refl _
      · rcases eq_none_or_eq_some_of_isSome_eq hlast with ⟨rfl, rfl⟩ | ⟨t, t', rfl, rfl⟩
        · exact .refl _
        · exact looksLike_between ..

namespace Predicate

/-- Predicates that are alike are written alike. -/
theorem Alike.looksLike {p q : Predicate} (h : p.Alike q) :
    p.expression.LooksLike q.expression := by
  refine Alike.induction ?const ?column ?all ?any h
  case const => exact fun holds => .refl _
  case column => exact fun name test other h => h.looksLike name
  case all =>
    intro parts others ih
    rw [expression, expression, expressionAll_eq_map, expressionAll_eq_map]
    refine looksLike_conjunction ?_
    rwa [List.forall₂_map_left_iff, List.forall₂_map_right_iff]
  case any =>
    intro parts others ih
    rw [expression, expression, expressionAll_eq_map, expressionAll_eq_map]
    refine looksLike_disjunction ?_
    rwa [List.forall₂_map_left_iff, List.forall₂_map_right_iff]

theorem Alike.columns_eq {p q : Predicate} (h : p.Alike q) : p.columns = q.columns := by
  have hparts : ∀ {parts others : List Predicate},
      List.Forall₂ (fun part other => part.columns = other.columns) parts others →
      columnsAll parts = columnsAll others := by
    intro parts others h
    induction h with
    | nil => rfl
    | cons hpart _ ih => rw [columnsAll, columnsAll, hpart, ih]
  refine Alike.induction ?const ?column ?all ?any h
  case const => exact fun holds => rfl
  case column => exact fun name test other h => rfl
  case all => exact fun parts others ih => hparts ih
  case any => exact fun parts others ih => hparts ih

end Predicate

/-! ### Queries -/

/-- **Alike predicates have queries with the same text**, which ask for as many parameters, or they
have none for the same reason. -/
theorem query_text_ignores_operands {p q : Predicate} (h : p.Alike q) (catalog : Catalog) :
    (∃ e, p.toSql catalog = .error e ∧ q.toSql catalog = .error e) ∨
      ∃ f g, p.toSql catalog = .ok f ∧ q.toSql catalog = .ok g ∧ f.text = g.text ∧
        (∀ table, (f.select table).text = (g.select table).text) ∧
        f.params.length = g.params.length := by
  rw [Predicate.toSql, Predicate.toSql, h.columns_eq]
  cases q.columns.find? (!catalog.contains ·) with
  | some name => exact .inl ⟨_, rfl, rfl⟩
  | none =>
      have htokens : p.expression.fragment.tokens = q.expression.fragment.tokens :=
        h.looksLike.tokens 1
      refine .inr ⟨_, _, rfl, rfl, ?_, ?_, h.looksLike.count⟩
      · rw [Fragment.text, Fragment.text, htokens]
      · intro table
        rw [Fragment.select, Fragment.select, Fragment.selectTokens, Fragment.selectTokens, htokens]

/-- A predicate on a name, an age and a day of registration. -/
def plainPredicate : Predicate :=
  .any [.column "name" (.text .contains "Ada"),
    .all [.column "age" (.numeric .greaterEqual (some (Double.ofInt 18))),
      .column "registration_date" (.date .before (Calendar.instantOf? "2024-01-01"))]]

/-- The same predicate with operands that would like to be part of the query. -/
def hostilePredicate : Predicate :=
  .any [.column "name" (.text .contains "%' OR TRUE; DROP TABLE customers; --"),
    .all [.column "age" (.numeric .greaterEqual (some .nan)),
      .column "registration_date" (.date .before (Calendar.instantOf? "+10000-01-01"))]]

/-- The hostile predicate has the query of the plain one, with other parameters. -/
theorem hostilePredicate_text :
    plainPredicate.Alike hostilePredicate ∧
      ∃ f g, plainPredicate.toSql .customers = .ok f ∧ hostilePredicate.toSql .customers = .ok g ∧
        f.text = g.text ∧ f.params.length = g.params.length ∧ f.params ≠ g.params := by
  have halike : plainPredicate.Alike hostilePredicate :=
    .any (.cons (.column _ (.text _ _ _)) (.cons (.all
      (.cons (.column _ (.numeric _ rfl)) (.cons (.column _ (.date _ (by decide +kernel))) .nil)))
      .nil))
  have hplain : plainPredicate.toSql .customers = .ok plainPredicate.expression.fragment := by rfl
  rcases query_text_ignores_operands halike .customers with
    ⟨e, he, -⟩ | ⟨f, g, hf, hg, htext, -, hcount⟩
  · cases hplain.symm.trans he
  · refine ⟨halike, f, g, hf, hg, htext, hcount, ?_⟩
    obtain rfl := Except.ok.inj (hplain.symm.trans hf)
    obtain rfl := Predicate.toSql_eq_ok hg
    decide +kernel

end Audience
