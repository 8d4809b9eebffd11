import Audience.Proofs.Sql.Typing

/-!
**What membership depends on**.

A predicate looks at the columns that it tests and at nothing else of a record.  The columns of a
compiled tree are the fields of the conditions that are left of it, so the evaluation of the tree
itself, which still looks at the fields of all of its conditions, cannot depend on the others.  A
null stands for a value that is missing, wherever it is looked at.

Main results:

* `Predicate.accepts_congr` — a predicate depends on its columns only;
* `Node.holds_evaluate_congr` — a node depends on the columns of its predicate only;
* `membership_depends_on_columns` — **whether a record belongs to a tree depends on the columns that
  are left** of the tree.
-/

set_option relaxedAutoImplicit false
set_option autoImplicit false

namespace Audience

/-- A predicate depends on its columns only: it comes to the same outcome on records with the
same values in the columns of its tests. -/
theorem Predicate.accepts_congr {p : Predicate} {r s : Record}
    (h : ∀ test ∈ p.tests, r.get? test.1 = s.get? test.1) : p.accepts r = p.accepts s := by
  have hparts : ∀ (parts : List Predicate),
      (∀ part ∈ parts, (∀ test ∈ part.tests, r.get? test.1 = s.get? test.1) →
        part.accepts r = part.accepts s) →
      (∀ test ∈ testsAll parts, r.get? test.1 = s.get? test.1) →
      ∀ part ∈ parts, part.accepts r = part.accepts s := by
    intro parts ih hall part hpart
    refine ih part hpart fun test htest => hall test ?_
    rw [testsAll_eq_flatMap]
    exact List.mem_flatMap.2 ⟨part, hpart, htest⟩
  induction p using Predicate.induction with
  | const holds => rfl
  | column name test => simp [accepts, h (name, test) (by simp [tests])]
  | all parts ih =>
      rw [accepts, accepts, acceptsAll_eq_all, acceptsAll_eq_all, Bool.eq_iff_iff,
        List.all_eq_true, List.all_eq_true]
      exact forall₂_congr fun part hpart => by rw [hparts parts ih h part hpart]
  | any parts ih =>
      rw [accepts, accepts, acceptsAny_eq_any, acceptsAny_eq_any, Bool.eq_iff_iff,
        List.any_eq_true, List.any_eq_true]
      exact exists_congr fun part => and_congr_right fun hpart => by
        rw [hparts parts ih h part hpart]

/-- Whether a node holds depends on the columns of its predicate only. -/
theorem Node.holds_evaluate_congr {policy : EmptyGroupPolicy} {node : Node} {r s : Record}
    (h : ∀ name ∈ (node.compile policy).predicate.columns, r.get? name = s.get? name) :
    (node.evaluate policy r).holds = (node.evaluate policy s).holds := by
  rw [← node.accepts_compile policy r, ← node.accepts_compile policy s]
  refine Predicate.accepts_congr fun test htest => h test.1 ?_
  rw [Predicate.columns_eq_map_tests]
  exact List.mem_map.2 ⟨test, htest, rfl⟩

theorem Record.get?_insert_null {record : Record} {field : String} (h : record.get? field = none)
    (name : String) : (record.insert field .null).get? name = record.get? name := by
  by_cases hname : name = field
  · subst hname
    rw [get?_insert_self, h]
    rfl
  · exact record.get?_insert_of_ne hname .null

/-- **Whether a record belongs to a tree depends on the columns that are left of the tree.**
Records with the same values in the columns of the compiled tree belong to it alike.  So a null does
what a field that is missing does, and any value of a field that is not among the columns does
nothing; these are the fields of conditions that have all been folded away. -/
theorem membership_depends_on_columns (policy : EmptyGroupPolicy) (tree : Group) :
    let columns := (tree.compile policy).predicate.columns
    (∀ r s : Record, (∀ name ∈ columns, r.get? name = s.get? name) →
        tree.accepts policy r = tree.accepts policy s) ∧
      (∀ (record : Record) (field : String), record.get? field = none →
        tree.accepts policy (record.insert field .null) = tree.accepts policy record) ∧
      (∀ (record : Record) (field : String) (value : Json), field ∉ columns →
        tree.accepts policy (record.insert field value) = tree.accepts policy record) ∧
      columns = (tree.remaining policy).map (·.field) := by
  intro columns
  have hagree : ∀ r s : Record, (∀ name ∈ columns, r.get? name = s.get? name) →
      tree.accepts policy r = tree.accepts policy s := by
    intro r s h
    exact Node.holds_evaluate_congr h
  refine ⟨hagree, ?_, ?_, tree.columns_compile policy⟩
  · intro record field hnone
    exact hagree _ _ fun name _ => Record.get?_insert_null hnone name
  · intro record field value hfield
    refine hagree _ _ fun name hname => record.get?_insert_of_ne ?_ value
    rintro rfl
    exact hfield hname

/-- Two people of 36 belong to the rules alike, one with a city and a birthday and the other with a
null for the name: the rules ask for cities and birthdays, but only in a group that never holds. -/
theorem strayRules_depend_on_columns :
    let settled : Record :=
      ⟨[("age", .int 36), ("birthday", .string "2024-06-01"), ("city", .string "Lima")]⟩
    let nameless : Record := ⟨[("age", .int 36), ("name", .null)]⟩
    let columns := (strayRules.compile .inclusive).predicate.columns
    strayRules.conditions.map (·.field) = ["city", "birthday", "age", "name", "last_order_date"] ∧
      columns = ["age", "name", "last_order_date"] ∧
      (∀ name ∈ columns, settled.get? name = nameless.get? name) ∧
      settled.get? "name" = none ∧
      "city" ∉ columns ∧
      strayRules.accepts .inclusive nameless = true ∧
      strayRules.accepts .inclusive settled = true ∧
      strayRules.accepts .inclusive (settled.insert "name" .null) = true ∧
      strayRules.accepts .inclusive (settled.insert "city" (.string "Quito")) = true := by
  intro settled nameless columns
  obtain ⟨hagree, hnull, hother, hleft⟩ := membership_depends_on_columns .inclusive strayRules
  have hcolumns : columns = ["age", "name", "last_order_date"] :=
    hleft.trans (by decide +kernel)
  have hsame : ∀ name ∈ columns, settled.get? name = nameless.get? name := by
    rw [hcolumns]
    decide +kernel
  have hname : settled.get? "name" = none := by decide +kernel
  have hcity : "city" ∉ columns := by
    rw [hcolumns]
    decide
  have haccepts : strayRules.accepts .inclusive nameless = true := by decide +kernel
  have hsettled := (hagree settled nameless hsame).trans haccepts
  exact ⟨by decide, hcolumns, hsame, hname, hcity, haccepts, hsettled,
    (hnull settled "name" hname).trans hsettled, (hother settled "city" _ hcity).trans hsettled⟩

end Audience
