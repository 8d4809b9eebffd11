import Audience.Evaluation
import Audience.Predicate.Compilation

/-!
**Folding constants away** keeps what a predicate says, and leaves nothing to fold.

A group is compiled by combining the predicates of its children.  The fixed outcomes among them
are left out or settle the whole, so the combination is either a fixed outcome itself or holds
none at any depth.

Main definitions:

* `Predicate.induction` — induction on the structure of a predicate;
* `Logic.outcomeOf` — the outcome of a group from those of its children;
* `Predicate.tests` — the tests of columns that a predicate makes, from the left;
* `Predicate.isReduced`, `Predicate.isFolded` — predicates without fixed outcomes, in which every
  combination has two parts or more, and predicates that are one fixed outcome or have none.

Main results:

* `Logic.outcomeOf_congr` — the outcome of a group depends on which outcomes occur among its
  children;
* `Logic.accepts_combine` — folding keeps the outcome: a combination of predicates accepts a
  record as the logic says of its parts;
* `Logic.tests_combine_eq` — folding leaves all tests of the parts, in their order, or none;
* `Logic.isFolded_combine` — **folding leaves nothing to fold**.
-/

set_option relaxedAutoImplicit false
set_option autoImplicit false

namespace Audience

/-! ### Outcomes of groups -/

namespace Logic

/-- The outcome of a group from those of its children. -/
def outcomeOf : Logic → List Bool → Bool
  | .and, outcomes => outcomes.all id
  | .or, outcomes => outcomes.any id

/-- A child settles its group if it has the decisive outcome, and else leaves it to the others. -/
theorem outcomeOf_cons (logic : Logic) (b : Bool) (bs : List Bool) :
    logic.outcomeOf (b :: bs)
      = if b = logic.decisive then logic.decisive else logic.outcomeOf bs := by
  cases logic <;> cases b <;> simp [outcomeOf, decisive]

theorem outcomeOf_singleton (logic : Logic) (b : Bool) : logic.outcomeOf [b] = b := by
  cases logic <;> simp [outcomeOf]

variable {logic : Logic} {bs cs : List Bool}

theorem outcomeOf_eq_decisive_iff : logic.outcomeOf bs = logic.decisive ↔ logic.decisive ∈ bs := by
  cases logic with
  | and => simp [outcomeOf, decisive]
  | or => simp [outcomeOf, decisive]

theorem outcomeOf_eq_of_iff (h : logic.decisive ∈ bs ↔ logic.decisive ∈ cs) :
    logic.outcomeOf bs = logic.outcomeOf cs := by
  rw [← outcomeOf_eq_decisive_iff, ← outcomeOf_eq_decisive_iff] at h
  by_cases hb : logic.outcomeOf bs = logic.decisive
  · rw [hb, h.1 hb]
  · rw [Bool.eq_not_of_ne hb, Bool.eq_not_of_ne (mt h.2 hb)]

theorem outcomeOf_congr (h : ∀ b, b ∈ bs ↔ b ∈ cs) : logic.outcomeOf bs = logic.outcomeOf cs :=
  outcomeOf_eq_of_iff (h logic.decisive)

theorem outcomeOf_nested (before inner after : List Bool) :
    logic.outcomeOf (before ++ logic.outcomeOf inner :: after)
      = logic.outcomeOf (before ++ inner ++ after) := by
  refine outcomeOf_eq_of_iff ?_
  rw [List.mem_append, List.mem_cons, List.mem_append, List.mem_append, or_assoc,
    eq_comm (a := logic.decisive), outcomeOf_eq_decisive_iff]

end Logic

namespace Predicate

mutual

/-- Induction on predicates: a property holds of every predicate if it holds of fixed outcomes
and of tests, and of a combination whenever it holds of its parts. -/
theorem induction {motive : Predicate → Prop} (const : ∀ holds, motive (.const holds))
    (column : ∀ name test, motive (.column name test))
    (all : ∀ (parts : List Predicate), (∀ part ∈ parts, motive part) → motive (.all parts))
    (any : ∀ (parts : List Predicate), (∀ part ∈ parts, motive part) → motive (.any parts)) :
    ∀ p, motive p
  | .const holds => const holds
  | .column name test => column name test
  | .all parts => all parts (inductionAll const column all any parts)
  | .any parts => any parts (inductionAll const column all any parts)

theorem inductionAll {motive : Predicate → Prop} (const : ∀ holds, motive (.const holds))
    (column : ∀ name test, motive (.column name test))
    (all : ∀ (parts : List Predicate), (∀ part ∈ parts, motive part) → motive (.all parts))
    (any : ∀ (parts : List Predicate), (∀ part ∈ parts, motive part) → motive (.any parts)) :
    ∀ (parts : List Predicate), ∀ part ∈ parts, motive part
  | [], _, h => nomatch h
  | first :: parts, part, h => by
    rcases List.mem_cons.1 h with h | h
    · exact h ▸ induction const column all any first
    · exact inductionAll const column all any parts part h

end

/-! ### Combinations as lists -/

theorem acceptsAll_eq_all (record : Record) (parts : List Predicate) :
    acceptsAll record parts = parts.all (·.accepts record) := by
  induction parts with
  | nil => rfl
  | cons part parts ih => rw [acceptsAll, ih, List.all_cons]

theorem acceptsAny_eq_any (record : Record) (parts : List Predicate) :
    acceptsAny record parts = parts.any (·.accepts record) := by
  induction parts with
  | nil => rfl
  | cons part parts ih => rw [acceptsAny, ih, List.any_cons]

mutual

/-- The tests of columns that a predicate makes, from the left. -/
def tests : Predicate → List (String × ColumnTest)
  | const _ => []
  | column name test => [(name, test)]
  | all parts => testsAll parts
  | any parts => testsAll parts

/-- The tests that a list of predicates makes. -/
def testsAll : List Predicate → List (String × ColumnTest)
  | [] => []
  | part :: parts => part.tests ++ testsAll parts

end

theorem testsAll_eq_flatMap (parts : List Predicate) : testsAll parts = parts.flatMap tests := by
  induction parts with
  | nil => rfl
  | cons part parts ih => rw [testsAll, ih, List.flatMap_cons]

mutual

/-- Is a predicate reduced: without fixed outcomes, and with two parts or more in every
combination? -/
def isReduced : Predicate → Bool
  | const _ => false
  | column _ _ => true
  | all parts => 2 ≤ parts.length && isReducedAll parts
  | any parts => 2 ≤ parts.length && isReducedAll parts

/-- Are all predicates of a list reduced? -/
def isReducedAll : List Predicate → Bool
  | [] => true
  | part :: parts => part.isReduced && isReducedAll parts

end

theorem isReducedAll_iff {parts : List Predicate} :
    isReducedAll parts = true ↔ ∀ part ∈ parts, part.isReduced = true := by
  induction parts with
  | nil => simp [isReducedAll]
  | cons part parts ih => simp [isReducedAll, ih]

/-- Is there nothing to fold: is a predicate one fixed outcome, or reduced? -/
def isFolded (p : Predicate) : Bool := p.isConst || p.isReduced

theorem isReduced_of_isFolded {p : Predicate} (h : p.isFolded = true) (hc : p.isConst = false) :
    p.isReduced = true := by
  rwa [isFolded, hc, Bool.false_or] at h

/-! ### Joining parts -/

theorem tests_join (empty : Bool) {node : List Predicate → Predicate}
    (hn : ∀ parts, (node parts).tests = testsAll parts) (parts : List Predicate) :
    (join empty node parts).tests = parts.flatMap tests := by
  match parts with
  | [] => rfl
  | [part] => simp [join]
  | first :: second :: parts => exact (hn _).trans (testsAll_eq_flatMap _)

theorem isFolded_join (empty : Bool) {node : List Predicate → Predicate}
    (hn : ∀ parts, (node parts).isReduced = (decide (2 ≤ parts.length) && isReducedAll parts))
    {parts : List Predicate} (h : ∀ part ∈ parts, part.isReduced = true) :
    (join empty node parts).isFolded = true := by
  match parts with
  | [] => rfl
  | [part] => simp [join, isFolded, h part (by simp)]
  | first :: second :: parts =>
      have hr : (node (first :: second :: parts)).isReduced = true := by
        rw [hn, isReducedAll_iff.2 h]
        simp
      simp [join, isFolded, hr]

/-! ### Leaving fixed outcomes out -/

theorem isConst_iff {p : Predicate} : p.isConst = true ↔ ∃ holds, p = const holds := by
  cases p <;> simp [isConst]

theorem eq_const_of_isConst {parts : List Predicate} {b : Bool} (hb : const b ∉ parts)
    {part : Predicate} (hp : part ∈ parts) (hc : part.isConst = true) : part = const !b := by
  obtain ⟨holds, rfl⟩ := isConst_iff.1 hc
  have hne : holds ≠ b := fun h => hb (h ▸ hp)
  rw [Bool.eq_not_of_ne hne]

theorem flatMap_tests_filter (parts : List Predicate) :
    (parts.filter (!·.isConst)).flatMap tests = parts.flatMap tests := by
  induction parts with
  | nil => rfl
  | cons part parts ih =>
      cases hc : part.isConst with
      | false => simp [hc, ih]
      | true =>
          -- a fixed outcome makes no test
          obtain ⟨holds, rfl⟩ := isConst_iff.1 hc
          simp [hc, tests, ih]

theorem isReduced_of_mem_filter {parts : List Predicate}
    (h : ∀ part ∈ parts, part.isFolded = true) :
    ∀ part ∈ parts.filter (!·.isConst), part.isReduced = true := by
  intro part hp
  obtain ⟨hp, hc⟩ := List.mem_filter.1 hp
  exact isReduced_of_isFolded (h part hp) (by simpa using hc)

end Predicate

open Predicate

namespace Logic

/-- The combination of a list of parts that are no fixed outcomes. -/
def node : Logic → List Predicate → Predicate
  | .and => .all
  | .or => .any

/-- A part with the decisive outcome settles the combination; else the parts that are no fixed
outcomes are joined, and come to the other outcome if there are none. -/
theorem combine_eq (logic : Logic) (parts : List Predicate) :
    logic.combine parts
      = if const logic.decisive ∈ parts then const logic.decisive
        else join (!logic.decisive) logic.node (parts.filter (!·.isConst)) := by
  cases logic <;> rfl

theorem accepts_node (record : Record) (logic : Logic) (parts : List Predicate) :
    (logic.node parts).accepts record = logic.outcomeOf (parts.map (·.accepts record)) := by
  cases logic with
  | and => simp [node, Predicate.accepts, acceptsAll_eq_all, outcomeOf]
  | or => simp [node, Predicate.accepts, acceptsAny_eq_any, outcomeOf]

theorem accepts_join (record : Record) (logic : Logic) (parts : List Predicate) :
    (join (!logic.decisive) logic.node parts).accepts record
      = logic.outcomeOf (parts.map (·.accepts record)) := by
  match parts with
  | [] => cases logic <;> rfl
  | [part] => rw [join, List.map_singleton, outcomeOf_singleton]
  | first :: second :: parts => exact logic.accepts_node record _

/-- Folding keeps the outcome: a combination of predicates accepts a record as the logic says
of its parts. -/
theorem accepts_combine (record : Record) (logic : Logic) (parts : List Predicate) :
    (logic.combine parts).accepts record
      = logic.outcomeOf (parts.map (·.accepts record)) := by
  rw [combine_eq]
  by_cases hb : const logic.decisive ∈ parts
  · rw [if_pos hb, Predicate.accepts, eq_comm, outcomeOf_eq_decisive_iff]
    exact List.mem_map.2 ⟨const logic.decisive, hb, rfl⟩
  · rw [if_neg hb, accepts_join]
    refine outcomeOf_eq_of_iff ⟨fun h => (List.filter_sublist.map _).subset h, fun h => ?_⟩
    obtain ⟨part, hp, haccepts⟩ := List.mem_map.1 h
    cases hc : part.isConst with
    | false => exact List.mem_map.2 ⟨part, List.mem_filter.2 ⟨hp, by simp [hc]⟩, haccepts⟩
    | true =>
        -- a fixed outcome that is left out is not the decisive one
        rw [eq_const_of_isConst hb hp hc, Predicate.accepts] at haccepts
        exact absurd haccepts (by simp)

theorem tests_node (logic : Logic) (parts : List Predicate) :
    (logic.node parts).tests = testsAll parts := by
  cases logic <;> rfl

theorem isReduced_node (logic : Logic) (parts : List Predicate) :
    (logic.node parts).isReduced = (decide (2 ≤ parts.length) && isReducedAll parts) := by
  cases logic <;> rfl

/-- Folding leaves all tests of the parts, or none where one of them is decisive. -/
theorem tests_combine_eq (logic : Logic) (parts : List Predicate) :
    (logic.combine parts).tests
      = if const logic.decisive ∈ parts then [] else parts.flatMap Predicate.tests := by
  rw [combine_eq]
  by_cases hb : const logic.decisive ∈ parts
  · rw [if_pos hb, if_pos hb, Predicate.tests]
  · rw [if_neg hb, if_neg hb, tests_join _ logic.tests_node, flatMap_tests_filter]

theorem tests_combine (logic : Logic) (parts : List Predicate) :
    (logic.combine parts).tests.Sublist (parts.flatMap Predicate.tests) := by
  rw [tests_combine_eq]
  split
  · exact List.nil_sublist _
  · exact List.Sublist.refl _

/-- **Folding leaves nothing to fold**. -/
theorem isFolded_combine (logic : Logic) {parts : List Predicate}
    (h : ∀ part ∈ parts, part.isFolded = true) : (logic.combine parts).isFolded = true := by
  rw [combine_eq]
  split
  · rfl
  · exact isFolded_join _ logic.isReduced_node (isReduced_of_mem_filter h)

end Logic

end Audience
