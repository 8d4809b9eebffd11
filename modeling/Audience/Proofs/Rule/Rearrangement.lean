import Audience.Proofs.Predicate.Agreement
import Mathlib.Logic.Relation

/-!
**Order and grouping of children**.

The outcome of a group with children depends only on which outcomes occur among its children.  So it
makes no difference in what order they stand, whether one of them stands there twice, and whether
some of them stand in a group of their own with the same logic.  A group of one child comes to what
the child comes to, and identifiers are not looked at.  Only groups without children must stay as
they are, since it is the policy that decides on them.

Main definitions:

* `Node.Rearranges` — **one rearrangement**, anywhere in a tree;
* `Group.IsRearrangementOf` — trees that come of each other by **any number of them**, made or taken
  back.

Main results:

* `Node.Rearranges.holds_eq` — a rearrangement keeps the outcome;
* `rearrangements_accept_alike` — **order and grouping do not affect membership**.
-/

set_option relaxedAutoImplicit false
set_option autoImplicit false

namespace Audience

/-! ### Rearranged trees -/

/-- A node is **rearranged** into another one, in one place. -/
inductive Node.Rearranges : Node → Node → Prop
  /-- The children of a group are put into another order. -/
  | permuted (id : String) (logic : Logic) {children others : List Node}
      (h : children.Perm others) : Rearranges (.group id logic children) (.group id logic others)
  /-- A child of a group is repeated. -/
  | duplicated (id : String) (logic : Logic) (before : List Node) (child : Node)
      (after : List Node) :
      Rearranges (.group id logic (before ++ child :: after))
        (.group id logic (before ++ child :: child :: after))
  /-- A group with the same logic as the group that it is a child of gives way to its children, of
  which there is at least one. -/
  | spliced (id inner : String) (logic : Logic) (before : List Node) {children : List Node}
      (h : children ≠ []) (after : List Node) :
      Rearranges (.group id logic (before ++ .group inner logic children :: after))
        (.group id logic (before ++ children ++ after))
  /-- A group of one child gives way to the child. -/
  | unwrapped (id : String) (logic : Logic) (child : Node) :
      Rearranges (.group id logic [child]) child
  /-- A condition gets another identifier. -/
  | renamedCondition (c : Condition) (id : String) :
      Rearranges (.condition c) (.condition { c with id := id })
  /-- A group gets another identifier. -/
  | renamedGroup (id other : String) (logic : Logic) (children : List Node) :
      Rearranges (.group id logic children) (.group other logic children)
  /-- A child of a group is rearranged. -/
  | inside (id : String) (logic : Logic) (before : List Node) {child next : Node}
      (after : List Node) (h : Rearranges child next) :
      Rearranges (.group id logic (before ++ child :: after))
        (.group id logic (before ++ next :: after))

/-- A tree comes of another one by **any number of rearrangements**, each of them made or taken
back. -/
def Group.IsRearrangementOf (next tree : Group) : Prop :=
  Relation.EqvGen Node.Rearranges tree.node next.node

/-! ### Nodes -/

namespace Node

/-- A rearrangement keeps the outcome of a node. -/
theorem Rearranges.holds_eq (policy : EmptyGroupPolicy) (record : Record) {node next : Node}
    (h : node.Rearranges next) :
    (next.evaluate policy record).holds = (node.evaluate policy record).holds := by
  induction h with
  | @permuted id logic children others hperm =>
      by_cases hc : children = []
      · subst hc
        rw [List.nil_perm.1 hperm]
      · have ho : others ≠ [] := fun ho => hc (List.perm_nil.1 (ho ▸ hperm))
        rw [holds_evaluate_group policy record id logic hc,
          holds_evaluate_group policy record id logic ho]
        exact Logic.outcomeOf_congr fun b => (hperm.map _).mem_iff.symm
  | duplicated id logic before child after =>
      rw [holds_evaluate_group policy record id logic (by simp),
        holds_evaluate_group policy record id logic (by simp)]
      exact Logic.outcomeOf_congr (by simp)
  | @spliced id inner logic before children hc after =>
      rw [holds_evaluate_group policy record id logic (by simp [hc]),
        holds_evaluate_group policy record id logic (by simp), List.map_append, List.map_append,
        List.map_append, List.map_cons, holds_evaluate_group policy record inner logic hc,
        Logic.outcomeOf_nested]
  | unwrapped id logic child =>
      rw [holds_evaluate_group policy record id logic (by simp), List.map_singleton,
        Logic.outcomeOf_singleton]
  | renamedCondition c id =>
      rw [evaluate, evaluate, Condition.evaluate, Condition.evaluate, Condition.holds_conclude,
        Condition.holds_conclude]
      rfl
  | renamedGroup id other logic children => cases children <;> rfl
  | inside id logic before after _ ih =>
      rw [holds_evaluate_group policy record id logic (by simp),
        holds_evaluate_group policy record id logic (by simp), List.map_append, List.map_append,
        List.map_cons, List.map_cons, ih]

theorem holds_eq_of_eqvGen (policy : EmptyGroupPolicy) (record : Record) {node next : Node}
    (h : Relation.EqvGen Rearranges node next) :
    (next.evaluate policy record).holds = (node.evaluate policy record).holds := by
  induction h with
  | rel node next hstep => exact hstep.holds_eq policy record
  | refl node => rfl
  | symm node next _ ih => exact ih.symm
  | trans node middle next _ _ hfirst hsecond => exact hsecond.trans hfirst

end Node

/-! ### Trees -/

/-- **Order and grouping do not affect membership.**  Trees that come of each other by putting
children into another order, repeating them, dissolving groups that have children and the logic of
the group around them, dissolving groups of one child and giving other identifiers, at any depth,
accept the same records, whether they are evaluated or compiled. -/
theorem rearrangements_accept_alike (policy : EmptyGroupPolicy) (record : Record)
    {tree next : Group} (h : next.IsRearrangementOf tree) :
    next.accepts policy record = tree.accepts policy record ∧
      (next.compile policy).predicate.accepts record
        = (tree.compile policy).predicate.accepts record := by
  have hholds : next.accepts policy record = tree.accepts policy record :=
    Node.holds_eq_of_eqvGen policy record h
  refine ⟨hholds, ?_⟩
  calc (next.compile policy).predicate.accepts record
      = next.accepts policy record := next.node.accepts_compile policy record
    _ = tree.accepts policy record := hholds
    _ = (tree.compile policy).predicate.accepts record :=
        (tree.node.accepts_compile policy record).symm

/-- A condition on a status. -/
def activeStatus : Node := .condition ⟨"c1", "status", .equals, .text "Active"⟩

/-- A condition on an age. -/
def fullAge (id : String) : Node := .condition ⟨id, "age", .greaterEqual, .text "18"⟩

/-- A condition on an address. -/
def exampleAddress : Node := .condition ⟨"c3", "email", .endsWith, .text "@example.com"⟩

/-- Rules with a group of the same logic as the root, and in it a group of one condition. -/
def nestedRules : Group :=
  ⟨"root", .and,
    [.group "g1" .and [activeStatus, .group "g2" .or [fullAge "c2"]], exampleAddress]⟩

/-- The same rules without groups, in another order and with one of them twice. -/
def levelRules : Group :=
  ⟨"root", .and, [exampleAddress, activeStatus, fullAge "c2", fullAge "c4"]⟩

/-- The nested rules become the level ones step by step; so an active person of 36 belongs to both,
and one of 12 to neither. -/
theorem levelRules_accept_alike :
    let adult : Record := ⟨[("age", .int 36), ("email", .string "Ada@Example.com"),
      ("status", .string "active")]⟩
    let child : Record := ⟨[("age", .int 12), ("email", .string "Bob@Example.com"),
      ("status", .string "active")]⟩
    levelRules.IsRearrangementOf nestedRules ∧
      nestedRules.accepts .vacuous adult = true ∧
      levelRules.accepts .vacuous adult = true ∧
      (levelRules.compile .vacuous).predicate.accepts adult = true ∧
      nestedRules.accepts .vacuous child = false ∧
      levelRules.accepts .vacuous child = false := by
  intro adult child
  have hspliced : nestedRules.node.Rearranges
      (.group "root" .and [activeStatus, .group "g2" .or [fullAge "c2"], exampleAddress]) :=
    .spliced "root" "g1" .and [] (by simp) [exampleAddress]
  have hunwrapped : Node.Rearranges
      (.group "root" .and [activeStatus, .group "g2" .or [fullAge "c2"], exampleAddress])
      (.group "root" .and [activeStatus, fullAge "c2", exampleAddress]) :=
    .inside "root" .and [activeStatus] [exampleAddress] (.unwrapped "g2" .or (fullAge "c2"))
  have hduplicated : Node.Rearranges
      (.group "root" .and [activeStatus, fullAge "c2", exampleAddress])
      (.group "root" .and [activeStatus, fullAge "c2", fullAge "c2", exampleAddress]) :=
    .duplicated "root" .and [activeStatus] (fullAge "c2") [exampleAddress]
  have hrenamed : Node.Rearranges
      (.group "root" .and [activeStatus, fullAge "c2", fullAge "c2", exampleAddress])
      (.group "root" .and [activeStatus, fullAge "c2", fullAge "c4", exampleAddress]) :=
    .inside "root" .and [activeStatus, fullAge "c2"] [exampleAddress] (.renamedCondition _ "c4")
  have hpermuted : Node.Rearranges
      (.group "root" .and [activeStatus, fullAge "c2", fullAge "c4", exampleAddress])
      levelRules.node :=
    .permuted "root" .and
      (@List.perm_append_comm _ [activeStatus, fullAge "c2", fullAge "c4"] [exampleAddress])
  have hlevel : levelRules.IsRearrangementOf nestedRules :=
    .trans _ _ _ (.rel _ _ hspliced) <| .trans _ _ _ (.rel _ _ hunwrapped) <|
      .trans _ _ _ (.rel _ _ hduplicated) <|
      .trans _ _ _ (.rel _ _ hrenamed) (.rel _ _ hpermuted)
  obtain ⟨hadult, hcompiled⟩ := rearrangements_accept_alike .vacuous adult hlevel
  obtain ⟨hchild, -⟩ := rearrangements_accept_alike .vacuous child hlevel
  have haccepts : nestedRules.accepts .vacuous adult = true := by decide +kernel
  have hrefuses : nestedRules.accepts .vacuous child = false := by decide +kernel
  have hpredicate : (nestedRules.compile .vacuous).predicate.accepts adult = true :=
    (nestedRules.node.accepts_compile .vacuous adult).trans haccepts
  exact ⟨hlevel, haccepts, hadult.trans haccepts, hcompiled.trans hpredicate, hrefuses,
    hchild.trans hrefuses⟩

end Audience
