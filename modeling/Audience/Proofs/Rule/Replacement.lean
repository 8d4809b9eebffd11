import Audience.Proofs.Predicate.Agreement

/-!
**Other nodes in the place of conditions**.

Groups combine the outcomes of their children and never turn one around.  So a tree in which
conditions with one outcome give way to other nodes can only lose that outcome: whenever it still
has it, the tree had it before.  A condition that no comparison can be made for has an outcome too,
by the kind of its anomaly.  It holds where the engine has failed, and then it keeps no record out
that any other node in its place would let in; and it does not hold where the record has no value or
the range no two ends, and then it lets no record in that any other node would keep out.

Main definitions:

* `Node.Becomes`, `Group.Becomes` — a tree becomes another one by **putting any nodes in the
  place of some conditions** of a kind;
* `Condition.FailsOpen`, `Condition.FailsClosed` — the two kinds of conditions that no comparison
  can be made for.

Main results:

* `Logic.outcomeOf_eq_of_forall₂` — a group has an outcome that its children had already;
* `Node.holds_of_becomes` — where conditions with one outcome give way, a node that still has this
  outcome had it before;
* `failures_keep_their_side` — **failing open never keeps a record out, and failing closed never
  lets one in**.
-/

set_option relaxedAutoImplicit false
set_option autoImplicit false

namespace Audience

/-! ### Trees with other nodes in them -/

/-- A node **becomes another one** by putting any nodes in the place of some conditions of a kind
at or below it. -/
inductive Node.Becomes (replaceable : Condition → Prop) : Node → Node → Prop
  /-- A condition of the kind gives way to any node. -/
  | replaced {c : Condition} (h : replaceable c) (next : Node) :
      Becomes replaceable (.condition c) next
  /-- A condition stays. -/
  | kept (c : Condition) : Becomes replaceable (.condition c) (.condition c)
  /-- In a group this is done for each child. -/
  | group (id : String) (logic : Logic) {children nexts : List Node}
      (h : List.Forall₂ (Becomes replaceable) children nexts) :
      Becomes replaceable (.group id logic children) (.group id logic nexts)

/-- A tree **becomes another one** by putting any nodes in the place of some conditions of a
kind. -/
def Group.Becomes (replaceable : Condition → Prop) (tree next : Group) : Prop :=
  tree.node.Becomes replaceable next.node

/-! ### Conditions without a comparison -/

namespace Condition

/-- A condition fails open on a record: its operator is not known, or a value cannot be read as
the operator asks. -/
def FailsOpen (record : Record) (c : Condition) : Prop :=
  (∃ identifier, c.outcome record = .error (.unknownOperator identifier)) ∨
    ∃ cause, c.outcome record = .error (.coercion cause)

/-- A condition fails closed on a record: its field has no value, or its range no two ends. -/
def FailsClosed (record : Record) (c : Condition) : Prop :=
  c.outcome record = .error .missingField ∨ c.outcome record = .error .malformedRange

variable {record : Record} {c : Condition}

theorem holds_of_outcome {kind : AnomalyKind} (h : c.outcome record = .error kind) :
    (c.evaluate record).holds = kind.outcome := by
  rw [evaluate, holds_conclude, h, settled]

theorem FailsOpen.holds (h : c.FailsOpen record) : (c.evaluate record).holds = true := by
  rcases h with ⟨identifier, h⟩ | ⟨cause, h⟩
  · exact holds_of_outcome h
  · exact holds_of_outcome h

theorem FailsClosed.holds (h : c.FailsClosed record) : (c.evaluate record).holds = false := by
  rcases h with h | h
  · exact holds_of_outcome h
  · exact holds_of_outcome h

end Condition

/-! ### Outcomes -/

/-- A group has an outcome that its children had already: if each child that comes to `b` now
came to it before, a group that comes to `b` now came to it before. -/
theorem Logic.outcomeOf_eq_of_forall₂ {logic : Logic} {b : Bool} {before after : List Bool}
    (h : List.Forall₂ (fun old new => new = b → old = b) before after)
    (hb : logic.outcomeOf after = b) : logic.outcomeOf before = b := by
  induction h with
  | nil => exact hb
  | @cons old new before after hold _ ih =>
      rw [outcomeOf_cons] at hb ⊢
      by_cases hnew : new = logic.decisive
      · -- the child decided for `b`, and did so before
        rw [if_pos hnew] at hb
        have hdecided : old = logic.decisive := (hold (hnew.trans hb)).trans hb.symm
        rw [if_pos hdecided, hb]
      · rw [if_neg hnew] at hb
        by_cases hdecided : old = logic.decisive
        · rw [if_pos hdecided]
          -- a child that stopped deciding against `b` would have come to `b` by that
          by_contra hne
          have hnewb : new = b := by
            rw [Bool.eq_not_of_ne hnew, ← Bool.eq_not_of_ne (Ne.symm hne)]
          exact hne (hdecided.symm.trans (hold hnewb))
        · rw [if_neg hdecided]
          exact ih hb

namespace Node

variable {policy : EmptyGroupPolicy} {record : Record} {replaceable : Condition → Prop} {b : Bool}

/-- Where conditions with one outcome give way to other nodes, a node that still has this outcome
had it before. -/
theorem holds_of_becomes (hr : ∀ c, replaceable c → (c.evaluate record).holds = b)
    {node next : Node} (h : node.Becomes replaceable next)
    (hb : (next.evaluate policy record).holds = b) : (node.evaluate policy record).holds = b := by
  induction node using Node.induction generalizing next with
  | condition c =>
      cases h with
      | replaced hc => exact hr c hc
      | kept => exact hb
  | group id logic children ih =>
      cases h with
      | @group _ _ _ nexts hchildren =>
          by_cases hc : children = []
          · -- there is no child that could give way
            subst hc
            cases hchildren
            exact hb
          · have hn : nexts ≠ [] := by
              rintro rfl
              exact hc (List.forall₂_nil_right_iff.1 hchildren)
            rw [holds_evaluate_group policy record id logic hn] at hb
            rw [holds_evaluate_group policy record id logic hc]
            refine Logic.outcomeOf_eq_of_forall₂ ?_ hb
            rw [List.forall₂_map_left_iff, List.forall₂_map_right_iff]
            exact forall₂_of_forall_mem hchildren fun child hm _ hbecomes => ih child hm hbecomes

end Node

/-! ### Trees -/

/-- **Failing open never keeps a record out, and failing closed never lets one in.**  If conditions
that fail open on a record give way to any other nodes and the record belongs to the tree that comes
of it, it has belonged to the tree before; and if conditions that fail closed give way, a record
that belongs to the tree still does. -/
theorem failures_keep_their_side (policy : EmptyGroupPolicy) (record : Record)
    (tree next : Group) :
    (tree.Becomes (Condition.FailsOpen record) next → next.accepts policy record = true →
        tree.accepts policy record = true) ∧
      (tree.Becomes (Condition.FailsClosed record) next → tree.accepts policy record = true →
        next.accepts policy record = true) := by
  constructor
  · intro h hnext
    exact Node.holds_of_becomes (fun c hc => hc.holds) h hnext
  · intro h htree
    by_contra hnext
    -- the record would not have belonged to the tree before
    have hbefore : tree.accepts policy record = false :=
      Node.holds_of_becomes (fun c hc => hc.holds) h (Bool.eq_false_iff.2 hnext)
    rw [hbefore] at htree
    cases htree

/-- Rules on an age with an operator that nobody knows and a list in the place of a text, and one on
a name. -/
def failingRules : Group where
  id := "root"
  logic := .and
  children :=
    [.condition ⟨"c1", "age", .unknown "is_square", .text ""⟩,
     .group "g1" .or
      [.condition ⟨"c2", "age", .equals, .list [.int 36]⟩,
       .condition ⟨"c3", "name", .equals, .text "Ada"⟩]]

/-- The same rules with other nodes for the two conditions on the age. -/
def mendedRules : Group where
  id := "root"
  logic := .and
  children :=
    [.condition ⟨"c4", "age", .greaterEqual, .number (Double.ofInt 18)⟩,
     .group "g1" .or
      [.group "g2" .and [.condition ⟨"c5", "age", .equals, .text "36"⟩],
       .condition ⟨"c3", "name", .equals, .text "Ada"⟩]]

/-- The same rules with a group that never holds for the condition on the name. -/
def namelessRules : Group where
  id := "root"
  logic := .and
  children :=
    [.condition ⟨"c1", "age", .unknown "is_square", .text ""⟩,
     .group "g1" .or
      [.condition ⟨"c2", "age", .equals, .list [.int 36]⟩,
       .group "g2" .or []]]

/-- A person of 36 without a name belongs to the mended rules and therefore to the failing ones, and
belongs to these and therefore to those without a name. -/
theorem failingRules_keep_side :
    let record : Record := ⟨[("age", .int 36)]⟩
    failingRules.Becomes (Condition.FailsOpen record) mendedRules ∧
      failingRules.Becomes (Condition.FailsClosed record) namelessRules ∧
      mendedRules.accepts .vacuous record = true ∧
      failingRules.accepts .vacuous record = true ∧
      namelessRules.accepts .vacuous record = true := by
  intro record
  have hmended : failingRules.Becomes (Condition.FailsOpen record) mendedRules :=
    .group _ _ (.cons (.replaced (.inl ⟨_, rfl⟩) _)
      (.cons (.group _ _ (.cons (.replaced (.inr ⟨_, rfl⟩) _) (.cons (.kept _) .nil))) .nil))
  have hnameless : failingRules.Becomes (Condition.FailsClosed record) namelessRules :=
    .group _ _ (.cons (.kept _)
      (.cons (.group _ _ (.cons (.kept _) (.cons (.replaced (.inl rfl) _) .nil))) .nil))
  have haccepts : mendedRules.accepts .vacuous record = true := by decide +kernel
  obtain ⟨hopen, -⟩ := failures_keep_their_side .vacuous record failingRules mendedRules
  obtain ⟨-, hclosed⟩ := failures_keep_their_side .vacuous record failingRules namelessRules
  have hfailing := hopen hmended haccepts
  exact ⟨hmended, hnameless, haccepts, hfailing, hclosed hnameless hfailing⟩

end Audience
