import Audience.Authoring.Program
import Audience.Proofs.Double.Exceptional
import Audience.Proofs.Predicate.Agreement
import Audience.Proofs.Rule.Persistence

/-!
**Storing a tree and who belongs to it**.

A tree that has been made in a program can hold doubles that no text denotes: not-a-number and the
infinities.  They are written as null, which is read as the empty text.  Everything else that a
program can put into a tree comes back as it was.

Most comparisons tell the empty text from such a double, and then a stored tree has other members
than the tree had.  A few do not: an operator that compares nothing, a range, and the comparisons
that no number passes, such as with not-a-number.

Main definitions:

* `Operand.IsBuilt`, `Condition.IsBuilt` — the values and the conditions that a program can make;
* `Operator.overlooks` — does an operator compare alike with a double that is not finite and with
  the empty text?
* `Condition.survives` — does a condition keep its verdicts when it is stored?

Main results:

* `Operator.compare_empty`, `Operator.settled_compare_telltale` — what an operator overlooks makes
  no difference, and the rest does;
* `Group.evaluate_mapConditions` — conditions with the same verdicts make trees with the same
  verdicts;
* `stored_evaluate_eq` — **a stored tree keeps its verdicts if all its conditions do**, and for a
  tree of one condition not otherwise.
-/

set_option relaxedAutoImplicit false
set_option autoImplicit false

namespace Audience

/-! ### What operators overlook -/

namespace Operator

/-- Does an operator compare alike with a double that is not finite and with the empty text?
One that compares nothing does, and so does a range, for which neither has ends; and no number is
above positive infinity, below negative infinity, or comparable with not-a-number. -/
def overlooks (op : Operator) (x : Double) : Bool :=
  match op.kind with
  | .unknown | .range => true
  | .numeric =>
    x.isNaN || (op == .greaterThan && x == .infinity false)
      || (op == .lessThan && x == .infinity true)
  | .text | .date => false

theorem matchesOrdering_eq_false {op : Operator} (wanted : Ordering) {found : Option Ordering}
    (hop : ∀ ordering, op.matchesOrdering (some ordering) = (ordering == wanted))
    (h : found ≠ some wanted) : op.matchesOrdering found = false := by
  cases found with
  | none => rfl
  | some ordering => rw [hop, beq_eq_false_iff_ne]; exact fun e => h (congrArg some e)

theorem matchesOrdering_of_overlooks {op : Operator} {x : Double} (hkind : op.kind = .numeric)
    (h : op.overlooks x = true) (actual : Option Double) :
    op.matchesOrdering
      (orderingOf? Double.compare? actual (if x.isNaN then none else some x)) = false := by
  simp only [overlooks, hkind, Bool.or_eq_true, Bool.and_eq_true, beq_iff_eq] at h
  cases actual with
  | none => rfl
  | some a =>
      rcases h with (hnan | ⟨rfl, rfl⟩) | ⟨rfl, rfl⟩
      · rw [if_pos hnan]
        rfl
      · exact matchesOrdering_eq_false .gt (fun _ => rfl) (Double.compare?_infinity_ne_gt a)
      · exact matchesOrdering_eq_false .lt (fun _ => rfl) (Double.compare?_infinity_ne_lt a)

theorem number?_empty : Operand.empty.number? = .ok none := by decide +kernel

/-- What an operator overlooks makes no difference to its comparisons. -/
theorem compare_empty {op : Operator} {x : Double} (h : op.overlooks x = true) (actual : Json) :
    op.compare .empty actual = op.compare (.number x) actual := by
  unfold compare
  cases hkind : op.kind with
  | unknown => rfl
  | range => rfl
  | numeric =>
      rw [number?_empty, Operand.number?]
      cases actual.number with
      | error cause => rfl
      | ok actual =>
          have hnone : op.matchesOrdering (orderingOf? Double.compare? actual none) = false := by
            cases actual <;> rfl
          exact congrArg Except.ok
            (hnone.trans (matchesOrdering_of_overlooks hkind h actual).symm)
  | text => simp [overlooks, hkind] at h
  | date => simp [overlooks, hkind] at h

/-- A value that tells a double that is not finite from the empty text. -/
def telltale (op : Operator) (x : Double) : Json :=
  match op.kind with
  | .text => .string ""
  | .date => .string "2024-01-01"
  | _ => if op = .greaterEqual ∨ op = .lessEqual then .string x.plain else .int 0

/-- What an operator does not overlook makes a difference to some comparison. -/
theorem settled_compare_telltale {op : Operator} {x : Double} (hx : x.isFinite = false)
    (h : op.overlooks x = false) :
    settled (op.compare .empty (op.telltale x)) ≠ settled (op.compare (.number x) (op.telltale x)) := by
  -- twelve comparisons and three doubles: what a telltale is depends on nothing else
  have hall : ∀ op ∈ comparisons, ∀ x ∈ [Double.nan, .infinity true, .infinity false],
      op.overlooks x = false → settled (op.compare .empty (op.telltale x)) ≠
        settled (op.compare (.number x) (op.telltale x)) := by
    decide +kernel
  have hop : op ∈ comparisons := by
    cases op with
    | unknown identifier => exact absurd h (by simp [overlooks, kind])
    | _ => decide
  exact hall op hop x (by simpa using Double.eq_nan_or_infinity hx) h

end Operator

/-! ### Conditions -/

/-- A value that a **program can make**: out of JSON, of a text, of any double, or of the two ends
of a range. -/
inductive Operand.IsBuilt : Operand → Prop where
  | json {json : Json} (h : json.isProper = true) : IsBuilt (.ofJson json)
  | text (s : String) : IsBuilt (.text s)
  | number (x : Double) : IsBuilt (.number x)
  | range (first last : String) : IsBuilt (.range first last)

/-- Only doubles that are not finite do not come back as they were. -/
theorem Operand.IsBuilt.isStorable_or {value : Operand} (h : value.IsBuilt) :
    value.isStorable = true ∨ ∃ x, value = .number x ∧ x.isFinite = false := by
  cases h with
  | json h => exact .inl (Operand.isStorable_ofJson h)
  | text s => exact .inl rfl
  | number x =>
      cases hx : x.isFinite with
      | true => exact .inl hx
      | false => exact .inr ⟨x, rfl, hx⟩
  | range first last => exact .inl rfl

namespace Condition

/-- A condition that a **program can make**: its operator is named by an identifier. -/
structure IsBuilt (c : Condition) : Prop where
  /-- The operator is the one that an identifier names. -/
  operator : ∃ identifier, c.operator = .ofIdentifier identifier
  /-- The value can be made. -/
  value : c.value.IsBuilt

/-- Does the condition keep its verdicts when it is stored?  It does unless its value is a
double that is not finite and that its operator does not overlook. -/
def survives (c : Condition) : Bool :=
  match c.value with
  | .number x => x.isFinite || c.operator.overlooks x
  | _ => true

theorem IsBuilt.isStorable_operator {c : Condition} (h : c.IsBuilt) :
    c.operator.isStorable = true := by
  obtain ⟨identifier, hop⟩ := h.operator
  rw [hop]
  exact Operator.isStorable_ofIdentifier identifier

theorem IsBuilt.stored_of_number {c : Condition} (h : c.IsBuilt) {x : Double}
    (hvalue : c.value = .number x) (hx : x.isFinite = false) :
    c.stored = { c with value := .empty } := by
  rw [stored, (Operator.ofIdentifier_identifier_iff _).2 h.isStorable_operator, hvalue,
    Operand.toJson, Json.ofDouble, hx]
  rfl

theorem IsBuilt.evaluate_stored {c : Condition} (h : c.IsBuilt) (hc : c.survives = true)
    (record : Record) : c.stored.evaluate record = c.evaluate record := by
  rcases h.value.isStorable_or with hvalue | ⟨x, hvalue, hx⟩
  · rw [c.stored_eq_self (Bool.and_eq_true_iff.2 ⟨h.isStorable_operator, hvalue⟩)]
  -- the double comes back as the empty text, which the operator takes for the same
  · have hover : c.operator.overlooks x = true := by
      rw [survives, hvalue] at hc
      simpa [hx] using hc
    rw [h.stored_of_number hvalue hx, evaluate, evaluate, outcome, outcome, hvalue]
    cases record.get? c.field with
    | none => rfl
    | some actual => exact congrArg c.conclude (Operator.compare_empty hover actual)

theorem holds_evaluate_insert (c : Condition) {actual : Json} (h : actual.isNull = false) :
    (c.evaluate ((⟨[]⟩ : Record).insert c.field actual)).holds
      = settled (c.operator.compare c.value actual) := by
  have hget : ((⟨[]⟩ : Record).insert c.field actual).get? c.field = some actual := by
    rw [Record.get?_insert_self]
    simp [h]
  rw [evaluate, holds_conclude, outcome, hget]

/-- A condition that does not survive has another outcome on some record after it has been
stored. -/
theorem IsBuilt.exists_evaluate_stored_ne {c : Condition} (h : c.IsBuilt)
    (hc : c.survives = false) :
    ∃ record, (c.stored.evaluate record).holds ≠ (c.evaluate record).holds := by
  obtain ⟨x, hvalue, hx, hover⟩ :
      ∃ x, c.value = .number x ∧ x.isFinite = false ∧ c.operator.overlooks x = false := by
    unfold survives at hc
    split at hc
    · next x hvalue => exact ⟨x, hvalue, Bool.or_eq_false_iff.1 hc⟩
    · exact nomatch hc
  have hpresent : (c.operator.telltale x).isNull = false := by
    unfold Operator.telltale
    split
    · rfl
    · rfl
    · split <;> rfl
  refine ⟨(⟨[]⟩ : Record).insert c.field (c.operator.telltale x), ?_⟩
  have hafter := holds_evaluate_insert { c with value := .empty } hpresent
  rw [h.stored_of_number hvalue hx, hafter, c.holds_evaluate_insert hpresent, hvalue]
  exact Operator.settled_compare_telltale hx hover

end Condition

/-! ### Trees -/

namespace Node

variable {policy : EmptyGroupPolicy} {record : Record} {f : Condition → Condition}

/-- Conditions with the same verdicts make nodes with the same verdict. -/
theorem evaluate_mapConditions {node : Node}
    (h : ∀ c ∈ node.conditions, (f c).evaluate record = c.evaluate record) :
    (node.mapConditions f).evaluate policy record = node.evaluate policy record := by
  induction node using Node.induction with
  | condition c => exact h c (List.mem_singleton.2 rfl)
  | group id logic children ih =>
      rw [mapConditions, mapConditionsAll_eq_map]
      cases children with
      | nil => rfl
      | cons child children =>
          have hverdicts : ((child :: children).map (mapConditions f)).map (evaluate policy record)
              = (child :: children).map (evaluate policy record) := by
            rw [List.map_map]
            refine List.map_congr_left fun node hm => ?_
            exact ih node hm fun c hc => h c (mem_conditions_group.2 ⟨node, hm, hc⟩)
          exact evaluateAll_congr logic hverdicts

end Node

theorem Group.evaluate_mapConditions {policy : EmptyGroupPolicy} {record : Record}
    {f : Condition → Condition} {g : Group}
    (h : ∀ c ∈ g.conditions, (f c).evaluate record = c.evaluate record) :
    (g.mapConditions f).evaluate policy record = g.evaluate policy record :=
  Node.evaluate_mapConditions h

theorem Group.accepts_of_children_eq {policy : EmptyGroupPolicy} {record : Record} {g : Group}
    {c : Condition} (h : g.children = [.condition c]) :
    g.accepts policy record = (c.evaluate record).holds := by
  rw [Group.accepts, Group.evaluate, Group.node, h, Node.holds_evaluate_group _ _ _ _ (by simp),
    List.map_singleton, Logic.outcomeOf_singleton, Node.evaluate]

/-- A tree that a program has made is **read again** from what is written of it, and has the
verdicts that it had if all its conditions survive.  A tree of one condition has them only then. -/
theorem stored_evaluate_eq (tree : Group) (hbuilt : ∀ c ∈ tree.conditions, c.IsBuilt) :
    ∃ stored, Group.ofJson tree.toJson = .ok stored ∧
      ((∀ c ∈ tree.conditions, c.survives = true) → ∀ policy record,
        stored.evaluate policy record = tree.evaluate policy record) ∧
      ∀ c, tree.children = [.condition c] →
        ((∀ policy record, stored.accepts policy record = tree.accepts policy record) ↔
          c.survives = true) := by
  refine ⟨tree.stored, tree.ofJson_toJson, ?_, ?_⟩
  · intro hall policy record
    refine Group.evaluate_mapConditions ?_
    intro c hc
    exact (hbuilt c hc).evaluate_stored (hall c hc) record
  · intro c hc
    have hmem : c ∈ tree.conditions := by
      rw [Group.conditions, Group.node, Node.mem_conditions_group, hc]
      exact ⟨.condition c, List.mem_singleton.2 rfl, List.mem_singleton.2 rfl⟩
    have hstored : tree.stored.children = [.condition c.stored] := by
      rw [Group.stored, Group.mapConditions, hc]
      rfl
    constructor
    · intro hsame
      by_contra hdead
      obtain ⟨record, hne⟩ := (hbuilt c hmem).exists_evaluate_stored_ne (Bool.eq_false_iff.2 hdead)
      have := hsame .vacuous record
      rw [Group.accepts_of_children_eq hstored, Group.accepts_of_children_eq hc] at this
      exact hne this
    · intro halive policy record
      rw [Group.accepts_of_children_eq hstored, Group.accepts_of_children_eq hc,
        (hbuilt c hmem).evaluate_stored halive record]

/-- An active customer whose age is above positive infinity, which no number is. -/
def ageless : Group :=
  Authoring.build (fun n => if n = 0 then "c1" else "c2") .and
    [.greaterThan "age" (.infinity false), .equals "status" (.text "active")]

theorem ageless_keeps_verdicts :
    (∀ c ∈ ageless.conditions, c.IsBuilt) ∧ (∀ c ∈ ageless.conditions, c.survives = true) ∧
      ∃ stored, Group.ofJson ageless.toJson = .ok stored ∧
        ∀ policy record, stored.evaluate policy record = ageless.evaluate policy record := by
  have hbuilt : ∀ c ∈ ageless.conditions, c.IsBuilt :=
    List.forall_mem_cons.2 ⟨⟨⟨"greater_than", rfl⟩, .number _⟩,
      List.forall_mem_singleton.2 ⟨⟨"equals", rfl⟩, .text _⟩⟩
  have hsurvive : ∀ c ∈ ageless.conditions, c.survives = true := by decide +kernel
  obtain ⟨stored, hread, hkeeps, -⟩ := stored_evaluate_eq ageless hbuilt
  exact ⟨hbuilt, hsurvive, stored, hread, hkeeps hsurvive⟩

/-- A customer whose age is above negative infinity, as a program asks for any number at all. -/
def anyAge : Group := Authoring.build (fun _ => "c1") .and [.greaterThan "age" (.infinity true)]

/-- **Storing a tree can change who belongs to it**: a record belongs to this one before it is
stored, and does not after. -/
theorem anyAge_drops_member :
    (∀ c ∈ anyAge.conditions, c.IsBuilt) ∧
      ∃ stored, Group.ofJson anyAge.toJson = .ok stored ∧
        anyAge.accepts .inclusive ((⟨[]⟩ : Record).insert "age" (.int 5)) = true ∧
        stored.accepts .inclusive ((⟨[]⟩ : Record).insert "age" (.int 5)) = false :=
  ⟨List.forall_mem_singleton.2 ⟨⟨"greater_than", rfl⟩, .number _⟩,
    anyAge.stored, anyAge.ofJson_toJson, by decide +kernel, by decide +kernel⟩

end Audience
