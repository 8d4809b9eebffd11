import Audience.Comparison
import Audience.Record

/-!
**Predicates** on records: conjunctions and disjunctions of tests of columns.

In a predicate every decision that does not depend on the record has been made: operands have been
read, and tests that cannot be made have been replaced by the outcome that they count for.

Main definitions:

* `ColumnTest`, `ColumnTest.accepts` — a test of a column's value;
* `Predicate`, `Predicate.accepts` — does a record fulfil a predicate?
* `Predicate.columns` — the columns that are tested, from the left;
* `Predicate.conjunction`, `Predicate.disjunction` — predicates combined, with the fixed outcomes
  folded away.
-/

set_option relaxedAutoImplicit false
set_option autoImplicit false

namespace Audience

/-- A **test of a column's value**.  An operand that is absent is never met. -/
inductive ColumnTest where
  /-- The column has a value. -/
  | present
  /-- The value, in lowercase, compares with a lowercased text. -/
  | text (op : Operator) (operand : String)
  /-- The value compares with a number. -/
  | numeric (op : Operator) (operand : Option Double)
  /-- The value compares with an instant. -/
  | date (op : Operator) (operand : Option Instant)
  /-- The value lies in a range of instants. -/
  | dateRange (first last : Option Instant)
  deriving DecidableEq, Repr

/-- The outcome of a test on the reading of a value; a value without one passes every test. -/
def passes {α : Type} (test : α → Bool) : Except Uncoercible α → Bool
  | .ok value => test value
  | .error _ => true

/-- Does a value other than null **pass a test**? -/
def ColumnTest.accepts (actual : Json) : ColumnTest → Bool
  | present => true
  | text op operand => passes (op.matchesText · operand) actual.folded
  | numeric op operand =>
    passes (fun n => op.matchesOrdering (orderingOf? Double.compare? n operand)) actual.number
  | date op operand =>
    passes (fun t => op.matchesOrdering (orderingOf? Instant.compare? t operand)) actual.date
  | dateRange first last => passes (within · first last) actual.date

/-- A **predicate** on records. -/
inductive Predicate where
  /-- A fixed outcome. -/
  | const (holds : Bool)
  /-- A test of a column, which fails if the column has no value. -/
  | column (name : String) (test : ColumnTest)
  /-- All parts hold. -/
  | all (parts : List Predicate)
  /-- One of the parts holds. -/
  | any (parts : List Predicate)
  deriving Repr, Inhabited

namespace Predicate

mutual

/-- Decides whether two predicates are equal. -/
def decEq : (p q : Predicate) → Decidable (p = q)
  | const a, const b => decidable_of_iff (a = b) (by simp)
  | column a s, column b t => decidable_of_iff (a = b ∧ s = t) (by simp)
  | all ps, all qs => @decidable_of_iff _ _ (by simp) (decEqAll ps qs)
  | any ps, any qs => @decidable_of_iff _ _ (by simp) (decEqAll ps qs)
  | const _, column .. | const _, all _ | const _, any _ | column .., const _ | column .., all _
  | column .., any _ | all _, const _ | all _, column .. | all _, any _ | any _, const _
  | any _, column .. | any _, all _ => isFalse (by simp)

/-- Decides whether two lists of predicates are equal. -/
def decEqAll : (ps qs : List Predicate) → Decidable (ps = qs)
  | [], [] => isTrue rfl
  | [], _ :: _ | _ :: _, [] => isFalse (by simp)
  | p :: ps, q :: qs =>
    match decEq p q, decEqAll ps qs with
    | isTrue h, isTrue hs => isTrue (by rw [h, hs])
    | isFalse h, _ => isFalse (by simp [h])
    | _, isFalse hs => isFalse (by simp [hs])

end

instance : DecidableEq Predicate := decEq

mutual

/-- Does a record **fulfil a predicate**? -/
def accepts (record : Record) : Predicate → Bool
  | const holds => holds
  | column name test =>
    match record.get? name with
    | none => false
    | some actual => test.accepts actual
  | all parts => acceptsAll record parts
  | any parts => acceptsAny record parts

/-- Does a record fulfil all predicates of a list? -/
def acceptsAll (record : Record) : List Predicate → Bool
  | [] => true
  | part :: parts => part.accepts record && acceptsAll record parts

/-- Does a record fulfil one predicate of a list? -/
def acceptsAny (record : Record) : List Predicate → Bool
  | [] => false
  | part :: parts => part.accepts record || acceptsAny record parts

end

mutual

/-- The **columns** that a predicate tests, from the left. -/
def columns : Predicate → List String
  | const _ => []
  | column name _ => [name]
  | all parts => columnsAll parts
  | any parts => columnsAll parts

/-- The columns that a list of predicates tests. -/
def columnsAll : List Predicate → List String
  | [] => []
  | part :: parts => part.columns ++ columnsAll parts

end

/-! ### Constants folded away -/

/-- Is this a fixed outcome? -/
def isConst : Predicate → Bool
  | const _ => true
  | _ => false

/-- A list of parts joined, of which one alone stands for itself, and none for a fixed outcome. -/
def join (empty : Bool) (node : List Predicate → Predicate) : List Predicate → Predicate
  | [] => const empty
  | [part] => part
  | parts => node parts

/-- The **conjunction** of predicates: false if one of them is, else that of those which are no
fixed outcome. -/
def conjunction (parts : List Predicate) : Predicate :=
  if const false ∈ parts then const false else join true all (parts.filter (!·.isConst))

/-- The **disjunction** of predicates: true if one of them is, else that of those which are no
fixed outcome. -/
def disjunction (parts : List Predicate) : Predicate :=
  if const true ∈ parts then const true else join false any (parts.filter (!·.isConst))

end Predicate

end Audience
