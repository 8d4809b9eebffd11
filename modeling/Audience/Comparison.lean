import Audience.Rule.Basic

/-!
**Comparisons** of a record's value with the operand of a condition.

A comparison may fail to be made at all; then the condition has a fixed outcome by the kind of the
failure.  A failure of the engine (an operator that it does not know, a value that it cannot read)
lets the condition hold, so that it never drops a record; a field without a value, and a range
without two ends, do not.

Main definitions:

* `Operator.matchesText`, `Operator.matchesOrdering`, `within` — the comparisons of texts, of
  numbers and instants, and with a range;
* `AnomalyKind`, `AnomalyKind.outcome` — why no comparison could be made, and what that counts for;
* `Operator.compare` — the comparison that an operator makes.
-/

set_option relaxedAutoImplicit false
set_option autoImplicit false

namespace Audience

/-- Do two lowercased texts compare as a **text operator** says? -/
def Operator.matchesText (op : Operator) (actual expected : String) : Bool :=
  match op with
  | .equals => actual == expected
  | .notEquals => actual != expected
  | .contains => Text.contains actual expected
  | .startsWith => Text.startsWith actual expected
  | .endsWith => Text.endsWith actual expected
  | _ => false

/-- Does an **ordering** fit an operator?  An absent one fits none. -/
def Operator.matchesOrdering (op : Operator) : Option Ordering → Bool
  | none => false
  | some ordering =>
    match op with
    | .greaterThan | .after => ordering == .gt
    | .lessThan | .before => ordering == .lt
    | .greaterEqual => ordering != .lt
    | .lessEqual => ordering != .gt
    | _ => false

/-- The ordering of two values, where both are there. -/
def orderingOf? {α : Type} (compare : α → α → Option Ordering) (a b : Option α) : Option Ordering :=
  match a, b with
  | some a, some b => compare a b
  | _, _ => none

/-- Does an instant lie in a **range**, both ends included?  Where one of the three is missing it
does not. -/
def within (actual first last : Option Instant) : Bool :=
  match actual, first, last with
  | some actual, some first, some last =>
    (first.compare actual).isLE && (actual.compare last).isLE
  | _, _, _ => false

/-- The ordering of two instants, which is never absent. -/
def Instant.compare? (a b : Instant) : Option Ordering := some (a.compare b)

/-- Why **no comparison** could be made. -/
inductive AnomalyKind where
  | missingField
  | unknownOperator (identifier : String)
  | coercion (cause : Uncoercible)
  | malformedRange
  deriving DecidableEq, Repr

namespace AnomalyKind

/-- The name of a kind of anomaly. -/
def name : AnomalyKind → String
  | missingField => "missing_field"
  | unknownOperator _ => "unknown_operator"
  | coercion _ => "coercion"
  | malformedRange => "malformed_range"

/-- What is known about an anomaly besides its kind. -/
def detail? : AnomalyKind → Option String
  | unknownOperator identifier => some identifier
  | coercion cause => some cause.message
  | _ => none

/-- **Does a condition hold** that no comparison could be made for? -/
def outcome : AnomalyKind → Bool
  | missingField | malformedRange => false
  | unknownOperator _ | coercion _ => true

end AnomalyKind

/-- A reading of a value, or the anomaly that it has none. -/
def orAnomaly {α : Type} : Except Uncoercible α → Except AnomalyKind α
  | .ok value => .ok value
  | .error cause => .error (.coercion cause)

/-- The **comparison** of a record's value with an operand.  The record's value is read first, but
for a range, whose ends are looked for before it. -/
def Operator.compare (op : Operator) (expected : Operand) (actual : Json) :
    Except AnomalyKind Bool :=
  match op.kind with
  | .unknown => .error (.unknownOperator op.identifier)
  | .text => do
    let actual ← orAnomaly actual.folded
    let expected ← orAnomaly expected.folded
    return op.matchesText actual expected
  | .numeric => do
    let actual ← orAnomaly actual.number
    let expected ← orAnomaly expected.number?
    return op.matchesOrdering (orderingOf? Double.compare? actual expected)
  | .date => do
    let actual ← orAnomaly actual.date
    let expected ← orAnomaly expected.date?
    return op.matchesOrdering (orderingOf? Instant.compare? actual expected)
  | .range =>
    match expected.bounds? with
    | none => .error .malformedRange
    | some (first, last) => do
      let actual ← orAnomaly actual.date
      return within actual (Calendar.instantOf? first) (Calendar.instantOf? last)

end Audience
