/-!
**Operators**: the comparisons a condition can make.

An operator is known by its identifier.  Identifiers that name none of the twelve comparisons are
kept as they are, so that a rule tree that uses them loses nothing when it is stored.

Main definitions:

* `Operator`, `Operator.Kind` — the comparisons, and what they compare;
* `Operator.comparisons` — the twelve of them;
* `Operator.identifier`, `Operator.ofIdentifier` — the two directions between comparisons and
  their identifiers;
* `Operator.label` — the name shown to people.
-/

set_option relaxedAutoImplicit false
set_option autoImplicit false

namespace Audience

/-- The **comparison** that a condition makes. -/
inductive Operator where
  | equals
  | notEquals
  | contains
  | startsWith
  | endsWith
  | greaterThan
  | lessThan
  | greaterEqual
  | lessEqual
  | before
  | after
  | between
  /-- An identifier that names none of the others. -/
  | unknown (identifier : String)
  deriving DecidableEq, Repr

namespace Operator

/-- What an operator compares. -/
inductive Kind where
  | text
  | numeric
  | date
  | range
  | unknown
  deriving DecidableEq, Repr

/-- What an operator compares. -/
def kind : Operator → Kind
  | equals | notEquals | contains | startsWith | endsWith => .text
  | greaterThan | lessThan | greaterEqual | lessEqual => .numeric
  | before | after => .date
  | between => .range
  | unknown _ => .unknown

/-- The name of a kind. -/
def Kind.name : Kind → String
  | .text => "text"
  | .numeric => "numeric"
  | .date => "date"
  | .range => "range"
  | .unknown => "unknown"

/-- The **identifier** of an operator. -/
def identifier : Operator → String
  | equals => "equals"
  | notEquals => "not_equals"
  | contains => "contains"
  | startsWith => "starts_with"
  | endsWith => "ends_with"
  | greaterThan => "greater_than"
  | lessThan => "less_than"
  | greaterEqual => "greater_equal"
  | lessEqual => "less_equal"
  | before => "before"
  | after => "after"
  | between => "between"
  | unknown identifier => identifier

/-- The name of an operator that is shown to people. -/
def label : Operator → String
  | equals => "Equals"
  | notEquals => "Not equals"
  | contains => "Contains"
  | startsWith => "Starts with"
  | endsWith => "Ends with"
  | greaterThan => "Greater than"
  | lessThan => "Less than"
  | greaterEqual => "Greater or equal"
  | lessEqual => "Less or equal"
  | before => "Before"
  | after => "After"
  | between => "Between"
  | unknown identifier => identifier

/-- The twelve comparisons. -/
def comparisons : List Operator :=
  [equals, notEquals, contains, startsWith, endsWith, greaterThan, lessThan, greaterEqual,
   lessEqual, before, after, between]

/-- The operator that an **identifier** names: the comparison that has it, if there is one. -/
def ofIdentifier (identifier : String) : Operator :=
  (comparisons.find? (·.identifier == identifier)).getD (unknown identifier)

/-- Does the operator compare anything? -/
def isKnown : Operator → Bool
  | unknown _ => false
  | _ => true

/-- An operator read from an identifier has that identifier. -/
@[simp] theorem identifier_ofIdentifier (s : String) : (ofIdentifier s).identifier = s := by
  unfold ofIdentifier
  cases h : comparisons.find? (·.identifier == s) with
  | none => rfl
  | some op => simpa using List.find?_some h

end Operator

end Audience
