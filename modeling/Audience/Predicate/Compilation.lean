import Audience.Predicate.Basic
import Audience.Rule.EmptyGroup

/-!
**Compilation** of rule trees to predicates.

A condition becomes a test of its field's column.  Where its operator is not known or its operand
cannot be read it becomes the test that the column has a value, and in the two cases that are seen
by its text operand or its operator a warning is given.

Main definitions:

* `CompileWarning` — the warnings;
* `Compilation` — a predicate and the warnings on the way to it;
* `Condition.compile`, `Node.compile`, `Group.compile` — the compilation of a tree.
-/

set_option relaxedAutoImplicit false
set_option autoImplicit false

namespace Audience

/-- A **warning** about a condition that has become a test for a value. -/
inductive CompileWarning where
  | unknownOperator (condition : String) (operator : Operator)
  | unreadableOperand (condition : String) (cause : Uncoercible)
  deriving DecidableEq, Repr

/-- A **predicate** and the warnings given on the way to it. -/
structure Compilation where
  /-- The predicate. -/
  predicate : Predicate
  /-- The warnings, in the order of the conditions. -/
  warnings : List CompileWarning
  deriving DecidableEq, Repr

/-- A test of an operand that has been read; one that has no reading leaves the test for a
value. -/
def ColumnTest.orPresent {α : Type} (test : α → ColumnTest) : Except Uncoercible α → ColumnTest
  | .ok operand => test operand
  | .error _ => .present

/-- The compilation of a **condition**. -/
def Condition.compile (c : Condition) : Compilation :=
  match c.operator.kind with
  | .unknown => ⟨.column c.field .present, [.unknownOperator c.id c.operator]⟩
  | .text =>
    match c.value.folded with
    | .ok operand => ⟨.column c.field (.text c.operator operand), []⟩
    | .error cause => ⟨.column c.field .present, [.unreadableOperand c.id cause]⟩
  | .numeric =>
    ⟨.column c.field (ColumnTest.orPresent (.numeric c.operator) c.value.number?), []⟩
  | .date => ⟨.column c.field (ColumnTest.orPresent (.date c.operator) c.value.date?), []⟩
  | .range =>
    match c.value.bounds? with
    | some (first, last) =>
      ⟨.column c.field
        (.dateRange (Calendar.instantOf? first) (Calendar.instantOf? last)), []⟩
    | none => ⟨.const false, []⟩

/-- The predicates of children combined as a group says. -/
def Logic.combine : Logic → List Predicate → Predicate
  | .and => Predicate.conjunction
  | .or => Predicate.disjunction

mutual

/-- The compilation of a **node**. -/
def Node.compile (policy : EmptyGroupPolicy) : Node → Compilation
  | .condition c => c.compile
  | .group _ logic [] => ⟨.const (policy.outcome logic), []⟩
  | .group _ logic (child :: children) =>
    let compiled := Node.compileAll policy (child :: children)
    ⟨logic.combine (compiled.map (·.predicate)), compiled.flatMap (·.warnings)⟩

/-- The compilations of a list of nodes. -/
def Node.compileAll (policy : EmptyGroupPolicy) : List Node → List Compilation
  | [] => []
  | node :: nodes => node.compile policy :: Node.compileAll policy nodes

end

/-- The **compilation of a tree**. -/
def Group.compile (policy : EmptyGroupPolicy) (g : Group) : Compilation := g.node.compile policy

end Audience
