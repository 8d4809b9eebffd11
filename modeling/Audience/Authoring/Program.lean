import Audience.Authoring.Edit

/-!
**Programs that build rule trees**.

A program is a list of steps that add conditions and groups to a root.  New nodes take identifiers
in the order in which they are finished: a group after the nodes in it.

Main definitions:

* `Authoring.Step` — the steps, with `Authoring.Step.equals`, `Authoring.Step.greaterThan` and
  `Authoring.Step.between` for common conditions;
* `Authoring.build` — the tree that a program builds.
-/

set_option relaxedAutoImplicit false
set_option autoImplicit false

namespace Audience.Authoring

/-- A **step** of a program. -/
inductive Step where
  | condition (field : String) (operator : Operator) (value : Operand)
  | withOr
  | group (logic : Logic) (steps : List Step)

namespace Step

/-- Add the condition that a field equals a value. -/
def equals (field : String) (value : Operand) : Step := condition field .equals value

/-- Add the condition that a field is greater than a number. -/
def greaterThan (field : String) (value : Double) : Step :=
  condition field .greaterThan (.number value)

/-- Add the condition that a field lies in a range. -/
def between (field first last : String) : Step := condition field .between (.range first last)

mutual

/-- What a step makes of a group, with the place of the next new identifier before and after. -/
def run (ids : Nat → String) : Step → Nat × Group → Nat × Group
  | condition field operator value, (next, g) =>
    (next + 1, g.append (.condition ⟨ids next, field, operator, value⟩))
  | withOr, (next, g) => (next, { g with logic := .or })
  | group logic steps, (next, g) =>
    let (next, nested) := runAll ids steps (next, .root logic)
    (next + 1, g.append (.group (ids next) nested.logic nested.children))

/-- What a list of steps makes of a group. -/
def runAll (ids : Nat → String) : List Step → Nat × Group → Nat × Group
  | [], state => state
  | step :: steps, state => runAll ids steps (step.run ids state)

end

end Step

/-- The **tree that a program builds**, with the identifiers `ids` for new nodes. -/
def build (ids : Nat → String) (logic : Logic) (steps : List Step) : Group :=
  (Step.runAll ids steps (0, .root logic)).2

end Audience.Authoring
