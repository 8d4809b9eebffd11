import Audience.Catalog.Basic
import Audience.Rule.Basic

/-!
**Edits of rule trees**.

An edit takes a tree and gives back a new one, or nothing where its target is not found; then the
tree stays as it is.  New nodes take the first identifier offered that the tree does not have yet.

Main definitions:

* `Authoring.fresh?` — the first identifier offered that is not taken;
* `Group.edit?` — a tree with another group in place of the first one with an identifier;
* `Authoring.addCondition?`, `Authoring.addGroup?`, `Authoring.remove?`,
  `Authoring.setLogic?` — the edits of groups;
* `Patch`, `Authoring.update` — the edit of a condition.
-/

set_option relaxedAutoImplicit false
set_option autoImplicit false

namespace Audience

/-- The tree with `f g` in place of the first **group** `g` with an identifier. -/
def Group.edit? (tree : Group) (target : String) (f : Group → Group) : Option Group :=
  (tree.pathTo? target).map fun path => tree.rewriteAt f path

/-- A group with one more child at the end. -/
def Group.append (g : Group) (child : Node) : Group := { g with children := g.children ++ [child] }

namespace Authoring

/-- The first identifier offered that is **not taken**. -/
def fresh? (taken offered : List String) : Option String :=
  offered.find? fun id => !(id ∈ taken)

/-- The condition that a group is given: on the first field of the catalog, with the operator and
the value that a condition starts out with. -/
def newCondition (catalog : Catalog) (id : String) : Condition :=
  let field := (catalog.first?.map (·.name)).getD ""
  { id := id, field := field, operator := catalog.defaultOperator field, value := .empty }

/-- Adds a **condition** to a group, and tells its identifier. -/
def addCondition? (catalog : Catalog) (offered : List String) (target : String) (tree : Group) :
    Option (Group × String) := do
  let id ← fresh? tree.ids offered
  let next ← tree.edit? target (·.append (.condition (newCondition catalog id)))
  return (next, id)

/-- Adds an empty **group** to a group, and tells its identifier. -/
def addGroup? (offered : List String) (target : String) (tree : Group) :
    Option (Group × String) := do
  let id ← fresh? tree.ids offered
  let next ← tree.edit? target (·.append (.group id .and []))
  return (next, id)

/-- **Removes** the children with an identifier from a group that has one. -/
def remove? (target child : String) (tree : Group) : Option Group := do
  let parent ← tree.find? target
  if parent.children.any (·.id == child) then
    tree.edit? target fun g => { g with children := g.children.filter (·.id != child) }
  else none

/-- Sets the **logic** of a group. -/
def setLogic? (target : String) (logic : Logic) (tree : Group) : Option Group :=
  tree.edit? target fun g => { g with logic := logic }

/-! ### Editing conditions -/

/-- The parts of a condition to **change**.  A change of the field takes with it the operator and
the value, whatever else is asked for. -/
structure Patch where
  /-- The new field. -/
  field : Option String := none
  /-- The new operator. -/
  operator : Option Operator := none
  /-- The new value. -/
  value : Option Operand := none
  deriving DecidableEq, Repr, Inhabited

/-- A condition on another field starts out with the default operator and the empty value. -/
def moveTo (catalog : Catalog) (field : String) (c : Condition) : Condition :=
  { c with field := field, operator := catalog.defaultOperator field, value := .empty }

/-- The operator of a patch is **refused**: the condition's field does not allow it. -/
structure Refusal where
  /-- The condition. -/
  condition : String
  /-- Its field. -/
  field : String
  /-- The operator asked for. -/
  operator : Operator
  deriving DecidableEq, Repr

/-- A condition with the changes of a patch. -/
def Patch.apply (catalog : Catalog) (patch : Patch) (c : Condition) : Except Refusal Condition :=
  let amend : Except Refusal Condition :=
    match patch.operator with
    | some op =>
      if catalog.allows c.field op then
        .ok { c with operator := op, value := patch.value.getD c.value }
      else .error ⟨c.id, c.field, op⟩
    | none => .ok { c with value := patch.value.getD c.value }
  match patch.field with
  | some field => if field = c.field then amend else .ok (moveTo catalog field c)
  | none => amend

/-- The first condition with an identifier in a list of nodes. -/
def conditionIn? (id : String) : List Node → Option Condition
  | [] => none
  | .condition c :: nodes => if c.id = id then some c else conditionIn? id nodes
  | .group .. :: nodes => conditionIn? id nodes

/-- A node with a condition in place of any condition with the same identifier. -/
def replaceCondition (next : Condition) : Node → Node
  | .condition c => if c.id = next.id then .condition next else .condition c
  | .group id logic children => .group id logic children

/-- The result of updating a condition. -/
inductive Update where
  /-- The tree with the condition updated. -/
  | updated (tree : Group)
  /-- The group or the condition was not found. -/
  | notFound
  /-- The operator was refused. -/
  | refused (refusal : Refusal)
  deriving DecidableEq, Repr

/-- **Updates** a condition that is a child of a group. -/
def update (catalog : Catalog) (target condition : String) (patch : Patch) (tree : Group) :
    Update :=
  match (tree.find? target).bind fun g => conditionIn? condition g.children with
  | none => .notFound
  | some current =>
    match patch.apply catalog current with
    | .error refusal => .refused refusal
    | .ok next =>
      match tree.edit? target fun g =>
          { g with children := g.children.map (replaceCondition next) } with
      | some tree => .updated tree
      | none => .notFound

/-- The tree that an update leaves, if it was made. -/
def Update.tree? : Update → Option Group
  | .updated tree => some tree
  | _ => none

end Authoring

end Audience
