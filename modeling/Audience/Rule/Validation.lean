import Audience.Catalog.Basic
import Audience.Rule.Basic

/-!
**Checks on rule trees**.

A tree is accepted for storage if it is not nested too deeply, its identifiers are not blank and
pairwise different, and no group has too many children; the faults are looked for in this order.
Conditions that do not fit a catalog are no fault, but are warned of.

Main definitions:

* `TreeLimits`, `TreeFault` — the limits on a tree, and the ways to break a rule;
* `Group.validate` — the first fault of a tree;
* `Group.lint`, `Misfit` — the conditions that do not fit a catalog.
-/

set_option relaxedAutoImplicit false
set_option autoImplicit false

namespace Audience

/-- **Limits** on the shape of a tree. -/
structure TreeLimits where
  /-- The greatest depth of nested groups. -/
  maxDepth : Nat := 32
  /-- The greatest number of children of a group. -/
  maxChildren : Nat := 200
  deriving DecidableEq, Repr, Inhabited

/-- What is **wrong with a tree**. -/
inductive TreeFault where
  | tooDeep (depth most : Nat)
  | blankId
  | duplicateId (id : String)
  | tooWide (id : String) (children most : Nat)
  deriving DecidableEq, Repr

/-- What is wrong with a tree, in words. -/
def TreeFault.message : TreeFault → String
  | tooDeep depth most => s!"rule tree is nested {depth} levels deep (max {most})"
  | blankId => "rule node with empty id"
  | duplicateId id => "duplicate rule id '" ++ id ++ "'"
  | tooWide id children most =>
    "group '" ++ id ++ s!"' has {children} children (max {most})"

/-- The first blank or repeated identifier of a list that comes after the identifiers `seen`. -/
def TreeFault.ofIds? (seen : List String) : List String → Option TreeFault
  | [] => none
  | id :: ids =>
    if Text.isBlankText id then some .blankId
    else if id ∈ seen then some (.duplicateId id)
    else ofIds? (id :: seen) ids

mutual

/-- The first group with too many children at or below a node, depth first. -/
def Node.tooWide? (most : Nat) : Node → Option TreeFault
  | .condition _ => none
  | .group id _ children =>
    if most < children.length then some (.tooWide id children.length most)
    else Node.tooWideAmong? most children

/-- The first group with too many children at or below a list of nodes. -/
def Node.tooWideAmong? (most : Nat) : List Node → Option TreeFault
  | [] => none
  | node :: nodes => (node.tooWide? most).or (Node.tooWideAmong? most nodes)

end

/-- The **first fault** of a tree: its depth, then its identifiers depth first, then the number of
children of its groups. -/
def Group.fault? (limits : TreeLimits) (g : Group) : Option TreeFault :=
  if limits.maxDepth < g.depth then some (.tooDeep g.depth limits.maxDepth)
  else (TreeFault.ofIds? [] g.ids).or (g.node.tooWide? limits.maxChildren)

/-- Accepts a tree without faults. -/
def Group.validate (limits : TreeLimits) (g : Group) : Except TreeFault Unit :=
  match g.fault? limits with
  | none => .ok ()
  | some fault => .error fault

/-- Are the identifiers of a list pairwise different, and different from those `seen`? -/
def allDistinct (seen : List String) : List String → Bool
  | [] => true
  | id :: ids => !(id ∈ seen) && allDistinct (id :: seen) ids

/-- Are the identifiers in a tree pairwise different? -/
def Group.hasUniqueIds (g : Group) : Bool := allDistinct [] g.ids

/-! ### Conditions that do not fit -/

/-- Why a condition **does not fit** a catalog. -/
inductive Misfit where
  | unknownField (field : String)
  | wrongOperator (operator : Operator) (field : String)
  deriving DecidableEq, Repr

/-- Why a condition does not fit, in words. -/
def Misfit.message : Misfit → String
  | unknownField field => "unknown field '" ++ field ++ "'"
  | wrongOperator op field =>
    "operator '" ++ op.identifier ++ "' is not valid for field '" ++ field ++ "'"

/-- Why a condition does not fit a catalog, if it does not. -/
def Condition.misfit? (catalog : Catalog) (c : Condition) : Option Misfit :=
  if !catalog.contains c.field then some (.unknownField c.field)
  else if !catalog.allows c.field c.operator then some (.wrongOperator c.operator c.field)
  else none

/-- The **conditions that do not fit** a catalog, by their identifiers, depth first. -/
def Group.lint (catalog : Catalog) (g : Group) : List (String × Misfit) :=
  g.conditions.filterMap fun c => (c.misfit? catalog).map fun misfit => (c.id, misfit)

end Audience
