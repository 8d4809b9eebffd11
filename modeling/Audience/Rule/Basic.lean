import Audience.Operator
import Audience.Rule.Operand

/-!
**Rule trees**: conditions on the fields of a record, combined by groups.

A group combines its children by conjunction or disjunction; the children are conditions and
groups.  A rule tree is its root group.

Main definitions:

* `Logic`, `Condition`, `Node`, `Group` — the parts of a rule tree;
* `Node.induction` — induction on the structure of a node;
* `Group.ids`, `Group.conditions`, `Group.depth` — what a tree holds, and how deep it is nested;
* `Group.find?`, `Group.pathTo?`, `Group.rewriteAt` — a group of a tree, the way to it, and the
  tree with something else in its place.
-/

set_option relaxedAutoImplicit false
set_option autoImplicit false

namespace Audience

/-- How a group **combines** its children. -/
inductive Logic where
  | and
  | or
  deriving DecidableEq, Repr, Inhabited

/-- A comparison of one field with one value. -/
structure Condition where
  /-- The identifier of the condition. -/
  id : String
  /-- The field. -/
  field : String
  /-- The comparison. -/
  operator : Operator
  /-- The value. -/
  value : Operand
  deriving DecidableEq, Repr

/-- A **node** of a rule tree. -/
inductive Node where
  | condition (c : Condition)
  | group (id : String) (logic : Logic) (children : List Node)
  deriving Repr

namespace Node

mutual

/-- Decides whether two nodes are equal. -/
def decEq : (a b : Node) → Decidable (a = b)
  | condition a, condition b => decidable_of_iff (a = b) (by simp)
  | group i l as, group j m bs =>
    if h : i = j ∧ l = m then
      @decidable_of_iff _ _ (by simp [h]) (decEqAll as bs)
    else isFalse (by simp only [group.injEq]; exact fun e => h ⟨e.1, e.2.1⟩)
  | condition _, group .. | group .., condition _ => isFalse (by simp)

/-- Decides whether two lists of nodes are equal. -/
def decEqAll : (as bs : List Node) → Decidable (as = bs)
  | [], [] => isTrue rfl
  | [], _ :: _ | _ :: _, [] => isFalse (by simp)
  | a :: as, b :: bs =>
    match decEq a b, decEqAll as bs with
    | isTrue h, isTrue hs => isTrue (by rw [h, hs])
    | isFalse h, _ => isFalse (by simp [h])
    | _, isFalse hs => isFalse (by simp [hs])

end

instance : DecidableEq Node := decEq

mutual

/-- **Induction on nodes**: a property holds of every node if it holds of conditions, and of a
group whenever it holds of its children. -/
theorem induction {motive : Node → Prop} (condition : ∀ c, motive (.condition c))
    (group : ∀ id logic (children : List Node), (∀ child ∈ children, motive child) →
      motive (.group id logic children)) : ∀ node, motive node
  | .condition c => condition c
  | .group id logic children => group id logic children (inductionAll condition group children)

/-- Induction on nodes, for every node of a list. -/
theorem inductionAll {motive : Node → Prop} (condition : ∀ c, motive (.condition c))
    (group : ∀ id logic (children : List Node), (∀ child ∈ children, motive child) →
      motive (.group id logic children)) :
    ∀ (nodes : List Node), ∀ child ∈ nodes, motive child
  | [], _, h => nomatch h
  | node :: nodes, child, h => by
    rcases List.mem_cons.1 h with h | h
    · exact h ▸ induction condition group node
    · exact inductionAll condition group nodes child h

end

/-- The identifier of a node. -/
def id : Node → String
  | condition c => c.id
  | group id _ _ => id

/-- Is the node a group? -/
def isGroup : Node → Bool
  | condition _ => false
  | group .. => true

end Node

/-- A **group** of a rule tree; a rule tree is its root group. -/
structure Group where
  /-- The identifier of the group. -/
  id : String
  /-- How it combines its children. -/
  logic : Logic
  /-- The children. -/
  children : List Node
  deriving DecidableEq, Repr

/-- A group as a node. -/
def Group.node (g : Group) : Node := .group g.id g.logic g.children

/-- The identifier of the root of a new tree. -/
def Group.rootId : String := "root"

/-- An empty root. -/
def Group.root (logic : Logic) : Group := ⟨rootId, logic, []⟩

instance : Inhabited Group := ⟨Group.root .and⟩

/-! ### What a tree holds -/

mutual

/-- The identifiers of a node and of everything below it, depth first. -/
def Node.ids : Node → List String
  | .condition c => [c.id]
  | .group id _ children => id :: Node.idsAll children

/-- The identifiers of a list of nodes and of everything below them. -/
def Node.idsAll : List Node → List String
  | [] => []
  | node :: nodes => node.ids ++ Node.idsAll nodes

end

/-- The **identifiers** in a tree, depth first, that of the root first. -/
def Group.ids (g : Group) : List String := g.node.ids

mutual

/-- The conditions at or below a node, depth first. -/
def Node.conditions : Node → List Condition
  | .condition c => [c]
  | .group _ _ children => Node.conditionsAll children

/-- The conditions at or below a list of nodes. -/
def Node.conditionsAll : List Node → List Condition
  | [] => []
  | node :: nodes => node.conditions ++ Node.conditionsAll nodes

end

/-- The **conditions** of a tree, depth first. -/
def Group.conditions (g : Group) : List Condition := g.node.conditions

mutual

/-- The number of groups in the longest chain of nested groups from a node down. -/
def Node.depth : Node → Nat
  | .condition _ => 0
  | .group _ _ children => Node.depthAll children + 1

/-- The greatest depth of a list of nodes. -/
def Node.depthAll : List Node → Nat
  | [] => 0
  | node :: nodes => max node.depth (Node.depthAll nodes)

end

/-- The **depth** of a tree: its levels of groups, a lone root counting as one. -/
def Group.depth (g : Group) : Nat := g.node.depth

/-! ### Finding groups -/

mutual

/-- The first group with an identifier at or below a node, depth first. -/
def Node.find? (target : String) : Node → Option Group
  | .condition _ => none
  | .group id logic children =>
    if id = target then some ⟨id, logic, children⟩ else Node.findAmong? target children

/-- The first group with an identifier at or below a list of nodes. -/
def Node.findAmong? (target : String) : List Node → Option Group
  | [] => none
  | node :: nodes => (node.find? target).or (Node.findAmong? target nodes)

end

/-- The first **group** of a tree with an identifier, depth first. -/
def Group.find? (target : String) (g : Group) : Option Group := g.node.find? target

mutual

/-- The way from a node to the first group with an identifier: the place of a child among its
siblings at every level. -/
def Node.pathTo? (target : String) : Node → Option (List Nat)
  | .condition _ => none
  | .group id _ children => if id = target then some [] else Node.pathAmong? target 0 children

/-- The way to the first group with an identifier at or below a list of nodes, the first of which
has the place `place` among its siblings. -/
def Node.pathAmong? (target : String) (place : Nat) : List Node → Option (List Nat)
  | [] => none
  | node :: nodes =>
    match node.pathTo? target with
    | some path => some (place :: path)
    | none => Node.pathAmong? target (place + 1) nodes

end

/-- The **way** from the root of a tree to the first group with an identifier. -/
def Group.pathTo? (target : String) (g : Group) : Option (List Nat) := g.node.pathTo? target

/-- The node with `f g` in place of the group `g` that it is; conditions stay. -/
def Node.mapGroup (f : Group → Group) : Node → Node
  | .condition c => .condition c
  | .group id logic children => (f ⟨id, logic, children⟩).node

/-- The tree with `f g` in place of the group `g` at the end of a way. -/
def Group.rewriteAt (f : Group → Group) : List Nat → Group → Group
  | [], g => f g
  | place :: path, g =>
    { g with children := g.children.modify place (Node.mapGroup (rewriteAt f path)) }

end Audience
