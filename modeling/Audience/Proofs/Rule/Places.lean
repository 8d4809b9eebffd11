import Audience.Rule.Basic
import Mathlib.Data.List.Forall2

/-!
**Ways into trees**.

A way is a list of places: it goes to the child at the first of them, and on from there.  What is at
the end of a way is looked up in the same manner whatever the tree is made of, so the ways into two
trees can be compared.

Main definitions:

* `follow?` — where a way leads, for any notion of children;
* `Node.children`, `Node.at?` — the children of a node, and **the node at the end of a way**.

Main results:

* `follow?_append` — a way goes on from where its first part leads;
* `exists_follow?`, `rel_follow?` — a relation that is passed on to children holds at the ends of
  the same ways.
-/

set_option relaxedAutoImplicit false
set_option autoImplicit false

namespace Audience

variable {α β : Type}

/-- Where a way leads: to the child at its first place, and on from there. -/
def follow? (children : α → List α) : List Nat → α → Option α
  | [], start => some start
  | place :: path, start => (children start)[place]?.bind (follow? children path)

section

variable {f : α → List α} {g : β → List β} {a : α} {b : β}

theorem follow?_cons (place : Nat) (path : List Nat) :
    follow? f (place :: path) a = (f a)[place]?.bind (follow? f path) := rfl

theorem follow?_cons_eq_some {place : Nat} {path : List Nat} {last : α} :
    follow? f (place :: path) a = some last ↔
      ∃ child, (f a)[place]? = some child ∧ follow? f path child = some last :=
  Option.bind_eq_some_iff

/-- A way goes on from where its first part leads. -/
theorem follow?_append (first second : List Nat) :
    follow? f (first ++ second) a = (follow? f first a).bind (follow? f second) := by
  induction first generalizing a with
  | nil => rfl
  | cons place first ih =>
      rw [List.cons_append, follow?_cons, follow?_cons, Option.bind_assoc]
      exact Option.bind_congr fun child _ => ih

theorem forall_follow?_iff {p : α → Prop} :
    (∀ path last, follow? f path a = some last → p last) ↔
      p a ∧ ∀ child ∈ f a, ∀ path last, follow? f path child = some last → p last := by
  constructor
  · intro h
    refine ⟨h [] a rfl, fun child hchild path last hlast => ?_⟩
    obtain ⟨place, hplace⟩ := List.mem_iff_getElem?.1 hchild
    exact h (place :: path) last (follow?_cons_eq_some.2 ⟨child, hplace, hlast⟩)
  · rintro ⟨ha, hchildren⟩ path last hlast
    cases path with
    | nil => exact Option.some.inj hlast ▸ ha
    | cons place path =>
        obtain ⟨child, hchild, hlast⟩ := follow?_cons_eq_some.1 hlast
        exact hchildren child (List.mem_of_getElem? hchild) path last hlast

/-! ### Two trees -/

variable {R : α → β → Prop}

/-- If every child on the right has one on the left at its place, then so has every way. -/
theorem exists_follow? (hR : ∀ {a b}, R a b → ∀ (place : Nat) (child : β),
      (g b)[place]? = some child → ∃ other, (f a)[place]? = some other ∧ R other child)
    (h : R a b) {path : List Nat} {last : β} (hlast : follow? g path b = some last) :
    ∃ other, follow? f path a = some other ∧ R other last := by
  induction path generalizing a b with
  | nil => exact ⟨a, rfl, Option.some.inj hlast ▸ h⟩
  | cons place path ih =>
      obtain ⟨child, hchild, hlast⟩ := follow?_cons_eq_some.1 hlast
      obtain ⟨item, hitem, hrel⟩ := hR h place child hchild
      obtain ⟨other, hother, hend⟩ := ih hrel hlast
      exact ⟨other, follow?_cons_eq_some.2 ⟨item, hitem, hother⟩, hend⟩

theorem rel_getElem? {as : List α} {bs : List β} (h : List.Forall₂ R as bs) (place : Nat) :
    Option.Rel R as[place]? bs[place]? := by
  induction h generalizing place with
  | nil => exact .none
  | cons hfirst _ ih =>
      cases place with
      | zero => exact .some hfirst
      | succ place => exact ih place

/-- If children are related one by one, then **so is what all ways lead to**. -/
theorem rel_follow? (hR : ∀ {a b}, R a b → List.Forall₂ R (f a) (g b)) (h : R a b)
    (path : List Nat) : Option.Rel R (follow? f path a) (follow? g path b) := by
  induction path generalizing a b with
  | nil => exact .some h
  | cons place path ih =>
      have hchildren := rel_getElem? (hR h) place
      rw [follow?_cons, follow?_cons]
      revert hchildren
      generalize (f a)[place]? = item
      generalize (g b)[place]? = child
      rintro (hchild | _)
      · exact ih hchild
      · exact .none

end

/-! ### Nodes -/

/-- The **children** of a node; a condition has none. -/
def Node.children : Node → List Node
  | .condition _ => []
  | .group _ _ children => children

/-- The node at the end of a way. -/
def Node.at? (path : List Nat) (node : Node) : Option Node := follow? Node.children path node

end Audience
