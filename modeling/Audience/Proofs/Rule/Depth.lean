import Audience.Proofs.Rule.Shape
import Mathlib.Tactic.Push
import Mathlib.Tactic.Tauto

/-!
**The depth of a tree** is the length of its longest chain of nested groups.

A chain goes from a group to one of its children, and from there on to one of the children of that.
The depth is defined on the structure of the tree; it can also be measured by a walk that keeps the
groups still to be visited on a stack, each with its level, and so needs no nesting of its own
however deep the tree is.  The walk visits the last child of a group first, but the order makes no
difference to what is measured.

Main definitions:

* `Group.Chain` — the chains of nested groups from a group down;
* `Group.measure` — the greatest level that the walk meets.

Main results:

* `Group.depth_le_iff` — a group is as deep as its deepest child, and one more;
* `Group.Chain.length_le_depth`, `Group.exists_chain` — no chain is longer than the depth, and
  one is as long;
* `Group.measure_eq_depth` — **the walk measures the depth**.
-/

set_option relaxedAutoImplicit false
set_option autoImplicit false

namespace Audience

/-! ### Groups among children -/

/-- The group that a node is, if it is one. -/
def Node.group? : Node → Option Group
  | .condition _ => none
  | .group id logic children => some ⟨id, logic, children⟩

/-- The groups among the children of a group. -/
def Group.subgroups (g : Group) : List Group := g.children.filterMap Node.group?

theorem Node.group?_eq_some {node : Node} {g : Group} : node.group? = some g ↔ node = g.node := by
  obtain ⟨id, logic, children⟩ := g
  cases node with
  | condition c => simp [group?, Group.node]
  | group other otherLogic nodes => simp [group?, Group.node]

theorem Group.mem_subgroups {g child : Group} : child ∈ g.subgroups ↔ child.node ∈ g.children := by
  simp only [subgroups, List.mem_filterMap, Node.group?_eq_some, exists_eq_right]

/-- Induction on groups: a property holds of every group if it holds of each one whose children
it holds of. -/
theorem Group.induction {motive : Group → Prop}
    (step : ∀ g : Group, (∀ child ∈ g.subgroups, motive child) → motive g) (g : Group) :
    motive g := by
  suffices h : ∀ node : Node, ∀ g ∈ node.group?, motive g from h g.node g rfl
  intro node
  induction node using Node.induction with
  | condition c => nofun
  | group id logic children ih =>
      rintro g ⟨⟩
      refine step _ fun child hchild => ?_
      exact ih child.node (Group.mem_subgroups.1 hchild) child rfl

theorem Node.groupsAll_eq_flatMap (nodes : List Node) :
    groupsAll nodes = (nodes.filterMap group?).flatMap Group.groups := by
  induction nodes with
  | nil => rfl
  | cons node nodes ih =>
      rw [groupsAll, ih]
      cases node with
      | condition c => rfl
      | group id logic children => rfl

theorem Group.groups_eq (g : Group) : g.groups = g :: g.subgroups.flatMap groups :=
  congrArg (g :: ·) (Node.groupsAll_eq_flatMap g.children)

/-! ### Depth -/

theorem Node.depthAll_le_iff {nodes : List Node} {n : Nat} :
    depthAll nodes ≤ n ↔ ∀ g ∈ nodes.filterMap group?, g.depth ≤ n := by
  induction nodes with
  | nil => simp [depthAll]
  | cons node nodes ih =>
      rw [depthAll, Nat.max_le, ih]
      cases node with
      | condition c => simp [depth, group?]
      | group id logic children =>
          change _ ↔ ∀ g ∈ (⟨id, logic, children⟩ : Group) :: nodes.filterMap group?, g.depth ≤ n
          rw [List.forall_mem_cons]
          rfl

namespace Group

variable {g child : Group}

theorem depth_le_iff {n : Nat} : g.depth ≤ n + 1 ↔ ∀ child ∈ g.subgroups, child.depth ≤ n :=
  Nat.succ_le_succ_iff.trans Node.depthAll_le_iff

theorem exists_depth (g : Group) : ∃ n, g.depth = n + 1 := ⟨_, rfl⟩

theorem depth_lt_of_mem (h : child ∈ g.subgroups) : child.depth < g.depth := by
  obtain ⟨n, hn⟩ := g.exists_depth
  have hle := depth_le_iff.1 (Nat.le_of_eq hn) child h
  omega

/-! ### Chains -/

/-- A **chain of nested groups** from a group down: the group alone, or before a chain from one of
its children down. -/
inductive Chain : Group → List Group → Prop
  | alone (g : Group) : Chain g [g]
  | onward {g child : Group} {rest : List Group} (hchild : child.node ∈ g.children)
      (hrest : Chain child rest) : Chain g (g :: rest)

/-- No chain is longer than the depth. -/
theorem Chain.length_le_depth {chain : List Group} (h : g.Chain chain) :
    chain.length ≤ g.depth := by
  induction h with
  | alone g =>
      obtain ⟨n, hn⟩ := g.exists_depth
      rw [List.length_singleton]
      omega
  | onward hchild hrest ih =>
      have hlt := depth_lt_of_mem (mem_subgroups.2 hchild)
      rw [List.length_cons]
      omega

/-- A chain is as long as the depth. -/
theorem exists_chain (g : Group) : ∃ chain, g.Chain chain ∧ chain.length = g.depth := by
  induction g using Group.induction with
  | step g ih =>
      obtain ⟨n, hn⟩ := g.exists_depth
      cases n with
      | zero => exact ⟨[g], .alone g, hn.symm⟩
      | succ n =>
          -- some child is deeper than `n`, since the group is deeper than `n + 1`
          have hdeep : ¬ ∀ child ∈ g.subgroups, child.depth ≤ n := by
            rw [← depth_le_iff]
            omega
          push Not at hdeep
          obtain ⟨child, hchild, hlt⟩ := hdeep
          obtain ⟨chain, hchain, hlength⟩ := ih child hchild
          have hchild' := depth_lt_of_mem hchild
          refine ⟨g :: chain, .onward (mem_subgroups.1 hchild) hchain, ?_⟩
          rw [List.length_cons]
          omega

theorem depth_le_iff_chains {n : Nat} :
    g.depth ≤ n ↔ ∀ chain, g.Chain chain → chain.length ≤ n := by
  constructor
  · intro h chain hchain
    exact Nat.le_trans hchain.length_le_depth h
  · intro h
    obtain ⟨chain, hchain, hlength⟩ := g.exists_chain
    exact hlength ▸ h chain hchain

/-! ### Measuring with a stack -/

/-- Walks through the groups on a stack and all groups below them, and keeps the greatest level
met.  The groups among the children of a group are put on the stack in their order, so that the
last one is visited first. -/
def walk (deepest : Nat) : List (Nat × Group) → Nat
  | [] => deepest
  | (level, g) :: pending =>
    walk (max deepest level) ((g.subgroups.map fun child => (level + 1, child)).reverse ++ pending)
  termination_by pending => (pending.flatMap fun entry => entry.2.groups).length
  decreasing_by
    rw [List.flatMap_append, List.length_append, ((List.reverse_perm _).flatMap_right _).length_eq,
      List.flatMap_map, List.flatMap_cons, List.length_append, groups_eq g, List.length_cons]
    exact Nat.add_lt_add_right (Nat.lt_succ_self _) _

/-- The greatest level of a group in a tree, the level of the root being one. -/
def measure (g : Group) : Nat := walk 0 [(1, g)]

/-- What a walk meets: every group on the stack reaches down as far as it is deep. -/
theorem walk_le_iff {deepest n : Nat} {pending : List (Nat × Group)} :
    walk deepest pending ≤ n ↔
      deepest ≤ n ∧ ∀ entry ∈ pending, entry.1 + entry.2.depth ≤ n + 1 := by
  induction deepest, pending using walk.induct with
  | case1 deepest => simp [walk]
  | case2 deepest level g pending ih =>
      -- the level of a group and the depths of its children come to the depth of the group
      have hgroup : level + g.depth ≤ n + 1 ↔
          level ≤ n ∧ ∀ child ∈ g.subgroups, level + 1 + child.depth ≤ n + 1 := by
        obtain ⟨below, hbelow⟩ := g.exists_depth
        constructor
        · intro h
          refine ⟨by omega, fun child hchild => ?_⟩
          have hlt := depth_lt_of_mem hchild
          omega
        · rintro ⟨hlevel, hchildren⟩
          have hle : g.depth ≤ n - level + 1 := by
            refine depth_le_iff.2 fun child hchild => ?_
            have hchild := hchildren child hchild
            omega
          omega
      rw [walk, ih, Nat.max_le, List.forall_mem_append, List.forall_mem_cons, hgroup]
      simp only [List.mem_reverse, List.forall_mem_map]
      tauto

/-- **The walk measures the depth.** -/
theorem measure_eq_depth (g : Group) : g.measure = g.depth := by
  have hiff : ∀ n, g.measure ≤ n ↔ g.depth ≤ n := by
    intro n
    rw [measure, walk_le_iff, List.forall_mem_singleton]
    change 0 ≤ n ∧ 1 + g.depth ≤ n + 1 ↔ _
    omega
  exact Nat.le_antisymm ((hiff _).2 (Nat.le_refl _)) ((hiff _).1 (Nat.le_refl _))

end Group

end Audience
