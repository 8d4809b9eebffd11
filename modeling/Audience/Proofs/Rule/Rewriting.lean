import Audience.Proofs.Rule.Distinct
import Audience.Proofs.Rule.Places

/-!
**Finding a group, the way to it, and rewriting it there**.

A group is looked for by its identifier depth first, and the way to it in the same order; so both
come to the same group, and to the same place, however often the identifier is used.  Ways are
compared place by place, a way before those that go on from its end: this is the order in which a
tree is gone through depth first.

What a rewriting does can be told from the old tree and the new one alone, without saying how it is
made: another group is at the end of the way, a group on the way has all it had but for the one
child that the way goes on with, and off the way nothing is different.  There is only one such tree.

Main definitions:

* `Group.ChangesAt` — a tree changes into another one **at the end of a way**, and nowhere else;
* `Group.rewriteOnce` — rewriting by a walk that takes the change along and can make it once only.

Main results:

* `Node.mem_groups_iff_at?` — the groups of a tree are what ways lead to;
* `Context.path_isFirst` — the place of a context that avoids an identifier is the first one
  that a group with this identifier can have;
* `Node.at?_mapGroup_rewriteAt`, `Node.at?_mapGroup_rewriteAt_of_apart` — what is on the way
  after a rewriting, and what is off it;
* `Group.ChangesAt.unique` — a tree changes at the end of a way into one tree only;
* `Group.rewriteOnce_eq_rewriteAt` — a change that can be made once only is made all the same;
* `Group.rewritten_where_found` — a group is rewritten **at the first place it is found at**.
-/

set_option relaxedAutoImplicit false
set_option autoImplicit false

namespace Audience

/-! ### Where ways lead -/

namespace Node

variable {node : Node} {g : Group} {way : List Nat}

theorem exists_group_of_at? (hway : node.at? way = some g.node) :
    ∃ start : Group, node = start.node := by
  cases node with
  | group id logic children => exact ⟨⟨id, logic, children⟩, rfl⟩
  | condition c =>
      cases way with
      | nil => cases hway
      | cons place way => cases hway

/-- The groups at or below a node are what ways lead to. -/
theorem mem_groups_iff_at? : g ∈ node.groups ↔ ∃ way, node.at? way = some g.node := by
  induction node using Node.induction with
  | condition c =>
      constructor
      · nofun
      · rintro ⟨way, hway⟩
        obtain ⟨start, hstart⟩ := exists_group_of_at? hway
        cases hstart
  | group id logic children ih =>
      rw [groups, groupsAll_eq_flatMap_groups, List.mem_cons, List.mem_flatMap]
      constructor
      · rintro (rfl | ⟨child, hchild, hg⟩)
        · exact ⟨[], rfl⟩
        · obtain ⟨way, hway⟩ := (ih child hchild).1 hg
          obtain ⟨place, hplace⟩ := List.mem_iff_getElem?.1 hchild
          exact ⟨place :: way, follow?_cons_eq_some.2 ⟨child, hplace, hway⟩⟩
      · rintro ⟨way, hway⟩
        cases way with
        | nil => exact .inl (Group.node_injective (Option.some.inj hway).symm)
        | cons place way =>
            obtain ⟨child, hplace, hway⟩ := follow?_cons_eq_some.1 hway
            have hchild := List.mem_of_getElem? hplace
            exact .inr ⟨child, hchild, (ih child hchild).2 ⟨way, hway⟩⟩

theorem id_ne_of_at? {target : String} (h : node.find? target = none)
    (hway : node.at? way = some g.node) : g.id ≠ target := by
  rw [find?_eq_find?_groups, List.find?_eq_none] at h
  simpa using h g (mem_groups_iff_at?.2 ⟨way, hway⟩)

end Node

namespace Context

variable {target : String} {g : Group}

theorem at?_plug (g : Group) (context : Context) :
    (context.plug g).node.at? context.path = some g.node := by
  induction context with
  | hole => rfl
  | inside id logic before inner after ih =>
      have hchild : (before ++ (inner.plug g).node :: after)[before.length]?
          = some (inner.plug g).node := by simp
      exact follow?_cons_eq_some.2 ⟨_, hchild, ih⟩

/-- The place of a context that avoids an identifier is the first one that a group with this
identifier can have. -/
theorem path_isFirst {context : Context} (h : context.Avoids target) {way : List Nat}
    {found : Group} (hway : (context.plug g).node.at? way = some found.node)
    (hid : found.id = target) : context.path = way ∨ List.Lex (· < ·) context.path way := by
  induction context generalizing way with
  | hole =>
      cases way with
      | nil => exact .inl rfl
      | cons place way => exact .inr .nil
  | inside id logic before inner after ih =>
      obtain ⟨hother, hbefore, hinner⟩ := h
      cases way with
      | nil =>
          obtain rfl := Group.node_injective (Option.some.inj hway)
          exact absurd hid hother
      | cons place way =>
          obtain ⟨child, hchild, hway⟩ := follow?_cons_eq_some.1 hway
          replace hchild : (before ++ (inner.plug g).node :: after)[place]? = some child := hchild
          rcases Nat.lt_trichotomy place before.length with hlt | rfl | hgt
          · -- nothing is found in the children before the one that the way goes on with
            rw [List.getElem?_append_left hlt] at hchild
            have hnone := hbefore child (List.mem_of_getElem? hchild)
            exact absurd hid (Node.id_ne_of_at? hnone hway)
          · rw [List.getElem?_append_right (Nat.le_refl _), Nat.sub_self] at hchild
            obtain rfl := Option.some.inj hchild
            rcases ih hinner hway with rfl | hlex
            · exact .inl rfl
            · exact .inr (.cons hlex)
          · exact .inr (.rel hgt)

end Context

/-! ### What is where after a rewriting -/

namespace Node

variable {f : Group → Group}

/-- After a rewriting, what a way leads to that the rewriting takes too is rewritten on the rest
of the way. -/
theorem at?_mapGroup_rewriteAt (way path : List Nat) (node : Node) :
    (node.mapGroup (Group.rewriteAt f (way ++ path))).at? way
      = (node.at? way).map (mapGroup (Group.rewriteAt f path)) := by
  induction way generalizing node with
  | nil => rfl
  | cons place way ih =>
      cases node with
      | condition c => rfl
      | group id logic children =>
          change (children.modify place _)[place]?.bind (at? way)
            = (children[place]?.bind (at? way)).map _
          rw [List.getElem?_modify_eq]
          cases children[place]? with
          | none => rfl
          | some child => exact ih child

/-- What is off the way of a rewriting is as it was. -/
theorem at?_mapGroup_rewriteAt_of_apart {path way : List Nat} (hpath : ¬ path <+: way)
    (hway : ¬ way <+: path) (node : Node) :
    (node.mapGroup (Group.rewriteAt f path)).at? way = node.at? way := by
  induction path generalizing way node with
  | nil => exact absurd List.nil_prefix hpath
  | cons place path ih =>
      cases way with
      | nil => exact absurd List.nil_prefix hway
      | cons other way =>
          cases node with
          | condition c => rfl
          | group id logic children =>
              change (children.modify place _)[other]?.bind (at? way)
                = children[other]?.bind (at? way)
              by_cases hsame : place = other
              · subst hsame
                rw [List.cons_prefix_cons, and_iff_right rfl] at hpath hway
                rw [List.getElem?_modify_eq]
                cases children[place]? with
                | none => rfl
                | some child => exact ih hpath hway child
              · rw [List.getElem?_modify_ne _ _ hsame]

end Node

namespace Group

/-- A tree **changes at the end of a way** into another one: the group `g` is there afterwards,
where another group was before, and nothing else is different. -/
structure ChangesAt (tree : Group) (path : List Nat) (g next : Group) : Prop where
  /-- There was a group at the end of the way. -/
  before : ∃ old : Group, tree.node.at? path = some old.node
  /-- The new group is there now. -/
  after : next.node.at? path = some g.node
  /-- A group on the way has its identifier, combines its children as before, and has as many of
  them; all but the one that the way goes on with are the same, and in the same order. -/
  along : ∀ way place rest, path = way ++ place :: rest → ∃ old new : Group,
    tree.node.at? way = some old.node ∧ next.node.at? way = some new.node ∧
      new.id = old.id ∧ new.logic = old.logic ∧ new.children.length = old.children.length ∧
        ∀ other, other ≠ place → new.children[other]? = old.children[other]?
  /-- What is off the way is as it was. -/
  apart : ∀ way, ¬ path <+: way → ¬ way <+: path → next.node.at? way = tree.node.at? way

variable {tree next g : Group} {path : List Nat}

/-- A rewriting changes a tree at the end of its way. -/
theorem changesAt_rewriteAt (h : tree.node.at? path = some g.node) (f : Group → Group) :
    tree.ChangesAt path (f g) (tree.rewriteAt f path) where
  before := ⟨g, h⟩
  after := by
    have hafter := Node.at?_mapGroup_rewriteAt (f := f) path [] tree.node
    rw [List.append_nil, h] at hafter
    exact hafter
  along := by
    rintro way place rest rfl
    rw [Node.at?, follow?_append] at h
    obtain ⟨node, hnode, hrest⟩ := Option.bind_eq_some_iff.1 h
    obtain ⟨old, rfl⟩ := Node.exists_group_of_at? hrest
    have hafter := Node.at?_mapGroup_rewriteAt (f := f) way (place :: rest) tree.node
    rw [Node.at?, Node.at?, hnode] at hafter
    refine ⟨old, old.rewriteAt f (place :: rest), hnode, hafter, rfl, rfl, ?_, ?_⟩
    · exact List.length_modify _ _ _
    · intro other hother
      exact List.getElem?_modify_ne _ _ (Ne.symm hother)
  apart way hpath hway := Node.at?_mapGroup_rewriteAt_of_apart hpath hway tree.node

namespace ChangesAt

/-- A change below a group is a change of the child that the way goes on with. -/
theorem child {place : Nat} (h : tree.ChangesAt (place :: path) g next) :
    ∃ old new : Group, tree.children[place]? = some old.node ∧
      next.children[place]? = some new.node ∧ old.ChangesAt path g new := by
  obtain ⟨found, hfound⟩ := h.before
  obtain ⟨node, hold, hbefore⟩ := follow?_cons_eq_some.1 hfound
  obtain ⟨old, rfl⟩ := Node.exists_group_of_at? hbefore
  obtain ⟨node, hnew, hafter⟩ := follow?_cons_eq_some.1 h.after
  obtain ⟨new, rfl⟩ := Node.exists_group_of_at? hafter
  -- a way into the child is a way into the tree with one more place in front
  have hways : ∀ way, tree.node.at? (place :: way) = old.node.at? way ∧
      next.node.at? (place :: way) = new.node.at? way := by
    intro way
    exact ⟨congrArg (·.bind (Node.at? way)) hold, congrArg (·.bind (Node.at? way)) hnew⟩
  refine ⟨old, new, hold, hnew, ⟨found, hbefore⟩, hafter, ?_, ?_⟩
  · rintro way other rest rfl
    have halong := h.along (place :: way) other rest rfl
    rwa [(hways way).1, (hways way).2] at halong
  · intro way hpath hway
    have hapart := h.apart (place :: way) (by simpa using hpath) (by simpa using hway)
    rwa [(hways way).1, (hways way).2] at hapart

theorem root {place : Nat} (h : tree.ChangesAt (place :: path) g next) :
    next.id = tree.id ∧ next.logic = tree.logic ∧
      ∀ other, other ≠ place → next.children[other]? = tree.children[other]? := by
  obtain ⟨old, new, hold, hnew, hid, hlogic, -, hsame⟩ := h.along [] place path rfl
  obtain rfl := node_injective (Option.some.inj hold)
  obtain rfl := node_injective (Option.some.inj hnew)
  exact ⟨hid, hlogic, hsame⟩

/-- A tree changes at the end of a way into one tree only. -/
theorem unique {other : Group} (h : tree.ChangesAt path g next)
    (hother : tree.ChangesAt path g other) : next = other := by
  induction path generalizing tree next other with
  | nil => exact node_injective (Option.some.inj (h.after.trans hother.after.symm))
  | cons place path ih =>
      obtain ⟨hid, hlogic, hsame⟩ := h.root
      obtain ⟨hid', hlogic', hsame'⟩ := hother.root
      obtain ⟨old, new, hold, hnew, hchild⟩ := h.child
      obtain ⟨old', new', hold', hnew', hchild'⟩ := hother.child
      obtain rfl := node_injective (Option.some.inj (hold.symm.trans hold'))
      have hchildren : next.children = other.children := by
        refine List.ext_getElem? fun position => ?_
        by_cases hplace : position = place
        · rw [hplace, hnew, hnew', ih hchild hchild']
        · rw [hsame position hplace, hsame' position hplace]
      refine node_injective ?_
      rw [node, node, hid, hid', hlogic, hlogic', hchildren]

end ChangesAt

theorem changesAt_iff (h : tree.node.at? path = some g.node) (f : Group → Group) :
    tree.ChangesAt path (f g) next ↔ next = tree.rewriteAt f path := by
  constructor
  · intro hchanges
    exact hchanges.unique (changesAt_rewriteAt h f)
  · rintro rfl
    exact changesAt_rewriteAt h f

end Group

/-! ### A change that can be made once only -/

/-- The children of a group after a walk from the left that takes a change along.  A group at
the place that the walk looks for is changed, and the walk goes on without the change; every other
child is left as it is. -/
def Node.handOn (place : Nat) : Nat → Option (Group → Group) → List Node → List Node
  | _, _, [] => []
  | here, some f, .group id logic children :: nodes =>
    if here = place then (f ⟨id, logic, children⟩).node :: handOn place (here + 1) none nodes
    else .group id logic children :: handOn place (here + 1) (some f) nodes
  | here, change, node :: nodes => node :: handOn place (here + 1) change nodes

/-- The tree with `f g` in place of the group `g` at the end of a way, where the children of every
group on the way are gone through once and `f` is given up when it has been used. -/
def Group.rewriteOnce (f : Group → Group) : List Nat → Group → Group
  | [], g => f g
  | place :: path, g =>
    { g with children := Node.handOn place 0 (some (rewriteOnce f path)) g.children }

namespace Node

theorem handOn_condition (place here : Nat) (change : Option (Group → Group)) (c : Condition)
    (nodes : List Node) :
    handOn place here change (.condition c :: nodes)
      = .condition c :: handOn place (here + 1) change nodes := by
  cases change with
  | none => rfl
  | some f => rfl

theorem handOn_none (place here : Nat) (nodes : List Node) :
    handOn place here none nodes = nodes := by
  induction nodes generalizing here with
  | nil => rfl
  | cons node nodes ih =>
      cases node with
      | condition c => rw [handOn_condition, ih]
      | group id logic children => exact congrArg (.group id logic children :: ·) (ih (here + 1))

theorem handOn_of_lt {place here : Nat} (h : place < here) (f : Group → Group)
    (nodes : List Node) : handOn place here (some f) nodes = nodes := by
  induction nodes generalizing here with
  | nil => rfl
  | cons node nodes ih =>
      have hrest := ih (Nat.lt_succ_of_lt h)
      cases node with
      | condition c => rw [handOn_condition, hrest]
      | group id logic children => rw [handOn, if_neg (Nat.ne_of_gt h), hrest]

/-- A walk that takes a change along makes it at its place. -/
theorem handOn_eq_modify (here skipped : Nat) (f : Group → Group) (nodes : List Node) :
    handOn (here + skipped) here (some f) nodes = nodes.modify skipped (mapGroup f) := by
  induction nodes generalizing here skipped with
  | nil => rw [List.modify_nil]; rfl
  | cons node nodes ih =>
      cases skipped with
      | zero =>
          rw [List.modify_zero_cons]
          cases node with
          | condition c => rw [handOn_condition, handOn_of_lt (Nat.lt_succ_self _), mapGroup]
          | group id logic children =>
              rw [handOn, if_pos (Nat.add_zero here).symm, handOn_none, mapGroup]
      | succ skipped =>
          have hrest := ih (here + 1) skipped
          rw [Nat.add_right_comm] at hrest
          rw [List.modify_succ_cons, ← hrest]
          cases node with
          | condition c => exact handOn_condition _ _ _ _ _
          | group id logic children =>
              have hhere : here ≠ here + (skipped + 1) := by omega
              rw [handOn, if_neg hhere]
              rfl

end Node

/-- A change that can be made once only is made all the same. -/
theorem Group.rewriteOnce_eq_rewriteAt (f : Group → Group) (path : List Nat) (g : Group) :
    g.rewriteOnce f path = g.rewriteAt f path := by
  induction path generalizing g with
  | nil => rfl
  | cons place path ih =>
      have hrest : rewriteOnce f path = rewriteAt f path := funext ih
      have hwalk := Node.handOn_eq_modify 0 place (rewriteAt f path) g.children
      rw [Nat.zero_add] at hwalk
      rw [rewriteOnce, rewriteAt, hrest, hwalk]

/-! ### Search, way and rewriting -/

namespace Group

/-- **A group is rewritten at the first place it is found at.**  For an identifier that may be used
any number of times, a way is found if and only if a group is, which is the first one with the
identifier in the list of the groups of the tree, depth first.  The way leads to this group, and no
group with the identifier has a place before it.  To rewrite the group at the end of the way changes
the tree there and nowhere else, whatever the group becomes: the groups on the way have their
identifiers, their ways to combine and all their other children as before, and what is off the way
is as it was; and it makes no difference whether the change can be made once only. -/
theorem rewritten_where_found (tree : Group) (target : String) :
    ((tree.pathTo? target).isSome = true ↔ (tree.find? target).isSome = true) ∧
    tree.find? target = tree.groups.find? (·.id == target) ∧
    ∀ path, tree.pathTo? target = some path →
      ∃ g, tree.find? target = some g ∧ tree.node.at? path = some g.node ∧
        (∀ way (other : Group), tree.node.at? way = some other.node → other.id = target →
          path = way ∨ List.Lex (· < ·) path way) ∧
        ∀ f : Group → Group,
          (∀ next, tree.ChangesAt path (f g) next ↔ next = tree.rewriteAt f path) ∧
          tree.rewriteOnce f path = tree.rewriteAt f path := by
  have hfirst := Node.find?_eq_find?_groups target tree.node
  rcases tree.pathTo?_cases target with ⟨hfind, hpath⟩ | ⟨context, g, havoids, rfl, hfind, hpath⟩
  · rw [hpath, hfind]
    exact ⟨Iff.rfl, hfind ▸ hfirst, nofun⟩
  · refine ⟨by rw [hpath, hfind]; exact Iff.rfl, hfirst, fun path h => ?_⟩
    obtain rfl := Option.some.inj (hpath.symm.trans h)
    have hat := context.at?_plug g
    refine ⟨g, hfind, hat, ?_, fun f => ⟨fun next => changesAt_iff hat f, ?_⟩⟩
    · intro way other hway hother
      exact context.path_isFirst havoids hway hother
    · exact rewriteOnce_eq_rewriteAt f context.path (context.plug g)

/-- Rules in which a condition and two groups go by one identifier. -/
def echoedRules : Group where
  id := "root"
  logic := .and
  children :=
    [.condition ⟨"g1", "status", .equals, .text "Active"⟩,
     .group "g2" .or
      [.group "g1" .and [.condition ⟨"c1", "age", .greaterThan, .number (Double.ofInt 30)⟩],
       .condition ⟨"c2", "country", .equals, .text "Fiji"⟩],
     .group "g1" .and []]

/-- The same rules with the first of the groups emptied and renamed. -/
def renamedRules : Group where
  id := "root"
  logic := .and
  children :=
    [.condition ⟨"g1", "status", .equals, .text "Active"⟩,
     .group "g2" .or
      [.group "g3" .or [], .condition ⟨"c2", "country", .equals, .text "Fiji"⟩],
     .group "g1" .and []]

/-- The group in the second child is the one that is rewritten, also by a change that takes its
identifier from it; neither the condition before it nor the group after it is. -/
theorem echoedRules_rewritten_where_found :
    let first : Group :=
      ⟨"g1", .and, [.condition ⟨"c1", "age", .greaterThan, .number (Double.ofInt 30)⟩]⟩
    echoedRules.pathTo? "g1" = some [1, 0] ∧ echoedRules.find? "g1" = some first ∧
      echoedRules.node.at? [2] = some (.group "g1" .and []) ∧
      ([1, 0] = [2] ∨ List.Lex (· < ·) [1, 0] [2]) ∧
      echoedRules.ChangesAt [1, 0] ⟨"g3", .or, []⟩ renamedRules ∧
      echoedRules.rewriteOnce (fun _ => ⟨"g3", .or, []⟩) [1, 0] = renamedRules := by
  intro first
  have hpath : echoedRules.pathTo? "g1" = some [1, 0] := by decide +kernel
  have hmade : renamedRules = echoedRules.rewriteAt (fun _ => ⟨"g3", .or, []⟩) [1, 0] := by
    decide +kernel
  obtain ⟨-, -, hfound⟩ := rewritten_where_found echoedRules "g1"
  obtain ⟨g, hfind, -, hleast, hrewrite⟩ := hfound [1, 0] hpath
  obtain ⟨hchanges, honce⟩ := hrewrite fun _ => ⟨"g3", .or, []⟩
  have hfirst : echoedRules.find? "g1" = some first := by decide +kernel
  have hlast : echoedRules.node.at? [2] = some (.group "g1" .and []) := by decide +kernel
  refine ⟨hpath, hfirst, hlast, hleast [2] ⟨"g1", .and, []⟩ hlast rfl, ?_, honce.trans hmade.symm⟩
  exact (hchanges renamedRules).2 hmade

end Group

end Audience
