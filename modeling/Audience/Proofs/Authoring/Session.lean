import Audience.Authoring.Session
import Audience.Proofs.Authoring.Edit
import Audience.Proofs.Rule.Shape
import Mathlib.Data.List.Nodup

/-!
**Authoring sessions keep trees sound**.

An operation of a session changes the identifiers in the tree at one place only: it inserts a new
one, takes out those of a child that it removes, or leaves them all as they are.  Hence identifiers
that are pairwise different and not blank stay so over any number of operations, and all that can
become wrong with the tree is that it is too deep or too wide.

Main definitions:

* `Authoring.Operation.ChangesIds` — what an operation does to the identifiers in a tree;
* `Authoring.Session.run` — a session after a list of operations.

Main results:

* `Authoring.Session.perform_cases` — one operation changes the identifiers in its own way, or
  leaves the tree as it is;
* `Authoring.Operation.ChangesIds.isSound` — such a change keeps a tree sound;
* `Authoring.Session.run_keeps_sound` — **after any operations** the tree has its root and is
  sound.
-/

set_option relaxedAutoImplicit false
set_option autoImplicit false

namespace Audience

namespace Group

variable {before after : Group}

theorem isSound_root (logic : Logic) : (root logic).IsSound where
  present := List.forall_mem_singleton.2 (show Text.isBlankText rootId = false by decide)
  nodup := List.nodup_singleton _

theorem IsSound.insert (h : before.IsSound) {id : String} {l r : List String}
    (hblank : Text.isBlankText id = false) (hnew : id ∉ before.ids) (hbefore : before.ids = l ++ r)
    (hafter : after.ids = l ++ id :: r) : after.IsSound where
  present := by
    intro other hm
    rw [hafter, List.perm_middle.mem_iff, ← hbefore, List.mem_cons] at hm
    rcases hm with rfl | hm
    · exact hblank
    · exact h.present other hm
  nodup := by
    rw [hafter, List.nodup_middle, ← hbefore]
    exact List.nodup_cons.2 ⟨hnew, h.nodup⟩

theorem IsSound.sublist (h : before.IsSound) (hsub : after.ids.Sublist before.ids) :
    after.IsSound where
  present := by
    intro id hm
    exact h.present id (hsub.subset hm)
  nodup := h.nodup.sublist hsub

end Group

namespace Authoring

/-! ### One operation -/

/-- What an operation that has been made does to the **identifiers** in a tree.  To add inserts one
that was offered and is not in the tree, to remove takes out those of one child of the group that
is found, and the other operations leave all identifiers as they are. -/
def Operation.ChangesIds (offered : List String) (before after : Group) (answer : Answer) :
    Operation → Prop
  | .addCondition _ | .addGroup _ =>
    ∃ id ∈ offered, answer = .added (some id) ∧ id ∉ before.ids ∧
      ∃ l r, before.ids = l ++ r ∧ after.ids = l ++ id :: r
  | .remove group node =>
    ∃ parent child, before.find? group = some parent ∧ child ∈ parent.children ∧ child.id = node ∧
      ∃ l r, before.ids = l ++ child.ids ++ r ∧ after.ids = l ++ r
  | .update .. | .setLogic .. => after.ids = before.ids

/-- A change of the identifiers by an operation keeps a tree sound. -/
theorem Operation.ChangesIds.isSound {offered : List String} {before after : Group}
    {answer : Answer} {operation : Operation}
    (h : operation.ChangesIds offered before after answer) (hbefore : before.IsSound)
    (hoffered : ∀ id ∈ offered, Text.isBlankText id = false) : after.IsSound := by
  cases operation with
  | addCondition group =>
      obtain ⟨id, hid, -, hnew, l, r, hids, hafter⟩ := h
      exact hbefore.insert (hoffered id hid) hnew hids hafter
  | addGroup group =>
      obtain ⟨id, hid, -, hnew, l, r, hids, hafter⟩ := h
      exact hbefore.insert (hoffered id hid) hnew hids hafter
  | remove group node =>
      obtain ⟨parent, child, -, -, -, l, r, hids, hafter⟩ := h
      refine hbefore.sublist ?_
      rw [hids, hafter]
      exact (List.sublist_append_left l child.ids).append_right r
  | update group condition patch => exact hbefore.sublist (h ▸ List.Sublist.refl _)
  | setLogic group logic => exact hbefore.sublist (h ▸ List.Sublist.refl _)

theorem ids_plug_append (context : Context) (g : Group) (child : Node) :
    ∃ l r, (context.plug g).ids = l ++ r ∧
      (context.plug (g.append child)).ids = l ++ (child.ids ++ r) :=
  ⟨context.idsBefore ++ g.ids, context.idsAfter, context.ids_plug g, by
    rw [context.ids_plug, g.ids_append]; simp⟩

theorem ids_plug_filter (context : Context) {g : Group} {child : Node}
    (hnodup : (context.plug g).ids.Nodup) (hm : child ∈ g.children) :
    ∃ l r, (context.plug g).ids = l ++ child.ids ++ r ∧
      (context.plug { g with children := g.children.filter (·.id != child.id) }).ids = l ++ r := by
  obtain ⟨before, after, hsplit, hfilter⟩ := Node.filter_id_ne (Context.nodup_children hnodup) hm
  rw [context.ids_plug, Group.ids_eq]
  refine ⟨context.idsBefore ++ g.id :: before.flatMap Node.ids,
    after.flatMap Node.ids ++ context.idsAfter, ?_, ?_⟩
  · simp [hsplit]
  · rw [context.ids_plug, Group.ids_eq, hfilter]
    simp

namespace Session

variable {session : Session} {offered : List String} {operation : Operation}

/-- What has been done to the tree when an operation has been made. -/
theorem attempt_eq_some {next : Group} (hsound : session.tree.IsSound)
    (h : (session.attempt offered operation).1 = some next) :
    next.id = session.tree.id ∧
      operation.ChangesIds offered session.tree next (session.attempt offered operation).2.1 := by
  obtain ⟨catalog, tree, observers⟩ := session
  -- every edit puts another group into the context of the one that is found
  cases operation with
  | addCondition group =>
      obtain ⟨⟨_, id⟩, hadd, rfl⟩ := Option.map_eq_some_iff.1 h
      have hanswer := congrArg (fun added => Answer.added (added.map (·.2))) hadd
      obtain ⟨hid, hnew, context, g, -, rfl, rfl⟩ := addCondition?_eq_some hadd
      refine ⟨context.id_plug (by rfl), id, hid, hanswer, hnew, ?_⟩
      exact ids_plug_append context g _
  | addGroup group =>
      obtain ⟨⟨_, id⟩, hadd, rfl⟩ := Option.map_eq_some_iff.1 h
      have hanswer := congrArg (fun added => Answer.added (added.map (·.2))) hadd
      obtain ⟨hid, hnew, context, g, -, rfl, rfl⟩ := addGroup?_eq_some hadd
      refine ⟨context.id_plug (by rfl), id, hid, hanswer, hnew, ?_⟩
      exact ids_plug_append context g _
  | remove group node =>
      obtain ⟨context, g, hfind, rfl, ⟨child, hchild, rfl⟩, rfl⟩ := remove?_eq_some h
      refine ⟨context.id_plug (by rfl), g, child, hfind, hchild, rfl, ?_⟩
      exact ids_plug_filter context hsound.nodup hchild
  | update group condition patch =>
      simp only [attempt] at h
      split at h
      · next updated hupdate =>
        obtain rfl := Option.some.inj h
        obtain ⟨context, g, current, changed, -, rfl, -, -, rfl⟩ := update_eq_updated hupdate
        refine ⟨context.id_plug (by rfl), ?_⟩
        rw [Operation.ChangesIds, context.ids_plug, context.ids_plug,
          g.ids_mapChildren (ids_replaceCondition changed)]
      · cases h
      · cases h
  | setLogic group logic =>
      obtain ⟨context, g, -, rfl, rfl⟩ := setLogic?_eq_some h
      refine ⟨context.id_plug (by rfl), ?_⟩
      rw [Operation.ChangesIds, context.ids_plug, context.ids_plug]
      rfl

theorem success_attempt (session : Session) (offered : List String) (operation : Operation) :
    (session.attempt offered operation).2.1.success
      = (session.attempt offered operation).1.isSome := by
  cases operation with
  | addCondition group => simp [attempt, Answer.success]
  | addGroup group => simp [attempt, Answer.success]
  | remove group node => rfl
  | update group condition patch =>
      simp only [attempt]
      split <;> rfl
  | setLogic group logic => rfl

/-- One operation keeps the root and changes the identifiers in its own way, or is not made and
leaves the session as it is. -/
theorem perform_cases (hsound : session.tree.IsSound) (offered : List String)
    (operation : Operation) :
    ((session.perform offered operation).2.answer.success = true ∧
      (session.perform offered operation).1.tree.id = session.tree.id ∧
      operation.ChangesIds offered session.tree (session.perform offered operation).1.tree
        (session.perform offered operation).2.answer) ∨
    ((session.perform offered operation).2.answer.success = false ∧
      (session.perform offered operation).1 = session) := by
  have hsuccess := session.success_attempt offered operation
  unfold perform
  split
  · next tree answer log hattempt =>
    have hchange := attempt_eq_some hsound (congrArg Prod.fst hattempt)
    rw [hattempt] at hsuccess hchange
    exact .inl ⟨hsuccess, hchange⟩
  · next answer log hattempt =>
    rw [hattempt] at hsuccess
    exact .inr ⟨hsuccess, rfl⟩

/-! ### Any number of operations -/

/-- A session after a list of operations, each with the identifiers that it is offered. -/
def run (session : Session) : List (List String × Operation) → Session
  | [] => session
  | (offered, operation) :: steps => run (session.perform offered operation).1 steps

theorem isSound_perform (hsound : session.tree.IsSound)
    (hoffered : ∀ id ∈ offered, Text.isBlankText id = false) :
    (session.perform offered operation).1.tree.IsSound := by
  rcases perform_cases hsound offered operation with ⟨-, -, hchange⟩ | ⟨-, hsame⟩
  · exact hchange.isSound hsound hoffered
  · rw [hsame]
    exact hsound

theorem id_perform (hsound : session.tree.IsSound) :
    (session.perform offered operation).1.tree.id = session.tree.id := by
  rcases perform_cases hsound offered operation with ⟨-, hid, -⟩ | ⟨-, hsame⟩
  · exact hid
  · rw [hsame]

theorem isSound_run {steps : List (List String × Operation)} (hsound : session.tree.IsSound)
    (hoffered : ∀ step ∈ steps, ∀ id ∈ step.1, Text.isBlankText id = false) :
    (session.run steps).tree.id = session.tree.id ∧ (session.run steps).tree.IsSound := by
  induction steps generalizing session with
  | nil => exact ⟨rfl, hsound⟩
  | cons step steps ih =>
      obtain ⟨offered, operation⟩ := step
      rw [List.forall_mem_cons] at hoffered
      obtain ⟨hid, hrun⟩ := ih (isSound_perform hsound hoffered.1) hoffered.2
      exact ⟨hid.trans (id_perform hsound), hrun⟩

/-- **A session keeps its tree sound**: it starts with a sound tree, and from a sound tree every
list of operations, offered no blank identifiers, leads to a tree with the same root that is sound,
so that validation can only find it too deep or too wide; and the next operation there changes the
identifiers in its own way, or is not made and changes nothing. -/
theorem run_keeps_sound :
    (∀ catalog observers, Group.IsSound (Session.tree ⟨catalog, .root .and, observers⟩)) ∧
    ∀ (session : Session) (steps : List (List String × Operation)), session.tree.IsSound →
      (∀ step ∈ steps, ∀ id ∈ step.1, Text.isBlankText id = false) →
      (session.run steps).tree.id = session.tree.id ∧ (session.run steps).tree.IsSound ∧
      (∀ limits fault, (session.run steps).tree.validate limits = .error fault →
        (session.run steps).tree.Exceeds limits fault) ∧
      ∀ offered operation,
        let before := session.run steps
        let (after, report) := before.perform offered operation
        if report.answer.success then
          operation.ChangesIds offered before.tree after.tree report.answer
        else after = before := by
  constructor
  · intro catalog observers
    exact Group.isSound_root .and
  · intro session steps hsound hoffered
    obtain ⟨hid, hrun⟩ := isSound_run hsound hoffered
    refine ⟨hid, hrun, ?_, ?_⟩
    · intro limits fault hfault
      exact hrun.exceeds hfault
    · intro offered operation
      rcases perform_cases hrun offered operation with ⟨hmade, -, hchange⟩ | ⟨hrefused, hsame⟩
      · simp only [hmade, if_true]
        exact hchange
      · simp only [hrefused, Bool.false_eq_true, if_false]
        exact hsame

/-- A group with two conditions, one of which is removed again.  Two of the identifiers offered are
in the tree already. -/
def exampleSteps : List (List String × Operation) :=
  [(["root", "g1"], .addGroup "root"), (["g1", "c1"], .addCondition "g1"),
    (["c2"], .addCondition "g1"), ([], .remove "g1" "c1"), ([], .setLogic "g1" .or)]

theorem exampleSteps_keep_sound :
    (run {} exampleSteps).tree.ids = ["root", "g1", "c2"] ∧
      (run {} exampleSteps).tree.IsSound := by
  have hsound : Group.IsSound (Session.tree {}) := run_keeps_sound.1 _ _
  have hoffered : ∀ step ∈ exampleSteps, ∀ id ∈ step.1, Text.isBlankText id = false := by
    decide +kernel
  exact ⟨by decide +kernel, (run_keeps_sound.2 {} exampleSteps hsound hoffered).2.1⟩

end Session

end Authoring

end Audience
