import Audience.Proofs.Authoring.Session

/-!
**What observers see of a session**.

Whoever subscribes to a session is shown the tree after every operation that is made from then on.
An operation tells whether it has been made, and one that has not changes nothing and is shown to
nobody; so the trees that an observer has been shown are those that the operations have told of
since it has subscribed, in their order.

Main definitions:

* `Authoring.Act` — what happens in a session: a subscription or an operation;
* `Authoring.Session.next`, `Authoring.Session.through` — a session after an act, and after a list
  of acts;
* `Authoring.Session.notices`, `Authoring.shown` — everything that is shown to observers, and what
  one of them is shown;
* `Authoring.Session.edits` — the trees that operations which tell of success lead to.

Main results:

* `Authoring.Session.perform_made_or_refused` — one operation is made and shown to all
  observers, or changes nothing and is shown to none;
* `Authoring.Session.shown_notices` — an observer that does not subscribe again is shown every
  edit as often as it has subscribed;
* `Authoring.Session.added_cases` — something is added just where a group is found, and becomes
  its last child;
* `Authoring.Session.observers_see_edits` — **observers see the edits** since they have subscribed.
-/

set_option relaxedAutoImplicit false
set_option autoImplicit false

namespace Audience.Authoring

/-! ### Acts of a session -/

/-- What **happens in a session**. -/
inductive Act where
  /-- An observer subscribes. -/
  | subscribe (observer : Nat)
  /-- An operation is asked for, with the identifiers that it is offered. -/
  | operate (offered : List String) (operation : Operation)
  deriving DecidableEq, Repr

/-- The trees that an observer is shown among notices. -/
def shown (observer : Nat) (notices : List (Nat × Group)) : List Group :=
  (notices.filter (·.1 = observer)).map (·.2)

namespace Session

/-- A session after an act. -/
def next (session : Session) : Act → Session
  | .subscribe observer => session.subscribe observer
  | .operate offered operation => (session.perform offered operation).1

/-- A session after a list of acts. -/
def through (session : Session) : List Act → Session
  | [] => session
  | act :: acts => (session.next act).through acts

/-- The notices that an act leads to. -/
def noticesOf (session : Session) : Act → List (Nat × Group)
  | .subscribe _ => []
  | .operate offered operation => (session.perform offered operation).2.notices

/-- All notices that acts lead to, in the order of showing. -/
def notices (session : Session) : List Act → List (Nat × Group)
  | [] => []
  | act :: acts => session.noticesOf act ++ (session.next act).notices acts

/-- The tree that an act leads to, if it is an operation that tells of success. -/
def edit? (session : Session) : Act → Option Group
  | .subscribe _ => none
  | .operate offered operation =>
    if (session.perform offered operation).2.answer.success then
      some (session.perform offered operation).1.tree
    else none

/-- The trees that operations lead to, of those that tell of success. -/
def edits (session : Session) : List Act → List Group
  | [] => []
  | act :: acts => (session.edit? act).toList ++ (session.next act).edits acts

/-! ### One act -/

/-- One operation is made, tells so and is shown to all observers, or it tells that it has not
been made, changes nothing and is shown to nobody. -/
theorem perform_made_or_refused (session : Session) (offered : List String)
    (operation : Operation) :
    (∃ tree, (session.attempt offered operation).1 = some tree ∧
      (session.perform offered operation).2.answer.success = true ∧
      (session.perform offered operation).1 = { session with tree := tree } ∧
      (session.perform offered operation).2.notices
        = session.observers.map fun observer => (observer, tree)) ∨
    ((session.attempt offered operation).1 = none ∧
      (session.perform offered operation).2.answer.success = false ∧
      (session.perform offered operation).1 = session ∧
      (session.perform offered operation).2.notices = []) := by
  have hsuccess := session.success_attempt offered operation
  unfold perform
  split
  · next tree answer log hattempt =>
    rw [hattempt] at hsuccess
    exact .inl ⟨tree, by rw [hattempt], hsuccess, rfl, rfl⟩
  · next answer log hattempt =>
    rw [hattempt] at hsuccess
    exact .inr ⟨by rw [hattempt], hsuccess, rfl, rfl⟩

theorem answer_perform (session : Session) (offered : List String) (operation : Operation) :
    (session.perform offered operation).2.answer = (session.attempt offered operation).2.1 := by
  unfold perform
  split
  · next tree answer log hattempt => rw [hattempt]
  · next answer log hattempt => rw [hattempt]

end Session

theorem shown_append (observer : Nat) (first second : List (Nat × Group)) :
    shown observer (first ++ second) = shown observer first ++ shown observer second := by
  rw [shown, List.filter_append, List.map_append]
  rfl

theorem shown_map (observer : Nat) (observers : List Nat) (tree : Group) :
    shown observer (observers.map fun other => (other, tree))
      = List.replicate (observers.count observer) tree := by
  induction observers with
  | nil => rfl
  | cons other observers ih =>
      rw [List.map_cons, shown, List.filter_cons]
      by_cases hother : other = observer
      · rw [if_pos (by simpa using hother), List.map_cons, ← shown, ih, hother,
          List.count_cons_self, List.replicate_succ]
      · rw [if_neg (by simpa using hother), ← shown, ih, List.count_cons_of_ne hother]

namespace Session

variable {session : Session} {observer : Nat}

theorem shown_noticesOf (session : Session) (observer : Nat) (act : Act) :
    shown observer (session.noticesOf act)
      = (session.edit? act).toList.flatMap
        fun tree => List.replicate (session.observers.count observer) tree := by
  cases act with
  | subscribe other => rfl
  | operate offered operation =>
      rw [noticesOf, edit?]
      rcases session.perform_made_or_refused offered operation with
        ⟨tree, -, hmade, hnext, hnotices⟩ | ⟨-, hrefused, -, hnotices⟩
      · rw [hnotices, shown_map, if_pos hmade, hnext]
        simp
      · rw [hnotices, hrefused]
        rfl

theorem count_observers_next (session : Session) {act : Act} (h : act ≠ .subscribe observer) :
    (session.next act).observers.count observer = session.observers.count observer := by
  cases act with
  | subscribe other =>
      have hother : other ≠ observer := fun heq => h (congrArg Act.subscribe heq)
      simp [next, subscribe, hother]
  | operate offered operation =>
      rw [next]
      rcases session.perform_made_or_refused offered operation with
        ⟨tree, -, -, hnext, -⟩ | ⟨-, -, hnext, -⟩
      · rw [hnext]
      · rw [hnext]

/-! ### Any number of acts -/

theorem through_append (session : Session) (before after : List Act) :
    session.through (before ++ after) = (session.through before).through after := by
  induction before generalizing session with
  | nil => rfl
  | cons act before ih => exact ih _

theorem notices_append (session : Session) (before after : List Act) :
    session.notices (before ++ after)
      = session.notices before ++ (session.through before).notices after := by
  induction before generalizing session with
  | nil => rfl
  | cons act before ih => rw [List.cons_append, notices, ih, notices, List.append_assoc, through]

theorem count_observers_through (session : Session) {acts : List Act}
    (h : .subscribe observer ∉ acts) :
    (session.through acts).observers.count observer = session.observers.count observer := by
  induction acts generalizing session with
  | nil => rfl
  | cons act acts ih =>
      rw [List.mem_cons, not_or] at h
      rw [through, ih _ h.2, session.count_observers_next (Ne.symm h.1)]

/-- An observer that does not subscribe again is shown every edit, as often as it has
subscribed before. -/
theorem shown_notices (session : Session) {acts : List Act} (h : .subscribe observer ∉ acts) :
    shown observer (session.notices acts)
      = (session.edits acts).flatMap
        fun tree => List.replicate (session.observers.count observer) tree := by
  induction acts generalizing session with
  | nil => rfl
  | cons act acts ih =>
      rw [List.mem_cons, not_or] at h
      -- the act does not change how often the observer is subscribed
      rw [notices, shown_append, shown_noticesOf, ih _ h.2, edits, List.flatMap_append,
        session.count_observers_next (Ne.symm h.1)]

theorem shown_of_subscribed_once (session : Session) {before after : List Act}
    (hsession : observer ∉ session.observers) (hbefore : .subscribe observer ∉ before)
    (hafter : .subscribe observer ∉ after) :
    shown observer (session.notices (before ++ .subscribe observer :: after))
      = (session.through (before ++ [.subscribe observer])).edits after := by
  have hnone : (session.through before).observers.count observer = 0 := by
    rw [session.count_observers_through hbefore, List.count_eq_zero.2 hsession]
  have honce : ((session.through before).next (.subscribe observer)).observers.count observer
      = 1 := by
    simp [next, subscribe, hnone]
  rw [notices_append, shown_append, session.shown_notices hbefore, List.count_eq_zero.2 hsession,
    notices, shown_append, shown_notices _ hafter, honce, through_append]
  simp [noticesOf, shown, through]

/-! ### What has been added -/

/-- Something is added just where the group is found, if an identifier that is offered is new;
the answer tells the identifier of the last child that the group has then. -/
theorem added_cases (session : Session) {offered : List String} {group : String}
    {operation : Operation} (hadds : operation = .addCondition group ∨ operation = .addGroup group)
    (hfresh : ∃ id ∈ offered, id ∉ session.tree.ids) :
    (session.tree.find? group = none ∧
      (session.perform offered operation).2.answer = .added none) ∨
    ∃ g child, session.tree.find? group = some g ∧
      (session.perform offered operation).2.answer = .added (some child.id) ∧
      (session.perform offered operation).1.tree.find? group = some (g.append child) := by
  obtain ⟨make, hid, hattempt⟩ : ∃ make : String → Node, (∀ id, (make id).id = id) ∧
      session.attempt offered operation =
        ((adding make session.tree group offered).map (·.1),
          .added ((adding make session.tree group offered).map (·.2)), []) := by
    rcases hadds with rfl | rfl
    · exact ⟨fun id => .condition (newCondition session.catalog id), fun _ => rfl, rfl⟩
    · exact ⟨fun id => .group id .and [], fun _ => rfl, rfl⟩
  rw [answer_perform]
  rcases adding_cases make hfresh with ⟨hfind, hadding⟩ | ⟨g, next, id, hfind, hadding, hagain⟩
  · refine .inl ⟨hfind, ?_⟩
    rw [hattempt, hadding]
    rfl
  · rw [hadding] at hattempt
    refine .inr ⟨g, make id, hfind, ?_, ?_⟩
    · rw [hattempt, hid]
      rfl
    · have hmade : (session.attempt offered operation).1 = some next := by rw [hattempt]; rfl
      rcases session.perform_made_or_refused offered operation with
        ⟨tree, htree, -, hnext, -⟩ | ⟨hnone, -⟩
      · obtain rfl := Option.some.inj (hmade.symm.trans htree)
        rw [hnext, hagain]
      · exact nomatch hmade.symm.trans hnone

/-! ### Observers see the edits -/

/-- **Observers see the edits**: whatever operations and subscriptions a session consists of, who
subscribes once is shown exactly the trees that operations have told of from then on, in their order
and each once, and who has subscribed more often is shown each so often.  An operation that tells of
failure changes nothing and is shown to nobody; and an operation that adds a node tells an
identifier just where the group is found, which is that of the last child that the group has
then. -/
theorem observers_see_edits :
    (∀ (session : Session) (observer : Nat) (before after : List Act),
      observer ∉ session.observers → .subscribe observer ∉ before → .subscribe observer ∉ after →
      shown observer (session.notices (before ++ .subscribe observer :: after))
        = (session.through (before ++ [.subscribe observer])).edits after) ∧
    (∀ (session : Session) (observer : Nat) (acts : List Act), .subscribe observer ∉ acts →
      shown observer (session.notices acts)
        = (session.edits acts).flatMap
          fun tree => List.replicate (session.observers.count observer) tree) ∧
    (∀ (session : Session) offered operation,
      (session.perform offered operation).2.answer.success = false →
      (session.perform offered operation).1 = session ∧
      (session.perform offered operation).2.notices = []) ∧
    ∀ (session : Session) (offered : List String) (group : String) operation,
      operation = .addCondition group ∨ operation = .addGroup group →
      (∃ id ∈ offered, id ∉ session.tree.ids) →
      let (after, report) := session.perform offered operation
      ((∃ id, report.answer = .added (some id)) ↔ (session.tree.find? group).isSome) ∧
      ∀ id, report.answer = .added (some id) →
        ((after.tree.find? group).bind (·.children.getLast?)).map (·.id) = some id := by
  refine ⟨?_, ?_, ?_, ?_⟩
  · intro session observer before after hsession hbefore hafter
    exact session.shown_of_subscribed_once hsession hbefore hafter
  · intro session observer acts hacts
    exact session.shown_notices hacts
  · intro session offered operation hfailed
    rcases session.perform_made_or_refused offered operation with ⟨-, -, hmade, -⟩ | ⟨-, -, hsame⟩
    · exact absurd (hmade.symm.trans hfailed) (by decide)
    · exact hsame
  · intro session offered group operation hadds hfresh
    rcases session.added_cases hadds hfresh with
      ⟨hfind, hanswer⟩ | ⟨g, child, hfind, hanswer, hagain⟩
    · simp [hfind, hanswer]
    · simp [hfind, hanswer, hagain, Group.append]

/-- Two observers who subscribe one after the other, with an addition to a group that is not there
in between. -/
def exampleActs : List Act :=
  [.operate ["g1"] (.addGroup "root"), .subscribe 1, .operate ["g1", "c1"] (.addCondition "g1"),
    .operate ["c2"] (.addCondition "missing"), .subscribe 2, .operate [] (.setLogic "root" .or)]

theorem exampleActs_are_seen :
    (shown 1 (notices {} exampleActs)).map (fun tree => (tree.logic, tree.ids))
        = [(.and, ["root", "g1", "c1"]), (.or, ["root", "g1", "c1"])] ∧
      shown 2 (notices {} exampleActs) = [(through {} exampleActs).tree] ∧
      (shown 3 (notices ⟨.customers, .root .and, [3, 3]⟩ exampleActs)).length = 6 ∧
      ((perform {} ["c2"] (.addCondition "missing")).1 = {}) ∧
      ∃ id, (perform {} ["root", "c1"] (.addCondition "root")).2.answer = .added (some id) := by
  have hfirst := observers_see_edits.1 {} 1 [.operate ["g1"] (.addGroup "root")]
    (exampleActs.drop 2) (by decide) (by decide) (by decide)
  have hsecond := observers_see_edits.1 {} 2 (exampleActs.take 4) (exampleActs.drop 5)
    (by decide) (by decide) (by decide)
  have htwice := observers_see_edits.2.1 ⟨.customers, .root .and, [3, 3]⟩ 3 exampleActs (by decide)
  refine ⟨?_, ?_, ?_, ?_, ?_⟩
  · refine (congrArg (List.map fun tree => (tree.logic, tree.ids)) hfirst).trans ?_
    decide +kernel
  · exact hsecond.trans (by decide +kernel)
  · refine (congrArg List.length htwice).trans ?_
    decide +kernel
  · exact (observers_see_edits.2.2.1 {} ["c2"] (.addCondition "missing") (by decide +kernel)).1
  · exact (observers_see_edits.2.2.2 {} ["root", "c1"] "root" _ (.inl rfl)
      ⟨"c1", by decide +kernel⟩).1.2 (by decide +kernel)

end Session

end Audience.Authoring
