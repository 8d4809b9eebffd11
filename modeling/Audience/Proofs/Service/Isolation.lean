import Audience.Proofs.Service.Frame
import Mathlib.Logic.Equiv.Basic

/-!
**Isolation of accounts**: what an account asks for and what comes of it depend on nothing but what
belongs to the account.

Two worlds that are the same for an account are told apart by none of its requests: the answers
are the same and the worlds are the same for it afterwards, but for the new identifier and the time
that come with a request, and for the order of segments created at the same time.  The identifiers
that come with the request in the two worlds are exchanged for each other throughout.

Main definitions:

* `Segment.Alike`, `Answer.Alike` — segments and answers that are the same but for that;
* `World.AgreeUpTo` — worlds that are the same for an account but for that;
* `Task.refused` — the answer to a request that cannot be met.

Main results:

* `Service.alike_respond` — answers do not tell worlds apart;
* `Service.agreeUpTo_respond` — nor do the worlds afterwards;
* `Service.respond_of_hides` — a segment of another account, one that is not there and an
  identifier that is none get the same answer;
* `Service.respond_isolated` — **isolation of accounts**.
-/

set_option relaxedAutoImplicit false
set_option autoImplicit false

namespace Audience

open Service (saving)
open Equiv (swap)

variable {s t : Stamp} {owner : String}

/-! ### The same but for what comes with a request -/

/-- **Segments that are the same** but for the identifiers and the times of two stamps. -/
structure Segment.Alike (s t : Stamp) (a b : Segment) : Prop where
  /-- The identifiers are the same, or those of the stamps. -/
  id : b.id = swap s.id t.id a.id
  /-- The names are the same. -/
  name : a.name = b.name
  /-- The accounts are the same. -/
  ownerId : a.ownerId = b.ownerId
  /-- The rules are the same. -/
  rules : a.rules = b.rules
  /-- The times of creation are the same, or those of the stamps. -/
  createdAt : a.createdAt = b.createdAt ∨ a.createdAt = s.now ∧ b.createdAt = t.now
  /-- The times of the last change are the same, or those of the stamps. -/
  updatedAt : a.updatedAt = b.updatedAt ∨ a.updatedAt = s.now ∧ b.updatedAt = t.now

/-- **Answers that are the same** but for the identifiers and the times of two stamps, and for the
order of listed segments that were created at the same time. -/
def Answer.Alike (s t : Stamp) : Answer → Answer → Prop
  | .segment first, .segment second =>
    first.success = second.success ∧ first.message = second.message ∧
      Option.Rel (Segment.Alike s t) first.data second.data
  | .segments first, .segments second =>
    first.Perm second ∧ first.map (·.createdAt) = second.map (·.createdAt)
  | first, second => first = second

/-- Two worlds are the same for an account but for the identifiers and the times of two
stamps. -/
structure World.AgreeUpTo (s t : Stamp) (owner : String) (w₁ w₂ : World) : Prop where
  /-- The account has the same segments. -/
  segments : ∀ key, Option.Rel (Segment.Alike s t) (w₁.segmentOf owner key)
    (w₂.segmentOf owner (swap s.id t.id key))
  /-- It has the same records. -/
  records : w₁.records.recordsFor owner = w₂.records.recordsFor owner
  /-- The same calls fail. -/
  outages : w₁.outages = w₂.outages

theorem Segment.Alike.refl {a : Segment} (hs : a.id ≠ s.id) (ht : a.id ≠ t.id) : a.Alike s t a :=
  ⟨(Equiv.swap_apply_of_ne_of_ne hs ht).symm, rfl, rfl, rfl, .inl rfl, .inl rfl⟩

/-! ### Worlds that are the same, with new identifiers -/

/-- Two worlds that are the same for an account, and an identifier for each that is new
there. -/
structure World.Twins (s t : Stamp) (owner : String) (w₁ w₂ : World) : Prop where
  /-- The worlds are the same for the account. -/
  agree : w₁.AgreeFor owner w₂
  /-- The identifier for the first world is new there. -/
  left : w₁.segments.get? s.id = none
  /-- The identifier for the second world is new there. -/
  right : w₂.segments.get? t.id = none

namespace World

variable {w₁ w₂ : World}

namespace Twins

variable (h : Twins s t owner w₁ w₂)
include h

theorem ne_of_segmentOf {key : Uuid} {segment : Segment}
    (hkey : w₁.segmentOf owner key = some segment) : key ≠ s.id ∧ key ≠ t.id := by
  constructor
  · rintro rfl
    rw [segmentOf_eq_none h.left] at hkey
    cases hkey
  · rintro rfl
    rw [h.agree.segments, segmentOf_eq_none h.right] at hkey
    cases hkey

theorem alike {segment : Segment} (hsegment : w₁.segmentOf owner segment.id = some segment) :
    segment.Alike s t segment := by
  obtain ⟨hs, ht⟩ := h.ne_of_segmentOf hsegment
  exact .refl hs ht

/-- Worlds that are the same are so if the new identifiers, of which the account has no
segments, are exchanged. -/
theorem upTo : AgreeUpTo s t owner w₁ w₂ := by
  refine ⟨fun key => ?_, h.agree.records, h.agree.outages⟩
  cases hkey : w₁.segmentOf owner key with
  | some segment =>
      obtain ⟨hs, ht⟩ := h.ne_of_segmentOf hkey
      rw [Equiv.swap_apply_of_ne_of_ne hs ht, ← h.agree.segments, hkey]
      rw [← id_of_segmentOf hkey] at hs ht
      exact .some (.refl hs ht)
  | none =>
      -- exchanged or not, the identifier is one that the account has no segment with
      suffices hswap : w₂.segmentOf owner (swap s.id t.id key) = none by
        rw [hswap]
        exact .none
      rw [Equiv.swap_apply_def]
      split
      · exact segmentOf_eq_none h.right
      · split
        · rw [← h.agree.segments, segmentOf_eq_none h.left]
        · rw [← h.agree.segments, hkey]

end Twins

theorem AgreeUpTo.saving (h : AgreeUpTo s t owner w₁ w₂) {a b : Segment} (hab : a.Alike s t b)
    (howner : a.ownerId = owner) : AgreeUpTo s t owner (saving w₁ a) (saving w₂ b) := by
  refine ⟨fun key => ?_, h.records, h.outages⟩
  rw [segmentOf_saving w₁ howner, segmentOf_saving w₂ (hab.ownerId ▸ howner), hab.id]
  by_cases hkey : key = a.id
  · rw [if_pos hkey, if_pos (congrArg _ hkey)]
    exact .some hab
  · rw [if_neg hkey, if_neg fun hswap => hkey ((swap s.id t.id).injective hswap)]
    exact h.segments key

/-- Worlds that are the same up to the stamps are so after a segment has been erased from
both. -/
theorem AgreeUpTo.erase (h : AgreeUpTo s t owner w₁ w₂) {id : Uuid} (hs : id ≠ s.id)
    (ht : id ≠ t.id) :
    AgreeUpTo s t owner { w₁ with segments := w₁.segments.erase id }
      { w₂ with segments := w₂.segments.erase id } := by
  refine ⟨fun key => ?_, h.records, h.outages⟩
  rw [segmentOf_erase, segmentOf_erase]
  by_cases hkey : key = id
  · subst hkey
    rw [if_pos rfl, if_pos (Equiv.swap_apply_of_ne_of_ne hs ht)]
    exact .none
  · have hne : swap s.id t.id key ≠ id := by
      rw [← Equiv.swap_apply_of_ne_of_ne hs ht]
      exact fun hswap => hkey ((swap s.id t.id).injective hswap)
    rw [if_neg hkey, if_neg hne]
    exact h.segments key

end World

/-! ### Replies -/

/-- **Replies that are the same** for an account but for the identifiers and the times of two
stamps. -/
structure Reply.Alike (s t : Stamp) (owner : String) (first second : Reply Answer) : Prop where
  /-- The answers are the same. -/
  answer : Answer.Alike s t first.answer second.answer
  /-- The worlds are the same for the account afterwards. -/
  world : World.AgreeUpTo s t owner first.world second.world

/-- The answer to a request about a segment that cannot be met. -/
def Task.refused (error : ServiceError) : Task → Answer
  | .get | .replaceRules _ => .segment (.failure error.publicMessage)
  | .delete => .deleted (.failure error.publicMessage)
  | .evaluate => .records (.failed error.publicMessage)
  | .query => .query (.failure error.publicMessage)

namespace Service

open World

variable {w₁ w₂ : World} (service : Service)

/-- A segment is asked for in the same way whatever the stamp. -/
theorem result_draft (h : w₁.outages = w₂.outages) (s t : Stamp) (request : NewSegment) :
    (service.draft w₂ t request).result = (service.draft w₁ s request).result.map fun segment =>
      { segment with id := t.id, createdAt := t.now, updatedAt := t.now } := by
  -- the stamp comes in last, after all that may fail
  unfold draft
  dsimp only
  split
  · rfl
  · split
    · rfl
    · simp only [Attempt.bind_eq, Attempt.result_andThen, h]
      cases (service.readRules request.rules).result with
      | error error => rfl
      | ok rules =>
          cases (guardCall w₂.outages.save .savingFailed).result with
          | error error => rfl
          | ok done => rfl

/-- A segment is given other rules in the same way in worlds that are the same for its account. -/
theorem result_revise (h : w₁.AgreeFor owner w₂) (s t : Stamp) (id : String)
    (rules : Option Json) :
    (service.revise w₂ t id owner rules).result
      = (service.revise w₁ s id owner rules).result.map fun segment =>
        { segment with updatedAt := t.now } := by
  simp only [revise, Attempt.bind_eq, Attempt.result_andThen, result_ownedSegment_congr h,
    h.outages]
  cases (ownedSegment w₂ id owner).result with
  | error error => rfl
  | ok segment =>
      cases (service.readRules rules).result with
      | error error => rfl
      | ok rules =>
          cases (guardCall w₂.outages.save .savingFailed).result with
          | error error => rfl
          | ok done => rfl

theorem result_deletable (h : w₁.AgreeFor owner w₂) (id : String) :
    (deletable w₁ id owner).result = (deletable w₂ id owner).result :=
  result_deletable_congr (result_ownedSegment_congr h id) (by rw [h.outages])

theorem result_members (h : w₁.AgreeFor owner w₂) (id : String) :
    (service.members w₁ id owner).result = (service.members w₂ id owner).result :=
  result_members_congr (result_ownedSegment_congr h id) service (by rw [loadRecords_congr h])

theorem result_candidates (h : w₁.AgreeFor owner w₂) (rules : Group) :
    (service.candidates w₁ rules owner).result = (service.candidates w₂ rules owner).result :=
  result_candidates_congr service (by rw [loadRecords_congr h]) rules

theorem result_statement (h : w₁.AgreeFor owner w₂) (id : String) :
    (service.statement w₁ id owner).result = (service.statement w₂ id owner).result :=
  result_statement_congr (result_ownedSegment_congr h id) service

theorem alike_of_draft {request : NewSegment} {segment : Segment}
    (h : (service.draft w₁ s request).result = .ok segment) (t : Stamp) :
    segment.Alike s t { segment with id := t.id, createdAt := t.now, updatedAt := t.now } := by
  obtain ⟨tree, -, -, -, rfl⟩ := draft_eq_ok h
  refine ⟨?_, rfl, rfl, rfl, .inr ⟨rfl, rfl⟩, .inr ⟨rfl, rfl⟩⟩
  rw [Equiv.swap_apply_left]

theorem alike_of_revise (h : Twins s t owner w₁ w₂) {id : String} {rules : Option Json}
    {segment : Segment} (hrevise : (service.revise w₁ s id owner rules).result = .ok segment) :
    segment.Alike s t { segment with updatedAt := t.now } ∧ segment.ownerId = owner := by
  obtain ⟨key, old, tree, -, hold, -, rfl⟩ := revise_eq_ok hrevise
  obtain rfl := World.id_of_segmentOf hold
  refine ⟨?_, (segmentOf_eq_some_iff.1 hold).2⟩
  exact { h.alike hold with rules := rfl, updatedAt := .inr ⟨rfl, rfl⟩ }

theorem alike_ofResult (h : Twins s t owner w₁ w₂) (message : String)
    {result : Except ServiceError Segment} {other : Segment → Segment}
    (hresult : ∀ segment, result = .ok segment →
      segment.Alike s t (other segment) ∧ segment.ownerId = owner) :
    Answer.Alike s t (.segment (.ofResult message result))
        (.segment (.ofResult message (result.map other))) ∧
      AgreeUpTo s t owner (afterSaving w₁ result) (afterSaving w₂ (result.map other)) := by
  cases result with
  | error error => exact ⟨⟨rfl, rfl, .none⟩, h.upTo⟩
  | ok segment =>
      obtain ⟨halike, howner⟩ := hresult segment rfl
      exact ⟨⟨rfl, rfl, .some halike⟩, h.upTo.saving halike howner⟩

/-- A segment is created under the new identifier of each world. -/
theorem alike_create (h : Twins s t owner w₁ w₂) {request : NewSegment}
    (howner : request.ownerId = owner) :
    Reply.Alike s t owner ((service.create w₁ s request).map .segment)
      ((service.create w₂ t request).map .segment) := by
  have hresult := service.result_draft h.agree.outages s t request
  have hsegment : ∀ segment, (service.draft w₁ s request).result = .ok segment →
      segment.Alike s t { segment with id := t.id, createdAt := t.now, updatedAt := t.now } ∧
        segment.ownerId = owner := by
    intro segment hdraft
    refine ⟨service.alike_of_draft hdraft t, ?_⟩
    obtain ⟨tree, -, -, -, rfl⟩ := draft_eq_ok hdraft
    exact howner
  obtain ⟨hanswer, hworld⟩ := alike_ofResult h "Segment created successfully" hsegment
  constructor
  · rw [Reply.answer_map, Reply.answer_map, answer_create, answer_create, hresult]
    exact hanswer
  · rw [Reply.world_map, Reply.world_map, world_create, world_create, hresult]
    exact hworld

theorem alike_replaceRules (h : Twins s t owner w₁ w₂) (id : String) (rules : Option Json) :
    Reply.Alike s t owner ((service.replaceRules w₁ s id owner rules).map .segment)
      ((service.replaceRules w₂ t id owner rules).map .segment) := by
  have hresult := service.result_revise h.agree s t id rules
  obtain ⟨hanswer, hworld⟩ := alike_ofResult h "Segment updated successfully"
    fun segment hrevise => service.alike_of_revise h hrevise
  constructor
  · rw [Reply.answer_map, Reply.answer_map, answer_replaceRules, answer_replaceRules, hresult]
    exact hanswer
  · rw [Reply.world_map, Reply.world_map, world_replaceRules, world_replaceRules, hresult]
    exact hworld

theorem alike_get (h : Twins s t owner w₁ w₂) (id : String) :
    Reply.Alike s t owner ((get w₁ id owner).map .segment) ((get w₂ id owner).map .segment) := by
  constructor
  · rw [Reply.answer_map, Reply.answer_map, answer_get, answer_get,
      ← result_ownedSegment_congr h.agree]
    cases hfound : (ownedSegment w₁ id owner).result with
    | error error => exact ⟨rfl, rfl, .none⟩
    | ok segment => exact ⟨rfl, rfl, .some (h.alike (segmentOf_of_ownedSegment hfound))⟩
  · rw [Reply.world_map, Reply.world_map, world_get, world_get]
    exact h.upTo

theorem alike_list (h : Twins s t owner w₁ w₂) :
    Reply.Alike s t owner ((list w₁ owner).map .segments) ((list w₂ owner).map .segments) := by
  constructor
  · rw [Reply.answer_map, Reply.answer_map, list, list, h.agree.outages]
    cases w₂.outages.list with
    | some failure => exact ⟨.refl _, rfl⟩
    | none =>
        have hperm := h.agree.perm_listByOwner
        exact ⟨hperm, SegmentStore.createdAt_listByOwner hperm⟩
  · rw [Reply.world_map, Reply.world_map, world_list, world_list]
    exact h.upTo

theorem alike_delete (h : Twins s t owner w₁ w₂) (id : String) :
    Reply.Alike s t owner ((delete w₁ id owner).map .deleted)
      ((delete w₂ id owner).map .deleted) := by
  have hresult := result_deletable h.agree id
  constructor
  · rw [Reply.answer_map, Reply.answer_map, answer_delete, answer_delete, hresult]
    rfl
  · rw [Reply.world_map, Reply.world_map, world_delete, world_delete, ← hresult]
    cases hdelete : (deletable w₁ id owner).result with
    | error error => exact h.upTo
    | ok segment =>
        obtain ⟨hs, ht⟩ := h.ne_of_segmentOf (deletable_eq_ok hdelete)
        exact h.upTo.erase hs ht

theorem alike_finish (h : Twins s t owner w₁ w₂) (id : String)
    {first second : Attempt (FilterResult Record)} (hresult : first.result = second.result) :
    Reply.Alike s t owner ((finish w₁ id owner first).map .records)
      ((finish w₂ id owner second).map .records) := by
  constructor
  · rw [Reply.answer_map, Reply.answer_map, answer_finish, answer_finish, hresult]
    rfl
  · rw [Reply.world_map, Reply.world_map, world_finish, world_finish]
    exact h.upTo

theorem alike_query (h : Twins s t owner w₁ w₂) (id : String) :
    Reply.Alike s t owner ((service.query w₁ id owner).map .query)
      ((service.query w₂ id owner).map .query) := by
  constructor
  · rw [Reply.answer_map, Reply.answer_map, answer_query, answer_query,
      service.result_statement h.agree]
    rfl
  · rw [Reply.world_map, Reply.world_map, world_query, world_query]
    exact h.upTo

/-- No request tells worlds apart that are the same for the account that makes it. -/
theorem alike_respond (h : Twins s t owner w₁ w₂) (request : Request) :
    Reply.Alike s t owner (service.respond owner s w₁ request)
      (service.respond owner t w₂ request) := by
  cases request with
  | create name rules => exact service.alike_create h rfl
  | list => exact alike_list h
  | preview rules => exact alike_finish h _ (service.result_candidates h.agree rules)
  | on id task =>
      cases task with
      | get => exact alike_get h id
      | replaceRules rules => exact service.alike_replaceRules h id rules
      | delete => exact alike_delete h id
      | evaluate => exact alike_finish h id (service.result_members h.agree id)
      | query => exact service.alike_query h id

/-! ### Segments that an account cannot see -/

/-- What an account asks about a segment that it cannot see is refused, in the same words
whether the segment belongs to another account, is not there or has an identifier that is none. -/
theorem respond_of_hides {world : World} {id : String} (hid : world.Hides owner id)
    (hget : world.outages.get = none) (stamp : Stamp) (task : Task) :
    (service.respond owner stamp world (.on id task)).answer = task.refused .segmentNotFound ∧
      (service.respond owner stamp world (.on id task)).world = world := by
  have howned := result_ownedSegment_of_hides hid hget
  cases task with
  | get =>
      rw [respond, perform, Reply.answer_map, Reply.world_map, answer_get, howned, world_get]
      exact ⟨rfl, rfl⟩
  | replaceRules rules =>
      have hrevise : (service.revise world stamp id owner rules).result = .error .segmentNotFound :=
        Attempt.result_andThen_of_error howned _
      rw [respond, perform, Reply.answer_map, Reply.world_map, answer_replaceRules,
        world_replaceRules, hrevise]
      exact ⟨rfl, rfl⟩
  | delete =>
      have hdelete : (deletable world id owner).result = .error .segmentNotFound :=
        Attempt.result_andThen_of_error howned _
      rw [respond, perform, Reply.answer_map, Reply.world_map, answer_delete, world_delete, hdelete]
      exact ⟨rfl, rfl⟩
  | evaluate =>
      have hmembers : (service.members world id owner).result = .error .segmentNotFound :=
        Attempt.result_andThen_of_error howned _
      rw [respond, perform, Reply.answer_map, Reply.world_map, evaluate, answer_finish,
        world_finish, hmembers]
      exact ⟨rfl, rfl⟩
  | query =>
      have hstatement : (service.statement world id owner).result = .error .segmentNotFound :=
        Attempt.result_andThen_of_error howned _
      rw [respond, perform, Reply.answer_map, Reply.world_map, answer_query, world_query,
        hstatement]
      exact ⟨rfl, rfl⟩

/-! ### Isolation -/

/-- **Isolation of accounts**: worlds that are the same for an account are told apart by none of
its requests, no request changes what belongs to another account, and a segment that an account
cannot see is to it one that is not there. -/
theorem respond_isolated {owner : String} {w₁ w₂ : World} {s t : Stamp}
    (hagree : w₁.AgreeFor owner w₂) (hs : w₁.segments.get? s.id = none)
    (ht : w₂.segments.get? t.id = none) (request : Request) :
    Reply.Alike s t owner (service.respond owner s w₁ request)
        (service.respond owner t w₂ request) ∧
      (∀ other ≠ owner, ∀ key, (service.respond owner s w₁ request).world.segmentOf other key
        = w₁.segmentOf other key) ∧
      ∀ id task, w₁.Hides owner id → w₁.outages.get = none →
        (service.respond owner s w₁ (.on id task)).answer = task.refused .segmentNotFound := by
  refine ⟨service.alike_respond ⟨hagree, hs, ht⟩ request, ?_, ?_⟩
  · intro other hne key
    exact (service.change_respond owner s w₁ request).segmentOf_of_ne hs hne key
  · intro id task hid hget
    exact (service.respond_of_hides hid hget s task).1

/-- A segment of an account. -/
def exampleSegment : Segment where
  id := Uuid.ofNat 7
  name := "Regulars"
  ownerId := "o2"
  rules := none
  createdAt := default
  updatedAt := default

/-- Another account does not tell the world with that segment from the empty one. -/
theorem exampleSegment_isolated :
    let world := saving {} exampleSegment
    let request := Request.on exampleSegment.id.write .get
    let s : Stamp := ⟨Uuid.ofNat 1, default⟩
    let t : Stamp := ⟨Uuid.ofNat 2, default⟩
    Reply.Alike s t "o1" (respond {} "o1" s world request) (respond {} "o1" t {} request) ∧
      (∀ other ≠ "o1", ∀ key,
        (respond {} "o1" s world request).world.segmentOf other key = world.segmentOf other key) ∧
      ∀ id task, world.Hides "o1" id → world.outages.get = none →
        (respond {} "o1" s world (.on id task)).answer = task.refused .segmentNotFound :=
  respond_isolated {} (agreeFor_saving_of_ne (by decide) rfl) (by decide +kernel) rfl _

end Service

end Audience
