import Audience.Proofs.Segment.Store
import Audience.Service.Operations

/-!
**Requests of an account**, and what the service needs of the world to meet them.

The operations of the service are put together as one step: an account makes a request, and gets
an answer and a new world.  What the service asks of the world comes down to the view that the
account has of it: the segments and the records that are its own, and the calls that fail.

Main definitions:

* `Request`, `Task` — requests, some of which are about the segment with an identifier;
* `Answer` — what accounts get in return;
* `Service.respond` — **one step** of the service;
* `World.segmentOf` — the segment with an identifier, if it belongs to an account;
* `World.Hides` — an account cannot see a segment with an identifier;
* `World.AgreeFor` — **two worlds are the same** for an account.

Main results:

* `Service.result_ownedSegment` — looking up a segment depends on the view of the account alone;
* `Service.result_guardCall_congr` — the text of a failure makes no difference to an attempt, and
  `Service.result_revise_congr` and others say what else attempts depend on;
* `World.AgreeFor.perm_listByOwner` — so does the list of segments, but for the order of some.
-/

set_option relaxedAutoImplicit false
set_option autoImplicit false

namespace Audience

/-! ### Requests and answers -/

/-- What may be asked about one segment. -/
inductive Task where
  | get
  | replaceRules (rules : Option Json)
  | delete
  | evaluate
  | query
  deriving DecidableEq, Repr

/-- A request of an account. -/
inductive Request where
  | create (name : String) (rules : Option Json)
  | list
  | preview (rules : Group)
  | on (id : String) (task : Task)
  deriving DecidableEq, Repr

/-- An answer to a request. -/
inductive Answer where
  | segment (response : Response Segment)
  | segments (list : List Segment)
  | deleted (response : Response Unit)
  | records (result : FilterResult Record)
  | query (response : Response Sql.Query)
  deriving DecidableEq, Repr

/-- The answer that says how an attempt has gone. -/
def Response.ofResult {α : Type} (message : String) : Except ServiceError α → Response α
  | .ok value => .ok message value
  | .error error => .failure error.publicMessage

/-- The records that an attempt has found, or why it has not. -/
def FilterResult.ofResult : Except ServiceError (FilterResult Record) → FilterResult Record
  | .ok result => result
  | .error error => .failed error.publicMessage

/-- A reply with the answer wrapped up. -/
def Reply.map {α β : Type} (wrap : α → β) (reply : Reply α) : Reply β :=
  ⟨wrap reply.answer, reply.world, reply.signals⟩

@[simp] theorem Reply.answer_map {α β : Type} (wrap : α → β) (reply : Reply α) :
    (reply.map wrap).answer = wrap reply.answer := rfl

@[simp] theorem Reply.world_map {α β : Type} (wrap : α → β) (reply : Reply α) :
    (reply.map wrap).world = reply.world := rfl

/-- What the service does about one segment. -/
def Service.perform (service : Service) (owner : String) (stamp : Stamp) (world : World)
    (id : String) : Task → Reply Answer
  | .get => (get world id owner).map .segment
  | .replaceRules rules => (service.replaceRules world stamp id owner rules).map .segment
  | .delete => (delete world id owner).map .deleted
  | .evaluate => (service.evaluate world id owner).map .records
  | .query => (service.query world id owner).map .query

/-- **One step** of the service: an account makes a request. -/
def Service.respond (service : Service) (owner : String) (stamp : Stamp) (world : World) :
    Request → Reply Answer
  | .create name rules =>
    (service.create world stamp { name := name, ownerId := owner, rules := rules }).map .segment
  | .list => (list world owner).map .segments
  | .preview rules => (service.preview world rules owner).map .records
  | .on id task => service.perform owner stamp world id task

/-! ### The view of an account -/

namespace World

/-- The segment with an identifier, if it belongs to an account. -/
def segmentOf (world : World) (owner : String) (key : Uuid) : Option Segment :=
  (world.segments.get? key).filter (·.ownerId = owner)

/-- An account cannot see a segment with an identifier: it denotes none, or none that is there,
or one of another account. -/
def Hides (world : World) (owner id : String) : Prop :=
  ∀ key, Uuid.ofText? id = some key → world.segmentOf owner key = none

/-- **Two worlds are the same** for an account. -/
structure AgreeFor (owner : String) (w₁ w₂ : World) : Prop where
  /-- The account has the same segments. -/
  segments : ∀ key, w₁.segmentOf owner key = w₂.segmentOf owner key
  /-- It has the same records. -/
  records : w₁.records.recordsFor owner = w₂.records.recordsFor owner
  /-- The same calls fail. -/
  outages : w₁.outages = w₂.outages

variable {world w₁ w₂ : World} {owner id : String} {key : Uuid} {segment : Segment}

theorem segmentOf_eq_some_iff :
    world.segmentOf owner key = some segment
      ↔ world.segments.get? key = some segment ∧ segment.ownerId = owner := by
  simp [segmentOf, Option.filter_eq_some_iff]

theorem id_of_segmentOf (h : world.segmentOf owner key = some segment) : segment.id = key :=
  SegmentStore.id_of_get? (segmentOf_eq_some_iff.1 h).1

theorem segmentOf_eq_none (h : world.segments.get? key = none) :
    world.segmentOf owner key = none := by
  rw [segmentOf, h, Option.filter_none]

theorem segmentOf_of_ne {other : String} (hne : other ≠ owner)
    (h : world.segmentOf owner key = some segment) : world.segmentOf other key = none := by
  obtain ⟨hget, howner⟩ := segmentOf_eq_some_iff.1 h
  rw [segmentOf, hget, Option.filter_some, if_neg]
  simpa [howner] using hne.symm

theorem mem_listByOwner :
    segment ∈ world.segments.listByOwner owner
      ↔ world.segmentOf owner segment.id = some segment := by
  rw [SegmentStore.mem_listByOwner, segmentOf_eq_some_iff]

theorem AgreeFor.refl (owner : String) (world : World) : AgreeFor owner world world :=
  ⟨fun _ => rfl, rfl, rfl⟩

/-- Worlds that are the same for an account give it the same segments in its list, with **those
created at the same time** in any order. -/
theorem AgreeFor.perm_listByOwner (h : AgreeFor owner w₁ w₂) :
    (w₁.segments.listByOwner owner).Perm (w₂.segments.listByOwner owner) := by
  have hfirst := w₁.segments.nodup_listByOwner owner
  have hsecond := w₂.segments.nodup_listByOwner owner
  refine (List.perm_ext_iff_of_nodup hfirst hsecond).2 fun segment => ?_
  rw [mem_listByOwner, mem_listByOwner, h.segments]

end World

/-! ### Attempts -/

namespace Attempt

variable {α β : Type}

@[simp] theorem result_done (value : α) : (done value).result = .ok value := rfl

@[simp] theorem result_fail (error : ServiceError) : (fail error : Attempt α).result = .error error :=
  rfl

@[simp] theorem result_tell (signals : List Signal) : (tell signals).result = .ok () := rfl

theorem result_andThen (first : Attempt α) (next : α → Attempt β) :
    (first.andThen next).result = first.result.bind fun value => (next value).result := by
  rw [andThen]
  cases first.result with
  | error error => rfl
  | ok value => rfl

theorem result_andThen_congr {first second : Attempt α} {next other : α → Attempt β}
    (h : first.result = second.result) (hnext : ∀ value, (next value).result = (other value).result) :
    (first.andThen next).result = (second.andThen other).result := by
  rw [result_andThen, result_andThen, h]
  exact congrArg second.result.bind (funext hnext)

theorem result_andThen_of_error {first : Attempt α} {error : ServiceError}
    (h : first.result = .error error) (next : α → Attempt β) :
    (first.andThen next).result = .error error := by
  rw [result_andThen, h]
  rfl

theorem result_andThen_eq_ok {first : Attempt α} {next : α → Attempt β} {value : β} :
    (first.andThen next).result = .ok value
      ↔ ∃ between, first.result = .ok between ∧ (next between).result = .ok value := by
  rw [result_andThen]
  cases first.result with
  | error error => simp [Except.bind]
  | ok between => simp [Except.bind]

end Attempt

/-! ### What the service asks of the world -/

namespace Service

variable {w₁ w₂ : World} {owner : String}

/-- Looking up a segment depends on nothing but the segments of the account. -/
theorem result_ownedSegment (world : World) (id owner : String) :
    (ownedSegment world id owner).result =
      match Uuid.ofText? id with
      | none => .error .segmentNotFound
      | some key =>
        if world.outages.get.isSome then .error .lookupFailed
        else match world.segmentOf owner key with
          | none => .error .segmentNotFound
          | some segment => .ok segment := by
  rw [ownedSegment]
  cases Uuid.ofText? id with
  | none => rfl
  | some key =>
      cases world.outages.get with
      | some failure => rfl
      | none =>
          cases hget : world.segments.get? key with
          | none => simp [World.segmentOf, hget]
          | some segment =>
              by_cases howner : segment.ownerId = owner
              · simp [World.segmentOf, hget, howner, Option.filter_some]
              · simp [World.segmentOf, hget, howner, Option.filter_some]

theorem result_ownedSegment_congr (h : w₁.AgreeFor owner w₂) (id : String) :
    (ownedSegment w₁ id owner).result = (ownedSegment w₂ id owner).result := by
  simp only [result_ownedSegment, h.segments, h.outages]

theorem result_ownedSegment_of_segmentOf {world : World} {id : String} {key : Uuid}
    {segment : Segment} (hid : Uuid.ofText? id = some key)
    (hsegment : world.segmentOf owner key = some segment) (hget : world.outages.get = none) :
    (ownedSegment world id owner).result = .ok segment := by
  simp only [result_ownedSegment, hid, hget, hsegment]
  rfl

theorem result_ownedSegment_of_hides {world : World} {id : String} (h : world.Hides owner id)
    (hget : world.outages.get = none) :
    (ownedSegment world id owner).result = .error .segmentNotFound := by
  rw [result_ownedSegment]
  cases hid : Uuid.ofText? id with
  | none => rfl
  | some key => simp [hget, h key hid]

/-- A segment that is given to an account is its own, under the identifier asked for. -/
theorem exists_key_of_ownedSegment {world : World} {id : String} {segment : Segment}
    (h : (ownedSegment world id owner).result = .ok segment) :
    ∃ key, Uuid.ofText? id = some key ∧ world.segmentOf owner key = some segment := by
  rw [result_ownedSegment] at h
  cases hid : Uuid.ofText? id with
  | none => simp [hid] at h
  | some key =>
      simp only [hid] at h
      split at h
      · cases h
      · cases hkey : world.segmentOf owner key with
        | none => simp [hkey] at h
        | some found =>
            obtain rfl : found = segment := by simpa [hkey] using h
            exact ⟨key, rfl, hkey⟩

theorem segmentOf_of_ownedSegment {world : World} {id : String} {segment : Segment}
    (h : (ownedSegment world id owner).result = .ok segment) :
    world.segmentOf owner segment.id = some segment := by
  obtain ⟨key, -, hkey⟩ := exists_key_of_ownedSegment h
  rw [World.id_of_segmentOf hkey, hkey]

theorem loadRecords_congr (h : w₁.AgreeFor owner w₂) :
    loadRecords w₁ owner = loadRecords w₂ owner := by
  rw [loadRecords, loadRecords, h.records, h.outages]

/-! ### What attempts depend on -/

theorem result_loadRecords (world : World) (owner : String) :
    (loadRecords world owner).result =
      if world.outages.records.isSome then .error .recordsUnavailable
      else .ok (world.records.recordsFor owner) := by
  rw [loadRecords]
  cases world.outages.records <;> rfl

theorem result_guardCall (outage : Option String) (error : ServiceError) :
    (guardCall outage error).result = if outage.isSome then .error error else .ok () := by
  cases outage <;> rfl

theorem result_guardCall_congr {outage other : Option String} (h : outage.isSome = other.isSome)
    (error : ServiceError) : (guardCall outage error).result = (guardCall other error).result := by
  rw [result_guardCall, result_guardCall, h]

section

variable {id : String}
  (hsegment : (ownedSegment w₁ id owner).result = (ownedSegment w₂ id owner).result)
include hsegment

/-- A segment with other rules depends on the segment that is found and on whether saving
fails. -/
theorem result_revise_congr (service : Service) (stamp : Stamp) (rules : Option Json)
    (hsave : w₁.outages.save.isSome = w₂.outages.save.isSome) :
    (service.revise w₁ stamp id owner rules).result
      = (service.revise w₂ stamp id owner rules).result := by
  refine Attempt.result_andThen_congr hsegment fun segment => ?_
  refine Attempt.result_andThen_congr rfl fun rules => ?_
  exact Attempt.result_andThen_congr (result_guardCall_congr hsave _) fun _ => rfl

theorem result_deletable_congr
    (hdelete : w₁.outages.delete.isSome = w₂.outages.delete.isSome) :
    (deletable w₁ id owner).result = (deletable w₂ id owner).result := by
  refine Attempt.result_andThen_congr hsegment fun segment => ?_
  exact Attempt.result_andThen_congr (result_guardCall_congr hdelete _) fun _ => rfl

theorem result_members_congr (service : Service)
    (hrecords : (loadRecords w₁ owner).result = (loadRecords w₂ owner).result) :
    (service.members w₁ id owner).result = (service.members w₂ id owner).result := by
  refine Attempt.result_andThen_congr hsegment fun segment => ?_
  refine Attempt.result_andThen_congr rfl fun rules => ?_
  exact Attempt.result_andThen_congr hrecords fun _ => rfl

theorem result_statement_congr (service : Service) :
    (service.statement w₁ id owner).result = (service.statement w₂ id owner).result :=
  Attempt.result_andThen_congr hsegment fun _ => rfl

end

theorem result_draft_congr (service : Service) (stamp : Stamp) (request : NewSegment)
    (hsave : w₁.outages.save.isSome = w₂.outages.save.isSome) :
    (service.draft w₁ stamp request).result = (service.draft w₂ stamp request).result := by
  unfold draft
  dsimp only
  split
  · rfl
  · split
    · rfl
    · refine Attempt.result_andThen_congr rfl fun rules => ?_
      exact Attempt.result_andThen_congr (result_guardCall_congr hsave _) fun _ => rfl

theorem result_candidates_congr (service : Service)
    (hrecords : (loadRecords w₁ owner).result = (loadRecords w₂ owner).result) (rules : Group) :
    (service.candidates w₁ rules owner).result = (service.candidates w₂ rules owner).result := by
  refine Attempt.result_andThen_congr rfl fun _ => ?_
  exact Attempt.result_andThen_congr hrecords fun _ => rfl

/-! ### What operations come to -/

theorem exists_ok_of_success {α : Type} {message : String} {result : Except ServiceError α}
    (h : (Response.ofResult message result).success = true) : ∃ value, result = .ok value := by
  cases result with
  | error error => cases h
  | ok value => exact ⟨value, rfl⟩

theorem exists_found_of_success {result : Except ServiceError (FilterResult Record)}
    (h : (FilterResult.ofResult result).success = true) : ∃ found, result = .ok found := by
  cases result with
  | error error => cases h
  | ok found => exact ⟨found, rfl⟩

/-- The world after a segment has been saved, if there is one to save. -/
def afterSaving (world : World) : Except ServiceError Segment → World
  | .ok segment => saving world segment
  | .error _ => world

variable (service : Service) (world : World) (stamp : Stamp) (request : NewSegment)
  (id : String) (rules : Option Json)

theorem answer_create :
    (service.create world stamp request).answer
      = .ofResult "Segment created successfully" (service.draft world stamp request).result := by
  rw [create]
  cases (service.draft world stamp request).result with
  | error error => rfl
  | ok segment => rfl

theorem world_create :
    (service.create world stamp request).world
      = afterSaving world (service.draft world stamp request).result := by
  rw [create]
  cases (service.draft world stamp request).result with
  | error error => rfl
  | ok segment => rfl

theorem answer_list :
    (list world owner).answer
      = if world.outages.list.isSome then [] else world.segments.listByOwner owner := by
  rw [list]
  cases world.outages.list <;> rfl

theorem answer_get :
    (get world id owner).answer
      = .ofResult "Segment found" (ownedSegment world id owner).result := by
  rw [get]
  cases (ownedSegment world id owner).result with
  | error error => rfl
  | ok segment => rfl

@[simp] theorem world_list (world : World) (owner : String) : (list world owner).world = world := by
  rw [list]
  cases world.outages.list with
  | none => rfl
  | some failure => rfl

@[simp] theorem world_get : (get world id owner).world = world := by
  rw [get]
  cases (ownedSegment world id owner).result with
  | error error => rfl
  | ok segment => rfl

theorem answer_replaceRules :
    (service.replaceRules world stamp id owner rules).answer
      = .ofResult "Segment updated successfully"
        (service.revise world stamp id owner rules).result := by
  rw [replaceRules]
  cases (service.revise world stamp id owner rules).result with
  | error error => rfl
  | ok segment => rfl

theorem world_replaceRules :
    (service.replaceRules world stamp id owner rules).world
      = afterSaving world (service.revise world stamp id owner rules).result := by
  rw [replaceRules]
  cases (service.revise world stamp id owner rules).result with
  | error error => rfl
  | ok segment => rfl

theorem answer_delete :
    (delete world id owner).answer
      = .ofResult "Segment deleted successfully"
        ((deletable world id owner).result.map fun _ => ()) := by
  rw [delete]
  cases (deletable world id owner).result with
  | error error => rfl
  | ok segment => rfl

theorem world_delete :
    (delete world id owner).world =
      match (deletable world id owner).result with
      | .ok segment => { world with segments := world.segments.erase segment.id }
      | .error _ => world := by
  rw [delete]
  cases (deletable world id owner).result with
  | error error => rfl
  | ok segment => rfl

theorem answer_finish (attempt : Attempt (FilterResult Record)) :
    (finish world id owner attempt).answer = .ofResult attempt.result := by
  rw [finish]
  cases attempt.result with
  | error error => rfl
  | ok result => rfl

@[simp] theorem world_finish (attempt : Attempt (FilterResult Record)) :
    (finish world id owner attempt).world = world := by
  rw [finish]
  cases attempt.result with
  | error error => rfl
  | ok result => rfl

theorem answer_query :
    (service.query world id owner).answer
      = .ofResult "Segment query rendered"
        ((service.statement world id owner).result.map fun fragment =>
          fragment.select service.settings.table) := by
  rw [query]
  cases (service.statement world id owner).result with
  | error error => rfl
  | ok fragment => rfl

@[simp] theorem world_query : (service.query world id owner).world = world := by
  rw [query]
  cases (service.statement world id owner).result with
  | error error => rfl
  | ok fragment => rfl

end Service

end Audience
