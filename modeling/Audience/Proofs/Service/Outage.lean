import Audience.Proofs.Service.History
import Audience.Proofs.Service.Quiet

/-!
**Failures of the stores stay inside**: callers learn that a call has failed, and nothing else.

A request makes certain calls of the stores.  Its answer, and what is stored after it, depend on
which of them fail and not on the texts of the failures; so do all answers to a list of requests,
whatever fails at each of them.  If a call fails, a list of segments is empty and every other answer
tells of failure, carries nothing and has nothing counted for it.

Main definitions:

* `StoreCall`, `Outages.fails`, `Request.calls` — calls of the stores, whether they fail, and those
  that a request makes;
* `World.AlikeIn` — worlds with the same contents in which certain calls **fail alike**;
* `Trial`, `Service.serveAmid` — requests, each with the calls that fail meanwhile, and the
  answers to them.

Main results:

* `Service.answer_respond_of_alikeIn`, `Service.alikeIn_respond` — in worlds that are alike a
  request gets the same answer, and they stay alike;
* `Service.serveAmid_congr` — so do any number of requests, whatever fails at each of them;
* `Service.fails_of_succeeds` — an answer tells of success only where no call has failed;
* `Service.outages_stay_hidden` — **failures stay inside**.
-/

set_option relaxedAutoImplicit false
set_option autoImplicit false

namespace Audience

open Service (afterSaving)

/-! ### Calls of the stores -/

/-- A call of a store. -/
inductive StoreCall where
  | save
  | get
  | list
  | delete
  | records
  deriving DecidableEq, Repr

/-- Does a call fail? -/
def Outages.fails (outages : Outages) : StoreCall → Bool
  | .save => outages.save.isSome
  | .get => outages.get.isSome
  | .list => outages.list.isSome
  | .delete => outages.delete.isSome
  | .records => outages.records.isSome

/-- The calls that a request makes, if nothing is wrong before. -/
def Request.calls : Request → List StoreCall
  | .create .. => [.save]
  | .list => [.list]
  | .preview _ => [.records]
  | .on _ .get | .on _ .query => [.get]
  | .on _ (.replaceRules _) => [.get, .save]
  | .on _ .delete => [.get, .delete]
  | .on _ .evaluate => [.get, .records]

/-- Worlds with the same contents in which certain calls **fail alike**, with whatever texts. -/
structure World.AlikeIn (calls : List StoreCall) (w₁ w₂ : World) : Prop where
  /-- The segments are the same. -/
  segments : w₁.segments = w₂.segments
  /-- The records are the same. -/
  records : w₁.records = w₂.records
  /-- The same calls fail. -/
  fails : ∀ call ∈ calls, w₁.outages.fails call = w₂.outages.fails call

/-- A request with the calls that fail meanwhile. -/
structure Trial where
  /-- The calls that fail. -/
  outages : Outages
  /-- The request, with what comes with it. -/
  event : Event
  deriving DecidableEq, Repr

/-- The same request, of whose calls the same ones fail. -/
def Trial.FailsLike (first second : Trial) : Prop :=
  first.event = second.event ∧ ∀ call ∈ first.event.request.calls,
    first.outages.fails call = second.outages.fails call

/-- The answers to requests of which each is met amid failures of its own. -/
def Service.serveAmid (service : Service) (world : World) : List Trial → List Answer
  | [] => []
  | ⟨outages, event⟩ :: trials =>
    let reply := service.respond event.owner event.stamp { world with outages := outages }
      event.request
    reply.answer :: service.serveAmid reply.world trials

/-! ### Worlds in which calls fail alike -/

namespace World.AlikeIn

variable {calls : List StoreCall} {w₁ w₂ : World} (h : w₁.AlikeIn calls w₂)
include h

theorem segmentOf_eq (owner : String) (key : Uuid) :
    w₁.segmentOf owner key = w₂.segmentOf owner key := by
  rw [segmentOf, segmentOf, h.segments]

theorem afterSaving (result : Except ServiceError Segment) :
    AlikeIn calls (afterSaving w₁ result) (afterSaving w₂ result) := by
  cases result with
  | error error => exact h
  | ok segment => exact ⟨congrArg (·.save segment) h.segments, h.records, h.fails⟩

theorem erase (id : Uuid) :
    AlikeIn calls { w₁ with segments := w₁.segments.erase id }
      { w₂ with segments := w₂.segments.erase id } :=
  ⟨congrArg (·.erase id) h.segments, h.records, h.fails⟩

end World.AlikeIn

namespace Service

variable {calls : List StoreCall} {w₁ w₂ : World}

section

variable (h : w₁.AlikeIn calls w₂) (id owner : String)
include h

theorem result_ownedSegment_of_alikeIn (hget : .get ∈ calls) :
    (ownedSegment w₁ id owner).result = (ownedSegment w₂ id owner).result := by
  have hfails : w₁.outages.get.isSome = w₂.outages.get.isSome := h.fails .get hget
  simp only [result_ownedSegment, h.segmentOf_eq, hfails]

theorem result_loadRecords_of_alikeIn (hrecords : .records ∈ calls) :
    (loadRecords w₁ owner).result = (loadRecords w₂ owner).result := by
  have hfails : w₁.outages.records.isSome = w₂.outages.records.isSome := h.fails .records hrecords
  rw [result_loadRecords, result_loadRecords, hfails, h.records]

end

section

variable (service : Service) (owner : String) (stamp : Stamp) {request : Request}
  (h : w₁.AlikeIn request.calls w₂)
include h

/-- Worlds that are alike in the calls of a request get the same answer. -/
theorem answer_respond_of_alikeIn :
    (service.respond owner stamp w₁ request).answer
      = (service.respond owner stamp w₂ request).answer := by
  cases request with
  | create name rules =>
      have hresult := result_draft_congr service stamp ⟨name, owner, rules⟩
        (h.fails .save (by simp [Request.calls]))
      rw [respond, respond, Reply.answer_map, Reply.answer_map, answer_create, answer_create,
        hresult]
  | list =>
      have hfails : w₁.outages.list.isSome = w₂.outages.list.isSome :=
        h.fails .list (by simp [Request.calls])
      rw [respond, respond, Reply.answer_map, Reply.answer_map, answer_list, answer_list, hfails,
        h.segments]
  | preview rules =>
      have hrecords := result_loadRecords_of_alikeIn h owner (by simp [Request.calls])
      have hresult := result_candidates_congr service hrecords rules
      rw [respond, respond, Reply.answer_map, Reply.answer_map, preview, preview, answer_finish,
        answer_finish, hresult]
  | on id task =>
      -- whatever is asked about a segment, it is looked up first
      have hget : .get ∈ (Request.on id task).calls := by cases task <;> exact List.mem_cons_self
      have hsegment := result_ownedSegment_of_alikeIn h id owner hget
      cases task with
      | get =>
          rw [respond, respond, perform, perform, Reply.answer_map, Reply.answer_map, answer_get,
            answer_get, hsegment]
      | replaceRules rules =>
          have hresult := result_revise_congr hsegment service stamp rules
            (h.fails .save (by simp [Request.calls]))
          rw [respond, respond, perform, perform, Reply.answer_map, Reply.answer_map,
            answer_replaceRules, answer_replaceRules, hresult]
      | delete =>
          have hresult := result_deletable_congr hsegment
            (h.fails .delete (by simp [Request.calls]))
          rw [respond, respond, perform, perform, Reply.answer_map, Reply.answer_map,
            answer_delete, answer_delete, hresult]
      | evaluate =>
          have hrecords := result_loadRecords_of_alikeIn h owner (by simp [Request.calls])
          have hresult := result_members_congr hsegment service hrecords
          rw [respond, respond, perform, perform, Reply.answer_map, Reply.answer_map, evaluate,
            evaluate, answer_finish, answer_finish, hresult]
      | query =>
          have hresult := result_statement_congr hsegment service
          rw [respond, respond, perform, perform, Reply.answer_map, Reply.answer_map,
            answer_query, answer_query, hresult]

/-- Worlds that are alike in the calls of a request stay alike. -/
theorem alikeIn_respond :
    (service.respond owner stamp w₁ request).world.AlikeIn request.calls
      (service.respond owner stamp w₂ request).world := by
  cases request with
  | create name rules =>
      have hresult := result_draft_congr service stamp ⟨name, owner, rules⟩
        (h.fails .save (by simp [Request.calls]))
      rw [respond, respond, Reply.world_map, Reply.world_map, world_create, world_create, hresult]
      exact h.afterSaving _
  | list =>
      rw [respond, respond, Reply.world_map, Reply.world_map, world_list, world_list]
      exact h
  | preview rules =>
      rw [respond, respond, Reply.world_map, Reply.world_map, preview, preview, world_finish,
        world_finish]
      exact h
  | on id task =>
      have hget : .get ∈ (Request.on id task).calls := by cases task <;> exact List.mem_cons_self
      have hsegment := result_ownedSegment_of_alikeIn h id owner hget
      cases task with
      | replaceRules rules =>
          have hresult := result_revise_congr hsegment service stamp rules
            (h.fails .save (by simp [Request.calls]))
          rw [respond, respond, perform, perform, Reply.world_map, Reply.world_map,
            world_replaceRules, world_replaceRules, hresult]
          exact h.afterSaving _
      | delete =>
          have hresult := result_deletable_congr hsegment
            (h.fails .delete (by simp [Request.calls]))
          rw [respond, respond, perform, perform, Reply.world_map, Reply.world_map,
            world_delete, world_delete, hresult]
          cases (deletable w₂ id owner).result with
          | error error => exact h
          | ok segment => exact h.erase segment.id
      | get =>
          rw [respond, respond, perform, perform, Reply.world_map, Reply.world_map, world_get,
            world_get]
          exact h
      | evaluate =>
          rw [respond, respond, perform, perform, Reply.world_map, Reply.world_map, evaluate,
            evaluate, world_finish, world_finish]
          exact h
      | query =>
          rw [respond, respond, perform, perform, Reply.world_map, Reply.world_map, world_query,
            world_query]
          exact h

end

/-- Whatever fails at each of some requests, the texts of the failures make no difference to
any of the answers. -/
theorem serveAmid_congr (service : Service) {first second : List Trial}
    (h : List.Forall₂ Trial.FailsLike first second) (hsegments : w₁.segments = w₂.segments)
    (hrecords : w₁.records = w₂.records) :
    service.serveAmid w₁ first = service.serveAmid w₂ second := by
  induction h generalizing w₁ w₂ with
  | nil => rfl
  | @cons trial other first second hlike hrest ih =>
      obtain ⟨outages, event⟩ := trial
      obtain ⟨others, _⟩ := other
      obtain ⟨rfl, hfails⟩ := hlike
      -- the worlds may differ in the texts that are there already, which are not read
      have halike : World.AlikeIn event.request.calls { w₁ with outages := outages }
          { w₂ with outages := others } := ⟨hsegments, hrecords, hfails⟩
      have hafter := service.alikeIn_respond event.owner event.stamp halike
      rw [serveAmid, serveAmid, service.answer_respond_of_alikeIn event.owner event.stamp halike,
        ih hafter.segments hafter.records]

/-! ### Answers that tell of success -/

section

variable {service : Service} {owner : String} {stamp : Stamp} {world : World} {id : String}

theorem isSome_of_guardCall {outage : Option String} {error : ServiceError} {done : Unit}
    (h : (guardCall outage error).result = .ok done) : outage.isSome = false := by
  rw [result_guardCall] at h
  split at h
  · cases h
  · next hnone => exact Bool.eq_false_iff.2 hnone

theorem fails_get_of_ownedSegment {segment : Segment}
    (h : (ownedSegment world id owner).result = .ok segment) :
    world.outages.fails .get = false := by
  rw [result_ownedSegment] at h
  split at h
  · cases h
  · split at h
    · cases h
    · next hnone => exact Bool.eq_false_iff.2 hnone

theorem fails_records_of_loadRecords {records : List Record}
    (h : (loadRecords world owner).result = .ok records) :
    world.outages.fails .records = false := by
  rw [result_loadRecords] at h
  split at h
  · cases h
  · next hnone => exact Bool.eq_false_iff.2 hnone

theorem fails_save_of_draft {request : NewSegment} {segment : Segment}
    (h : (service.draft world stamp request).result = .ok segment) :
    world.outages.fails .save = false := by
  unfold draft at h
  dsimp only at h
  split at h
  · cases h
  · split at h
    · cases h
    · obtain ⟨_, -, h⟩ := Attempt.result_andThen_eq_ok.1 h
      obtain ⟨_, hsave, -⟩ := Attempt.result_andThen_eq_ok.1 h
      exact isSome_of_guardCall hsave

theorem fails_of_revise {rules : Option Json} {segment : Segment}
    (h : (service.revise world stamp id owner rules).result = .ok segment) :
    world.outages.fails .get = false ∧ world.outages.fails .save = false := by
  obtain ⟨_, hget, h⟩ := Attempt.result_andThen_eq_ok.1 h
  obtain ⟨_, -, h⟩ := Attempt.result_andThen_eq_ok.1 h
  obtain ⟨_, hsave, -⟩ := Attempt.result_andThen_eq_ok.1 h
  exact ⟨fails_get_of_ownedSegment hget, isSome_of_guardCall hsave⟩

theorem fails_of_deletable {segment : Segment}
    (h : (deletable world id owner).result = .ok segment) :
    world.outages.fails .get = false ∧ world.outages.fails .delete = false := by
  obtain ⟨_, hget, h⟩ := Attempt.result_andThen_eq_ok.1 h
  obtain ⟨_, hdelete, -⟩ := Attempt.result_andThen_eq_ok.1 h
  exact ⟨fails_get_of_ownedSegment hget, isSome_of_guardCall hdelete⟩

theorem fails_records_of_candidates {rules : Group} {result : FilterResult Record}
    (h : (service.candidates world rules owner).result = .ok result) :
    world.outages.fails .records = false := by
  obtain ⟨_, -, h⟩ := Attempt.result_andThen_eq_ok.1 h
  obtain ⟨_, hrecords, -⟩ := Attempt.result_andThen_eq_ok.1 h
  exact fails_records_of_loadRecords hrecords

theorem fails_of_members {result : FilterResult Record}
    (h : (service.members world id owner).result = .ok result) :
    world.outages.fails .get = false ∧ world.outages.fails .records = false := by
  obtain ⟨_, hget, h⟩ := Attempt.result_andThen_eq_ok.1 h
  obtain ⟨_, -, h⟩ := Attempt.result_andThen_eq_ok.1 h
  obtain ⟨_, hrecords, -⟩ := Attempt.result_andThen_eq_ok.1 h
  exact ⟨fails_get_of_ownedSegment hget, fails_records_of_loadRecords hrecords⟩

theorem fails_get_of_statement {fragment : Sql.Fragment}
    (h : (service.statement world id owner).result = .ok fragment) :
    world.outages.fails .get = false := by
  obtain ⟨_, hget, -⟩ := Attempt.result_andThen_eq_ok.1 h
  exact fails_get_of_ownedSegment hget

/-- An answer other than a list tells of success only where no call has failed. -/
theorem fails_of_succeeds {request : Request} (hlist : request ≠ .list)
    (h : (service.respond owner stamp world request).answer.succeeds = true) :
    ∀ call ∈ request.calls, world.outages.fails call = false := by
  cases request with
  | create name rules =>
      rw [respond, Reply.answer_map, answer_create] at h
      obtain ⟨segment, hdraft⟩ := exists_ok_of_success h
      simpa [Request.calls] using fails_save_of_draft hdraft
  | list => exact absurd rfl hlist
  | preview rules =>
      rw [respond, Reply.answer_map, preview, answer_finish] at h
      obtain ⟨found, hfound⟩ := exists_found_of_success h
      simpa [Request.calls] using fails_records_of_candidates hfound
  | on id task =>
      cases task with
      | get =>
          rw [respond, perform, Reply.answer_map, answer_get] at h
          obtain ⟨segment, hsegment⟩ := exists_ok_of_success h
          simpa [Request.calls] using fails_get_of_ownedSegment hsegment
      | replaceRules rules =>
          rw [respond, perform, Reply.answer_map, answer_replaceRules] at h
          obtain ⟨segment, hrevise⟩ := exists_ok_of_success h
          simpa [Request.calls] using fails_of_revise hrevise
      | delete =>
          rw [respond, perform, Reply.answer_map, answer_delete] at h
          obtain ⟨done, hdone⟩ := exists_ok_of_success h
          cases hdelete : (deletable world id owner).result with
          | error error => rw [hdelete] at hdone; cases hdone
          | ok segment => simpa [Request.calls] using fails_of_deletable hdelete
      | evaluate =>
          rw [respond, perform, Reply.answer_map, evaluate, answer_finish] at h
          obtain ⟨found, hfound⟩ := exists_found_of_success h
          simpa [Request.calls] using fails_of_members hfound
      | query =>
          rw [respond, perform, Reply.answer_map, answer_query] at h
          obtain ⟨query, hquery⟩ := exists_ok_of_success h
          cases hstatement : (service.statement world id owner).result with
          | error error => rw [hstatement] at hquery; cases hquery
          | ok fragment => simpa [Request.calls] using fails_get_of_statement hstatement

end

theorem silent_list {world : World} {owner : String} (h : world.outages.fails .list = true) :
    (list world owner).answer = [] ∧ Signal.counts (list world owner).signals = [] := by
  have hlist : world.outages.list.isSome = true := h
  refine ⟨by rw [answer_list, if_pos hlist], ?_⟩
  rw [list]
  cases world.outages.list with
  | none => rfl
  | some failure => rfl

/-! ### Failures stay inside -/

/-- **Failures stay inside**.  Whatever calls fail at each of some requests, the texts of the
failures make no difference to any of the answers.  If a call of a request fails, a list of segments
is empty and every other answer tells of failure; such answers carry nothing, and nothing is counted
for them. -/
theorem outages_stay_hidden (service : Service) :
    (∀ (world : World) (first second : List Trial), List.Forall₂ Trial.FailsLike first second →
      service.serveAmid world first = service.serveAmid world second) ∧
    ∀ (owner : String) (stamp : Stamp) (world : World) (request : Request),
      let reply := service.respond owner stamp world request
      ((∃ call ∈ request.calls, world.outages.fails call = true) →
        if request = .list then
          reply.answer = .segments [] ∧ Signal.counts reply.signals = []
        else reply.answer.succeeds = false) ∧
      (reply.answer.succeeds = false →
        reply.answer.isBare = true ∧ Signal.counts reply.signals = []) := by
  constructor
  · intro world first second hlike
    exact service.serveAmid_congr hlike rfl rfl
  · intro owner stamp world request
    constructor
    · rintro ⟨call, hcall, hfails⟩
      split
      · next hlist =>
        subst hlist
        obtain rfl := List.mem_singleton.1 hcall
        obtain ⟨hanswer, hcounts⟩ := silent_list hfails
        exact ⟨congrArg Answer.segments hanswer, hcounts⟩
      · next hlist =>
        rw [← Bool.not_eq_true]
        intro hsuccess
        have hmet := fails_of_succeeds hlist hsuccess call hcall
        exact absurd (hfails.symm.trans hmet) (by decide)
    · intro hfailure
      exact service.silent_of_failure owner stamp world hfailure

/-- Requests about a segment, and others, at each of which another call fails; the last one does not
make the call that fails. -/
def interruptedTrials (text : String) : List Trial :=
  let id := exampleSegment.id.write
  let rules := (Group.root .or).toJson
  [({ save := some text }, Request.on id (.replaceRules (some rules))),
    ({ get := some text }, .on id .query), ({ records := some text }, .preview (.root .and)),
    ({ list := some text }, .list), ({ delete := some text }, .on id .delete),
    ({ list := some text }, .on id .get)].map
      fun (outages, request) => ⟨outages, "o2", ⟨Uuid.ofNat 1, default⟩, request⟩

theorem interruptedTrials_stay_hidden :
    let world := saving {} exampleSegment
    let answers := serveAmid {} world (interruptedTrials "disk full")
    answers = serveAmid {} world (interruptedTrials "no route to host") ∧
      answers.map Answer.succeeds = [false, false, false, true, false, true] ∧
      (respond {} "o2" ⟨Uuid.ofNat 1, default⟩
        { world with outages := { records := some "disk full" } }
        (.preview (.root .and))).answer.isBare = true := by
  intro world answers
  have hlike : List.Forall₂ Trial.FailsLike (interruptedTrials "disk full")
      (interruptedTrials "no route to host") := by
    simp +decide [interruptedTrials, Trial.FailsLike]
  obtain ⟨hhit, hsilent⟩ := (outages_stay_hidden {}).2 "o2" ⟨Uuid.ofNat 1, default⟩
    { world with outages := { records := some "disk full" } } (.preview (.root .and))
  have hfailure := hhit ⟨.records, by decide, rfl⟩
  exact ⟨(outages_stay_hidden {}).1 world _ _ hlike, by decide +kernel, (hsilent hfailure).1⟩

end Service

end Audience
