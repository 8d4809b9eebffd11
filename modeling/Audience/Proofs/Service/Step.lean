import Audience.Proofs.Service.Request

/-!
**What one request does**.

A request is refused, and then it changes nothing; or it asks only to be told something; or it
saves a segment that was made for it, or erases one that was found for it.  Everything that is
proved of requests is proved from these cases, and from what has been checked before a segment is
made.

Main definitions:

* `Answer.succeeds` — does an answer tell of success?
* `Request.isReading` — does a request ask only to be told something?
* `Service.Step` — what a request may do.

Main results:

* `Service.readRules_eq_ok`, `Service.draft_eq_ok`, `Service.revise_eq_ok`,
  `Service.deletable_eq_ok` — what has been checked when an attempt has been met;
* `Service.step_respond` — every request does one of the things that a step may do;
* `Service.Step.eq_of_failure`, `Service.Step.of_replaceRules` — what a request that is refused, and
  one that has replaced rules, leave as it is.
-/

set_option relaxedAutoImplicit false
set_option autoImplicit false

namespace Audience

/-! ### Requests and answers -/

/-- Does an answer **tell of success**?  A list of segments always does. -/
def Answer.succeeds : Answer → Bool
  | .segment response => response.success
  | .segments _ => true
  | .deleted response => response.success
  | .records result => result.success
  | .query response => response.success

/-- Does a request ask for nothing but to be told something? -/
def Request.isReading : Request → Bool
  | .list | .preview _ | .on _ .get | .on _ .evaluate | .on _ .query => true
  | .create .. | .on _ (.replaceRules _) | .on _ .delete => false

namespace Service

open World

variable {service : Service} {owner : String} {stamp : Stamp} {world : World} {segment : Segment}

/-! ### What has been checked -/

theorem result_ofExcept_eq_ok {ε α : Type} {reason : ε → ServiceError} {result : Except ε α}
    {value : α} : (Attempt.ofExcept reason result).result = .ok value ↔ result = .ok value := by
  cases result <;> simp [Attempt.ofExcept]

/-- Rules that are accepted are given, and are a tree without fault. -/
theorem readRules_eq_ok {rules : Option Json} {tree : Group}
    (h : (service.readRules rules).result = .ok tree) :
    ∃ json, rules = some json ∧ Group.ofJson json = .ok tree ∧
      tree.validate service.settings.limits = .ok () := by
  unfold readRules at h
  split at h
  · cases h
  · cases h
  · next json hjson =>
    obtain ⟨read, hread, h⟩ := Attempt.result_andThen_eq_ok.1 h
    obtain ⟨_, hvalid, h⟩ := Attempt.result_andThen_eq_ok.1 h
    obtain ⟨-, -, h⟩ := Attempt.result_andThen_eq_ok.1 h
    obtain rfl := Except.ok.inj h
    exact ⟨json, rfl, result_ofExcept_eq_ok.1 hread, result_ofExcept_eq_ok.1 hvalid⟩

/-- A segment that an account asks for is made of the request and the stamp, if it has a name,
the account has one, and the rules may be stored. -/
theorem draft_eq_ok {request : NewSegment}
    (h : (service.draft world stamp request).result = .ok segment) :
    ∃ tree, (service.readRules request.rules).result = .ok tree ∧
      (Text.trim request.name).isEmpty = false ∧ Text.isBlankText request.ownerId = false ∧
      segment = { id := stamp.id, name := Text.trim request.name, ownerId := request.ownerId,
                  rules := some tree, createdAt := stamp.now, updatedAt := stamp.now } := by
  unfold draft at h
  dsimp only at h
  split at h
  · cases h
  · next hname =>
    split at h
    · cases h
    · next howner =>
      obtain ⟨tree, htree, h⟩ := Attempt.result_andThen_eq_ok.1 h
      obtain ⟨-, -, h⟩ := Attempt.result_andThen_eq_ok.1 h
      exact ⟨tree, htree, Bool.eq_false_iff.2 hname, Bool.eq_false_iff.2 howner,
        (Except.ok.inj h).symm⟩

/-- A segment with other rules is the one that was asked for, but for the rules, which may be
stored, and the time. -/
theorem revise_eq_ok {id owner : String} {rules : Option Json}
    (h : (service.revise world stamp id owner rules).result = .ok segment) :
    ∃ key old tree, Uuid.ofText? id = some key ∧ world.segmentOf owner key = some old ∧
      (service.readRules rules).result = .ok tree ∧
      segment = { old with rules := some tree, updatedAt := stamp.now } := by
  obtain ⟨old, hold, h⟩ := Attempt.result_andThen_eq_ok.1 h
  obtain ⟨tree, htree, h⟩ := Attempt.result_andThen_eq_ok.1 h
  obtain ⟨-, -, h⟩ := Attempt.result_andThen_eq_ok.1 h
  obtain ⟨key, hid, hkey⟩ := exists_key_of_ownedSegment hold
  exact ⟨key, old, tree, hid, hkey, htree, (Except.ok.inj h).symm⟩

/-- A segment that is deleted is one the account had. -/
theorem deletable_eq_ok {id owner : String} (h : (deletable world id owner).result = .ok segment) :
    world.segmentOf owner segment.id = some segment := by
  obtain ⟨old, hold, h⟩ := Attempt.result_andThen_eq_ok.1 h
  obtain ⟨-, -, h⟩ := Attempt.result_andThen_eq_ok.1 h
  obtain rfl := Except.ok.inj h
  exact segmentOf_of_ownedSegment hold

/-! ### Steps -/

/-- What a request does: the world after it, and whether it is answered with success. -/
inductive Step (service : Service) (owner : String) (stamp : Stamp) (world : World) :
    Request → World → Bool → Prop
  /-- A request that is refused changes nothing. -/
  | refused {request : Request} : Step service owner stamp world request world false
  /-- A request to be told something changes nothing. -/
  | read {request : Request} {success : Bool} (h : request.isReading = true) :
      Step service owner stamp world request world success
  /-- The segment that the account asks for is saved. -/
  | created {name : String} {rules : Option Json} {segment : Segment}
      (h : (service.draft world stamp ⟨name, owner, rules⟩).result = .ok segment) :
      Step service owner stamp world (.create name rules) (saving world segment) true
  /-- A segment is saved with other rules. -/
  | revised {id : String} {rules : Option Json} {segment : Segment}
      (h : (service.revise world stamp id owner rules).result = .ok segment) :
      Step service owner stamp world (.on id (.replaceRules rules)) (saving world segment) true
  /-- A segment is erased. -/
  | deleted {id : String} {segment : Segment} (h : (deletable world id owner).result = .ok segment) :
      Step service owner stamp world (.on id .delete)
        { world with segments := world.segments.erase segment.id } true

/-- Every request does one of the things that a step may do. -/
theorem step_respond (service : Service) (owner : String) (stamp : Stamp) (world : World)
    (request : Request) :
    Step service owner stamp world request (service.respond owner stamp world request).world
      (service.respond owner stamp world request).answer.succeeds := by
  cases request with
  | create name rules =>
      rw [respond, Reply.world_map, Reply.answer_map, world_create, answer_create]
      cases h : (service.draft world stamp ⟨name, owner, rules⟩).result with
      | error error => exact .refused
      | ok segment => exact .created h
  | list =>
      rw [respond, Reply.world_map, world_list]
      exact .read rfl
  | preview rules =>
      rw [respond, Reply.world_map, preview, world_finish]
      exact .read rfl
  | on id task =>
      cases task with
      | get =>
          rw [respond, perform, Reply.world_map, world_get]
          exact .read rfl
      | replaceRules rules =>
          rw [respond, perform, Reply.world_map, Reply.answer_map, world_replaceRules,
            answer_replaceRules]
          cases h : (service.revise world stamp id owner rules).result with
          | error error => exact .refused
          | ok segment => exact .revised h
      | delete =>
          rw [respond, perform, Reply.world_map, Reply.answer_map, world_delete, answer_delete]
          cases h : (deletable world id owner).result with
          | error error => exact .refused
          | ok segment => exact .deleted h
      | evaluate =>
          rw [respond, perform, Reply.world_map, evaluate, world_finish]
          exact .read rfl
      | query =>
          rw [respond, perform, Reply.world_map, world_query]
          exact .read rfl

namespace Step

variable {request : Request} {after : World}

theorem eq_of_failure (h : Step service owner stamp world request after false) : after = world := by
  cases h with
  | refused => rfl
  | read h => rfl

theorem eq_of_isReading {success : Bool}
    (h : Step service owner stamp world request after success)
    (hreading : request.isReading = true) : after = world := by
  cases h with
  | refused => rfl
  | read h => rfl
  | created h => cases hreading
  | revised h => cases hreading
  | deleted h => cases hreading

/-- When rules have been replaced, the segment asked for **has new rules and a new time**, and
everything else is as it was. -/
theorem of_replaceRules {id : String} {rules : Option Json}
    (h : Step service owner stamp world (.on id (.replaceRules rules)) after true) :
    ∃ key old tree, Uuid.ofText? id = some key ∧ world.segmentOf owner key = some old ∧
      (service.readRules rules).result = .ok tree ∧
      ∀ other, after.segments.get? other =
        if other = key then some { old with rules := some tree, updatedAt := stamp.now }
        else world.segments.get? other := by
  cases h with
  | read h => cases h
  | revised h =>
      obtain ⟨key, old, tree, hid, hold, htree, rfl⟩ := revise_eq_ok h
      refine ⟨key, old, tree, hid, hold, htree, fun other => ?_⟩
      obtain rfl : old.id = key := World.id_of_segmentOf hold
      exact world.segments.get?_save _ other

end Step

end Service

end Audience
