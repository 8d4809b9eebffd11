import Audience.Proofs.Service.History
import Audience.Proofs.Service.Preview

/-!
**The life of a segment**, told from the requests and their answers.

A chronicle tells what each request was and how it was answered, and nothing of what is stored.  It
is enough to know every segment: a segment lives from the request that has created it to the one
that has deleted it, and has the rules of the last request between them that has replaced them.
This is what is stored after any requests of any accounts, so it is what an account gets and what
it finds in its list.

Main definitions:

* `Service.after`, `Service.chronicle` — the world after the requests of a history, and the requests
  with their answers;
* `Exchange.creation?`, `Exchange.revision?`, `Exchange.deletes` — what an answered request has done
  to the segment with an identifier;
* `Lives` — **a segment lives** at the end of a chronicle.

Main results:

* `Service.get?_respond` — what one request does to the segment with an identifier can be read off
  the request and its answer;
* `lives_concat` — how the last request of a chronicle decides on the life of a segment;
* `Service.get?_after_iff` — what is stored after a history is what lives at the end of its
  chronicle;
* `Service.chronicle_decides_segments` — so accounts get and list just the living segments that they
  have created.
-/

set_option relaxedAutoImplicit false
set_option autoImplicit false

namespace Audience

open Service (saving afterSaving proposed)

/-! ### Chronicles -/

/-- A request and its answer. -/
structure Exchange where
  /-- The request, with the account that makes it. -/
  event : Event
  /-- The answer. -/
  answer : Answer
  deriving DecidableEq, Repr

theorem Response.ofResult_eq_ok_iff {α : Type} {message : String}
    {result : Except ServiceError α} {value : α} :
    Response.ofResult message result = .ok message value ↔ result = .ok value := by
  cases result <;> simp [Response.ofResult, Response.ok, Response.failure]

namespace Service

/-- A request and the answer that it gets in a world. -/
def exchange (service : Service) (world : World) (event : Event) : Exchange :=
  ⟨event, (service.respond event.owner event.stamp world event.request).answer⟩

/-- The world after the requests of a history. -/
def after (service : Service) (world : World) : List Event → World
  | [] => world
  | event :: events =>
    service.after (service.respond event.owner event.stamp world event.request).world events

/-- The requests of a history with their answers. -/
def chronicle (service : Service) (world : World) : List Event → List Exchange
  | [] => []
  | event :: events =>
    service.exchange world event ::
      service.chronicle (service.respond event.owner event.stamp world event.request).world events

end Service

namespace Exchange

/-- The segment that a request has created. -/
def creation? (exchange : Exchange) : Option Segment :=
  match exchange.event.request, exchange.answer with
  | .create .., .segment response => response.data
  | _, _ => none

/-- The rules that a request has given to the segment with an identifier, and when. -/
def revision? (key : Uuid) (exchange : Exchange) : Option (Group × Instant) :=
  match exchange.event.request with
  | .on id (.replaceRules (some json)) =>
    if exchange.answer.succeeds ∧ Uuid.ofText? id = some key then
      (Group.ofJson json).toOption.map fun tree => (tree, exchange.event.stamp.now)
    else none
  | _ => none

/-- Has a request deleted the segment with an identifier? -/
def deletes (key : Uuid) (exchange : Exchange) : Bool :=
  match exchange.event.request with
  | .on id .delete => exchange.answer.succeeds && Uuid.ofText? id == some key
  | _ => false

end Exchange

/-- A segment with the rules that it has been given last, if it has been given any. -/
def Segment.revised (segment : Segment) : Option (Group × Instant) → Segment
  | none => segment
  | some (rules, now) => { segment with rules := some rules, updatedAt := now }

@[simp] theorem Segment.revised_none (segment : Segment) : segment.revised none = segment := rfl

@[simp] theorem Segment.ownerId_revised (segment : Segment)
    (revision : Option (Group × Instant)) :
    (segment.revised revision).ownerId = segment.ownerId := by
  cases revision <;> rfl

theorem Segment.revised_revised (segment : Segment) (first second : Option (Group × Instant)) :
    (segment.revised first).revised second = segment.revised (second.or first) := by
  cases second <;> cases first <;> rfl

/-- **A segment lives** at the end of a chronicle under an identifier: the account has created it
under this identifier, nobody has deleted it since, and it has the rules that it has been given last
since, or else those that it was created with. -/
def Lives (history : List Exchange) (owner : String) (key : Uuid) (segment : Segment) : Prop :=
  ∃ before exchange after original, history = before ++ exchange :: after ∧
    exchange.event.owner = owner ∧ exchange.creation? = some original ∧ original.id = key ∧
    (∀ later ∈ after, later.deletes key = false) ∧
    segment = original.revised (after.filterMap (·.revision? key)).getLast?

/-- The identifiers under which segments have been created. -/
def createdIds (history : List Exchange) : List Uuid :=
  (history.filterMap Exchange.creation?).map (·.id)

/-! ### The last request of a chronicle -/

variable {history : List Exchange} {last : Exchange} {owner : String} {key : Uuid}
  {segment : Segment}

theorem Lives.mem_createdIds (h : Lives history owner key segment) : key ∈ createdIds history := by
  obtain ⟨before, exchange, after, original, rfl, -, hcreation, rfl, -⟩ := h
  refine List.mem_map_of_mem (List.mem_filterMap.2 ⟨exchange, ?_, hcreation⟩)
  exact List.mem_append_right before List.mem_cons_self

/-- The last request of a chronicle has created the segment that lives, or it has not deleted
the one that has lived before, and may have given it other rules. -/
theorem lives_concat :
    Lives (history ++ [last]) owner key segment ↔
      (last.event.owner = owner ∧ last.creation? = some segment ∧ segment.id = key) ∨
      (last.deletes key = false ∧
        ∃ old, Lives history owner key old ∧ segment = old.revised (last.revision? key)) := by
  have hlast : ∀ after : List Exchange,
      ((after ++ [last]).filterMap (·.revision? key)).getLast?
        = (last.revision? key).or (after.filterMap (·.revision? key)).getLast? := by
    intro after
    rw [List.filterMap_append, List.getLast?_append]
    cases hrevision : last.revision? key <;> simp [hrevision]
  constructor
  · rintro ⟨before, exchange, after, original, hsplit, howner, hcreation, hid, hkept, rfl⟩
    rcases List.eq_nil_or_concat after with rfl | ⟨after, final, rfl⟩
    · -- the segment was created by the last request
      obtain ⟨-, heq⟩ := List.append_inj' hsplit rfl
      obtain rfl := (List.cons.inj heq).1
      exact .inl ⟨howner, hcreation, hid⟩
    · rw [List.concat_eq_append, ← List.cons_append, ← List.append_assoc] at hsplit
      rw [List.concat_eq_append] at hkept ⊢
      obtain ⟨rfl, heq⟩ := List.append_inj' hsplit rfl
      obtain rfl := (List.cons.inj heq).1
      refine .inr ⟨hkept last (by simp),
        original.revised (after.filterMap (·.revision? key)).getLast?,
        ⟨before, exchange, after, original, rfl, howner, hcreation, hid, ?_, rfl⟩, ?_⟩
      · intro later hlater
        exact hkept later (List.mem_append_left _ hlater)
      · rw [Segment.revised_revised, hlast]
  · rintro (⟨howner, hcreation, hid⟩ | ⟨hkept, old, hold, rfl⟩)
    · exact ⟨history, last, [], segment, rfl, howner, hcreation, hid, by simp, rfl⟩
    · obtain ⟨before, exchange, after, original, rfl, howner, hcreation, hid, hall, rfl⟩ := hold
      refine ⟨before, exchange, after ++ [last], original, by simp, howner, hcreation, hid, ?_, ?_⟩
      · intro later hlater
        rcases List.mem_append.1 hlater with hlater | hlater
        · exact hall later hlater
        · rw [List.mem_singleton.1 hlater]
          exact hkept
      · rw [Segment.revised_revised, hlast]

/-! ### One request -/

namespace Exchange

/-- What is found under an identifier after a request, told from the request and its answer. -/
def transform (key : Uuid) (exchange : Exchange) (old : Option Segment) : Option Segment :=
  match exchange.creation? with
  | some original => if original.id = key then some original else old
  | none =>
    if exchange.deletes key then none
    else old.map fun segment => segment.revised (exchange.revision? key)

theorem transform_of_idle {exchange : Exchange} (hcreation : exchange.creation? = none)
    (hdeletes : exchange.deletes key = false) (hrevision : exchange.revision? key = none)
    (old : Option Segment) : exchange.transform key old = old := by
  rw [transform, hcreation]
  simp [hdeletes, hrevision]

theorem deletes_revision?_of_creation? {exchange : Exchange} {original : Segment}
    (h : exchange.creation? = some original) (key : Uuid) :
    exchange.deletes key = false ∧ exchange.revision? key = none := by
  obtain ⟨⟨owner, stamp, request⟩, answer⟩ := exchange
  cases request with
  | create name rules => exact ⟨rfl, rfl⟩
  | list | preview rules => cases h
  | on id task => cases h

end Exchange

theorem createdIds_concat (history : List Exchange) (last : Exchange) :
    createdIds (history ++ [last])
      = createdIds history ++ (last.creation?.map (·.id)).toList := by
  rw [createdIds, createdIds, List.filterMap_append, List.map_append]
  cases hcreation : last.creation? <;> simp [hcreation]

/-- If what lives at the end of a chronicle is what is found under an identifier, it stays so
with one more request, unless this creates a segment under an identifier that has been used. -/
theorem transform_eq_some_iff_lives {old : Option Segment}
    (hold : ∀ segment, old = some segment ↔ ∃ owner, Lives history owner key segment)
    (hids : (createdIds (history ++ [last])).Nodup) :
    last.transform key old = some segment
      ↔ ∃ owner, Lives (history ++ [last]) owner key segment := by
  simp only [lives_concat]
  rw [Exchange.transform]
  cases hcreation : last.creation? with
  | none =>
      cases hdeletes : last.deletes key with
      | true => simp
      | false =>
          simp only [Bool.false_eq_true, if_false, true_and, Option.map_eq_some_iff, hold]
          constructor
          · rintro ⟨before, ⟨owner, hlives⟩, rfl⟩
            exact ⟨owner, .inr ⟨before, hlives, rfl⟩⟩
          · rintro ⟨owner, ⟨-, hnone, -⟩ | ⟨before, hlives, rfl⟩⟩
            · cases hnone
            · exact ⟨before, ⟨owner, hlives⟩, rfl⟩
  | some original =>
      obtain ⟨hkept, hsame⟩ := Exchange.deletes_revision?_of_creation? hcreation key
      simp only [hkept, hsame, Segment.revised_none, true_and, exists_eq_right']
      by_cases hid : original.id = key
      · -- nothing has lived before under the identifier of the new segment
        have hnew : ∀ owner before, ¬ Lives history owner key before := by
          intro owner before hlives
          rw [createdIds_concat, hcreation] at hids
          exact (List.nodup_append.1 hids).2.2 key hlives.mem_createdIds key (by simp [hid]) rfl
        rw [if_pos hid]
        constructor
        · intro h
          obtain rfl := Option.some.inj h
          exact ⟨_, .inl ⟨rfl, rfl, hid⟩⟩
        · rintro ⟨owner, ⟨-, h, -⟩ | hlives⟩
          · exact h
          · exact absurd hlives (hnew owner segment)
      · rw [if_neg hid, hold]
        refine exists_congr fun owner => ?_
        constructor
        · exact .inr
        · rintro (⟨-, h, hkey⟩ | hlives)
          · obtain rfl := Option.some.inj h
            exact absurd hkey hid
          · exact hlives

namespace Service

variable {service : Service} {world : World} {event : Event}

theorem idle_of_isReading (h : event.request.isReading = true) (answer : Answer) (key : Uuid) :
    Exchange.creation? ⟨event, answer⟩ = none ∧ Exchange.deletes key ⟨event, answer⟩ = false ∧
      Exchange.revision? key ⟨event, answer⟩ = none := by
  obtain ⟨owner, stamp, request⟩ := event
  cases request with
  | create name rules => cases h
  | list => exact ⟨rfl, rfl, rfl⟩
  | preview rules => exact ⟨rfl, rfl, rfl⟩
  | on id task =>
      cases task with
      | replaceRules rules => cases h
      | delete => cases h
      | get | evaluate | query => exact ⟨rfl, rfl, rfl⟩

variable (service world) in
theorem creation?_create (owner : String) (stamp : Stamp) (name : String) (rules : Option Json) :
    (service.exchange world ⟨owner, stamp, .create name rules⟩).creation?
      = (service.draft world stamp ⟨name, owner, rules⟩).result.toOption := by
  rw [exchange, respond, Reply.answer_map, answer_create, Exchange.creation?]
  cases (service.draft world stamp ⟨name, owner, rules⟩).result <;> rfl

variable (service world) in
theorem get?_respond_create (owner : String) (stamp : Stamp) (name : String) (rules : Option Json)
    (key : Uuid) :
    (service.respond owner stamp world (.create name rules)).world.segments.get? key
      = (service.exchange world ⟨owner, stamp, .create name rules⟩).transform key
        (world.segments.get? key) := by
  have hcreation := service.creation?_create world owner stamp name rules
  rw [respond, Reply.world_map, world_create]
  cases hdraft : (service.draft world stamp ⟨name, owner, rules⟩).result with
  | error error =>
      rw [hdraft] at hcreation
      exact (Exchange.transform_of_idle hcreation rfl rfl _).symm
  | ok segment =>
      rw [hdraft] at hcreation
      rw [Exchange.transform, hcreation, afterSaving, saving, SegmentStore.get?_save]
      simp only [Except.toOption, eq_comm]

variable (service world) in
theorem get?_respond_replaceRules (owner : String) (stamp : Stamp) (id : String)
    (rules : Option Json) (key : Uuid) :
    (service.respond owner stamp world (.on id (.replaceRules rules))).world.segments.get? key
      = (service.exchange world ⟨owner, stamp, .on id (.replaceRules rules)⟩).transform key
        (world.segments.get? key) := by
  have hanswer : (service.respond owner stamp world (.on id (.replaceRules rules))).answer
      = .segment (.ofResult "Segment updated successfully"
        (service.revise world stamp id owner rules).result) := by
    rw [respond, perform, Reply.answer_map, answer_replaceRules]
  rw [exchange, hanswer, respond, perform, Reply.world_map, world_replaceRules]
  cases hrevise : (service.revise world stamp id owner rules).result with
  | error error =>
      refine (Exchange.transform_of_idle rfl rfl ?_ _).symm
      cases rules <;> rfl
  | ok segment =>
      obtain ⟨place, old, tree, hid, hold, htree, rfl⟩ := revise_eq_ok hrevise
      obtain ⟨json, rfl, hjson, -⟩ := readRules_eq_ok htree
      obtain rfl : old.id = place := World.id_of_segmentOf hold
      have hget := (World.segmentOf_eq_some_iff.1 hold).1
      rw [afterSaving, saving, SegmentStore.get?_save]
      by_cases hkey : key = old.id
      · subst hkey
        simp [Exchange.transform, Exchange.creation?, Exchange.deletes, Exchange.revision?,
          Answer.succeeds, Response.ofResult, hid, hjson, hget, Except.toOption, Segment.revised]
      · have hne : old.id ≠ key := fun h => hkey h.symm
        simp [Exchange.transform, Exchange.creation?, Exchange.deletes, Exchange.revision?,
          Answer.succeeds, Response.ofResult, hid, hkey, hne]

theorem ofText?_of_deletable {id owner : String} {segment : Segment}
    (h : (deletable world id owner).result = .ok segment) : Uuid.ofText? id = some segment.id := by
  obtain ⟨old, hold, h⟩ := Attempt.result_andThen_eq_ok.1 h
  obtain ⟨-, -, h⟩ := Attempt.result_andThen_eq_ok.1 h
  obtain rfl := Except.ok.inj h
  obtain ⟨key, hid, hkey⟩ := exists_key_of_ownedSegment hold
  rw [hid, World.id_of_segmentOf hkey]

variable (service world) in
theorem get?_respond_delete (owner : String) (stamp : Stamp) (id : String) (key : Uuid) :
    (service.respond owner stamp world (.on id .delete)).world.segments.get? key
      = (service.exchange world ⟨owner, stamp, .on id .delete⟩).transform key
        (world.segments.get? key) := by
  have hanswer : (service.respond owner stamp world (.on id .delete)).answer
      = .deleted (.ofResult "Segment deleted successfully"
        ((deletable world id owner).result.map fun _ => ())) := by
    rw [respond, perform, Reply.answer_map, answer_delete]
  rw [exchange, hanswer, respond, perform, Reply.world_map, world_delete]
  cases hdelete : (deletable world id owner).result with
  | error error => exact (Exchange.transform_of_idle rfl rfl rfl _).symm
  | ok segment =>
      have hid := ofText?_of_deletable hdelete
      dsimp only
      rw [SegmentStore.get?_erase]
      by_cases hkey : key = segment.id
      · subst hkey
        simp [Exchange.transform, Exchange.creation?, Exchange.deletes, Answer.succeeds,
          Response.ofResult, Except.map, hid]
      · have hne : segment.id ≠ key := fun h => hkey h.symm
        simp [Exchange.transform, Exchange.creation?, Exchange.deletes, Exchange.revision?,
          Answer.succeeds, Response.ofResult, Except.map, hid, hkey, hne]

/-- What one request does to the segment with an identifier can be read off the request and its
answer. -/
theorem get?_respond (service : Service) (world : World) (event : Event) (key : Uuid) :
    (service.respond event.owner event.stamp world event.request).world.segments.get? key
      = (service.exchange world event).transform key (world.segments.get? key) := by
  cases hreading : event.request.isReading with
  | true =>
      have hstep := service.step_respond event.owner event.stamp world event.request
      obtain ⟨hcreation, hdeletes, hrevision⟩ := idle_of_isReading hreading
        (service.respond event.owner event.stamp world event.request).answer key
      rw [exchange, Exchange.transform_of_idle hcreation hdeletes hrevision,
        hstep.eq_of_isReading hreading]
  | false =>
      obtain ⟨owner, stamp, request⟩ := event
      cases request with
      | list | preview rules => cases hreading
      | create name rules => exact service.get?_respond_create world owner stamp name rules key
      | on id task =>
          cases task with
          | get | evaluate | query => cases hreading
          | replaceRules rules =>
              exact service.get?_respond_replaceRules world owner stamp id rules key
          | delete => exact service.get?_respond_delete world owner stamp id key

/-- A request that has created a segment has asked for one with its name, its rules and its
stamp. -/
theorem creation?_exchange_eq_some {segment : Segment}
    (h : (service.exchange world event).creation? = some segment) :
    ∃ name json tree, event.request = .create name (some json) ∧ Group.ofJson json = .ok tree ∧
      segment = proposed event.stamp name event.owner tree := by
  obtain ⟨owner, stamp, request⟩ := event
  cases request with
  | create name rules =>
      rw [creation?_create] at h
      cases hdraft : (service.draft world stamp ⟨name, owner, rules⟩).result with
      | error error =>
          rw [hdraft] at h
          cases h
      | ok created =>
          rw [hdraft] at h
          obtain rfl := Option.some.inj h
          obtain ⟨tree, htree, -, -, rfl⟩ := draft_eq_ok hdraft
          obtain ⟨json, rfl, hjson, -⟩ := readRules_eq_ok htree
          exact ⟨name, json, tree, rfl, hjson, rfl⟩
  | list | preview rules => cases h
  | on id task => cases h

/-! ### Any number of requests -/

variable (service world) in
@[simp] theorem after_concat (events : List Event) (event : Event) :
    service.after world (events ++ [event])
      = (service.respond event.owner event.stamp (service.after world events)
          event.request).world := by
  induction events generalizing world with
  | nil => rfl
  | cons first events ih => exact ih _

variable (service world) in
@[simp] theorem chronicle_concat (events : List Event) (event : Event) :
    service.chronicle world (events ++ [event])
      = service.chronicle world events
        ++ [service.exchange (service.after world events) event] := by
  induction events generalizing world with
  | nil => rfl
  | cons first events ih => exact congrArg (_ :: ·) (ih _)

theorem exists_world_of_mem_chronicle {events : List Event} {exchange : Exchange}
    (h : exchange ∈ service.chronicle world events) :
    ∃ between, exchange = service.exchange between exchange.event := by
  induction events generalizing world with
  | nil => cases h
  | cons first events ih =>
      rcases List.mem_cons.1 h with rfl | h
      · exact ⟨world, rfl⟩
      · exact ih h

theorem outages_after (service : Service) (world : World) (events : List Event) :
    (service.after world events).outages = world.outages := by
  induction events generalizing world with
  | nil => rfl
  | cons event events ih =>
      rw [after, ih]
      exact (service.change_respond event.owner event.stamp world event.request).outages_eq

/-- What is stored after a history, under identifiers that have been used for one creation at
most, is what lives at the end of its chronicle. -/
theorem get?_after_iff {events : List Event} {key : Uuid} {segment : Segment}
    (hempty : ∀ key, world.segments.get? key = none)
    (hids : (createdIds (service.chronicle world events)).Nodup) :
    (service.after world events).segments.get? key = some segment
      ↔ ∃ owner, Lives (service.chronicle world events) owner key segment := by
  induction events using List.reverseRecOn generalizing segment with
  | nil =>
      rw [after, hempty, chronicle]
      simp [Lives]
  | append_singleton events event ih =>
      rw [chronicle_concat] at hids
      have hbefore : (createdIds (service.chronicle world events)).Nodup := by
        rw [createdIds_concat] at hids
        exact (List.nodup_append.1 hids).1
      rw [after_concat, chronicle_concat, get?_respond]
      exact transform_eq_some_iff_lives (fun before => ih hbefore) hids

theorem ownerId_of_lives {events : List Event} {key : Uuid} {segment : Segment}
    (h : Lives (service.chronicle world events) owner key segment) : segment.ownerId = owner := by
  obtain ⟨before, exchange, after, original, hsplit, rfl, hcreation, -, -, rfl⟩ := h
  have hmem : exchange ∈ service.chronicle world events := by
    rw [hsplit]
    exact List.mem_append_right before List.mem_cons_self
  obtain ⟨between, hexchange⟩ := exists_world_of_mem_chronicle hmem
  rw [hexchange] at hcreation
  obtain ⟨name, json, tree, -, -, rfl⟩ := creation?_exchange_eq_some hcreation
  rw [Segment.ownerId_revised]
  rfl

theorem segmentOf_after_iff {events : List Event} {key : Uuid} {segment : Segment}
    (hempty : ∀ key, world.segments.get? key = none)
    (hids : (createdIds (service.chronicle world events)).Nodup) :
    (service.after world events).segmentOf owner key = some segment
      ↔ Lives (service.chronicle world events) owner key segment := by
  rw [World.segmentOf_eq_some_iff, get?_after_iff hempty hids]
  constructor
  · rintro ⟨⟨creator, hlives⟩, rfl⟩
    rwa [ownerId_of_lives hlives]
  · intro hlives
    exact ⟨⟨owner, hlives⟩, ownerId_of_lives hlives⟩

/-! ### What accounts get -/

theorem result_ownedSegment_eq_ok_iff {id : String} {segment : Segment}
    (hget : world.outages.get = none) :
    (ownedSegment world id owner).result = .ok segment
      ↔ ∃ key, Uuid.ofText? id = some key ∧ world.segmentOf owner key = some segment := by
  constructor
  · exact exists_key_of_ownedSegment
  · rintro ⟨key, hid, hsegment⟩
    exact result_ownedSegment_of_segmentOf hid hsegment hget

/-- **The chronicle decides on the segments**: after any requests of any accounts, starting with no
segments, with stores whose calls do not fail and no identifier used for two creations,

* every segment was created as it was asked for;
* what an account gets for an identifier is the segment that it has created under it, with the rules
  of the last replacement, if this still lives, and else that there is none;
* its list holds all its living segments, each once, and none before an older one. -/
theorem chronicle_decides_segments (service : Service) (records : RecordStore)
    (events : List Event) :
    let world := service.after { records := records } events
    let history := service.chronicle { records := records } events
    (createdIds history).Nodup →
      (∀ exchange ∈ history, ∀ original, exchange.creation? = some original →
        ∃ name json tree, exchange.event.request = .create name (some json) ∧
          Group.ofJson json = .ok tree ∧
          original = proposed exchange.event.stamp name exchange.event.owner tree) ∧
      (∀ id owner segment, (get world id owner).answer = .ok "Segment found" segment ↔
        ∃ key, Uuid.ofText? id = some key ∧ Lives history owner key segment) ∧
      (∀ id owner,
        (¬ ∃ key segment, Uuid.ofText? id = some key ∧ Lives history owner key segment) →
          (get world id owner).answer = .failure "Segment not found") ∧
      ∀ owner, (list world owner).answer.Nodup ∧
        (∀ segment, segment ∈ (list world owner).answer ↔
          Lives history owner segment.id segment) ∧
        ((list world owner).answer.map (·.createdAt)).Pairwise
          fun s t => (s.compare t).isLE = true := by
  intro world history hids
  have houtages : world.outages = {} := outages_after _ _ _
  have hsees : ∀ owner key segment, world.segmentOf owner key = some segment
      ↔ Lives history owner key segment := fun owner key segment =>
    segmentOf_after_iff (fun key => rfl) hids
  have hlist : ∀ owner, (list world owner).answer = world.segments.listByOwner owner := by
    intro owner
    rw [list, houtages]
  refine ⟨?_, ?_, ?_, ?_⟩
  · intro exchange hmem original hcreation
    obtain ⟨between, hexchange⟩ := exists_world_of_mem_chronicle hmem
    rw [hexchange] at hcreation
    exact creation?_exchange_eq_some hcreation
  · intro id owner segment
    rw [answer_get, Response.ofResult_eq_ok_iff, result_ownedSegment_eq_ok_iff (by rw [houtages])]
    simp only [hsees]
  · intro id owner hnone
    rw [answer_get, result_ownedSegment_of_hides _ (by rw [houtages])]
    · rfl
    · intro key hid
      rw [Option.eq_none_iff_forall_ne_some]
      intro segment hsegment
      exact hnone ⟨key, segment, hid, (hsees owner key segment).1 hsegment⟩
  · intro owner
    rw [hlist]
    refine ⟨SegmentStore.nodup_listByOwner _ _, ?_, SegmentStore.pairwise_listByOwner _ _⟩
    intro segment
    rw [World.mem_listByOwner, hsees]

/-- Two accounts create a segment each.  The second one asks in vain to delete that of the first,
which gives it other rules and fails to do so again, and then deletes its own. -/
def mixedRequests : List Event :=
  let first := (Uuid.ofNat 1).write
  let second := (Uuid.ofNat 2).write
  let empty (logic : Logic) : Option Json := some (Group.root logic).toJson
  [("o1", .create "First" (empty .and)), ("o2", .create "Second" (empty .and)),
    ("o2", .on first .delete), ("o1", .on first (.replaceRules (empty .or))),
    ("o1", .on first (.replaceRules none)), ("o2", .on second .delete)].zipIdx.map
      fun ((owner, request), place) => ⟨owner, ⟨Uuid.ofNat (place + 1), default⟩, request⟩

/-- The first account gets its segment with the rules of the replacement, which lives to the end,
and the second one gets neither segment any more. -/
theorem mixedRequests_decide :
    let world := after {} {} mixedRequests
    let history := chronicle {} {} mixedRequests
    let segment := proposed ⟨Uuid.ofNat 1, default⟩ "First" "o1" (.root .or)
    createdIds history = [Uuid.ofNat 1, Uuid.ofNat 2] ∧
      (get world (Uuid.ofNat 1).write "o1").answer = .ok "Segment found" segment ∧
      Lives history "o1" (Uuid.ofNat 1) segment ∧
      (list world "o1").answer = [segment] ∧
      ¬ ∃ key segment, Uuid.ofText? (Uuid.ofNat 2).write = some key ∧
        Lives history "o2" key segment := by
  intro world history segment
  have hids : createdIds history = [Uuid.ofNat 1, Uuid.ofNat 2] := by decide +kernel
  have hnodup : (createdIds history).Nodup := by
    rw [hids]
    decide
  obtain ⟨-, hget, -, hlist⟩ := chronicle_decides_segments {} {} mixedRequests hnodup
  have hfound : (get world (Uuid.ofNat 1).write "o1").answer = .ok "Segment found" segment := by
    decide +kernel
  have hlisted : (list world "o1").answer = [segment] := by decide +kernel
  have hgone : (get world (Uuid.ofNat 2).write "o2").answer = .failure "Segment not found" := by
    decide +kernel
  refine ⟨hids, hfound, ?_, hlisted, ?_⟩
  · have hmem : segment ∈ (list world "o1").answer := by
      rw [hlisted]
      exact List.mem_singleton_self segment
    exact ((hlist "o1").2.1 segment).1 hmem
  · rintro ⟨key, other, hkey, hlives⟩
    have hother := (hget _ "o2" other).2 ⟨key, hkey, hlives⟩
    rw [hgone] at hother
    cases hother

end Service

end Audience
