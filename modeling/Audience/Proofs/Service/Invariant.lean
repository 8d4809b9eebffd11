import Audience.Proofs.Service.Step
import Audience.Proofs.Text.Blank

/-!
**What holds of every stored segment**.

A segment is saved when it is created and when its rules are replaced, and both times everything
about it is checked before.  So a step that saves a segment saves one that has passed the checks,
and starting from no segments nothing but checked segments is ever stored.

Main definitions:

* `Segment.IsSound`, `World.IsSound` — a segment that has passed the checks, and a world of such
  segments;
* `Service.Reaches` — the worlds that requests lead to from a world without segments.

Main results:

* `Service.isSound_of_draft`, `Service.isSound_of_revise` — a segment that is saved has passed the
  checks;
* `Service.Step.isSound` — a step keeps a world sound;
* `Service.isSound_of_reaches` — in every world that is reached all segments are sound;
* `Service.segments_stay_sound` — the same, with what requests that are refused and replacements of
  rules leave as it is.
-/

set_option relaxedAutoImplicit false
set_option autoImplicit false

namespace Audience

open Service (saving)

/-! ### Sound segments -/

/-- A segment that has **passed the checks**. -/
structure Segment.IsSound (limits : TreeLimits) (segment : Segment) : Prop where
  /-- There is nothing to trim off the name. -/
  trimmed : Text.trim segment.name = segment.name
  /-- The segment has a name. -/
  named : segment.name ≠ ""
  /-- The account is not blank. -/
  owned : Text.isBlankText segment.ownerId = false
  /-- There are rules, and validation finds no fault in them. -/
  ruled : ∃ tree, segment.rules = some tree ∧ tree.validate limits = .ok ()

/-- A world in which every segment is **stored under its own identifier and sound**. -/
def World.IsSound (limits : TreeLimits) (world : World) : Prop :=
  ∀ entry ∈ world.segments.entries, entry.1 = entry.2.id ∧ entry.2.IsSound limits

namespace World.IsSound

variable {limits : TreeLimits} {world : World}

theorem saving (h : world.IsSound limits) {segment : Segment} (hsegment : segment.IsSound limits) :
    (Service.saving world segment).IsSound limits := by
  intro entry hentry
  rcases SegmentStore.mem_put hentry with rfl | hold
  · exact ⟨rfl, hsegment⟩
  · exact h entry hold

theorem erase (h : world.IsSound limits) (id : Uuid) :
    World.IsSound limits { world with segments := world.segments.erase id } := by
  intro entry hentry
  have hold : entry ∈ world.segments.entries := (List.mem_filter.1 hentry).1
  exact h entry hold

theorem get? (h : world.IsSound limits) {key : Uuid} {segment : Segment}
    (hget : world.segments.get? key = some segment) : segment.IsSound limits :=
  (h _ (SegmentStore.get?_eq_some_iff.1 hget)).2

end World.IsSound

namespace Service

variable {service : Service} {owner : String} {stamp : Stamp} {world : World}

/-! ### What has been checked -/

/-- A segment that an account asks for has passed the checks. -/
theorem isSound_of_draft {request : NewSegment} {segment : Segment}
    (h : (service.draft world stamp request).result = .ok segment) :
    segment.IsSound service.settings.limits := by
  obtain ⟨tree, htree, hname, howner, rfl⟩ := draft_eq_ok h
  obtain ⟨-, -, -, hvalid⟩ := readRules_eq_ok htree
  have hnamed : Text.trim request.name ≠ "" := by
    intro hempty
    simp [hempty] at hname
  exact ⟨Text.trim_trim request.name, hnamed, howner, tree, rfl, hvalid⟩

/-- A sound segment is sound with the other rules that it is given. -/
theorem isSound_of_revise {id : String} {rules : Option Json} {segment : Segment}
    (hworld : world.IsSound service.settings.limits)
    (h : (service.revise world stamp id owner rules).result = .ok segment) :
    segment.IsSound service.settings.limits := by
  obtain ⟨key, old, tree, -, hold, htree, rfl⟩ := revise_eq_ok h
  obtain ⟨-, -, -, hvalid⟩ := readRules_eq_ok htree
  have hsound := hworld.get? (World.segmentOf_eq_some_iff.1 hold).1
  exact ⟨hsound.trimmed, hsound.named, hsound.owned, tree, rfl, hvalid⟩

/-! ### One request -/

/-- A step keeps a world sound. -/
theorem Step.isSound {request : Request} {after : World} {success : Bool}
    (h : Step service owner stamp world request after success)
    (hworld : world.IsSound service.settings.limits) : after.IsSound service.settings.limits := by
  cases h with
  | refused => exact hworld
  | read h => exact hworld
  | created h => exact hworld.saving (isSound_of_draft h)
  | revised h => exact hworld.saving (isSound_of_revise hworld h)
  | deleted h => exact hworld.erase _

/-! ### Any number of requests -/

/-- The worlds that requests lead to from a world without segments.  Records come and go, and
calls fail or do not, between the requests. -/
inductive Reaches (service : Service) : World → Prop
  /-- There are no segments at the start. -/
  | start (records : RecordStore) (outages : Outages) : Reaches service ⟨{}, records, outages⟩
  /-- A request is answered. -/
  | respond {world : World} (h : Reaches service world) (owner : String) (stamp : Stamp)
      (request : Request) : Reaches service (service.respond owner stamp world request).world
  /-- Everything but the segments may change otherwise. -/
  | elsewhere {world : World} (h : Reaches service world) (records : RecordStore)
      (outages : Outages) : Reaches service ⟨world.segments, records, outages⟩

/-- In every world that is reached all segments are sound. -/
theorem isSound_of_reaches (h : service.Reaches world) : world.IsSound service.settings.limits := by
  induction h with
  | start records outages =>
      intro entry hentry
      exact absurd hentry List.not_mem_nil
  | @respond world _ owner stamp request ih =>
      exact (service.step_respond owner stamp world request).isSound ih
  | elsewhere _ records outages ih => exact ih

/-- **Stored segments stay sound**: in every world that is reached each segment is stored under its
own identifier, has a trimmed name, an account that is not blank, and rules without fault.  A
request that is not answered with success changes nothing at all.  When rules are replaced with
success, the segment asked for keeps everything but its rules and the time of the change, and all
other segments are as they were. -/
theorem segments_stay_sound (service : Service) :
    (∀ world, service.Reaches world → world.IsSound service.settings.limits) ∧
    (∀ owner stamp world request,
      (service.respond owner stamp world request).answer.succeeds = false →
        (service.respond owner stamp world request).world = world) ∧
    ∀ owner stamp world id rules,
      (service.respond owner stamp world (.on id (.replaceRules rules))).answer.succeeds = true →
      ∃ key old tree, Uuid.ofText? id = some key ∧ world.segmentOf owner key = some old ∧
        (service.readRules rules).result = .ok tree ∧
        ∀ other,
          (service.respond owner stamp world (.on id (.replaceRules rules))).world.segments.get? other
            = if other = key then some { old with rules := some tree, updatedAt := stamp.now }
              else world.segments.get? other := by
  refine ⟨?_, ?_, ?_⟩
  · intro world hreach
    exact isSound_of_reaches hreach
  · intro owner stamp world request hfailed
    have hstep := service.step_respond owner stamp world request
    rw [hfailed] at hstep
    exact hstep.eq_of_failure
  · intro owner stamp world id rules hmade
    have hstep := service.step_respond owner stamp world (.on id (.replaceRules rules))
    rw [hmade] at hstep
    exact hstep.of_replaceRules

/-- An account has created a segment. -/
def checkedWorld : World :=
  (respond {} "o1" ⟨Uuid.ofNat 1, default⟩ default
    (.create " Everyone " (some (Group.root .and).toJson))).world

/-- A request for other rules, of the segment that has been created. -/
def revision (rules : Option Json) : Request := .on (Uuid.ofNat 1).write (.replaceRules rules)

/-- The segment is sound; another account cannot change anything; and its own account gives this
segment the other rules, keeps all else of it, and changes no other one. -/
theorem checkedWorld_stays_sound :
    checkedWorld.segments.entries.map (·.2.name) = ["Everyone"] ∧
      checkedWorld.IsSound (Service.settings {}).limits ∧
      (respond {} "o2" ⟨Uuid.ofNat 2, default⟩ checkedWorld
        (revision (some (Group.root .or).toJson))).world = checkedWorld ∧
      ∃ key, Uuid.ofText? (Uuid.ofNat 1).write = some key ∧
        (∀ other ≠ key,
          (respond {} "o1" ⟨Uuid.ofNat 2, default⟩ checkedWorld
            (revision (some (Group.root .or).toJson))).world.segments.get? other
              = checkedWorld.segments.get? other) ∧
        ∃ old, checkedWorld.segments.get? key = some old ∧ old.rules = some (Group.root .and) ∧
          (respond {} "o1" ⟨Uuid.ofNat 2, default⟩ checkedWorld
            (revision (some (Group.root .or).toJson))).world.segments.get? key
              = some { old with rules := some (Group.root .or), updatedAt := default } := by
  obtain ⟨hsound, hrefused, hreplaced⟩ := segments_stay_sound {}
  have hreach : Reaches {} checkedWorld := .respond (.start default default) _ _ _
  obtain ⟨key, old, tree, hid, hold, htree, hget⟩ := hreplaced "o1" ⟨Uuid.ofNat 2, default⟩
    checkedWorld (Uuid.ofNat 1).write (some (Group.root .or).toJson) (by decide +kernel)
  have hkey : Uuid.ofText? (Uuid.ofNat 1).write = some (Uuid.ofNat 1) := by decide +kernel
  obtain rfl := Option.some.inj (hid.symm.trans hkey)
  have hread : (Service.readRules {} (some (Group.root .or).toJson)).result
      = .ok (Group.root .or) := by decide +kernel
  obtain rfl := Except.ok.inj (htree.symm.trans hread)
  have hstored := (World.segmentOf_eq_some_iff.1 hold).1
  have hrules : (checkedWorld.segments.get? (Uuid.ofNat 1)).map (·.rules)
      = some (some (Group.root .and)) := by decide +kernel
  rw [hstored, Option.map_some] at hrules
  refine ⟨by decide +kernel, hsound checkedWorld hreach, ?_, Uuid.ofNat 1, hid, ?_, ?_⟩
  · exact hrefused _ _ _ _ (by decide +kernel)
  · intro other hne
    rw [revision, hget, if_neg hne]
  · refine ⟨old, hstored, Option.some.inj hrules, ?_⟩
    rw [revision, hget, if_pos rfl]

end Service

end Audience
