import Audience.Proofs.Service.Step

/-!
**What a request changes**: at most one segment of the account that makes it.

A request leaves the world as it is, saves a segment of the account under a new identifier or under
that of one it has, or erases one it has.  So the segments of the other accounts stay as they are,
and no identifier comes into use but the one that came with the request.

Main definitions:

* `World.Change` — what a request of an account may make of a world.

Main results:

* `Service.change_respond` — every request makes such a change;
* `World.Change.segmentOf_of_ne` — the other accounts keep their segments;
* `World.Change.get?_eq_none` — no other identifier comes into use.
-/

set_option relaxedAutoImplicit false
set_option autoImplicit false

namespace Audience

open Service (saving)

/-! ### Worlds after a change -/

namespace World

variable {world : World} {owner : String}

theorem segmentOf_saving (world : World) {segment : Segment} (h : segment.ownerId = owner)
    (key : Uuid) :
    (saving world segment).segmentOf owner key
      = if key = segment.id then some segment else world.segmentOf owner key := by
  rw [segmentOf, saving, SegmentStore.get?_save]
  split
  · rw [Option.filter_some, if_pos (by simpa using h)]
  · rfl

theorem segmentOf_saving_of_ne (world : World) {segment : Segment} (h : segment.ownerId ≠ owner)
    (key : Uuid) :
    (saving world segment).segmentOf owner key
      = if key = segment.id then none else world.segmentOf owner key := by
  rw [segmentOf, saving, SegmentStore.get?_save]
  split
  · rw [Option.filter_some, if_neg (by simpa using h)]
  · rfl

theorem agreeFor_saving_of_ne {segment : Segment} (h : segment.ownerId ≠ owner)
    (hnew : world.segments.get? segment.id = none) :
    AgreeFor owner (saving world segment) world := by
  refine ⟨fun key => ?_, rfl, rfl⟩
  rw [segmentOf_saving_of_ne world h]
  split
  · next hkey => rw [hkey, segmentOf_eq_none hnew]
  · rfl

theorem segmentOf_erase (world : World) (owner : String) (id key : Uuid) :
    segmentOf { world with segments := world.segments.erase id } owner key
      = if key = id then none else world.segmentOf owner key := by
  rw [segmentOf, SegmentStore.get?_erase]
  split
  · rfl
  · rfl

/-- What a request of an account **may make of a world**, when a new identifier comes with it. -/
inductive Change (owner : String) (new : Uuid) (world : World) : World → Prop
  /-- Nothing changes. -/
  | nothing : Change owner new world world
  /-- A segment of the account is saved, under the new identifier or that of one it has. -/
  | saved {segment : Segment} (howner : segment.ownerId = owner)
      (hid : segment.id = new ∨ (world.segmentOf owner segment.id).isSome = true) :
      Change owner new world (saving world segment)
  /-- A segment of the account is erased. -/
  | erased {id : Uuid} (h : (world.segmentOf owner id).isSome = true) :
      Change owner new world { world with segments := world.segments.erase id }

namespace Change

variable {world' : World} {new : Uuid}

theorem records_eq (h : Change owner new world world') : world'.records = world.records := by
  cases h with
  | nothing => rfl
  | saved howner hid => rfl
  | erased h => rfl

theorem outages_eq (h : Change owner new world world') : world'.outages = world.outages := by
  cases h with
  | nothing => rfl
  | saved howner hid => rfl
  | erased h => rfl

/-- Other accounts keep their segments. -/
theorem segmentOf_of_ne (h : Change owner new world world') (hnew : world.segments.get? new = none)
    {other : String} (hne : other ≠ owner) (key : Uuid) :
    world'.segmentOf other key = world.segmentOf other key := by
  cases h with
  | nothing => rfl
  | @saved segment howner hid =>
      rw [segmentOf_saving_of_ne world (howner ▸ hne.symm)]
      split
      · next hkey =>
        -- what was there before is no segment, or one of the account
        subst hkey
        symm
        rcases hid with rfl | hsome
        · exact World.segmentOf_eq_none hnew
        · obtain ⟨old, hold⟩ := Option.isSome_iff_exists.1 hsome
          exact World.segmentOf_of_ne hne hold
      · rfl
  | @erased id hsome =>
      rw [segmentOf_erase]
      split
      · next hkey =>
        subst hkey
        obtain ⟨old, hold⟩ := Option.isSome_iff_exists.1 hsome
        exact (World.segmentOf_of_ne hne hold).symm
      · rfl

/-- No identifier **comes into use** but the new one. -/
theorem get?_eq_none (h : Change owner new world world') {key : Uuid} (hne : key ≠ new)
    (hkey : world.segments.get? key = none) : world'.segments.get? key = none := by
  cases h with
  | nothing => exact hkey
  | @saved segment howner hid =>
      rw [saving, SegmentStore.get?_save, if_neg, hkey]
      rintro rfl
      rcases hid with hid | hsome
      · exact hne hid
      · rw [segmentOf_eq_none hkey] at hsome
        cases hsome
  | @erased id hsome =>
      rw [SegmentStore.get?_erase, hkey, ite_self]

end Change

end World

/-! ### What requests change -/

namespace Service

variable {service : Service} {owner : String} {stamp : Stamp} {world after : World}
  {request : Request} {success : Bool}

/-- A step changes at most one segment of the account that makes the request. -/
theorem Step.change (h : Step service owner stamp world request after success) :
    World.Change owner stamp.id world after := by
  cases h with
  | refused => exact .nothing
  | read h => exact .nothing
  | created h =>
      obtain ⟨tree, -, -, -, rfl⟩ := draft_eq_ok h
      exact .saved rfl (.inl rfl)
  | revised h =>
      obtain ⟨key, old, tree, -, hold, -, rfl⟩ := revise_eq_ok h
      obtain rfl := World.id_of_segmentOf hold
      exact .saved (World.segmentOf_eq_some_iff.1 hold).2 (.inr (Option.isSome_of_eq_some hold))
  | deleted h => exact .erased (Option.isSome_of_eq_some (deletable_eq_ok h))

/-- Every request changes at most one segment of the account that makes it. -/
theorem change_respond (service : Service) (owner : String) (stamp : Stamp) (world : World)
    (request : Request) :
    World.Change owner stamp.id world (service.respond owner stamp world request).world :=
  (service.step_respond owner stamp world request).change

end Service

end Audience
