import Audience.Proofs.Calendar.Order
import Audience.Segment.Basic
import Mathlib.Data.List.Nodup

/-!
**The store of segments** seen from outside.

A store is known by the segments found under identifiers: a segment is found just where an entry
holds it, it has the identifier it is found under, and saving and erasing one leave the others
alone.  The segments of an account are listed once each, none before an older one, so two lists of
the same segments differ at most in the order of those created at the same time.

Main results:

* `SegmentStore.get?_eq_some_iff`, `SegmentStore.id_of_get?` — segments and where they are found;
* `SegmentStore.get?_save`, `SegmentStore.get?_erase` — segments after a change;
* `SegmentStore.mem_listByOwner`, `SegmentStore.nodup_listByOwner` — the list of an account holds
  its segments, each once;
* `SegmentStore.createdAt_listByOwner` — **lists of the same segments agree on the times** in
  them, one by one.
-/

set_option relaxedAutoImplicit false
set_option autoImplicit false

namespace Audience.SegmentStore

/-! ### Looking up -/

theorem lookup?_eq_some_iff {entries : List (Uuid × Segment)} (hd : (entries.map (·.1)).Nodup)
    {id : Uuid} {segment : Segment} :
    lookup? id entries = some segment ↔ (id, segment) ∈ entries := by
  induction entries with
  | nil => simp [lookup?]
  | cons entry entries ih =>
      obtain ⟨key, old⟩ := entry
      obtain ⟨hkey, hentries⟩ := List.nodup_cons.1 hd
      rw [lookup?]
      split
      · next h =>
        subst h
        -- the identifier stands in no other entry
        have hother : (key, segment) ∉ entries := fun h =>
          hkey (List.mem_map.2 ⟨(key, segment), h, rfl⟩)
        simp [hother, eq_comm]
      · next h =>
        rw [ih hentries, List.mem_cons, Prod.mk.injEq]
        exact ⟨Or.inr, fun h' => h'.resolve_left fun h' => h h'.1.symm⟩

theorem get?_eq_some_iff {store : SegmentStore} {id : Uuid} {segment : Segment} :
    store.get? id = some segment ↔ (id, segment) ∈ store.entries :=
  lookup?_eq_some_iff store.distinct

theorem id_of_get? {store : SegmentStore} {id : Uuid} {segment : Segment}
    (h : store.get? id = some segment) : segment.id = id :=
  (store.keyed _ (get?_eq_some_iff.1 h)).symm

/-! ### Changes -/

/-- After a segment has been saved, it is found under its identifier, and under the others is
found what was there before. -/
theorem get?_save (store : SegmentStore) (segment : Segment) (id : Uuid) :
    (store.save segment).get? id = if id = segment.id then some segment else store.get? id := by
  split
  · next h => rw [h, get?_save_self]
  · next h => exact get?_save_of_ne store h

/-- After a segment has been erased, nothing is found under its identifier, and under the others is
found what was there before. -/
theorem get?_erase (store : SegmentStore) (id other : Uuid) :
    (store.erase id).get? other = if other = id then none else store.get? other := by
  refine Option.ext fun segment => ?_
  rw [get?_eq_some_iff]
  split
  · next h => simp [erase, h]
  · next h => simp [erase, h, get?_eq_some_iff]

/-! ### Lists -/

/-- The list of an account holds its segments. -/
theorem mem_listByOwner {store : SegmentStore} {owner : String} {segment : Segment} :
    segment ∈ store.listByOwner owner
      ↔ store.get? segment.id = some segment ∧ segment.ownerId = owner := by
  rw [listByOwner, List.mem_mergeSort, List.mem_filter, beq_iff_eq, get?_eq_some_iff]
  refine and_congr_left fun _ => ?_
  constructor
  · intro h
    obtain ⟨entry, hentry, rfl⟩ := List.mem_map.1 h
    have hkey := store.keyed entry hentry
    rwa [← hkey]
  · intro h
    exact List.mem_map.2 ⟨_, h, rfl⟩

/-- The list of an account holds each segment once. -/
theorem nodup_listByOwner (store : SegmentStore) (owner : String) :
    (store.listByOwner owner).Nodup := by
  have hids : ((store.entries.map (·.2)).map (·.id)).Nodup := by
    rw [List.map_map]
    rw [show store.entries.map ((·.id) ∘ (·.2)) = store.entries.map (·.1) from
      List.map_congr_left fun entry h => (store.keyed entry h).symm]
    exact store.distinct
  have hsegments : (store.entries.map (·.2)).Nodup := List.Nodup.of_map _ hids
  rw [listByOwner, (List.mergeSort_perm _ _).nodup_iff]
  exact hsegments.sublist List.filter_sublist

theorem pairwise_listByOwner (store : SegmentStore) (owner : String) :
    ((store.listByOwner owner).map (·.createdAt)).Pairwise
      fun s t => (s.compare t).isLE = true := by
  refine List.pairwise_map.2 (List.pairwise_mergeSort ?_ ?_ _)
  · intro a b c hab hbc
    exact Std.TransCmp.isLE_trans hab hbc
  · intro a b
    rw [← Instant.compare_swap a.createdAt]
    cases a.createdAt.compare b.createdAt <;> rfl

/-- **Lists of the same segments agree on the times** in them, one by one. -/
theorem createdAt_listByOwner {store other : SegmentStore} {owner : String}
    (h : (store.listByOwner owner).Perm (other.listByOwner owner)) :
    (store.listByOwner owner).map (·.createdAt) = (other.listByOwner owner).map (·.createdAt) := by
  have hfirst := pairwise_listByOwner store owner
  have hsecond := pairwise_listByOwner other owner
  refine List.Perm.eq_of_pairwise ?_ hfirst hsecond (h.map _)
  intro s t _ _ hst hts
  exact Instant.eq_of_isLE hst hts

end Audience.SegmentStore
