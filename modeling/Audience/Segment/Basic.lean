import Audience.Calendar.Instant
import Audience.Rule.Basic
import Audience.Uuid

/-!
**Segments** and where they are stored.

A segment is a named rule tree of an account.  The store holds segments by their identifiers; a
segment that is saved takes the place of the one with the same identifier.

Main definitions:

* `Segment`, `NewSegment` — segments, and the request for one;
* `SegmentStore`, with `SegmentStore.get?`, `SegmentStore.save`, `SegmentStore.erase` — the store;
* `SegmentStore.listByOwner` — the segments of an account, the oldest first.
-/

set_option relaxedAutoImplicit false
set_option autoImplicit false

namespace Audience

/-- A **segment**: a named rule tree of an account. -/
structure Segment where
  /-- The identifier of the segment. -/
  id : Uuid
  /-- The name. -/
  name : String
  /-- The account. -/
  ownerId : String
  /-- The rules; segments of old may have none. -/
  rules : Option Group
  /-- When the segment was created. -/
  createdAt : Instant
  /-- When the rules were last replaced. -/
  updatedAt : Instant
  deriving DecidableEq, Repr

/-- A **request for a segment**, whose rules have not been read yet. -/
structure NewSegment where
  /-- The name. -/
  name : String
  /-- The account. -/
  ownerId : String
  /-- The rules. -/
  rules : Option Json := none
  deriving DecidableEq, Repr

/-- The **store of segments**. -/
structure SegmentStore where
  /-- The segments by their identifiers. -/
  entries : List (Uuid × Segment) := []
  /-- Every segment is stored under its own identifier. -/
  keyed : ∀ entry ∈ entries, entry.1 = entry.2.id := by exact fun _ h => nomatch h
  /-- There is one segment at most under an identifier. -/
  distinct : (entries.map (·.1)).Nodup := by exact List.Pairwise.nil
  deriving DecidableEq, Repr

namespace SegmentStore

instance : Inhabited SegmentStore := ⟨{}⟩

/-- The segment under an identifier. -/
def lookup? (id : Uuid) : List (Uuid × Segment) → Option Segment
  | [] => none
  | (key, segment) :: entries => if key = id then some segment else lookup? id entries

/-- The entries with a segment under an identifier, in place of the one that may be there. -/
def put (id : Uuid) (segment : Segment) : List (Uuid × Segment) → List (Uuid × Segment)
  | [] => [(id, segment)]
  | (key, old) :: entries =>
    if key = id then (id, segment) :: entries else (key, old) :: put id segment entries

/-- An entry after a segment has been put is that segment's or was there before. -/
theorem mem_put {id : Uuid} {segment : Segment} {entries : List (Uuid × Segment)}
    {entry : Uuid × Segment} (h : entry ∈ put id segment entries) :
    entry = (id, segment) ∨ entry ∈ entries := by
  induction entries with
  | nil => exact .inl (List.mem_singleton.1 h)
  | cons old entries ih =>
    rw [put] at h
    split at h
    · rcases List.mem_cons.1 h with h | h
      · exact .inl h
      · exact .inr (List.mem_cons_of_mem old h)
    · rcases List.mem_cons.1 h with h | h
      · exact .inr (h ▸ List.mem_cons_self)
      · exact (ih h).imp_right (List.mem_cons_of_mem old)

/-- Putting a segment under an identifier leaves one segment at most under each. -/
theorem nodup_put {id : Uuid} {segment : Segment} {entries : List (Uuid × Segment)}
    (h : (entries.map (·.1)).Nodup) : ((put id segment entries).map (·.1)).Nodup := by
  induction entries with
  | nil => simp [put]
  | cons old entries ih =>
    obtain ⟨hold, hentries⟩ := List.nodup_cons.1 h
    rw [put]
    split
    · next hid => exact List.nodup_cons.2 ⟨hid ▸ hold, hentries⟩
    · next hid =>
      refine List.nodup_cons.2 ⟨fun hmem => ?_, ih hentries⟩
      obtain ⟨entry, hentry, hkey⟩ := List.mem_map.1 hmem
      rcases mem_put hentry with rfl | hentry
      · exact hid hkey.symm
      · exact hold (hkey ▸ List.mem_map_of_mem hentry)

/-- The **segment** with an identifier. -/
def get? (store : SegmentStore) (id : Uuid) : Option Segment := lookup? id store.entries

/-- The store with a segment **saved** under its identifier. -/
def save (store : SegmentStore) (segment : Segment) : SegmentStore where
  entries := put segment.id segment store.entries
  keyed entry h := by
    rcases mem_put h with rfl | h
    · rfl
    · exact store.keyed entry h
  distinct := nodup_put store.distinct

/-- The store **without** the segment with an identifier. -/
def erase (store : SegmentStore) (id : Uuid) : SegmentStore where
  entries := store.entries.filter (·.1 != id)
  keyed entry h := store.keyed entry (List.mem_filter.1 h).1
  distinct := store.distinct.sublist (List.filter_sublist.map _)

/-- The **segments of an account**, the oldest first. -/
def listByOwner (store : SegmentStore) (owner : String) : List Segment :=
  ((store.entries.map (·.2)).filter (·.ownerId == owner)).mergeSort fun a b =>
    (a.createdAt.compare b.createdAt).isLE

/-- A segment that has been saved is there. -/
@[simp] theorem get?_save_self (store : SegmentStore) (segment : Segment) :
    (store.save segment).get? segment.id = some segment := by
  suffices h : ∀ entries, lookup? segment.id (put segment.id segment entries) = some segment from
    h store.entries
  intro entries
  induction entries with
  | nil => simp [put, lookup?]
  | cons entry entries ih =>
    obtain ⟨key, old⟩ := entry
    by_cases hk : key = segment.id <;> simp [put, lookup?, hk, ih]

/-- Saving a segment leaves the others as they are. -/
theorem get?_save_of_ne (store : SegmentStore) {segment : Segment} {id : Uuid}
    (h : id ≠ segment.id) : (store.save segment).get? id = store.get? id := by
  suffices hs : ∀ entries, lookup? id (put segment.id segment entries) = lookup? id entries from
    hs store.entries
  intro entries
  induction entries with
  | nil => simp [put, lookup?, h.symm]
  | cons entry entries ih =>
    obtain ⟨key, old⟩ := entry
    by_cases hk : key = segment.id
    · simp [put, lookup?, hk, h.symm]
    · by_cases hi : key = id
      · subst hi; simp [put, lookup?, hk]
      · simp [put, lookup?, hk, hi, ih]

end SegmentStore

end Audience
