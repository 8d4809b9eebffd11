import Audience.RecordStore
import Mathlib.Data.List.Dedup

/-!
**The records of all accounts** in one table.

Every row of the table is a record with the account it belongs to.  An account has the rows that
are its records, in their order, and a selection from the table is a selection from the records of
every account.

Main definitions:

* `RecordStore.owners` — the accounts that have records;
* `RecordStore.table`, `RecordStore.select` — **the table of all records**, and the rows of it that
  meet a condition.

Main results:

* `ownedBy_filter`, `eq_map_ownedBy_iff` — selections from what belongs to an account, and lists all
  of which belong to one;
* `RecordStore.ownedBy_table` — the rows of an account are its records;
* `RecordStore.mem_table` — what is in the table;
* `RecordStore.select_eq_iff` — when a selection from the table is one from the records of an
  account.
-/

set_option relaxedAutoImplicit false
set_option autoImplicit false

namespace Audience

/-! ### What belongs to an account -/

variable {α : Type}

theorem mem_ownedBy {owner : String} {entries : List (String × α)} {entry : α} :
    entry ∈ ownedBy owner entries ↔ (owner, entry) ∈ entries := by
  rw [ownedBy, List.mem_filterMap]
  constructor
  · rintro ⟨⟨holder, e⟩, hmem, h⟩
    simp only [Option.ite_none_right_eq_some, Option.some.injEq] at h
    obtain ⟨rfl, rfl⟩ := h
    exact hmem
  · intro h
    exact ⟨(owner, entry), h, if_pos rfl⟩

/-- What is selected from all entries and belongs to an account is selected from what belongs to
the account. -/
theorem ownedBy_filter (owner : String) (p : α → Bool) (entries : List (String × α)) :
    ownedBy owner (entries.filter (p ·.2)) = (ownedBy owner entries).filter p := by
  rw [ownedBy, ownedBy, List.filterMap_filter, List.filter_filterMap]
  refine List.filterMap_congr fun entry _ => ?_
  by_cases howner : entry.1 = owner
  · simp [howner, Option.filter_some]
  · simp [howner]

/-- All entries of a list belong to an account just when it is the list of those that do. -/
theorem eq_map_ownedBy_iff {owner : String} {entries : List (String × α)} :
    entries = (ownedBy owner entries).map (owner, ·) ↔ ∀ entry ∈ entries, entry.1 = owner := by
  constructor
  · intro h entry hentry
    rw [h] at hentry
    obtain ⟨_, -, rfl⟩ := List.mem_map.1 hentry
    rfl
  · intro h
    induction entries with
    | nil => rfl
    | cons entry entries ih =>
        obtain ⟨holder, e⟩ := entry
        obtain rfl : holder = owner := h _ List.mem_cons_self
        have hrest := ih fun entry hentry => h entry (List.mem_cons_of_mem _ hentry)
        simpa [ownedBy] using hrest

/-- What accounts have, each account once, is found again under the account. -/
theorem ownedBy_flatMap (owner : String) (held : String → List α) {owners : List String}
    (h : owners.Nodup) :
    ownedBy owner (owners.flatMap fun holder => (held holder).map (holder, ·))
      = if owner ∈ owners then held owner else [] := by
  induction owners with
  | nil => rfl
  | cons holder owners ih =>
      obtain ⟨hholder, howners⟩ := List.nodup_cons.1 h
      rw [List.flatMap_cons, ownedBy_append, ih howners]
      by_cases heq : holder = owner
      · -- the account comes once, so nothing of it follows
        subst heq
        rw [ownedBy_map_self, if_neg hholder, if_pos List.mem_cons_self, List.append_nil]
      · rw [ownedBy_map_of_ne heq, List.nil_append]
        simp [Ne.symm heq]

/-! ### The table -/

namespace RecordStore

/-- The accounts that have records. -/
def owners (store : RecordStore) : List String :=
  (store.records.map (·.1) ++ store.customers.map (·.1)).dedup

/-- The **table of all records**, each with the account it belongs to. -/
def table (store : RecordStore) : List (String × Record) :=
  store.owners.flatMap fun owner => (store.recordsFor owner).map (owner, ·)

theorem recordsFor_of_not_mem {store : RecordStore} {owner : String} (h : owner ∉ store.owners) :
    store.recordsFor owner = [] := by
  rw [owners, List.mem_dedup, List.mem_append, not_or] at h
  have hnone : ∀ {β : Type} {entries : List (String × β)}, owner ∉ entries.map (·.1) →
      ownedBy owner entries = [] := by
    intro β entries hentries
    refine List.eq_nil_iff_forall_not_mem.2 fun entry hentry => hentries ?_
    exact List.mem_map.2 ⟨_, mem_ownedBy.1 hentry, rfl⟩
  rw [recordsFor, customersOf, hnone h.1, hnone h.2]
  rfl

/-- The rows of an account are its records, in their order. -/
theorem ownedBy_table (store : RecordStore) (owner : String) :
    ownedBy owner store.table = store.recordsFor owner := by
  have hnodup : store.owners.Nodup := List.nodup_dedup _
  rw [table, ownedBy_flatMap owner store.recordsFor hnodup]
  split
  · rfl
  · next h => rw [recordsFor_of_not_mem h]

theorem mem_table {store : RecordStore} {owner : String} {record : Record} :
    (owner, record) ∈ store.table ↔ record ∈ store.recordsFor owner := by
  rw [← mem_ownedBy, ownedBy_table]

/-- The rows of the table whose records meet a condition. -/
def select (store : RecordStore) (p : Record → Bool) : List (String × Record) :=
  store.table.filter (p ·.2)

theorem ownedBy_select (store : RecordStore) (p : Record → Bool) (owner : String) :
    ownedBy owner (store.select p) = (store.recordsFor owner).filter p := by
  rw [select, ownedBy_filter, ownedBy_table]

/-- All selected rows belong to an account just when **no record of another account** meets the
condition. -/
theorem select_eq_iff {store : RecordStore} {p : Record → Bool} {owner : String} :
    store.select p = ((store.recordsFor owner).filter p).map (owner, ·)
      ↔ ∀ other ≠ owner, ∀ record ∈ store.recordsFor other, p record = false := by
  rw [← ownedBy_select, eq_map_ownedBy_iff]
  constructor
  · intro h other hne record hrecord
    -- a record that meets the condition would be selected with its own account
    by_contra hp
    have hrow : (other, record) ∈ store.select p :=
      List.mem_filter.2 ⟨mem_table.2 hrecord, by simpa using hp⟩
    exact hne (h _ hrow)
  · rintro h ⟨other, record⟩ hrow
    obtain ⟨hmem, hp⟩ := List.mem_filter.1 hrow
    by_contra hne
    rw [h other hne record (mem_table.1 hmem)] at hp
    cases hp

end RecordStore

end Audience
