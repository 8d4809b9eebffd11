import Mathlib.Data.List.Nodup

/-!
**Items with keys**: look-up, and the first fault of a list.

One of several items with different keys is known by its key, wherever it stands.  Where such items
are checked one by one, each is checked with the keys of those before it, so that a key can be
refused the second time it comes; the first fault that is found is reported, and nothing after it
is looked at.

Main definitions:

* `firstFault?` — the first fault of a list.

Main results:

* `find?_key_eq_some_iff`, `find?_key_perm` — among items with different keys one finds the one
  with the key, in whatever order they come;
* `firstFault?_eq_some_iff` — the first fault is that of an item after items without fault;
* `firstFault?_eq_none_iff` — there is none if no item is wrong by itself **and no key comes
  twice**.
-/

set_option relaxedAutoImplicit false
set_option autoImplicit false

namespace Audience

/-! ### Look-up -/

section LookUp

variable {α : Type} {key : α → String} {items : List α}

/-- Among items with different keys one finds the item with the key. -/
theorem find?_key_eq_some_iff {name : String} {item : α} (hkeys : (items.map key).Nodup) :
    items.find? (key · == name) = some item ↔ item ∈ items ∧ key item = name := by
  constructor
  · intro h
    exact ⟨List.mem_of_find?_eq_some h, by simpa using List.find?_some h⟩
  · rintro ⟨hitem, rfl⟩
    obtain ⟨found, hfound⟩ : ∃ found, items.find? (key · == key item) = some found := by
      rw [← Option.isSome_iff_exists, List.find?_isSome]
      exact ⟨item, hitem, beq_self_eq_true _⟩
    have hkey : key found = key item := by simpa using List.find?_some hfound
    rw [hfound, List.inj_on_of_nodup_map hkeys (List.mem_of_find?_eq_some hfound) hitem hkey]

/-- Among items with different keys one finds the same item in whatever order they come. -/
theorem find?_key_perm {others : List α} (h : items.Perm others) (hkeys : (items.map key).Nodup)
    (name : String) : items.find? (key · == name) = others.find? (key · == name) := by
  have hkeys' : (others.map key).Nodup := (h.map key).nodup_iff.1 hkeys
  ext item
  rw [find?_key_eq_some_iff hkeys, find?_key_eq_some_iff hkeys', h.mem_iff]

end LookUp

/-! ### The first fault -/

variable {α ε : Type} {key : α → String} {check : List String → α → Option ε}

/-- The **first fault** of a list of items that come after items with the keys `seen`. -/
def firstFault? (key : α → String) (check : List String → α → Option ε) (seen : List String) :
    List α → Option ε
  | [] => none
  | item :: items => (check seen item).or (firstFault? key check (key item :: seen) items)

theorem firstFault?_append (seen : List String) (before items : List α) :
    firstFault? key check seen (before ++ items)
      = (firstFault? key check seen before).or
          (firstFault? key check ((before.map key).reverse ++ seen) items) := by
  induction before generalizing seen with
  | nil => rfl
  | cons item before ih =>
      rw [List.cons_append, firstFault?, firstFault?, ih, Option.or_assoc, List.map_cons,
        List.reverse_cons, List.append_assoc, List.singleton_append]

/-- A fault that is found is that of the first item that is wrong. -/
theorem exists_first_of_firstFault? {seen : List String} {items : List α} {fault : ε}
    (h : firstFault? key check seen items = some fault) :
    ∃ before item after, items = before ++ item :: after ∧
      firstFault? key check seen before = none ∧
        check ((before.map key).reverse ++ seen) item = some fault := by
  induction items generalizing seen with
  | nil => cases h
  | cons item items ih =>
      rw [firstFault?] at h
      cases hitem : check seen item with
      | some found =>
          rw [hitem, Option.some_or] at h
          exact ⟨[], item, items, rfl, rfl, hitem.trans h⟩
      | none =>
          rw [hitem, Option.none_or] at h
          obtain ⟨before, other, after, rfl, hbefore, hother⟩ := ih h
          refine ⟨item :: before, other, after, rfl, ?_, ?_⟩
          · rw [firstFault?, hitem, hbefore]
            rfl
          · rw [List.map_cons, List.reverse_cons, List.append_assoc]
            exact hother

/-- The first fault of a list is that of an item after items without fault. -/
theorem firstFault?_eq_some_iff {seen : List String} {items : List α} {fault : ε} :
    firstFault? key check seen items = some fault ↔
      ∃ before item after, items = before ++ item :: after ∧
        firstFault? key check seen before = none ∧
          check ((before.map key).reverse ++ seen) item = some fault := by
  constructor
  · exact exists_first_of_firstFault?
  · rintro ⟨before, item, after, rfl, hbefore, hitem⟩
    rw [firstFault?_append, hbefore, Option.none_or, firstFault?, hitem, Option.some_or]

/-- There is no fault if no item is wrong by itself **and no key comes twice**. -/
theorem firstFault?_eq_none_iff {P : α → Prop}
    (hcheck : ∀ seen item, check seen item = none ↔ P item ∧ key item ∉ seen)
    {seen : List String} {items : List α} :
    firstFault? key check seen items = none ↔
      (∀ item ∈ items, P item ∧ key item ∉ seen) ∧ (items.map key).Nodup := by
  induction items generalizing seen with
  | nil => simp [firstFault?]
  | cons item items ih =>
      rw [firstFault?, Option.or_eq_none_iff, hcheck, ih, List.map_cons, List.nodup_cons,
        List.forall_mem_cons]
      -- to be new after `item` is to be new and to have another key
      constructor
      · rintro ⟨hitem, hitems, hnodup⟩
        refine ⟨⟨hitem, fun other hm => ?_⟩, fun hm => ?_, hnodup⟩
        · exact ⟨(hitems other hm).1, fun hs => (hitems other hm).2 (List.mem_cons_of_mem _ hs)⟩
        · obtain ⟨other, hother, heq⟩ := List.mem_map.1 hm
          exact (hitems other hother).2 (heq ▸ List.mem_cons_self)
      · rintro ⟨⟨hitem, hitems⟩, hnew, hnodup⟩
        refine ⟨hitem, fun other hm => ⟨(hitems other hm).1, fun hs => ?_⟩, hnodup⟩
        rcases List.mem_cons.1 hs with heq | hs
        · exact hnew (heq ▸ List.mem_map_of_mem hm)
        · exact (hitems other hm).2 hs

end Audience
