import Audience.Authoring.Edit

/-!
**What a patch makes of a condition**.

A patch may ask for a field, an operator and a value.  A field that is not the condition's own comes
first: with it the condition starts out anew.  Otherwise the condition takes the operator, if its
field allows it, and the value.

Main definitions:

* `Authoring.Patch.amend` — what a patch makes of a condition that keeps its field;
* `Authoring.Patch.Moves` — does a patch change the field of a condition?
* `Authoring.Patch.Makes` — **what it makes of the condition**.

Main results:

* `Authoring.Patch.apply_eq_ok_iff` — what is made of a condition;
* `Authoring.Patch.exists_makes_iff` — when anything is made of it.
-/

set_option relaxedAutoImplicit false
set_option autoImplicit false

namespace Audience.Authoring

variable {catalog : Catalog} {patch : Patch} {current changed : Condition}

/-- What a patch makes of a condition that keeps its field. -/
def Patch.amend (catalog : Catalog) (patch : Patch) (c : Condition) : Except Refusal Condition :=
  match patch.operator with
  | some op =>
    if catalog.allows c.field op then
      .ok { c with operator := op, value := patch.value.getD c.value }
    else .error ⟨c.id, c.field, op⟩
  | none => .ok { c with value := patch.value.getD c.value }

theorem Patch.apply_eq (catalog : Catalog) (patch : Patch) (c : Condition) :
    patch.apply catalog c =
      match patch.field with
      | some field =>
        if field = c.field then patch.amend catalog c else .ok (moveTo catalog field c)
      | none => patch.amend catalog c := rfl

/-- Does a patch change the field of a condition? -/
def Patch.Moves (patch : Patch) (c : Condition) : Prop :=
  ∃ field ∈ patch.field, field ≠ c.field

/-- **What a patch makes of a condition**, which keeps its identifier in any case. -/
inductive Patch.Makes (catalog : Catalog) (patch : Patch) (current : Condition) : Condition → Prop
  /-- On another field it starts out anew, whatever else the patch asks for. -/
  | moved {field : String} (hfield : field ∈ patch.field) (hother : field ≠ current.field) :
      Makes catalog patch current ⟨current.id, field, catalog.defaultOperator field, .empty⟩
  /-- On its own field it takes an operator that the field allows, and a value; without a new one it
  keeps the old one. -/
  | amended (hstays : ¬ patch.Moves current)
      (hallowed : ∀ op ∈ patch.operator, catalog.allows current.field op = true) :
      Makes catalog patch current
        ⟨current.id, current.field, patch.operator.getD current.operator,
          patch.value.getD current.value⟩

theorem Patch.Makes.id_eq (h : patch.Makes catalog current changed) : changed.id = current.id := by
  cases h with
  | moved => rfl
  | amended => rfl

theorem Patch.amend_eq_ok_iff :
    patch.amend catalog current = .ok changed ↔
      (∀ op ∈ patch.operator, catalog.allows current.field op = true) ∧
        changed = ⟨current.id, current.field, patch.operator.getD current.operator,
          patch.value.getD current.value⟩ := by
  unfold amend
  cases patch.operator with
  | none => simp [@eq_comm _ changed]
  | some op =>
      cases hallows : catalog.allows current.field op with
      | true => simp [hallows, @eq_comm _ changed]
      | false => simp [hallows]

/-- A condition takes a patch just where the patch makes something of it. -/
theorem Patch.apply_eq_ok_iff :
    patch.apply catalog current = .ok changed ↔ patch.Makes catalog current changed := by
  constructor
  · intro h
    rw [apply_eq] at h
    split at h
    · next field hfield =>
      split at h
      · next hsame =>
        obtain ⟨hallowed, rfl⟩ := amend_eq_ok_iff.1 h
        refine .amended ?_ hallowed
        rintro ⟨other, hother, hne⟩
        obtain rfl := Option.some.inj (hfield.symm.trans hother)
        exact hne hsame
      · next hother =>
        obtain rfl := Except.ok.inj h
        exact .moved hfield hother
    · next hfield =>
      obtain ⟨hallowed, rfl⟩ := amend_eq_ok_iff.1 h
      refine .amended ?_ hallowed
      rintro ⟨other, hother, -⟩
      exact nomatch hfield.symm.trans hother
  · intro h
    rw [apply_eq]
    cases h with
    | @moved field hfield hother =>
        rw [Option.mem_def.1 hfield]
        exact if_neg hother
    | amended hstays hallowed =>
        have hamend := amend_eq_ok_iff.2 ⟨hallowed, rfl⟩
        split
        · next field hfield =>
          have hsame : field = current.field :=
            Decidable.byContradiction fun hne => hstays ⟨field, hfield, hne⟩
          rw [if_pos hsame]
          exact hamend
        · exact hamend

/-- A patch makes something of a condition **if it changes the field**, or asks for no operator, or
for one that the field allows. -/
theorem Patch.exists_makes_iff :
    (∃ changed, patch.Makes catalog current changed) ↔
      patch.Moves current ∨ ∀ op ∈ patch.operator, catalog.allows current.field op = true := by
  constructor
  · rintro ⟨changed, h⟩
    cases h with
    | moved hfield hother => exact .inl ⟨_, hfield, hother⟩
    | amended hstays hallowed => exact .inr hallowed
  · intro h
    by_cases hmoves : patch.Moves current
    · obtain ⟨field, hfield, hother⟩ := hmoves
      exact ⟨_, .moved hfield hother⟩
    · exact ⟨_, .amended hmoves (h.resolve_left hmoves)⟩

end Audience.Authoring
