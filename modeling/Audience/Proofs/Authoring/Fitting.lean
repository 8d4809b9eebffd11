import Audience.Proofs.Authoring.Patch
import Audience.Proofs.Authoring.Session
import Audience.Proofs.Rule.Fit

/-!
**Authoring keeps operators allowed**.

A condition in the tree of a session was there before the last operation, or the operation has made
it, or it has taken the patch of the operation.  A new condition starts out with an operator that
its field allows, and a patch changes the operator to one that the field allows or changes the field
with it.  So no operation leaves an operator behind that was allowed only for another field; and as
long as patches keep to the fields of the catalog, no condition is warned of.

Main definitions:

* `Authoring.Operation.Yields` — **where a condition comes from** after an operation;
* `Authoring.Operation.staysIn` — does an operation move conditions only to fields of the catalog?

Main results:

* `Authoring.Patch.isAllowed_apply`, `Authoring.Patch.contains_apply` — what a patch makes of a
  condition has an operator that its field allows, and is on a field of the catalog;
* `Authoring.Session.yields_perform` — every condition comes from where a condition may;
* `Authoring.Operation.Yields.isAllowed`, `Authoring.Operation.Yields.contains_field` — such a
  condition has an operator that its field allows, and is on a field of the catalog;
* `Authoring.Session.run_keeps_allowed` — both hold **after any operations**.
-/

set_option relaxedAutoImplicit false
set_option autoImplicit false

namespace Audience

namespace Authoring

variable {catalog : Catalog} {c current changed : Condition}

/-! ### Patches -/

/-- A patch keeps the operator allowed. -/
theorem Patch.isAllowed_apply {patch : Patch} (h : patch.apply catalog current = .ok changed)
    (hcurrent : current.IsAllowed catalog) : changed.IsAllowed catalog := by
  cases Patch.apply_eq_ok_iff.1 h with
  | moved hfield hother => exact catalog.allows_defaultOperator _
  | amended hstays hallowed =>
      cases hop : patch.operator with
      | none => exact hcurrent
      | some op => exact hallowed op hop

/-- A patch that moves a condition only to fields of the catalog leaves it on one of them. -/
theorem Patch.contains_apply {patch : Patch} (h : patch.apply catalog current = .ok changed)
    (hpatch : patch.field.all catalog.contains = true)
    (hcurrent : catalog.contains current.field = true) : catalog.contains changed.field = true := by
  cases Patch.apply_eq_ok_iff.1 h with
  | moved hfield hother => rwa [Option.mem_def.1 hfield, Option.all_some] at hpatch
  | amended hstays hallowed => exact hcurrent

/-! ### Conditions of one group -/

theorem mem_conditions_append {g : Group} {child : Node} :
    c ∈ (g.append child).conditions ↔ c ∈ g.conditions ∨ c ∈ child.conditions := by
  simp [Group.mem_conditions, Group.append, or_and_right, exists_or]

theorem mem_conditions_replaceCondition {node : Node}
    (h : c ∈ (replaceCondition changed node).conditions) : c = changed ∨ c ∈ node.conditions := by
  cases node with
  | group id logic children => exact .inr h
  | condition old =>
      rw [replaceCondition] at h
      split at h
      · exact .inl (List.mem_singleton.1 h)
      · exact .inr h

/-! ### One operation -/

/-- **Where a condition comes from** after an operation on a tree. -/
inductive Operation.Yields (catalog : Catalog) (before : Group) : Operation → Condition → Prop
  /-- The condition was there before. -/
  | kept {operation : Operation} {c : Condition} (h : c ∈ before.conditions) :
      Yields catalog before operation c
  /-- The condition has been added. -/
  | added (group id : String) :
      Yields catalog before (.addCondition group) (newCondition catalog id)
  /-- The condition has taken a patch. -/
  | patched {group id : String} {patch : Patch} {current changed : Condition}
      (hcurrent : current ∈ before.conditions) (h : patch.apply catalog current = .ok changed) :
      Yields catalog before (.update group id patch) changed

/-- Does an operation move conditions only to fields of the catalog? -/
def Operation.staysIn (catalog : Catalog) : Operation → Bool
  | .update _ _ patch => patch.field.all catalog.contains
  | _ => true

namespace Operation.Yields

variable {before : Group} {operation : Operation}

/-- Whatever an operation yields has an operator that its field allows, if all conditions had
one before. -/
theorem isAllowed (h : operation.Yields catalog before c) (hbefore : before.IsAllowed catalog) :
    c.IsAllowed catalog := by
  cases h with
  | kept hc => exact hbefore c hc
  | added group id => exact catalog.allows_defaultOperator _
  | patched hcurrent hpatch => exact Patch.isAllowed_apply hpatch (hbefore _ hcurrent)

/-- Whatever an operation yields is on a field of the catalog, if there is any, all conditions
were on one before and the operation moves none elsewhere. -/
theorem contains_field (h : operation.Yields catalog before c) (hfields : catalog.fields ≠ [])
    (hstays : operation.staysIn catalog = true)
    (hbefore : ∀ c ∈ before.conditions, catalog.contains c.field = true) :
    catalog.contains c.field = true := by
  cases h with
  | kept hc => exact hbefore c hc
  | added group id =>
      obtain ⟨field, hfirst⟩ := Option.isSome_iff_exists.1 (List.isSome_head?.2 hfields)
      have hname : (newCondition catalog id).field = field.name := by
        rw [newCondition, Catalog.first?, hfirst]
        rfl
      rw [hname]
      exact Catalog.contains_of_first? hfirst
  | patched hcurrent hpatch => exact Patch.contains_apply hpatch hstays (hbefore _ hcurrent)

end Operation.Yields

theorem Operation.yields_plug {operation : Operation} {context : Context} {g edited : Group}
    (hedited : ∀ c ∈ edited.conditions,
      c ∈ g.conditions ∨ operation.Yields catalog (context.plug g) c)
    (hc : c ∈ (context.plug edited).conditions) : operation.Yields catalog (context.plug g) c := by
  rcases context.mem_conditions_plug.1 hc with haround | hin
  · exact .kept (context.mem_conditions_plug.2 (.inl haround))
  · rcases hedited c hin with hold | hyields
    · exact .kept (context.mem_conditions_plug.2 (.inr hold))
    · exact hyields

namespace Session

variable {session : Session} {offered : List String} {operation : Operation}

/-- Every condition of the tree that an operation leads to comes from where a condition may. -/
theorem yields_attempt {next : Group} (h : (session.attempt offered operation).1 = some next)
    (hc : c ∈ next.conditions) : operation.Yields session.catalog session.tree c := by
  obtain ⟨catalog, tree, observers⟩ := session
  cases operation with
  | addCondition group =>
      obtain ⟨⟨_, id⟩, hadd, rfl⟩ := Option.map_eq_some_iff.1 h
      obtain ⟨-, -, context, g, -, rfl, rfl⟩ := addCondition?_eq_some hadd
      refine Operation.yields_plug ?_ hc
      intro c hc
      rcases mem_conditions_append.1 hc with hold | hnew
      · exact .inl hold
      · obtain rfl := List.mem_singleton.1 hnew
        exact .inr (.added group id)
  | addGroup group =>
      obtain ⟨⟨_, id⟩, hadd, rfl⟩ := Option.map_eq_some_iff.1 h
      obtain ⟨-, -, context, g, -, rfl, rfl⟩ := addGroup?_eq_some hadd
      refine Operation.yields_plug ?_ hc
      intro c hc
      -- the new group has no conditions
      rcases mem_conditions_append.1 hc with hold | hnew
      · exact .inl hold
      · cases hnew
  | remove group node =>
      obtain ⟨context, g, -, rfl, -, rfl⟩ := remove?_eq_some h
      refine Operation.yields_plug ?_ hc
      intro c hc
      obtain ⟨child, hchild, hin⟩ := Group.mem_conditions.1 hc
      exact .inl (Group.mem_conditions.2 ⟨child, (List.mem_filter.1 hchild).1, hin⟩)
  | update group condition patch =>
      simp only [attempt] at h
      split at h
      · next updated hupdate =>
        obtain rfl := Option.some.inj h
        obtain ⟨context, g, current, changed, -, rfl, hcurrent, hpatch, rfl⟩ :=
          update_eq_updated hupdate
        refine Operation.yields_plug ?_ hc
        intro c hc
        obtain ⟨_, hchild, hin⟩ := Group.mem_conditions.1 hc
        obtain ⟨child, hm, rfl⟩ := List.mem_map.1 hchild
        rcases mem_conditions_replaceCondition hin with rfl | hold
        · have hfound : current ∈ g.conditions :=
            Group.mem_conditions.2 ⟨_, mem_of_conditionIn? hcurrent, List.mem_singleton.2 rfl⟩
          exact .inr (.patched (context.mem_conditions_plug.2 (.inr hfound)) hpatch)
        · exact .inl (Group.mem_conditions.2 ⟨child, hm, hold⟩)
      · cases h
      · cases h
  | setLogic group logic =>
      obtain ⟨context, g, -, rfl, rfl⟩ := setLogic?_eq_some h
      refine Operation.yields_plug ?_ hc
      intro c hc
      exact .inl hc

/-- Every condition after an operation comes from where a condition may. -/
theorem yields_perform (hc : c ∈ (session.perform offered operation).1.tree.conditions) :
    operation.Yields session.catalog session.tree c := by
  unfold perform at hc
  split at hc
  · next tree answer log hattempt => exact yields_attempt (congrArg Prod.fst hattempt) hc
  · exact .kept hc

@[simp] theorem catalog_perform (session : Session) (offered : List String)
    (operation : Operation) : (session.perform offered operation).1.catalog = session.catalog := by
  unfold perform
  split <;> rfl

/-! ### Any number of operations -/

/-- What every operation keeps is kept by any number of them. -/
theorem forall_run {steps : List (List String × Operation)} {p : Condition → Prop}
    (hstep : ∀ (before : Group) (step : List String × Operation) (c : Condition), step ∈ steps →
      (∀ c ∈ before.conditions, p c) → step.2.Yields session.catalog before c → p c)
    (hstart : ∀ c ∈ session.tree.conditions, p c) :
    ∀ c ∈ (session.run steps).tree.conditions, p c := by
  induction steps generalizing session with
  | nil => exact hstart
  | cons step steps ih =>
      obtain ⟨offered, operation⟩ := step
      refine ih ?_ ?_
      · intro before step c hm hbefore hyields
        rw [catalog_perform] at hyields
        exact hstep before step c (List.mem_cons_of_mem _ hm) hbefore hyields
      · intro c hc
        exact hstep session.tree _ c List.mem_cons_self hstart (yields_perform hc)

/-- **No operation leaves a stale operator behind**: if the operator of every condition may be used
with its field at the start of a session, then it may after any list of operations, whatever their
arguments and whatever the catalog.  If there is a field in the catalog, no condition is warned of
at the start and all patches keep to the fields of the catalog, then no condition is warned of
after any list of operations. -/
theorem run_keeps_allowed (session : Session) (steps : List (List String × Operation)) :
    (session.tree.IsAllowed session.catalog →
      (session.run steps).tree.IsAllowed session.catalog) ∧
    (session.catalog.fields ≠ [] → session.tree.lint session.catalog = [] →
      (∀ step ∈ steps, step.2.staysIn session.catalog = true) →
      (session.run steps).tree.lint session.catalog = []) := by
  constructor
  · intro hstart
    refine forall_run ?_ hstart
    intro before step c _ hbefore hyields
    exact hyields.isAllowed hbefore
  · intro hfields hlint hstays
    rw [Group.lint_eq_nil_iff] at hlint ⊢
    refine forall_run ?_ hlint
    intro before step c hm hbefore hyields
    rw [Condition.misfit?_eq_none_iff]
    constructor
    · refine hyields.contains_field hfields (hstays step hm) ?_
      intro c hc
      exact (Condition.misfit?_eq_none_iff.1 (hbefore c hc)).1
    · refine hyields.isAllowed ?_
      intro c hc
      exact (Condition.misfit?_eq_none_iff.1 (hbefore c hc)).2

/-- A session with a condition on the state of accounts. -/
def statusSession : Session where
  tree := ⟨"root", .and, [.condition ⟨"c1", "status", .notEquals, .text "Active"⟩]⟩

/-- A new condition is moved to another field by a patch that asks for an operator as well, and then
given one that the field allows; the other condition is asked to take two operators that its field
does not allow. -/
def patchSteps : List (List String × Operation) :=
  [(["c1", "c2"], .addCondition "root"),
    ([], .update "root" "c2" { field := some "age", operator := some .contains }),
    ([], .update "root" "c2" { operator := some .greaterThan, value := some (.text "30") }),
    ([], .update "root" "c1" { operator := some .greaterThan }),
    ([], .update "root" "c1" { field := some "status", operator := some (.unknown "like") })]

theorem patchSteps_keep_allowed :
    (statusSession.run patchSteps).tree.conditions
        = [⟨"c1", "status", .notEquals, .text "Active"⟩, ⟨"c2", "age", .greaterThan, .text "30"⟩] ∧
      (statusSession.run patchSteps).tree.IsAllowed .customers ∧
      (statusSession.run patchSteps).tree.lint .customers = [] := by
  obtain ⟨hallowed, hlint⟩ := run_keeps_allowed statusSession patchSteps
  have hstays : ∀ step ∈ patchSteps, step.2.staysIn .customers = true := by decide +kernel
  refine ⟨by decide +kernel, hallowed ?_, hlint (by decide) (by decide +kernel) hstays⟩
  exact List.forall_mem_singleton.2 (show _ = true by decide +kernel)

end Session

end Authoring

end Audience
