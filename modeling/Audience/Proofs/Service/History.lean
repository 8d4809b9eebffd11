import Audience.Proofs.Service.Isolation
import Mathlib.Data.List.Forall2

/-!
**Histories of requests** of many accounts.

The requests of all accounts are met one after another, in whatever order they come.  An account
gets the answers that it would get if the others asked for nothing: between two of its requests the
world stays the same for it, and of two worlds that are the same for it a request makes worlds that
are.

Main definitions:

* `Event`, `Service.serve` — a request in a history, and the answers to the requests of a history;
* `World.Awaits` — the identifiers that come with a history are new;
* `Answer.Same` — answers that differ at most in the order of segments created at the same time.

Main results:

* `Service.awaits_respond` — after a request, the identifiers that are still to come are new;
* `Service.serve_agreeFor` — accounts get the same answers in worlds that are the same for them;
* `Service.serve_filter` — **the requests of others make no difference** to an account.
-/

set_option relaxedAutoImplicit false
set_option autoImplicit false

namespace Audience

variable {owner : String}

/-! ### Histories -/

/-- A **request in a history**, with what comes with it. -/
structure Event where
  /-- The account that makes the request. -/
  owner : String
  /-- A new identifier and the time. -/
  stamp : Stamp
  /-- The request. -/
  request : Request
  deriving DecidableEq, Repr

/-- The answers to the requests of a history, each with the account that gets it. -/
def Service.serve (service : Service) (world : World) : List Event → List (String × Answer)
  | [] => []
  | event :: events =>
    let reply := service.respond event.owner event.stamp world event.request
    (event.owner, reply.answer) :: service.serve reply.world events

/-- The identifiers that come with a history are new: none is in use, and none comes twice. -/
structure World.Awaits (world : World) (events : List Event) : Prop where
  /-- None is in use. -/
  unused : ∀ event ∈ events, world.segments.get? event.stamp.id = none
  /-- None comes twice. -/
  distinct : (events.map (·.stamp.id)).Nodup

theorem World.Awaits.sublist {world : World} {events others : List Event}
    (h : world.Awaits others) (hsub : events.Sublist others) : world.Awaits events :=
  ⟨fun event hevent => h.unused event (hsub.subset hevent), h.distinct.sublist (hsub.map _)⟩

/-- After a request, the identifiers that are still to come are new. -/
theorem Service.awaits_respond (service : Service) {world : World} {event : Event}
    {events : List Event} (h : world.Awaits (event :: events)) :
    (service.respond event.owner event.stamp world event.request).world.Awaits events := by
  have hdistinct := List.nodup_cons.1 h.distinct
  refine ⟨fun next hnext => ?_, hdistinct.2⟩
  have hchange := service.change_respond event.owner event.stamp world event.request
  refine hchange.get?_eq_none (fun heq => hdistinct.1 ?_)
    (h.unused next (List.mem_cons_of_mem event hnext))
  exact List.mem_map.2 ⟨next, hnext, heq⟩

/-! ### The same stamps -/

/-- Answers that are the same but for the order of listed segments created at the same time. -/
inductive Answer.Same : Answer → Answer → Prop
  /-- An answer is the same as itself. -/
  | refl (answer : Answer) : Same answer answer
  /-- Lists of the same segments are, if they agree on the times of creation. -/
  | segments {first second : List Segment} (hperm : first.Perm second)
      (htimes : first.map (·.createdAt) = second.map (·.createdAt)) :
      Same (.segments first) (.segments second)

/-- Segments that are alike, with one and the same stamp, are equal. -/
theorem Segment.Alike.eq {s : Stamp} {a b : Segment} (h : a.Alike s s b) : a = b := by
  have hid : b.id = a.id := by rw [h.id, Equiv.swap_self, Equiv.refl_apply]
  have hcreated : a.createdAt = b.createdAt := by
    rcases h.createdAt with heq | ⟨ha, hb⟩
    · exact heq
    · rw [ha, hb]
  have hupdated : a.updatedAt = b.updatedAt := by
    rcases h.updatedAt with heq | ⟨ha, hb⟩
    · exact heq
    · rw [ha, hb]
  have hname := h.name
  have howner := h.ownerId
  have hrules := h.rules
  clear h
  cases a
  cases b
  simp_all

theorem Segment.Alike.eq_of_rel {s : Stamp} {x y : Option Segment}
    (h : Option.Rel (Segment.Alike s s) x y) : x = y := by
  cases h with
  | none => rfl
  | some h => rw [h.eq]

theorem Answer.Alike.same {s : Stamp} {first second : Answer} (h : first.Alike s s second) :
    first.Same second := by
  unfold Answer.Alike at h
  split at h
  · next x y =>
    obtain ⟨hsuccess, hmessage, hdata⟩ := h
    have heq := Segment.Alike.eq_of_rel hdata
    have hxy : x = y := by
      cases x
      cases y
      simp_all
    rw [hxy]
    exact .refl _
  · exact .segments h.1 h.2
  · rw [h]
    exact .refl _

namespace World

variable {w₁ w₂ w₃ : World}

theorem AgreeFor.trans (h : AgreeFor owner w₁ w₂) (h' : AgreeFor owner w₂ w₃) :
    AgreeFor owner w₁ w₃ :=
  ⟨fun key => (h.segments key).trans (h'.segments key), h.records.trans h'.records,
    h.outages.trans h'.outages⟩

theorem AgreeUpTo.agreeFor {s : Stamp} (h : AgreeUpTo s s owner w₁ w₂) : AgreeFor owner w₁ w₂ := by
  refine ⟨fun key => ?_, h.records, h.outages⟩
  have hkey := h.segments key
  rw [Equiv.swap_self, Equiv.refl_apply] at hkey
  exact Segment.Alike.eq_of_rel hkey

theorem Change.agreeFor {other : String} {new : Uuid} (h : Change other new w₁ w₂)
    (hnew : w₁.segments.get? new = none) (hne : owner ≠ other) : AgreeFor owner w₂ w₁ :=
  ⟨fun key => h.segmentOf_of_ne hnew hne key, by rw [h.records_eq], h.outages_eq⟩

end World

/-! ### Histories without the others -/

namespace Service

variable (service : Service) {w₁ w₂ : World}

/-- An account gets the same answers in worlds that are the same for it, with and without the
requests of the others. -/
theorem serve_agreeFor {events : List Event} (hagree : w₁.AgreeFor owner w₂)
    (h₁ : w₁.Awaits events) (h₂ : w₂.Awaits (events.filter (·.owner = owner))) :
    List.Forall₂ Answer.Same (ownedBy owner (service.serve w₁ events))
      (ownedBy owner (service.serve w₂ (events.filter (·.owner = owner)))) := by
  induction events generalizing w₁ w₂ with
  | nil => exact .nil
  | cons event events ih =>
      have hunused := h₁.unused event List.mem_cons_self
      by_cases howner : event.owner = owner
      · -- both worlds meet the request
        subst howner
        rw [List.filter_cons_of_pos (by simp)] at h₂ ⊢
        have hreply := service.alike_respond
          ⟨hagree, hunused, h₂.unused event List.mem_cons_self⟩ event.request
        have hrest := ih hreply.world.agreeFor (service.awaits_respond h₁)
          (service.awaits_respond h₂)
        simpa [serve, ownedBy] using ⟨hreply.answer.same, hrest⟩
      · -- only the first one does, and stays the same for the account
        rw [List.filter_cons_of_neg (by simpa using howner)] at h₂ ⊢
        have hchange := service.change_respond event.owner event.stamp w₁ event.request
        have hsame := hchange.agreeFor hunused (Ne.symm howner)
        have hrest := ih (hsame.trans hagree) (service.awaits_respond h₁) h₂
        simpa [serve, ownedBy, howner] using hrest

/-- **The requests of others make no difference** to an account: it gets the answers that it would
get if they asked for nothing. -/
theorem serve_filter {world : World} {events : List Event} (h : world.Awaits events) :
    List.Forall₂ Answer.Same (ownedBy owner (service.serve world events))
      (ownedBy owner (service.serve world (events.filter (·.owner = owner)))) :=
  service.serve_agreeFor (World.AgreeFor.refl owner world) h (h.sublist List.filter_sublist)

end Service

end Audience
