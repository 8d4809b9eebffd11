import Audience.Proofs.Rule.Persistence
import Audience.Proofs.Service.Frame
import Audience.Proofs.Text.Blank
import Audience.Proofs.Uuid.RoundTrip

/-!
**Previews predict segments**.

A preview validates a tree and runs it as it is.  A segment takes a longer way: its rules are
written in JSON and read again, validated, saved, found again by the text of an identifier, and
run then.  Both ways come to the same: the tree that has been read again is the one that was
written, the segment that is found is the one that was saved, and saving changes no records.

Main definitions:

* `Service.proposed` — the segment that is created for a tree.

Main results:

* `Service.result_draft_toJson`, `Service.success_create_iff`, `Service.success_preview_iff` — when
  a segment is created, and when a preview is given;
* `Service.validation_error_iff` — validation refuses the same trees on both ways, for the same
  reason;
* `Service.answer_evaluate_saving` — a segment that has been saved evaluates to what the preview
  shows;
* `Service.preview_predicts_segment` — all of this together.
-/

set_option relaxedAutoImplicit false
set_option autoImplicit false

namespace Audience.Service

variable {service : Service} {world : World} {stamp : Stamp} {name owner : String} {tree : Group}

/-! ### Creating a segment -/

/-- The segment that is **created for a tree**. -/
def proposed (stamp : Stamp) (name owner : String) (tree : Group) : Segment where
  id := stamp.id
  name := Text.trim name
  ownerId := owner
  rules := some tree
  createdAt := stamp.now
  updatedAt := stamp.now

/-- Validation as the service tells of it. -/
def validated (service : Service) (tree : Group) : Except ServiceError Unit :=
  (Attempt.ofExcept .badTree (tree.validate service.settings.limits)).result

theorem result_readRules_toJson (hread : Group.ofJson tree.toJson = .ok tree) :
    (service.readRules (some tree.toJson)).result = (service.validated tree).map fun _ => tree := by
  have hrules : service.readRules (some tree.toJson)
      = (Attempt.ofExcept .malformedTree (Group.ofJson tree.toJson)).andThen fun tree =>
        (Attempt.ofExcept .badTree (tree.validate service.settings.limits)).andThen fun _ =>
        (Attempt.tell ((tree.lint service.catalog).map misfitWarning)).andThen fun _ =>
        .done tree := rfl
  rw [hrules, hread, Attempt.ofExcept, Attempt.done_andThen, Attempt.result_andThen, ← validated]
  cases service.validated tree with
  | error error => rfl
  | ok _ => rfl

/-- A segment is created for an account and with a name that are not blank, unless validation
finds a fault or saving fails. -/
theorem result_draft_toJson (hname : Text.isBlankText name = false)
    (howner : Text.isBlankText owner = false) (hread : Group.ofJson tree.toJson = .ok tree) :
    (service.draft world stamp ⟨name, owner, some tree.toJson⟩).result
      = (service.validated tree).bind fun _ =>
        (guardCall world.outages.save .savingFailed).result.map fun _ =>
          proposed stamp name owner tree := by
  rw [draft, if_neg (by simp [Text.isEmpty_trim, hname]), if_neg (by simp [howner]),
    Attempt.bind_eq, Attempt.result_andThen, result_readRules_toJson hread]
  cases service.validated tree with
  | error error => rfl
  | ok _ => cases world.outages.save <;> rfl

variable (service world stamp) in
theorem success_create_iff (hname : Text.isBlankText name = false)
    (howner : Text.isBlankText owner = false) (hread : Group.ofJson tree.toJson = .ok tree) :
    (service.create world stamp ⟨name, owner, some tree.toJson⟩).answer.success = true
      ↔ service.validated tree = .ok () ∧ world.outages.save = none := by
  rw [answer_create, result_draft_toJson hname howner hread]
  cases service.validated tree with
  | error error => simp [Except.bind, Response.ofResult]
  | ok _ =>
      cases world.outages.save <;>
        simp [Except.bind, Except.map, guardCall, Response.ofResult]

/-! ### Previewing a tree -/

theorem result_candidates_eq (service : Service) (world : World) (tree : Group) (owner : String) :
    (service.candidates world tree owner).result
      = (service.validated tree).bind fun _ =>
        (loadRecords world owner).result.bind fun records => (service.run tree records).result := by
  simp only [candidates, Attempt.bind_eq, Attempt.result_andThen, validated]

theorem success_preview_iff :
    (service.preview world tree owner).answer.success = true
      ↔ service.validated tree = .ok () ∧ world.outages.records = none := by
  rw [preview, answer_finish, result_candidates_eq, loadRecords]
  cases service.validated tree with
  | error error => simp [Except.bind, FilterResult.ofResult]
  | ok _ =>
      cases world.outages.records with
      | some failure => simp [Except.bind, FilterResult.ofResult]
      | none => simp [Except.bind, FilterResult.ofResult, run]

variable (service world stamp) in
/-- Validation refuses the same trees on both ways, for the same reason. -/
theorem validation_error_iff (hname : Text.isBlankText name = false)
    (howner : Text.isBlankText owner = false) (hread : Group.ofJson tree.toJson = .ok tree)
    {error : ServiceError} (hkind : error.error.kind = .validation) :
    (service.candidates world tree owner).result = .error error
      ↔ (service.draft world stamp ⟨name, owner, some tree.toJson⟩).result = .error error := by
  rw [result_draft_toJson hname howner hread, result_candidates_eq, loadRecords]
  cases service.validated tree with
  | error fault => simp [Except.bind]
  | ok _ =>
      -- what may still fail is a call of a store, and that is no matter of validation
      have hstores : error ≠ .recordsUnavailable ∧ error ≠ .savingFailed := by
        constructor <;> rintro rfl <;> cases hkind
      cases world.outages.records <;> cases world.outages.save <;>
        simp [Except.bind, Except.map, guardCall, run, hstores.1.symm, hstores.2.symm]

/-! ### Evaluating a segment that has been saved -/

theorem result_members_of_segment {id : String} {segment : Segment}
    (hsegment : (ownedSegment world id owner).result = .ok segment)
    (hrules : segment.rules = some tree) (hvalid : service.validated tree = .ok ()) :
    (service.members world id owner).result = (service.candidates world tree owner).result := by
  rw [result_candidates_eq, hvalid]
  simp only [members, Attempt.bind_eq, Attempt.result_andThen, hsegment, Except.bind, rulesOf,
    hrules, Attempt.ofOption, Attempt.result_done]

theorem candidates_saving (service : Service) (world : World) (segment : Segment) (tree : Group)
    (owner : String) :
    service.candidates (saving world segment) tree owner = service.candidates world tree owner :=
  rfl

/-- A segment that has been saved with a valid tree evaluates to what the preview shows, unless
segments cannot be looked up. -/
theorem answer_evaluate_saving {segment : Segment} (howner : segment.ownerId = owner)
    (hrules : segment.rules = some tree) (hvalid : service.validated tree = .ok ()) :
    (service.evaluate (saving world segment) segment.id.write owner).answer
      = if world.outages.get.isSome then .failed ServiceError.lookupFailed.publicMessage
        else (service.preview world tree owner).answer := by
  have hsaved : (saving world segment).segmentOf owner segment.id = some segment := by
    rw [World.segmentOf_saving world howner, if_pos rfl]
  have howned := result_ownedSegment (saving world segment) segment.id.write owner
  simp only [segment.id.ofText?_write, hsaved] at howned
  rw [evaluate, answer_finish, preview, answer_finish]
  cases hget : world.outages.get with
  | some failure =>
      have hfails : (saving world segment).outages.get.isSome = true := by
        rw [saving, hget, Option.isSome_some]
      rw [if_pos hfails] at howned
      rw [members, Attempt.bind_eq, Attempt.result_andThen_of_error howned]
      rfl
  | none =>
      have hworks : ¬ (saving world segment).outages.get.isSome = true := by
        rw [saving, hget]
        exact Bool.false_ne_true
      rw [if_neg hworks] at howned
      rw [result_members_of_segment howned hrules hvalid, candidates_saving]
      rfl

/-! ### Both ways -/

/-- **A preview predicts the segment** that is created for the same tree.  Whatever is stored and
whichever calls fail, for an account and with a name that are not blank, and for a tree that has
been read from JSON:

* the preview fails on validation just when the creation does, and with the same message;
* it succeeds just when the creation does, but for records that cannot be had and segments that
  cannot be saved;
* when the creation succeeds, the segment has the tree for its rules and, unless segments cannot be
  looked up, evaluates to the very answer of the preview. -/
theorem preview_predicts_segment (service : Service) (world : World) (stamp : Stamp)
    {name owner : String} {json : Json} {tree : Group} (hname : Text.isBlankText name = false)
    (howner : Text.isBlankText owner = false) (hjson : json.isProper = true)
    (hread : Group.ofJson json = .ok tree) :
    let request : NewSegment := ⟨name, owner, some tree.toJson⟩
    let created := service.create world stamp request
    let previewed := service.preview world tree owner
    (∀ error : ServiceError, error.error.kind = .validation →
      ((service.candidates world tree owner).result = .error error
        ↔ (service.draft world stamp request).result = .error error) ∧
      ((service.draft world stamp request).result = .error error →
        previewed.answer = .failed error.publicMessage ∧
        created.answer = .failure error.publicMessage)) ∧
    (previewed.answer.success = true ∧ world.outages.save = none
      ↔ created.answer.success = true ∧ world.outages.records = none) ∧
    (created.answer.success = true →
      ∃ segment, created.answer.data = some segment ∧ segment.id = stamp.id ∧
        segment.rules = some tree ∧ created.world.segments.get? stamp.id = some segment ∧
        created.world.records = world.records ∧
        (service.evaluate created.world stamp.id.write owner).answer
          = if world.outages.get.isSome then .failed ServiceError.lookupFailed.publicMessage
            else previewed.answer) := by
  have hback : Group.ofJson tree.toJson = .ok tree := by
    rw [Group.ofJson_toJson, Group.stored_eq_self (Group.isStorable_of_ofJson hjson hread)]
  have hcreated := success_create_iff service world stamp hname howner hback
  refine ⟨?_, ?_, ?_⟩
  · intro error hkind
    have hiff := validation_error_iff service world stamp hname howner hback hkind
    refine ⟨hiff, fun hdraft => ⟨?_, ?_⟩⟩
    · rw [preview, answer_finish, hiff.2 hdraft]
      rfl
    · rw [answer_create, hdraft]
      rfl
  · rw [success_preview_iff, hcreated]
    exact and_right_comm
  · intro hsuccess
    obtain ⟨hvalid, hsave⟩ := hcreated.1 hsuccess
    have hdraft : (service.draft world stamp ⟨name, owner, some tree.toJson⟩).result
        = .ok (proposed stamp name owner tree) := by
      rw [result_draft_toJson hname howner hback, hvalid, hsave]
      rfl
    rw [answer_create, world_create, hdraft]
    refine ⟨proposed stamp name owner tree, rfl, rfl, rfl, ?_, rfl, ?_⟩
    · exact SegmentStore.get?_save_self _ _
    · exact answer_evaluate_saving rfl rfl hvalid

/-- Rules for grown-up customers, as lists of fields. -/
def adultRules : Json :=
  .array [.string "root", .string "group", .string "and",
    .array [.array [.string "c1", .string "age", .string "greater_than", .int 17]]]

/-- The tree that is read from them. -/
def adultTree : Group :=
  ⟨"root", .and, [.condition ⟨"c1", "age", .greaterThan, .number (Double.ofInt 17)⟩]⟩

/-- Customers of two accounts. -/
def agedWorld : World :=
  let customers := [("o1", 40), ("o2", 50), ("o1", 5)]
  { (default : World) with
    records := { records := customers.map fun (owner, age) => (owner, ⟨[("age", .int age)]⟩) } }

/-- The preview shows one of the two customers of the account, and so does the segment. -/
theorem adultTree_predicted :
    Text.isBlankText " Adults " = false ∧ Text.isBlankText "o1" = false ∧
      adultRules.isProper = true ∧ Group.ofJson adultRules = .ok adultTree ∧
      (preview {} agedWorld adultTree "o1").answer = .matched [⟨[("age", .int 40)]⟩] 2 ∧
      ∃ segment,
        (create {} agedWorld ⟨Uuid.ofNat 1, default⟩
          ⟨" Adults ", "o1", some adultTree.toJson⟩).answer.data = some segment ∧
        segment.rules = some adultTree ∧
        (evaluate {}
          (create {} agedWorld ⟨Uuid.ofNat 1, default⟩
            ⟨" Adults ", "o1", some adultTree.toJson⟩).world
          (Uuid.ofNat 1).write "o1").answer = .matched [⟨[("age", .int 40)]⟩] 2 := by
  have hname : Text.isBlankText " Adults " = false := by decide
  have howner : Text.isBlankText "o1" = false := by decide
  have hproper : adultRules.isProper = true := by decide
  have hread : Group.ofJson adultRules = .ok adultTree := rfl
  have hshown : (preview {} agedWorld adultTree "o1").answer
      = .matched [⟨[("age", .int 40)]⟩] 2 := by decide +kernel
  obtain ⟨-, -, hevaluated⟩ := preview_predicts_segment {} agedWorld ⟨Uuid.ofNat 1, default⟩
    hname howner hproper hread
  obtain ⟨segment, hdata, -, hrules, -, -, hanswer⟩ := hevaluated (by decide +kernel)
  exact ⟨hname, howner, hproper, hread, hshown, segment, hdata, hrules, hanswer.trans hshown⟩

end Audience.Service
