import Audience.Proofs.Envelope.RoundTrip
import Audience.Proofs.Segment.RoundTrip
import Audience.Proofs.Service.Counters
import Audience.Proofs.Service.Membership

/-!
**Callers read the envelopes they get as they were meant**, but for one.

An account gets its answers in JSON and reads them again.  Lists of segments and queries are only
written; all other answers are envelopes that can be read.  What is absent in an envelope is left
out, so what an answer holds is kept apart from nothing as long as it is not written as null.
Segments and records never are; but a segment that has been deleted is answered with a value without
content, which is written as null and read as absent.

Main definitions:

* `Request.getsEnvelope` — is a request answered by an envelope that can be read?
* `Answer.reread` — an answer **read again** from what is written of it;
* `Answer.IsStorable` — the rules in an answer come back as they were.

Main results:

* `Answer.reread_segment`, `Answer.reread_deleted`, `Answer.reread_records` — what comes back of
  each kind of envelope;
* `Service.envelopes_read_back` — every envelope that the service gives **comes back as it was,
  unless it says that a segment has been deleted**;
* `Service.deletion_read_as_empty` — one that does not.
-/

set_option relaxedAutoImplicit false
set_option autoImplicit false

namespace Audience

/-! ### Envelopes -/

/-- A value without content in JSON. -/
def Json.ofUnit (_ : Unit) : Json := .null

/-- Is a request answered by an envelope that can be read?  Lists of segments come without one,
and queries are only written. -/
def Request.getsEnvelope : Request → Bool
  | .list | .on _ .query => false
  | .create .. | .preview _ | .on _ .get | .on _ (.replaceRules _) | .on _ .delete
  | .on _ .evaluate => true

theorem Response.without_data_eq_self_iff {α : Type} {response : Response α} :
    { response with data := none } = response ↔ response.data = none := by
  obtain ⟨success, message, data⟩ := response
  simp [eq_comm]

namespace Answer

/-- An answer **read again** from what is written of it, if it is an envelope that can be read. -/
def reread : Answer → Option (Decoded Answer)
  | .segment response =>
    some ((Response.ofJson Segment.ofJson (response.toJson Segment.toJson)).map .segment)
  | .deleted response =>
    some ((Response.ofJson Json.asUnit (response.toJson Json.ofUnit)).map .deleted)
  | .records result =>
    some ((FilterResult.ofJson Record.ofJson (result.toJson Record.toJson)).map .records)
  | .segments _ | .query _ => none

/-- Do the rules in an answer come back as they were? -/
def IsStorable : Answer → Prop
  | .segment response => ∀ segment ∈ response.data, segment.IsStorable
  | .segments _ | .deleted _ | .records _ | .query _ => True

/-- An answer with a segment comes back as it was. -/
theorem reread_segment {response : Response Segment}
    (h : ∀ segment ∈ response.data, segment.IsStorable) :
    (segment response).reread = some (.ok (.segment response)) := by
  have hread : Response.ofJson Segment.ofJson (response.toJson Segment.toJson) = .ok response := by
    rw [Response.ofJson_toJson_iff response fun segment hsegment =>
      Segment.ofJson_toJson_of_isStorable (h segment hsegment)]
    exact fun segment _ => nofun
  rw [reread, hread, Decoded.map_ok]

/-- An answer to a deletion comes back without what it holds. -/
theorem reread_deleted (response : Response Unit) :
    (deleted response).reread = some (.ok (.deleted { response with data := none })) := by
  have hnone : (response.data.filter fun data => !(Json.ofUnit data).isNull) = none := by
    cases response.data <;> rfl
  have hunit : ∀ data ∈ response.data, Json.asUnit (Json.ofUnit data) = .ok data := fun _ _ => rfl
  rw [reread, Response.ofJson_toJson response hunit, hnone, Decoded.map_ok]

/-- An answer with records comes back as it was, if its numbers are numbers of the machine. -/
theorem reread_records {result : FilterResult Record} (htotal : result.total < 2 ^ 64)
    (horiginal : ∀ total ∈ result.originalTotal, total < 2 ^ 64) :
    (records result).reread = some (.ok (.records result)) := by
  have hrecords : ∀ record ∈ result.data, Record.ofJson record.toJson = .ok record :=
    fun _ _ => rfl
  rw [reread, FilterResult.ofJson_toJson result hrecords htotal horiginal, Decoded.map_ok]

end Answer

/-! ### What the service answers -/

namespace Service

variable {service : Service} {world : World} {owner : String} {stamp : Stamp} {request : Request}

theorem isSome_reread_respond (service : Service) (owner : String) (stamp : Stamp) (world : World)
    (request : Request) :
    (service.respond owner stamp world request).answer.reread.isSome = request.getsEnvelope := by
  cases request with
  | create name rules => rfl
  | list => rfl
  | preview rules => rfl
  | on id task => cases task <;> rfl

theorem reread_records_respond {result : FilterResult Record}
    (h : (service.respond owner stamp world request).answer = .records result)
    (hrecords : (world.records.recordsFor owner).length < 2 ^ 64) :
    (Answer.records result).reread = some (.ok (.records result)) := by
  have hturn : (service.turn world ⟨owner, stamp, request⟩).reply.answer = .records result := h
  rcases records_turn hturn with ⟨error, rfl⟩ | ⟨rules, rfl⟩
  · exact Answer.reread_records (Nat.two_pow_pos 64) nofun
  · have hfound : (rules.filter service.settings.emptyGroups
        (world.records.recordsFor owner)).length ≤ (world.records.recordsFor owner).length :=
      List.length_filter_le _ _
    refine Answer.reread_records (Nat.lt_of_le_of_lt hfound hrecords) ?_
    rintro total ⟨⟩
    exact hrecords

/-- An answer to a deletion holds something just if it tells of success. -/
theorem data_respond_deleted {response : Response Unit}
    (h : (service.respond owner stamp world request).answer = .deleted response) :
    response.data = none ↔ response.success = false := by
  cases request with
  | create name rules => cases h
  | list => cases h
  | preview rules => cases h
  | on id task =>
      cases task with
      | delete =>
          rw [respond, perform, Reply.answer_map, answer_delete] at h
          obtain rfl := Answer.deleted.inj h
          cases (deletable world id owner).result <;> simp [Except.map, Response.ofResult,
            Response.ok, Response.failure]
      | get => cases h
      | replaceRules rules => cases h
      | evaluate => cases h
      | query => cases h

/-- **Envelopes are read again as they were, unless a segment has been deleted.**  A request for
anything but a list or a query gets an envelope that can be read, if the rules in it come back as
they were and there are no more records than the machine can count.  What is read is the answer
itself just if the answer is none that says that a segment has been deleted; what is read of such an
answer holds nothing. -/
theorem envelopes_read_back (service : Service) (owner : String) (stamp : Stamp) (world : World)
    (request : Request) (hrecords : (world.records.recordsFor owner).length < 2 ^ 64)
    (hrules : (service.respond owner stamp world request).answer.IsStorable) :
    let answer := (service.respond owner stamp world request).answer
    answer.reread.isSome = request.getsEnvelope ∧
      ∀ again ∈ answer.reread,
        (again = .ok answer ↔
          ∀ response, answer = .deleted response → response.success = false) ∧
        ∀ response, answer = .deleted response →
          again = .ok (.deleted { response with data := none }) := by
  have hsome := isSome_reread_respond service owner stamp world request
  generalize hanswer : (service.respond owner stamp world request).answer = answer at hrules hsome ⊢
  refine ⟨hsome, fun again hagain => ?_⟩
  cases answer with
  | segment response =>
      obtain rfl := Option.some.inj ((Answer.reread_segment hrules).symm.trans hagain)
      exact ⟨⟨nofun, fun _ => rfl⟩, nofun⟩
  | deleted response =>
      obtain rfl := Option.some.inj ((Answer.reread_deleted response).symm.trans hagain)
      constructor
      · rw [Except.ok.injEq, Answer.deleted.injEq, Response.without_data_eq_self_iff,
          data_respond_deleted hanswer]
        constructor
        · rintro h _ ⟨⟩
          exact h
        · exact fun h => h response rfl
      · rintro _ ⟨⟩
        rfl
  | records result =>
      obtain rfl := Option.some.inj ((reread_records_respond hanswer hrecords).symm.trans hagain)
      exact ⟨⟨nofun, fun _ => rfl⟩, nofun⟩
  | segments list => cases hagain
  | query response => cases hagain

/-- The account that has created the segment reads it again, and so it does with what belongs to
it. -/
theorem sharedWorld_envelopes_read_back :
    let id := activeSegment.id.write
    let got := (respond {} "o1" ⟨Uuid.ofNat 2, default⟩ sharedWorld (.on id .get)).answer
    let found := (respond {} "o1" ⟨Uuid.ofNat 2, default⟩ sharedWorld (.on id .evaluate)).answer
    got = .segment (.ok "Segment found" activeSegment) ∧ got.reread = some (.ok got) ∧
      found = .records (.matched [activeRecord "Ada"] 1) ∧ found.reread = some (.ok found) := by
  intro id got found
  have hrecords : (sharedWorld.records.recordsFor "o1").length < 2 ^ 64 := by decide +kernel
  have hback {request : Request} {answer : Answer}
      (hanswer : (respond {} "o1" ⟨Uuid.ofNat 2, default⟩ sharedWorld request).answer = answer)
      (henvelope : request.getsEnvelope = true) (hrules : answer.IsStorable)
      (hkept : ∀ response, answer ≠ .deleted response) : answer.reread = some (.ok answer) := by
    subst hanswer
    obtain ⟨hsome, hagain⟩ :=
      envelopes_read_back {} "o1" ⟨Uuid.ofNat 2, default⟩ sharedWorld request hrecords hrules
    obtain ⟨again, h⟩ := Option.isSome_iff_exists.1 (hsome.trans henvelope)
    obtain rfl := (hagain again h).1.2 fun response hdeleted => absurd hdeleted (hkept response)
    exact h
  have hgot : got = .segment (.ok "Segment found" activeSegment) := by decide +kernel
  have hfound : found = .records (.matched [activeRecord "Ada"] 1) := by decide +kernel
  have hrules : (Answer.segment (.ok "Segment found" activeSegment)).IsStorable := by
    rintro _ ⟨⟩ rules ⟨⟩
    exact (by decide : activeRules.IsStorable)
  rw [hgot, hfound]
  exact ⟨rfl, hback hgot rfl hrules nofun, rfl, hback hfound rfl trivial nofun⟩

/-- The account deletes the segment; the answer holds a value without content, and what is read of
it **holds nothing**. -/
theorem deletion_read_as_empty :
    let request : Request := .on activeSegment.id.write .delete
    let answer := (respond {} "o1" ⟨Uuid.ofNat 2, default⟩ sharedWorld request).answer
    answer = .deleted ⟨true, some "Segment deleted successfully", some ()⟩ ∧
      answer.reread = some (.ok (.deleted ⟨true, some "Segment deleted successfully", none⟩)) ∧
      answer.reread ≠ some (.ok answer) := by
  intro request answer
  have hanswer : answer = .deleted ⟨true, some "Segment deleted successfully", some ()⟩ := by
    decide +kernel
  rw [hanswer]
  exact ⟨rfl, rfl, by decide⟩

end Service

end Audience
