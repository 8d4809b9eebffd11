import Audience.Service.Basic

/-!
**The operations of the segment service**.

Every operation gives back an answer for the caller, the world after it and its signals.  Requests
that cannot be met leave the segments as they are, and tell the caller no more than the public
message of the error.  A segment of another account is not told from one that is not there.

Main definitions:

* `Service.ownedSegment`, `Service.readRules`, `Service.loadRecords` — what operations need first;
* `Service.create`, `Service.list`, `Service.get`, `Service.replaceRules`, `Service.delete` — the
  care of segments;
* `Service.evaluate`, `Service.query`, `Service.preview` — what belongs to a segment;
* `Reply` — an answer, a world and signals.
-/

set_option relaxedAutoImplicit false
set_option autoImplicit false

namespace Audience

/-- An **answer**, the world after it and the signals. -/
structure Reply (α : Type) where
  /-- The answer for the caller. -/
  answer : α
  /-- The world after the operation. -/
  world : World
  /-- The signals. -/
  signals : List Signal

/-- A text as a field of a log entry. -/
def LogEntry.text (name value : String) : String × Json := (name, .string value)

/-- A warning in the log. -/
def Signal.warn (message : String) (fields : List (String × Json)) : Signal :=
  .log { level := .warn, message := message, fields := fields }

/-- A notice in the log. -/
def Signal.info (message : String) (fields : List (String × Json)) : Signal :=
  .log { level := .info, message := message, fields := fields }

namespace Service

open LogEntry (text)

/-! ### What operations need first -/

/-- The **segment with an identifier**, for the account that has it. -/
def ownedSegment (world : World) (id owner : String) : Attempt Segment :=
  match Uuid.ofText? id with
  | none => .fail .segmentNotFound
  | some key =>
    match world.outages.get with
    | some failure =>
      ⟨.error .lookupFailed,
        [.warn "segment lookup failed" [text "segment_id" id, text "error" failure]]⟩
    | none =>
      match world.segments.get? key with
      | none => .fail .segmentNotFound
      | some segment =>
        if segment.ownerId = owner then .done segment
        else
          ⟨.error .segmentNotFound,
            [.warn "segment requested by non-owner" [text "segment_id" id, text "owner_id" owner]]⟩

/-- The warning about a condition that does not fit the catalog. -/
def misfitWarning (misfit : String × Misfit) : Signal :=
  .warn misfit.2.message [text "condition_id" misfit.1]

/-- The **tree that rules in JSON are**, if it may be stored. -/
def readRules (service : Service) (rules : Option Json) : Attempt Group :=
  match rules with
  | none | some .null => .fail .noRules
  | some json => do
    let tree ← Attempt.ofExcept .malformedTree (Group.ofJson json)
    Attempt.ofExcept .badTree (tree.validate service.settings.limits)
    Attempt.tell ((tree.lint service.catalog).map misfitWarning)
    return tree

/-- The **records of an account**. -/
def loadRecords (world : World) (owner : String) : Attempt (List Record) :=
  match world.outages.records with
  | some failure =>
    ⟨.error .recordsUnavailable,
      [.warn "record lookup failed" [text "owner_id" owner, text "error" failure]]⟩
  | none => .done (world.records.recordsFor owner)

/-- A call of a store that is not made when it fails. -/
def guardCall (outage : Option String) (error : ServiceError) : Attempt Unit :=
  match outage with
  | some _ => .fail error
  | none => .done ()

/-- The rules of a segment. -/
def rulesOf (segment : Segment) : Attempt Group := Attempt.ofOption .segmentWithoutRules segment.rules

/-! ### The care of segments -/

/-- The segment that a request asks for. -/
def draft (service : Service) (world : World) (stamp : Stamp) (request : NewSegment) :
    Attempt Segment := do
  let name := Text.trim request.name
  if name.isEmpty then Attempt.fail .nameRequired else
  if Text.isBlankText request.ownerId then Attempt.fail .ownerRequired else
  let rules ← service.readRules request.rules
  guardCall world.outages.save .savingFailed
  return { id := stamp.id, name := name, ownerId := request.ownerId, rules := some rules,
           createdAt := stamp.now, updatedAt := stamp.now }

/-- The world with a segment saved. -/
def saving (world : World) (segment : Segment) : World :=
  { world with segments := world.segments.save segment }

/-- **Creates** a segment. -/
def create (service : Service) (world : World) (stamp : Stamp) (request : NewSegment) :
    Reply (Response Segment) :=
  let attempt := service.draft world stamp request
  match attempt.result with
  | .ok segment =>
    ⟨.ok "Segment created successfully" segment, saving world segment,
      attempt.signals ++ [.count .segmentsCreated 1,
        .info "segment created"
          [text "segment_id" segment.id.write, text "owner_id" segment.ownerId]]⟩
  | .error error =>
    ⟨.failure error.publicMessage, world,
      attempt.signals ++ [.warn "segment creation rejected"
        [text "owner_id" request.ownerId, text "error" error.message]]⟩

/-- **Lists** the segments of an account; none if they cannot be had. -/
def list (world : World) (owner : String) : Reply (List Segment) :=
  match world.outages.list with
  | some failure =>
    ⟨[], world,
      [.warn "failed to list segments" [text "owner_id" owner, text "error" failure]]⟩
  | none => ⟨world.segments.listByOwner owner, world, []⟩

/-- **Gets** a segment. -/
def get (world : World) (id owner : String) : Reply (Response Segment) :=
  let attempt := ownedSegment world id owner
  match attempt.result with
  | .ok segment => ⟨.ok "Segment found" segment, world, attempt.signals⟩
  | .error error => ⟨.failure error.publicMessage, world, attempt.signals⟩

/-- A segment with other rules. -/
def revise (service : Service) (world : World) (stamp : Stamp) (id owner : String)
    (rules : Option Json) : Attempt Segment := do
  let segment ← ownedSegment world id owner
  let rules ← service.readRules rules
  guardCall world.outages.save .savingFailed
  return { segment with rules := some rules, updatedAt := stamp.now }

/-- **Replaces the rules** of a segment. -/
def replaceRules (service : Service) (world : World) (stamp : Stamp) (id owner : String)
    (rules : Option Json) : Reply (Response Segment) :=
  let attempt := service.revise world stamp id owner rules
  match attempt.result with
  | .ok segment =>
    ⟨.ok "Segment updated successfully" segment, saving world segment,
      attempt.signals ++ [.info "segment rules replaced"
        [text "segment_id" segment.id.write, text "owner_id" owner]]⟩
  | .error error =>
    ⟨.failure error.publicMessage, world,
      attempt.signals ++ [.warn "segment update rejected"
        [text "segment_id" id, text "owner_id" owner, text "error" error.message]]⟩

/-- The segment to delete. -/
def deletable (world : World) (id owner : String) : Attempt Segment := do
  let segment ← ownedSegment world id owner
  guardCall world.outages.delete .deletingFailed
  return segment

/-- **Deletes** a segment. -/
def delete (world : World) (id owner : String) : Reply (Response Unit) :=
  let attempt := deletable world id owner
  match attempt.result with
  | .ok segment =>
    ⟨.ok "Segment deleted successfully" (),
      { world with segments := world.segments.erase segment.id }, attempt.signals⟩
  | .error error => ⟨.failure error.publicMessage, world, attempt.signals⟩

/-! ### What belongs to a segment -/

/-- The verdicts of a tree on records. -/
def verdicts (service : Service) (rules : Group) (records : List Record) : List Verdict :=
  records.map fun record => rules.evaluate service.settings.emptyGroups record

/-- **Runs** rules on records: every anomaly is reported, and then the evaluation counted. -/
def run (service : Service) (rules : Group) (records : List Record) :
    Attempt (FilterResult Record) :=
  let found := rules.filter service.settings.emptyGroups records
  let anomalies := (service.verdicts rules records).flatMap (·.anomalies)
  ⟨.ok (.matched found records.length),
    anomalies.flatMap service.sink.report
      ++ [.count .evaluations 1, .count .recordsMatched found.length]⟩

/-- The answer to a request for records, and what the log says of it. -/
def finish (world : World) (id owner : String) (attempt : Attempt (FilterResult Record)) :
    Reply (FilterResult Record) :=
  match attempt.result with
  | .ok result =>
    ⟨result, world,
      attempt.signals ++ [.info "segment evaluated"
        [text "segment_id" id, text "owner_id" owner, ("matched", .int result.total),
         ("total", .int (result.originalTotal.getD 0))]]⟩
  | .error error =>
    ⟨.failed error.publicMessage, world,
      attempt.signals ++ [.warn "segment evaluation failed"
        [text "segment_id" id, text "owner_id" owner, text "error" error.message]]⟩

/-- The records of an account that belong to a segment. -/
def members (service : Service) (world : World) (id owner : String) :
    Attempt (FilterResult Record) := do
  let segment ← ownedSegment world id owner
  let rules ← rulesOf segment
  let records ← loadRecords world owner
  service.run rules records

/-- **Evaluates** a segment on the records of its account. -/
def evaluate (service : Service) (world : World) (id owner : String) :
    Reply (FilterResult Record) :=
  finish world id owner (service.members world id owner)

/-- The name that the log gives to a tree that is not stored. -/
def previewName : String := "preview"

/-- The records of an account that belong to a tree that is not stored. -/
def candidates (service : Service) (world : World) (rules : Group) (owner : String) :
    Attempt (FilterResult Record) := do
  Attempt.ofExcept .badTree (rules.validate service.settings.limits)
  let records ← loadRecords world owner
  service.run rules records

/-- **Evaluates a tree** that is not stored on the records of an account. -/
def preview (service : Service) (world : World) (rules : Group) (owner : String) :
    Reply (FilterResult Record) :=
  finish world previewName owner (service.candidates world rules owner)

/-- The condition of a query that says what the rules of a segment say. -/
def statement (service : Service) (world : World) (id owner : String) : Attempt Sql.Fragment := do
  let segment ← ownedSegment world id owner
  let rules ← rulesOf segment
  let compiled := rules.compile service.settings.emptyGroups
  Attempt.tell (compiled.warnings.map fun warning => .log warning.entry)
  Attempt.ofExcept .noQuery (compiled.predicate.toSql service.catalog)

/-- The **query** for what belongs to a segment. -/
def query (service : Service) (world : World) (id owner : String) :
    Reply (Response Sql.Query) :=
  let attempt := service.statement world id owner
  match attempt.result with
  | .ok fragment =>
    ⟨.ok "Segment query rendered" (fragment.select service.settings.table), world,
      attempt.signals⟩
  | .error error =>
    ⟨.failure error.publicMessage, world,
      attempt.signals ++ [.warn "segment query rejected"
        [text "segment_id" id, text "owner_id" owner, text "error" error.message]]⟩

end Service

end Audience
