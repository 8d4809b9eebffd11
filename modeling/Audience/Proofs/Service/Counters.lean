import Audience.Proofs.Rule.Visit
import Audience.Proofs.Service.History
import Audience.Proofs.Service.Quiet
import Mathlib.Algebra.Ring.Nat

/-!
**Counters account for a run**: what is counted for requests can be told from the answers.

A run is a list of requests, between which anything may become of the world: records come in, calls
of the stores fail or work again.  What one request adds to the counters is a matter of its own
answer and of the world that it was made in.  Nothing is counted for a request that has failed, and
a successful evaluation counts, besides itself and what it has found, the conditions that were
visited without a comparison.

Main definitions:

* `Occasion`, `Turn`, `Service.turns` — a request of a run, the same with its reply, and **all turns
  of a run**;
* `Turn.hasCreated`, `Turn.found?` — has a segment been created, and what has an evaluation found?
* `Turn.tree?`, `Turn.visits` — the tree that is evaluated, and the conditions that are visited on
  the records of the account;
* `Turn.entries` — what a turn **adds to the counters**;
* `Service.ComesToRun` — an attempt that finds and counts what a run of rules does;
* `FilterResult.SelectsFrom` — an answer whose records are some of those that were looked at.

Main results:

* `Service.counts_run` — a run of rules counts what is visited, itself and what it finds;
* `Service.counts_turn` — every request counts what its turn adds, and nothing else;
* `Service.records_turn`, `Service.selectsFrom_turn` — the records of an answer are records of the
  account, in their order;
* `Service.counters_account` — **the counters of a run** are sums over its answers.
-/

set_option relaxedAutoImplicit false
set_option autoImplicit false

namespace Audience

/-! ### Sums -/

namespace Counter

/-- What entries add to a counter. -/
def sum (counter : Counter) (entries : List (Counter × Nat)) : Nat :=
  (entries.map fun entry => if entry.1 = counter then entry.2 else 0).sum

theorem sum_append (counter : Counter) (first second : List (Counter × Nat)) :
    counter.sum (first ++ second) = counter.sum first + counter.sum second := by
  rw [sum, List.map_append, List.sum_append_nat]
  rfl

end Counter

theorem Signal.total_eq_sum (counter : Counter) (signals : List Signal) :
    Signal.total counter signals = counter.sum (Signal.counts signals) := by
  induction signals with
  | nil => rfl
  | cons signal signals ih =>
      cases signal with
      | log entry => exact ih
      | anomaly a => exact ih
      | count c amount =>
          rw [total, ih]
          by_cases hc : c = counter
          · simp [counts, Counter.sum, hc]
          · simp [counts, Counter.sum, hc]

theorem Signal.counts_flatMap {α : Type} (signals : α → List Signal) (items : List α) :
    Signal.counts (items.flatMap signals) = items.flatMap fun item => counts (signals item) :=
  List.filterMap_flatMap

/-! ### Runs -/

/-- A **request of a run**, and what becomes of the world before it. -/
structure Occasion where
  /-- What others make of the world meanwhile: records come in, calls fail or work again. -/
  interim : World → World
  /-- The request, with what comes with it. -/
  event : Event

/-- A request with its reply, and the world in which it was made. -/
structure Turn where
  /-- The world in which the request was made. -/
  world : World
  /-- The request. -/
  event : Event
  /-- The reply to it. -/
  reply : Reply Answer

/-- The turn of a request in a world. -/
def Service.turn (service : Service) (world : World) (event : Event) : Turn :=
  ⟨world, event, service.respond event.owner event.stamp world event.request⟩

/-- The turns of a run. -/
def Service.turns (service : Service) (world : World) : List Occasion → List Turn
  | [] => []
  | occasion :: occasions =>
    let turn := service.turn (occasion.interim world) occasion.event
    turn :: service.turns turn.reply.world occasions

theorem Service.exists_turn_of_mem_turns {service : Service} {world : World}
    {occasions : List Occasion} {turn : Turn} (h : turn ∈ service.turns world occasions) :
    ∃ before event, turn = service.turn before event := by
  induction occasions generalizing world with
  | nil => cases h
  | cons occasion occasions ih =>
      rcases List.mem_cons.1 h with rfl | h
      · exact ⟨_, _, rfl⟩
      · exact ih h

namespace Turn

/-- Has a segment been created? -/
def hasCreated (turn : Turn) : Bool :=
  match turn.event.request, turn.reply.answer with
  | .create .., .segment response => response.success
  | _, _ => false

/-- What an evaluation has found, of a segment or a preview, if the answer tells of success. -/
def found? (turn : Turn) : Option (FilterResult Record) :=
  match turn.event.request, turn.reply.answer with
  | .preview _, .records result | .on _ .evaluate, .records result =>
    if result.success then some result else none
  | _, _ => none

/-- The tree that is evaluated: that of a preview, or the rules of the segment that the account
has under an identifier. -/
def tree? (turn : Turn) : Option Group :=
  match turn.event.request with
  | .preview rules => some rules
  | .on id .evaluate => do
    let key ← Uuid.ofText? id
    let segment ← turn.world.segmentOf turn.event.owner key
    segment.rules
  | _ => none

/-- The conditions that a successful evaluation visits, each with the record that it is visited
on. -/
def visits (policy : EmptyGroupPolicy) (turn : Turn) : List (Record × Condition) :=
  match turn.found?, turn.tree? with
  | some _, some tree =>
    (turn.world.records.recordsFor turn.event.owner).flatMap fun record =>
      (tree.visited policy record).map fun c => (record, c)
  | _, _ => []

end Turn

/-- An answer that selects from records: it says how many records it holds, and if it tells of
success these are some of those that were looked at, in their order, and it says how many that
were. -/
def FilterResult.SelectsFrom (records : List Record) (result : FilterResult Record) : Prop :=
  result.total = result.data.length ∧
    (result.success = true → result.originalTotal = some records.length ∧
      result.total ≤ records.length ∧ result.data.Sublist records)

/-- Is a condition resolved by an anomaly of a kind on a record? -/
def Condition.isResolvedBy (kind : String) (record : Record) (c : Condition) : Bool :=
  (c.anomaly? record).any (·.kind.name == kind)

/-- The entry for an anomaly. -/
def Anomaly.counted (a : Anomaly) : Counter × Nat := (.anomalies a.kind.name, 1)

/-- What a turn **adds to the counters**. -/
def Turn.entries (policy : EmptyGroupPolicy) (turn : Turn) : List (Counter × Nat) :=
  (if turn.hasCreated then [(.segmentsCreated, 1)] else [])
    ++ ((turn.visits policy).filterMap fun visit => visit.2.anomaly? visit.1).map Anomaly.counted
    ++ match turn.found? with
      | some result => [(.evaluations, 1), (.recordsMatched, result.total)]
      | none => []

/-! ### What one request counts -/

theorem Attempt.IsQuiet.counts_andThen {α β : Type} {first : Attempt α} (h : first.IsQuiet)
    {next : α → Attempt β} {value : α} (hvalue : first.result = .ok value) :
    Signal.counts (first.andThen next).signals = Signal.counts (next value).signals := by
  rw [Attempt.andThen, hvalue]
  dsimp only
  rw [Signal.counts_append, h, List.nil_append]

/-- Does a request ask for something that is counted? -/
def Request.isCounted : Request → Bool
  | .create .. | .preview _ | .on _ .evaluate => true
  | .list | .on _ .get | .on _ (.replaceRules _) | .on _ .delete | .on _ .query => false

namespace Turn

variable {policy : EmptyGroupPolicy} {turn : Turn}

theorem succeeds_of_hasCreated (h : turn.hasCreated = true) :
    turn.reply.answer.succeeds = true ∧ turn.event.request.isCounted = true := by
  unfold hasCreated at h
  split at h
  · next hrequest hanswer =>
    rw [hrequest, hanswer]
    exact ⟨h, rfl⟩
  · cases h

theorem succeeds_of_found? {result : FilterResult Record} (h : turn.found? = some result) :
    turn.reply.answer.succeeds = true ∧ turn.event.request.isCounted = true := by
  unfold found? at h
  split at h
  · next hrequest hanswer =>
    rw [hrequest, hanswer]
    exact ⟨(Option.ite_none_right_eq_some.1 h).1, rfl⟩
  · next hrequest hanswer =>
    rw [hrequest, hanswer]
    exact ⟨(Option.ite_none_right_eq_some.1 h).1, rfl⟩
  · cases h

theorem entries_eq_nil
    (h : ¬ (turn.reply.answer.succeeds = true ∧ turn.event.request.isCounted = true)) :
    turn.entries policy = [] := by
  have hcreated : turn.hasCreated = false := Bool.eq_false_iff.2 (h ∘ succeeds_of_hasCreated)
  have hfound : turn.found? = none :=
    Option.eq_none_iff_forall_ne_some.2 fun _ hfound => h (succeeds_of_found? hfound)
  simp [entries, visits, hcreated, hfound]

end Turn

namespace Service

variable {service : Service} {world : World}

theorem anomalies_verdicts (service : Service) (rules : Group) (records : List Record) :
    (service.verdicts rules records).flatMap (·.anomalies)
      = (records.flatMap fun record =>
          (rules.visited service.settings.emptyGroups record).map fun c => (record, c)).filterMap
        fun visit => visit.2.anomaly? visit.1 := by
  rw [verdicts, List.flatMap_map, List.filterMap_flatMap]
  refine List.flatMap_congr fun record _ => ?_
  rw [List.filterMap_map]
  exact rules.node.anomalies_evaluate _ record

theorem counts_report (anomalies : List Anomaly) :
    Signal.counts (anomalies.flatMap Sink.log.report) = anomalies.map Anomaly.counted := by
  rw [Signal.counts_flatMap, List.map_eq_flatMap]
  rfl

/-- A run of rules counts what is visited, itself and what it finds. -/
theorem counts_run (hsink : service.sink = .log) (rules : Group) (records : List Record) :
    Signal.counts (service.run rules records).signals
      = ((records.flatMap fun record =>
          (rules.visited service.settings.emptyGroups record).map fun c => (record, c)).filterMap
            fun visit => visit.2.anomaly? visit.1).map Anomaly.counted
        ++ [(.evaluations, 1),
          (.recordsMatched, (rules.filter service.settings.emptyGroups records).length)] := by
  rw [run, Signal.counts_append, hsink, counts_report, anomalies_verdicts]
  rfl

/-- An attempt comes to a run of rules on the records of an account, and counts the same. -/
structure ComesToRun (service : Service) (world : World) (owner : String) (rules : Group)
    (attempt : Attempt (FilterResult Record)) : Prop where
  /-- It finds the same. -/
  result : attempt.result = (service.run rules (world.records.recordsFor owner)).result
  /-- It counts the same. -/
  counts : Signal.counts attempt.signals
    = Signal.counts (service.run rules (world.records.recordsFor owner)).signals

theorem ComesToRun.andThen {α : Type} {owner : String} {rules : Group} {first : Attempt α}
    {next : α → Attempt (FilterResult Record)} {value : α} (hquiet : first.IsQuiet)
    (hvalue : first.result = .ok value) (h : service.ComesToRun world owner rules (next value)) :
    service.ComesToRun world owner rules (first.andThen next) := by
  refine ⟨?_, (hquiet.counts_andThen hvalue).trans h.counts⟩
  rw [Attempt.result_andThen, hvalue]
  exact h.result

theorem comesToRun_loadRecords {owner : String} {rules : Group} {records : List Record}
    (h : (loadRecords world owner).result = .ok records) :
    service.ComesToRun world owner rules ((loadRecords world owner).andThen (service.run rules)) := by
  refine .andThen (isQuiet_loadRecords owner world) h ?_
  rw [result_loadRecords] at h
  split at h
  · cases h
  · obtain rfl := Except.ok.inj h
    exact ⟨rfl, rfl⟩

theorem comesToRun_candidates {owner : String} {rules : Group} {result : FilterResult Record}
    (h : (service.candidates world rules owner).result = .ok result) :
    service.ComesToRun world owner rules (service.candidates world rules owner) := by
  obtain ⟨_, hvalid, h⟩ := Attempt.result_andThen_eq_ok.1 h
  obtain ⟨records, hrecords, -⟩ := Attempt.result_andThen_eq_ok.1 h
  exact .andThen (Attempt.isQuiet_ofExcept _ _) hvalid (comesToRun_loadRecords hrecords)

/-- What belongs to a segment is found by a run of the rules of the segment that the account
has. -/
theorem comesToRun_members {id owner : String} {result : FilterResult Record}
    (h : (service.members world id owner).result = .ok result) :
    ∃ key segment rules, Uuid.ofText? id = some key ∧ world.segmentOf owner key = some segment ∧
      segment.rules = some rules ∧
      service.ComesToRun world owner rules (service.members world id owner) := by
  obtain ⟨segment, hsegment, h⟩ := Attempt.result_andThen_eq_ok.1 h
  obtain ⟨rules, hrules, h⟩ := Attempt.result_andThen_eq_ok.1 h
  obtain ⟨records, hrecords, -⟩ := Attempt.result_andThen_eq_ok.1 h
  obtain ⟨key, hid, hkey⟩ := exists_key_of_ownedSegment hsegment
  refine ⟨key, segment, rules, hid, hkey, ?_, ?_⟩
  · unfold rulesOf at hrules
    cases hr : segment.rules with
    | none => simp [hr, Attempt.ofOption] at hrules
    | some tree => simpa [hr, Attempt.ofOption] using hrules
  · exact .andThen (isQuiet_ownedSegment owner world id) hsegment
      (.andThen (Attempt.isQuiet_ofOption _ _) hrules (comesToRun_loadRecords hrecords))

/-- A request for what is not counted counts nothing. -/
theorem counts_of_not_isCounted (owner : String) (stamp : Stamp) {request : Request}
    (h : request.isCounted = false) :
    Signal.counts (service.respond owner stamp world request).signals = [] := by
  cases request with
  | create name rules => cases h
  | preview rules => cases h
  | list =>
      rw [respond, list]
      cases world.outages.list <;> rfl
  | on id task =>
      cases task with
      | evaluate => cases h
      | get =>
          have hquiet := isQuiet_ownedSegment owner world id
          rw [respond, perform, get]
          cases (ownedSegment world id owner).result <;> exact hquiet
      | replaceRules rules =>
          have hquiet := service.isQuiet_revise owner stamp world id rules
          rw [respond, perform, replaceRules]
          cases (service.revise world stamp id owner rules).result with
          | error error => exact counts_warned hquiet _ _
          | ok segment => exact (Signal.counts_logged _ _).trans hquiet
      | delete =>
          have hquiet := isQuiet_deletable owner world id
          rw [respond, perform, delete]
          cases (deletable world id owner).result <;> exact hquiet
      | query =>
          have hquiet := service.isQuiet_statement owner world id
          rw [respond, perform, query]
          cases (service.statement world id owner).result with
          | error error => exact counts_warned hquiet _ _
          | ok fragment => exact hquiet

/-! ### Evaluations -/

theorem ComesToRun.eq_matched {owner : String} {rules : Group}
    {attempt : Attempt (FilterResult Record)} {result : FilterResult Record}
    (h : service.ComesToRun world owner rules attempt) (hresult : attempt.result = .ok result) :
    result = .matched
      (rules.filter service.settings.emptyGroups (world.records.recordsFor owner))
      (world.records.recordsFor owner).length :=
  Except.ok.inj (hresult.symm.trans h.result)

/-- A turn whose request succeeds by a run of the tree that it asks for counts what it adds. -/
theorem counts_turn_of_run (hsink : service.sink = .log) {turn : Turn} {id : String}
    {attempt : Attempt (FilterResult Record)}
    (hreply : turn.reply = (finish turn.world id turn.event.owner attempt).map .records)
    (hruns : ∀ result, attempt.result = .ok result → ∃ rules, turn.tree? = some rules ∧
      service.ComesToRun turn.world turn.event.owner rules attempt)
    (hcreated : turn.hasCreated = false)
    (hfound : ∀ result, turn.reply.answer = .records result → result.success = true →
      turn.found? = some result)
    (h : turn.reply.answer.succeeds = true) :
    Signal.counts turn.reply.signals = turn.entries service.settings.emptyGroups := by
  have hanswer : turn.reply.answer = .records (.ofResult attempt.result) := by
    rw [hreply, Reply.answer_map, answer_finish]
  rw [hanswer] at h
  obtain ⟨result, hresult⟩ := exists_found_of_success h
  obtain ⟨rules, htree, hrun⟩ := hruns result hresult
  rw [hresult] at hanswer h
  have hsignals : Signal.counts turn.reply.signals = Signal.counts attempt.signals := by
    rw [hreply, finish, hresult]
    exact Signal.counts_logged _ _
  rw [hsignals, hrun.counts, counts_run hsink, Turn.entries, Turn.visits, hcreated,
    hfound result hanswer h, htree, hrun.eq_matched hresult]
  rfl

section

variable (owner : String) (stamp : Stamp)

/-- A request for a new segment counts the segment, if it is created. -/
theorem counts_turn_create (name : String) (rules : Option Json) (policy : EmptyGroupPolicy)
    (h : (service.turn world ⟨owner, stamp, .create name rules⟩).reply.answer.succeeds = true) :
    Signal.counts (service.turn world ⟨owner, stamp, .create name rules⟩).reply.signals
      = (service.turn world ⟨owner, stamp, .create name rules⟩).entries policy := by
  have hquiet := service.isQuiet_draft stamp world ⟨name, owner, rules⟩
  have hanswer : (service.turn world ⟨owner, stamp, .create name rules⟩).reply.answer
      = .segment (.ofResult "Segment created successfully"
        (service.draft world stamp ⟨name, owner, rules⟩).result) := by
    rw [turn, respond, Reply.answer_map, answer_create]
  rw [hanswer] at h
  obtain ⟨segment, hsegment⟩ := exists_ok_of_success h
  have hcreated : (service.turn world ⟨owner, stamp, .create name rules⟩).hasCreated = true := by
    rw [Turn.hasCreated, hanswer]
    exact h
  have hfound : (service.turn world ⟨owner, stamp, .create name rules⟩).found? = none := rfl
  have hsignals : (service.turn world ⟨owner, stamp, .create name rules⟩).reply.signals
      = (service.draft world stamp ⟨name, owner, rules⟩).signals ++ [.count .segmentsCreated 1,
        .info "segment created" [LogEntry.text "segment_id" segment.id.write,
          LogEntry.text "owner_id" segment.ownerId]] := by
    rw [turn, respond, create, hsegment]
    rfl
  rw [Turn.entries, Turn.visits, hfound, hcreated, hsignals, Signal.counts_append, hquiet]
  rfl

theorem counts_turn_preview (hsink : service.sink = .log) (rules : Group)
    (h : (service.turn world ⟨owner, stamp, .preview rules⟩).reply.answer.succeeds = true) :
    Signal.counts (service.turn world ⟨owner, stamp, .preview rules⟩).reply.signals
      = (service.turn world ⟨owner, stamp, .preview rules⟩).entries
        service.settings.emptyGroups := by
  refine counts_turn_of_run hsink rfl (fun _ hresult => ?_) rfl (fun result hanswer hfound => ?_) h
  · exact ⟨rules, rfl, comesToRun_candidates hresult⟩
  · rw [Turn.found?, hanswer]
    exact if_pos hfound

theorem counts_turn_evaluate (hsink : service.sink = .log) (id : String)
    (h : (service.turn world ⟨owner, stamp, .on id .evaluate⟩).reply.answer.succeeds = true) :
    Signal.counts (service.turn world ⟨owner, stamp, .on id .evaluate⟩).reply.signals
      = (service.turn world ⟨owner, stamp, .on id .evaluate⟩).entries
        service.settings.emptyGroups := by
  refine counts_turn_of_run hsink rfl (fun _ hresult => ?_) rfl (fun result hanswer hfound => ?_) h
  · obtain ⟨key, segment, rules, hid, hsegment, hrules, hruns⟩ := comesToRun_members hresult
    exact ⟨rules, by simp [Turn.tree?, turn, hid, hsegment, hrules], hruns⟩
  · rw [Turn.found?, hanswer]
    exact if_pos hfound

end

/-- Every request counts what its turn adds, and nothing else. -/
theorem counts_turn (hsink : service.sink = .log) (world : World) (event : Event) :
    Signal.counts (service.turn world event).reply.signals
      = (service.turn world event).entries service.settings.emptyGroups := by
  cases hsuccess : (service.turn world event).reply.answer.succeeds with
  | false =>
      rw [Turn.entries_eq_nil (fun h => Bool.false_ne_true (hsuccess.symm.trans h.1))]
      exact (service.silent_of_failure _ _ _ hsuccess).2
  | true =>
      cases hcounted : event.request.isCounted with
      | false =>
          rw [Turn.entries_eq_nil (fun h => Bool.false_ne_true (hcounted.symm.trans h.2))]
          exact counts_of_not_isCounted _ _ hcounted
      | true =>
          obtain ⟨owner, stamp, request⟩ := event
          cases request with
          | create name rules => exact counts_turn_create owner stamp name rules _ hsuccess
          | preview rules => exact counts_turn_preview owner stamp hsink rules hsuccess
          | list => cases hcounted
          | on id task =>
              cases task with
              | evaluate => exact counts_turn_evaluate owner stamp hsink id hsuccess
              | get => cases hcounted
              | replaceRules rules => cases hcounted
              | delete => cases hcounted
              | query => cases hcounted

/-! ### What an answer says of records -/

/-- An attempt that comes to a run if it is met tells what belongs to some rules among the records
of the account, or why there is nothing to tell. -/
theorem ofResult_cases {owner : String} {attempt : Attempt (FilterResult Record)}
    (h : ∀ result, attempt.result = .ok result →
      ∃ rules, service.ComesToRun world owner rules attempt) :
    (∃ error, FilterResult.ofResult attempt.result = .failed error) ∨
      ∃ rules : Group, FilterResult.ofResult attempt.result
        = .matched (rules.filter service.settings.emptyGroups (world.records.recordsFor owner))
          (world.records.recordsFor owner).length := by
  cases hresult : attempt.result with
  | error error => exact .inl ⟨_, rfl⟩
  | ok result =>
      obtain ⟨rules, hruns⟩ := h result hresult
      exact .inr ⟨rules, hruns.eq_matched hresult⟩

/-- Every answer to a request for records tells what belongs to some rules among the records of
the account, or why there is nothing to tell. -/
theorem records_turn {event : Event} {result : FilterResult Record}
    (h : (service.turn world event).reply.answer = .records result) :
    (∃ error, result = .failed error) ∨
      ∃ rules : Group, result
        = .matched (rules.filter service.settings.emptyGroups (world.records.recordsFor event.owner))
          (world.records.recordsFor event.owner).length := by
  obtain ⟨owner, stamp, request⟩ := event
  cases request with
  | create name rules => cases h
  | list => cases h
  | preview rules =>
      rw [turn, respond, Reply.answer_map, preview, answer_finish] at h
      obtain rfl := Answer.records.inj h
      exact ofResult_cases fun _ hfound => ⟨rules, comesToRun_candidates hfound⟩
  | on id task =>
      cases task with
      | evaluate =>
          rw [turn, respond, perform, Reply.answer_map, evaluate, answer_finish] at h
          obtain rfl := Answer.records.inj h
          have hruns : ∀ found, (service.members world id owner).result = .ok found →
              ∃ rules, service.ComesToRun world owner rules (service.members world id owner) := by
            intro found hfound
            obtain ⟨-, -, rules, -, -, -, hruns⟩ := comesToRun_members hfound
            exact ⟨rules, hruns⟩
          exact ofResult_cases hruns
      | get => cases h
      | replaceRules rules => cases h
      | delete => cases h
      | query => cases h

/-- Every answer to a request for records selects from the records of the account. -/
theorem selectsFrom_turn {event : Event} {result : FilterResult Record}
    (h : (service.turn world event).reply.answer = .records result) :
    result.SelectsFrom (world.records.recordsFor event.owner) := by
  rcases records_turn h with ⟨error, rfl⟩ | ⟨rules, rfl⟩
  · exact ⟨rfl, nofun⟩
  · have hsub : (rules.filter service.settings.emptyGroups
        (world.records.recordsFor event.owner)).Sublist (world.records.recordsFor event.owner) :=
      List.filter_sublist
    exact ⟨rfl, fun _ => ⟨rfl, hsub.length_le, hsub⟩⟩

end Service

/-! ### Sums over a run -/

theorem Counter.sum_map_counted (counter : Counter) (anomalies : List Anomaly) :
    counter.sum (anomalies.map Anomaly.counted)
      = anomalies.countP fun a => decide (Counter.anomalies a.kind.name = counter) := by
  induction anomalies with
  | nil => rfl
  | cons a anomalies ih =>
      rw [List.countP_cons, ← ih]
      simp only [sum, List.map_cons, List.sum_cons, Anomaly.counted, decide_eq_true_eq]
      exact Nat.add_comm _ _

namespace Turn

variable (policy : EmptyGroupPolicy) (turns : List Turn)

/-- What a turn adds to a counter comes from the segment that it creates, from the conditions that
it visits, and from what it finds. -/
theorem sum_entries (counter : Counter) (turn : Turn) :
    counter.sum (turn.entries policy)
      = counter.sum (if turn.hasCreated then [(.segmentsCreated, 1)] else [])
        + ((turn.visits policy).filterMap fun visit => visit.2.anomaly? visit.1).countP
          (fun a => decide (Counter.anomalies a.kind.name = counter))
        + counter.sum (match turn.found? with
          | some result => [(.evaluations, 1), (.recordsMatched, result.total)]
          | none => []) := by
  rw [entries, Counter.sum_append, Counter.sum_append, Counter.sum_map_counted]

theorem sum_segmentsCreated :
    Counter.segmentsCreated.sum (turns.flatMap (·.entries policy)) = turns.countP (·.hasCreated) := by
  induction turns with
  | nil => rfl
  | cons turn turns ih =>
      rw [List.flatMap_cons, Counter.sum_append, ih, sum_entries]
      cases hcreated : turn.hasCreated <;> cases turn.found? <;>
        simp [Counter.sum, hcreated, Nat.add_comm]

theorem sum_evaluations :
    Counter.evaluations.sum (turns.flatMap (·.entries policy))
      = (turns.filterMap (·.found?)).length := by
  induction turns with
  | nil => rfl
  | cons turn turns ih =>
      rw [List.flatMap_cons, Counter.sum_append, ih, sum_entries]
      cases hfound : turn.found? <;> cases turn.hasCreated <;>
        simp [Counter.sum, hfound, Nat.add_comm]

theorem sum_recordsMatched :
    Counter.recordsMatched.sum (turns.flatMap (·.entries policy))
      = ((turns.filterMap (·.found?)).map (·.total)).sum := by
  induction turns with
  | nil => rfl
  | cons turn turns ih =>
      rw [List.flatMap_cons, Counter.sum_append, ih, sum_entries]
      cases hfound : turn.found? <;> cases turn.hasCreated <;> simp [Counter.sum, hfound]

/-- The conditions that are resolved by an anomaly of a kind add one for each visit. -/
theorem sum_anomalies (kind : String) :
    (Counter.anomalies kind).sum (turns.flatMap (·.entries policy))
      = (turns.flatMap (·.visits policy)).countP fun visit => visit.2.isResolvedBy kind visit.1 := by
  have hvisits : ∀ visits : List (Record × Condition),
      ((visits.filterMap fun visit => visit.2.anomaly? visit.1).countP
          fun a => decide (Counter.anomalies a.kind.name = .anomalies kind))
        = visits.countP fun visit => visit.2.isResolvedBy kind visit.1 := by
    intro visits
    rw [List.countP_filterMap]
    refine List.countP_congr fun visit _ => ?_
    unfold Condition.isResolvedBy
    cases visit.2.anomaly? visit.1 <;> simp
  induction turns with
  | nil => rfl
  | cons turn turns ih =>
      rw [List.flatMap_cons, Counter.sum_append, ih, sum_entries, hvisits, List.flatMap_cons,
        List.countP_append]
      cases turn.found? <;> cases turn.hasCreated <;> simp [Counter.sum]

end Turn

namespace Service

theorem counts_turns {service : Service} (hsink : service.sink = .log) (world : World)
    (occasions : List Occasion) :
    Signal.counts ((service.turns world occasions).flatMap (·.reply.signals))
      = (service.turns world occasions).flatMap (·.entries service.settings.emptyGroups) := by
  rw [Signal.counts_flatMap]
  refine List.flatMap_congr fun turn hturn => ?_
  obtain ⟨before, event, rfl⟩ := exists_turn_of_mem_turns hturn
  exact counts_turn hsink before event

/-- **The counters account for a run**, whatever becomes of the world between its requests.  As many
segments are counted as have been created, as many evaluations as have succeeded, as many records as
these have found, and of each kind as many anomalies as conditions were visited that one of that
kind has resolved.  Every answer to a request for records says how many records it holds; if it
tells of success, they are some of the records of the account, in their order. -/
theorem counters_account (settings : Settings) (catalog : Catalog) (world : World)
    (occasions : List Occasion) :
    let service : Service := ⟨settings, catalog, .log⟩
    let turns := service.turns world occasions
    let signals := turns.flatMap (·.reply.signals)
    Signal.total .segmentsCreated signals = turns.countP (·.hasCreated) ∧
      Signal.total .evaluations signals = (turns.filterMap (·.found?)).length ∧
      Signal.total .recordsMatched signals = ((turns.filterMap (·.found?)).map (·.total)).sum ∧
      (∀ kind, Signal.total (.anomalies kind) signals
        = (turns.flatMap (·.visits settings.emptyGroups)).countP
          fun visit => visit.2.isResolvedBy kind visit.1) ∧
      ∀ turn ∈ turns, ∀ result, turn.reply.answer = .records result →
        result.SelectsFrom (turn.world.records.recordsFor turn.event.owner) := by
  intro service turns signals
  have hcounts : Signal.counts signals = turns.flatMap (·.entries settings.emptyGroups) :=
    counts_turns rfl world occasions
  refine ⟨?_, ?_, ?_, fun kind => ?_, fun turn hturn result hanswer => ?_⟩
  · rw [Signal.total_eq_sum, hcounts, Turn.sum_segmentsCreated]
  · rw [Signal.total_eq_sum, hcounts, Turn.sum_evaluations]
  · rw [Signal.total_eq_sum, hcounts, Turn.sum_recordsMatched]
  · rw [Signal.total_eq_sum, hcounts, Turn.sum_anomalies]
  · obtain ⟨before, event, rfl⟩ := exists_turn_of_mem_turns hturn
    exact selectsFrom_turn hanswer

/-- Rules on two conditions, the second one with an operator that is not known. -/
def oddRules (logic : Logic) : Group where
  id := "root"
  logic := logic
  children :=
    [.condition ⟨"c1", "status", .equals, .text "active"⟩,
     .condition ⟨"c2", "age", .unknown "near", .number (Double.ofInt 30)⟩]

/-- An account with three records creates a segment and evaluates it.  A request for a segment
without a name is refused, so is an evaluation by another account, and one amid a failure of the
records; then the first account looks at a preview. -/
def busyRun : List Occasion :=
  let records : List Record :=
    [⟨[("age", .int 36), ("status", .string "active")]⟩,
     ⟨[("age", .int 3), ("status", .string "closed")]⟩, ⟨[("age", .int 40)]⟩]
  let arrive (world : World) : World :=
    { world with records := { records := records.map fun record => ("o1", record) } }
  let fail (world : World) : World := { world with outages := { records := some "disk full" } }
  let recover (world : World) : World := { world with outages := {} }
  let segment := (Uuid.ofNat 1).write
  let rules := some (oddRules .and).toJson
  [(arrive, "o1", .create "Actives" rules), (id, "o1", .create " " rules),
    (id, "o1", .on segment .evaluate), (id, "o2", .on segment .evaluate),
    (fail, "o1", .on segment .evaluate), (recover, "o1", .preview (oddRules .or))].zipIdx.map
      fun ((interim, owner, request), place) =>
        ⟨interim, owner, ⟨Uuid.ofNat (place + 1), default⟩, request⟩

/-- The segment finds the first record.  The second one fails its first condition, and the third one
has no status, so that no more of them is visited; all three meet the rules of the preview. -/
theorem busyRun_accounted :
    let signals := (turns {} {} busyRun).flatMap (·.reply.signals)
    Signal.total .segmentsCreated signals = 1 ∧ Signal.total .evaluations signals = 2 ∧
      Signal.total .recordsMatched signals = 4 ∧
      Signal.total (.anomalies "missing_field") signals = 2 ∧
      Signal.total (.anomalies "unknown_operator") signals = 3 := by
  intro signals
  obtain ⟨hcreated, hevaluated, hmatched, hanomalies, -⟩ :=
    counters_account {} .customers {} busyRun
  exact ⟨hcreated.trans (by decide +kernel), hevaluated.trans (by decide +kernel),
    hmatched.trans (by decide +kernel), (hanomalies "missing_field").trans (by decide +kernel),
    (hanomalies "unknown_operator").trans (by decide +kernel)⟩

end Service

end Audience
