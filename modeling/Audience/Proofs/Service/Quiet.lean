import Audience.Proofs.Service.Step

/-!
**Requests that fail leave no trace** but in the log: their answers carry nothing, and nothing is
counted for them.

Only a run of rules counts anything before the answer to a request is known, and a run does not
fail.  All else that is done on the way writes to the log at most.

Main definitions:

* `Answer.isBare` — answers that carry nothing but a message;
* `Attempt.IsQuiet`, `Attempt.FailsQuietly` — attempts that count nothing, and those that count
  nothing if they fail.

Main results:

* `Attempt.FailsQuietly.andThen` — what counts only when it is met may come after attempts that
  count nothing;
* `Service.silent_of_failure` — an answer that tells of failure **carries nothing**, and nothing is
  counted for it.
-/

set_option relaxedAutoImplicit false
set_option autoImplicit false

namespace Audience

/-- Does an answer **carry nothing** but a message? -/
def Answer.isBare : Answer → Bool
  | .segment response => response.data.isNone
  | .segments list => list.isEmpty
  | .deleted response => response.data.isNone
  | .records result => result.data.isEmpty && result.total == 0 && result.originalTotal.isNone
  | .query response => response.data.isNone

/-! ### What is counted -/

theorem Signal.counts_append (first second : List Signal) :
    Signal.counts (first ++ second) = Signal.counts first ++ Signal.counts second :=
  List.filterMap_append

theorem Signal.counts_logged (signals : List Signal) (entry : LogEntry) :
    Signal.counts (signals ++ [.log entry]) = Signal.counts signals := by
  rw [Signal.counts_append]
  exact List.append_nil _

namespace Attempt

variable {α β : Type}

/-- An attempt that counts nothing. -/
def IsQuiet (attempt : Attempt α) : Prop := Signal.counts attempt.signals = []

/-- An attempt that counts nothing if it fails. -/
def FailsQuietly (attempt : Attempt α) : Prop :=
  ∀ error, attempt.result = .error error → attempt.IsQuiet

theorem IsQuiet.andThen {first : Attempt α} {next : α → Attempt β} (h : first.IsQuiet)
    (hnext : ∀ value, (next value).IsQuiet) : (first.andThen next).IsQuiet := by
  rw [IsQuiet, Attempt.andThen]
  cases first.result with
  | error error => exact h
  | ok value =>
      rw [Signal.counts_append, h, hnext value]
      rfl

/-- What counts something only when it is met may come after attempts that count nothing. -/
theorem FailsQuietly.andThen {first : Attempt α} {next : α → Attempt β} (h : first.IsQuiet)
    (hnext : ∀ value, (next value).FailsQuietly) : (first.andThen next).FailsQuietly := by
  intro error herror
  -- if the first attempt is met, it is the second one that fails
  rw [result_andThen] at herror
  rw [IsQuiet, Attempt.andThen]
  cases hfirst : first.result with
  | error error => exact h
  | ok value =>
      rw [hfirst] at herror
      rw [Signal.counts_append, h, hnext value error herror]
      rfl

theorem isQuiet_ofExcept {ε : Type} (reason : ε → ServiceError) (result : Except ε α) :
    (ofExcept reason result).IsQuiet := by
  cases result <;> rfl

theorem isQuiet_ofOption (error : ServiceError) (value : Option α) :
    (ofOption error value).IsQuiet := by
  cases value <;> rfl

theorem isQuiet_tell {γ : Type} (entry : γ → LogEntry) (items : List γ) :
    (tell (items.map fun item => .log (entry item))).IsQuiet := by
  rw [IsQuiet, tell, Signal.counts, List.filterMap_map]
  exact List.filterMap_eq_nil_iff.2 fun _ _ => rfl

end Attempt

namespace Service

open Attempt (IsQuiet FailsQuietly isQuiet_ofExcept isQuiet_ofOption isQuiet_tell)

variable (service : Service) (owner : String) (stamp : Stamp) (world : World) (id : String)

theorem isQuiet_ownedSegment : (ownedSegment world id owner).IsQuiet := by
  unfold ownedSegment
  split
  · rfl
  · split
    · rfl
    · split
      · rfl
      · split <;> rfl

theorem isQuiet_readRules (rules : Option Json) : (service.readRules rules).IsQuiet := by
  unfold readRules
  split
  · rfl
  · rfl
  · refine (isQuiet_ofExcept _ _).andThen fun tree => ?_
    refine (isQuiet_ofExcept _ _).andThen fun _ => ?_
    exact (isQuiet_tell _ _).andThen fun _ => rfl

theorem isQuiet_loadRecords : (loadRecords world owner).IsQuiet := by
  unfold loadRecords
  split <;> rfl

theorem isQuiet_guardCall (outage : Option String) (error : ServiceError) :
    (guardCall outage error).IsQuiet := by
  cases outage <;> rfl

theorem isQuiet_draft (request : NewSegment) : (service.draft world stamp request).IsQuiet := by
  unfold draft
  dsimp only
  split
  · rfl
  · split
    · rfl
    · refine (service.isQuiet_readRules _).andThen fun rules => ?_
      exact (isQuiet_guardCall _ _).andThen fun _ => rfl

theorem isQuiet_revise (rules : Option Json) :
    (service.revise world stamp id owner rules).IsQuiet := by
  refine (isQuiet_ownedSegment owner world id).andThen fun segment => ?_
  refine (service.isQuiet_readRules _).andThen fun rules => ?_
  exact (isQuiet_guardCall _ _).andThen fun _ => rfl

theorem isQuiet_deletable : (deletable world id owner).IsQuiet := by
  refine (isQuiet_ownedSegment owner world id).andThen fun segment => ?_
  exact (isQuiet_guardCall _ _).andThen fun _ => rfl

theorem isQuiet_statement : (service.statement world id owner).IsQuiet := by
  refine (isQuiet_ownedSegment owner world id).andThen fun segment => ?_
  refine (isQuiet_ofOption _ _).andThen fun rules => ?_
  refine (isQuiet_tell _ _).andThen fun _ => ?_
  exact isQuiet_ofExcept _ _

theorem failsQuietly_run (rules : Group) (records : List Record) :
    (service.run rules records).FailsQuietly := nofun

theorem failsQuietly_members : (service.members world id owner).FailsQuietly := by
  refine .andThen (isQuiet_ownedSegment owner world id) fun segment => ?_
  refine .andThen (isQuiet_ofOption _ _) fun rules => ?_
  exact .andThen (isQuiet_loadRecords owner world) fun records => service.failsQuietly_run _ _

theorem failsQuietly_candidates (rules : Group) :
    (service.candidates world rules owner).FailsQuietly := by
  refine .andThen (isQuiet_ofExcept _ _) fun _ => ?_
  exact .andThen (isQuiet_loadRecords owner world) fun records => service.failsQuietly_run _ _

theorem counts_warned {signals : List Signal} (h : Signal.counts signals = []) (message : String)
    (fields : List (String × Json)) : Signal.counts (signals ++ [.warn message fields]) = [] :=
  (Signal.counts_logged signals _).trans h

theorem success_of_candidates {rules : Group} {result : FilterResult Record}
    (h : (service.candidates world rules owner).result = .ok result) : result.success = true := by
  obtain ⟨_, -, h⟩ := Attempt.result_andThen_eq_ok.1 h
  obtain ⟨_, -, h⟩ := Attempt.result_andThen_eq_ok.1 h
  obtain rfl := Except.ok.inj h
  rfl

theorem success_of_members {result : FilterResult Record}
    (h : (service.members world id owner).result = .ok result) : result.success = true := by
  obtain ⟨_, -, h⟩ := Attempt.result_andThen_eq_ok.1 h
  obtain ⟨_, -, h⟩ := Attempt.result_andThen_eq_ok.1 h
  obtain ⟨_, -, h⟩ := Attempt.result_andThen_eq_ok.1 h
  obtain rfl := Except.ok.inj h
  rfl

theorem silent_finish {attempt : Attempt (FilterResult Record)} (hquiet : attempt.FailsQuietly)
    (hok : ∀ result, attempt.result = .ok result → result.success = true)
    (h : (finish world id owner attempt).answer.success = false) :
    (Answer.records (finish world id owner attempt).answer).isBare = true ∧
      Signal.counts (finish world id owner attempt).signals = [] := by
  rw [finish] at h ⊢
  cases hresult : attempt.result with
  | error error => exact ⟨rfl, counts_warned (hquiet error hresult) _ _⟩
  | ok result =>
      -- what has been found tells of success
      rw [hresult] at h
      exact absurd ((hok result hresult).symm.trans h) (by decide)

/-- An answer that tells of failure **carries nothing**, and nothing is counted for it. -/
theorem silent_of_failure {request : Request}
    (h : (service.respond owner stamp world request).answer.succeeds = false) :
    (service.respond owner stamp world request).answer.isBare = true ∧
      Signal.counts (service.respond owner stamp world request).signals = [] := by
  cases request with
  | create name rules =>
      have hquiet := service.isQuiet_draft stamp world ⟨name, owner, rules⟩
      rw [respond, create] at h ⊢
      cases hresult : (service.draft world stamp ⟨name, owner, rules⟩).result with
      | error error => exact ⟨rfl, counts_warned hquiet _ _⟩
      | ok segment => rw [hresult] at h; cases h
  | list => cases h
  | preview rules =>
      exact silent_finish owner world _ (service.failsQuietly_candidates owner world rules)
        (fun _ hfound => service.success_of_candidates owner world hfound) h
  | on id task =>
      cases task with
      | get =>
          have hquiet := isQuiet_ownedSegment owner world id
          rw [respond, perform, get] at h ⊢
          cases hresult : (ownedSegment world id owner).result with
          | error error => exact ⟨rfl, hquiet⟩
          | ok segment => rw [hresult] at h; cases h
      | replaceRules rules =>
          have hquiet := service.isQuiet_revise owner stamp world id rules
          rw [respond, perform, replaceRules] at h ⊢
          cases hresult : (service.revise world stamp id owner rules).result with
          | error error => exact ⟨rfl, counts_warned hquiet _ _⟩
          | ok segment => rw [hresult] at h; cases h
      | delete =>
          have hquiet := isQuiet_deletable owner world id
          rw [respond, perform, delete] at h ⊢
          cases hresult : (deletable world id owner).result with
          | error error => exact ⟨rfl, hquiet⟩
          | ok segment => rw [hresult] at h; cases h
      | evaluate =>
          exact silent_finish owner world id (service.failsQuietly_members owner world id)
            (fun _ hfound => service.success_of_members owner world id hfound) h
      | query =>
          have hquiet := service.isQuiet_statement owner world id
          rw [respond, perform, query] at h ⊢
          cases hresult : (service.statement world id owner).result with
          | error error => exact ⟨rfl, counts_warned hquiet _ _⟩
          | ok fragment => rw [hresult] at h; cases h

end Service

end Audience
