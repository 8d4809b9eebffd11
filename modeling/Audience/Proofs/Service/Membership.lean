import Audience.Proofs.Record.Table
import Audience.Proofs.Service.Request
import Audience.Proofs.Sql.Agreement

/-!
**The two ways to the members of a segment**: evaluating it, and running its query.

Evaluating a segment goes through the records of its account.  The query goes through a table, and
its condition says nothing of accounts.  Where the table holds the records of all accounts, the
query selects the members of the segment, and with them every record of another account that meets
the rules.

Main definitions:

* `Service.condition` — the condition that the query of a segment has.

Main results:

* `Service.answer_evaluate_of_segment`, `Service.answer_query_of_segment` — what the two come to;
* `Service.query_selects_members_iff` — **the query selects the members and nothing else** just
  when no record of another account meets the rules.
-/

set_option relaxedAutoImplicit false
set_option autoImplicit false

namespace Audience.Service

open Sql

variable {service : Service} {world : World} {owner id : String} {segment : Segment} {rules : Group}

/-- The **condition of the query** for what belongs to a tree. -/
def condition (service : Service) (rules : Group) : Expression :=
  (rules.compile service.settings.emptyGroups).predicate.expression

/-- Evaluating a segment finds the records of its account that meet its rules. -/
theorem answer_evaluate_of_segment (hsegment : (ownedSegment world id owner).result = .ok segment)
    (hrules : segment.rules = some rules) (hrecords : world.outages.records = none) :
    (service.evaluate world id owner).answer
      = .matched ((world.records.recordsFor owner).filter
          (rules.accepts service.settings.emptyGroups))
        (world.records.recordsFor owner).length := by
  -- nothing on the way to the records fails
  have hmembers : (service.members world id owner).result
      = (service.run rules (world.records.recordsFor owner)).result := by
    simp only [members, Attempt.bind_eq, Attempt.result_andThen, hsegment, Except.bind, rulesOf,
      hrules, Attempt.ofOption, Attempt.result_done, loadRecords, hrecords]
  rw [evaluate, answer_finish, hmembers]
  rfl

/-- The query for a segment whose rules fit the catalog is over the table of the settings, with
the condition for the rules. -/
theorem answer_query_of_segment (hsegment : (ownedSegment world id owner).result = .ok segment)
    (hrules : segment.rules = some rules) (hlint : rules.lint service.catalog = []) :
    (service.query world id owner).answer
      = .ok "Segment query rendered"
        ((service.condition rules).fragment.select service.settings.table) := by
  have hsql := Group.toSql_of_lint hlint service.settings.emptyGroups
  have hstatement : (service.statement world id owner).result
      = .ok (service.condition rules).fragment := by
    simp only [statement, Attempt.bind_eq, Attempt.result_andThen, hsegment, Except.bind, rulesOf,
      hrules, Attempt.ofOption, Attempt.result_done, Attempt.result_tell, hsql, Attempt.ofExcept]
    rfl
  rw [answer_query, hstatement]
  rfl

theorem readSelect_condition (service : Service) (rules : Group) (table : String) :
    readSelect ((service.condition rules).fragment.select table)
      = some (table, service.condition rules) :=
  readSelect_select (Predicate.isReadable_expression (rules.node.isFolded_compile _)) table

/-- A database that goes by the logic of three truth values selects the rows that the compiled
rules accept, if the columns hold values of their types and no parameter is null. -/
theorem selects_condition {row : Record} (hlint : rules.lint service.catalog = [])
    (hrow : service.catalog.admits row = true)
    (hnull : Json.null ∉ (service.condition rules).params) :
    (service.condition rules).selects row
      = (rules.compile service.settings.emptyGroups).predicate.accepts row :=
  (Group.says_compile hlint hrow hnull).selects_eq

/-- **The query selects the members and nothing else** just when no record of another account meets
the rules.  The query runs over the table of all records, in a database whose conditions hold of
the rows there that the compiled rules accept. -/
theorem query_selects_members_iff {key : Uuid} {holds : Expression → Record → Bool}
    (hid : Uuid.ofText? id = some key) (hsegment : world.segmentOf owner key = some segment)
    (hrules : segment.rules = some rules) (hlint : rules.lint service.catalog = [])
    (houtages : world.outages = {})
    (hholds : ∀ row ∈ world.records.table, holds (service.condition rules) row.2
      = (rules.compile service.settings.emptyGroups).predicate.accepts row.2) :
    ∃ query e found,
      (service.query world id owner).answer = .ok "Segment query rendered" query ∧
      readSelect query = some (service.settings.table, e) ∧
      (service.evaluate world id owner).answer
        = .matched found (world.records.recordsFor owner).length ∧
      ownedBy owner (world.records.select (holds e)) = found ∧
      (world.records.select (holds e) = found.map (owner, ·) ↔
        ∀ other ≠ owner, ∀ record ∈ world.records.recordsFor other,
          rules.accepts service.settings.emptyGroups record = false) := by
  have howned := result_ownedSegment_of_segmentOf hid hsegment (by rw [houtages])
  -- the database selects what the rules accept
  have hselect : world.records.select (holds (service.condition rules))
      = world.records.select (rules.accepts service.settings.emptyGroups) := by
    refine List.filter_congr fun row hrow => ?_
    rw [hholds row hrow]
    exact rules.node.accepts_compile _ _
  refine ⟨_, _, _, answer_query_of_segment howned hrules hlint,
    readSelect_condition service rules _,
    answer_evaluate_of_segment howned hrules (by rw [houtages]), ?_, ?_⟩
  · rw [hselect, RecordStore.ownedBy_select]
  · rw [hselect, RecordStore.select_eq_iff]

/-! ### A record of another account -/

/-- An active customer. -/
def activeRecord (name : String) : Record :=
  ⟨[("name", .string name), ("status", .string "active")]⟩

/-- Two accounts with an active customer each. -/
def twoAccounts : RecordStore :=
  (RecordStore.insert {} "o1" (activeRecord "Ada")).insert "o2" (activeRecord "Eve")

/-- Rules for active customers. -/
def activeRules : Group where
  id := "root"
  logic := .and
  children := [.condition ⟨"c1", "status", .equals, .text "active"⟩]

/-- One of the accounts has created a segment of active customers. -/
def sharedWorld : World :=
  (respond {} "o1" ⟨Uuid.ofNat 1, default⟩ { (default : World) with records := twoAccounts }
    (.create "Active" (some activeRules.toJson))).world

/-- The segment that the account has created. -/
def activeSegment : Segment where
  id := Uuid.ofNat 1
  name := "Active"
  ownerId := "o1"
  rules := some activeRules
  createdAt := default
  updatedAt := default

theorem segmentOf_sharedWorld :
    sharedWorld.segmentOf "o1" (Uuid.ofNat 1) = some activeSegment := by decide +kernel

theorem ofText?_activeSegment : Uuid.ofText? activeSegment.id.write = some (Uuid.ofNat 1) := by
  decide +kernel

theorem lint_activeRules : activeRules.lint ({} : Service).catalog = [] := by decide +kernel

/-- The query of the segment selects the members and nothing else just when the other account has
no active customer. -/
theorem sharedWorld_selects_members_iff :
    ∃ query e found,
      (Service.query {} sharedWorld activeSegment.id.write "o1").answer
        = .ok "Segment query rendered" query ∧
      readSelect query = some ("customers", e) ∧
      (evaluate {} sharedWorld activeSegment.id.write "o1").answer = .matched found 1 ∧
      ownedBy "o1" (sharedWorld.records.select e.selects) = found ∧
      (sharedWorld.records.select e.selects = found.map ("o1", ·) ↔
        ∀ other ≠ "o1", ∀ record ∈ sharedWorld.records.recordsFor other,
          activeRules.accepts .inclusive record = false) := by
  -- the database goes by three truth values, and the rows hold values of their types
  have hrows : ∀ row ∈ sharedWorld.records.table, Catalog.customers.admits row.2 = true := by
    decide +kernel
  exact query_selects_members_iff ofText?_activeSegment segmentOf_sharedWorld rfl lint_activeRules
    rfl fun row hrow => selects_condition lint_activeRules (hrows row hrow) (by decide +kernel)

/-- The query of the segment **selects the customer of the other account**, who is no member. -/
theorem sharedWorld_selects_foreign :
    ∃ query e,
      (Service.query {} sharedWorld activeSegment.id.write "o1").answer
        = .ok "Segment query rendered" query ∧
      readSelect query = some ("customers", e) ∧
      (evaluate {} sharedWorld activeSegment.id.write "o1").answer
        = .matched [activeRecord "Ada"] 1 ∧
      sharedWorld.records.select e.selects
        = [("o1", activeRecord "Ada"), ("o2", activeRecord "Eve")] := by
  have howned :=
    result_ownedSegment_of_segmentOf ofText?_activeSegment segmentOf_sharedWorld rfl
  refine ⟨_, _, answer_query_of_segment howned rfl lint_activeRules, readSelect_condition _ _ _,
    answer_evaluate_of_segment howned rfl rfl, ?_⟩
  decide +kernel

end Audience.Service
