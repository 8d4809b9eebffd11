import Audience.Evaluation
import Audience.Predicate.Compilation
import Audience.Text.Visible

/-!
**Signals**: what is told to those who run the engine.

What happens is noted in a log, counted, or, where evaluation is observed, handed on as it is.
Signals are values: an operation gives back the list of its signals.

Main definitions:

* `LogEntry` — a level, a message and named values;
* `Counter` — what is counted;
* `Signal` — a log entry, an addition to a counter, or an anomaly handed on;
* `Sink`, `Sink.report` — where anomalies go to;
* `AnomalyKind.written` — a kind of anomaly with what is known about it;
* `CompileWarning.entry`, `Anomaly.entry` — warnings and anomalies as log entries.
-/

set_option relaxedAutoImplicit false
set_option autoImplicit false

namespace Audience

/-- How much a log entry matters. -/
inductive Level where
  | debug
  | info
  | warn
  deriving DecidableEq, Repr

/-- The name of a level. -/
def Level.name : Level → String
  | debug => "debug"
  | info => "info"
  | warn => "warn"

/-- An **entry of the log**. -/
structure LogEntry where
  /-- How much it matters. -/
  level : Level
  /-- What has happened. -/
  message : String
  /-- What it has happened to. -/
  fields : List (String × Json) := []
  /-- What is known of the cause, for those who look into it; the last of the named values. -/
  detail : Option String := none
  deriving DecidableEq, Repr

/-- What is **counted**. -/
inductive Counter where
  | segmentsCreated
  | evaluations
  | recordsMatched
  | anomalies (kind : String)
  deriving DecidableEq, Repr

/-- The name of a counter. -/
def Counter.name : Counter → String
  | segmentsCreated => "segmentation.segments_created"
  | evaluations => "segmentation.evaluations"
  | recordsMatched => "segmentation.records_matched"
  | anomalies kind => "segmentation.anomalies,kind=" ++ kind

/-- A **signal** of an operation. -/
inductive Signal where
  | log (entry : LogEntry)
  /-- An addition to a counter, which may be zero. -/
  | count (counter : Counter) (amount : Nat)
  | anomaly (anomaly : Anomaly)
  deriving DecidableEq, Repr

namespace Signal

/-- The log entries among signals. -/
def entries (signals : List Signal) : List LogEntry :=
  signals.filterMap fun
    | log entry => some entry
    | _ => none

/-- The additions to counters among signals. -/
def counts (signals : List Signal) : List (Counter × Nat) :=
  signals.filterMap fun
    | count counter amount => some (counter, amount)
    | _ => none

/-- The anomalies handed on among signals. -/
def handedOn (signals : List Signal) : List Anomaly :=
  signals.filterMap fun
    | anomaly a => some a
    | _ => none

/-- What signals add to a counter. -/
def total (counter : Counter) : List Signal → Nat
  | [] => 0
  | count c amount :: signals =>
    if c = counter then amount + total counter signals else total counter signals
  | _ :: signals => total counter signals

end Signal

/-! ### Anomalies and warnings -/

/-- A kind of anomaly **written out**, with what is known about it between quotation marks. -/
def AnomalyKind.written : AnomalyKind → String
  | missingField => "MissingField"
  | unknownOperator identifier => "UnknownOperator(" ++ Text.visible identifier ++ ")"
  | coercion cause => "Coercion(" ++ Text.visible cause.message ++ ")"
  | malformedRange => "MalformedRange"

/-- An anomaly as a log entry.  A field without a value is usual, all else is not. -/
def Anomaly.entry (a : Anomaly) : LogEntry :=
  match a.kind with
  | .missingField =>
    { level := .debug
      message := "record has no value for field"
      fields := [("condition_id", .string a.condition), ("field", .string a.field)] }
  | kind =>
    { level := .warn
      message := "rule evaluation anomaly"
      fields :=
        [("condition_id", .string a.condition), ("field", .string a.field),
         ("kind", .string kind.name)]
      detail := kind.written }

/-- **Where anomalies go to**. -/
inductive Sink where
  | log
  | capture
  deriving DecidableEq, Repr, Inhabited

/-- The signals of an anomaly. -/
def Sink.report : Sink → Anomaly → List Signal
  | log, a => [.count (.anomalies a.kind.name) 1, .log a.entry]
  | capture, a => [.anomaly a]

/-- A warning of the compilation as a log entry. -/
def CompileWarning.entry : CompileWarning → LogEntry
  | unknownOperator condition operator =>
    { level := .warn
      message := "unknown operator compiled as fail-open"
      fields :=
        [("condition_id", .string condition), ("operator", .string operator.identifier)] }
  | unreadableOperand condition cause =>
    { level := .warn
      message := "condition value compiled as fail-open"
      fields := [("condition_id", .string condition), ("error", .string cause.message)] }

end Audience
