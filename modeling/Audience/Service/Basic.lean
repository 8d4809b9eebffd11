import Audience.Envelope
import Audience.Error
import Audience.Journal
import Audience.RecordStore
import Audience.Rule.Codec
import Audience.Segment.Basic
import Audience.Settings.Basic

/-!
**The state of the segment service**, and attempts to meet a request.

A request is met in a world of stored segments and records, in which some calls of the stores may
fail.  What cannot be computed (new identifiers, the time) comes with the request.

Main definitions:

* `Service` — what does not change: the settings, the catalog and where anomalies go to;
* `World`, `Outages` — what is stored, and which calls fail;
* `Stamp` — a new identifier and the time;
* `Attempt` — a value or why there is none, with the signals on the way.
-/

set_option relaxedAutoImplicit false
set_option autoImplicit false

namespace Audience

/-- A **segment service**. -/
structure Service where
  /-- The settings. -/
  settings : Settings := {}
  /-- The attributes that rules may test. -/
  catalog : Catalog := .customers
  /-- Where anomalies go to. -/
  sink : Sink := .log
  deriving DecidableEq, Repr, Inhabited

/-- The **calls that fail**, each with the text of its failure. -/
structure Outages where
  /-- Saving a segment. -/
  save : Option String := none
  /-- Getting a segment. -/
  get : Option String := none
  /-- Listing segments. -/
  list : Option String := none
  /-- Deleting a segment. -/
  delete : Option String := none
  /-- Getting records. -/
  records : Option String := none
  deriving DecidableEq, Repr, Inhabited

/-- **What is stored**, and which calls fail. -/
structure World where
  /-- The segments. -/
  segments : SegmentStore := {}
  /-- The records. -/
  records : RecordStore := {}
  /-- The calls that fail. -/
  outages : Outages := {}
  deriving DecidableEq, Repr, Inhabited

/-- What comes with a request because it **cannot be computed**. -/
structure Stamp where
  /-- An identifier for a new segment. -/
  id : Uuid
  /-- The time. -/
  now : Instant
  deriving DecidableEq, Repr

/-! ### Attempts -/

/-- An **attempt**: a value or why there is none, and the signals on the way. -/
structure Attempt (α : Type) where
  /-- The value, or why there is none. -/
  result : Except ServiceError α
  /-- The signals, in their order. -/
  signals : List Signal := []

namespace Attempt

variable {α β : Type}

/-- A value. -/
def done (value : α) : Attempt α := ⟨.ok value, []⟩

/-- A failure. -/
def fail (error : ServiceError) : Attempt α := ⟨.error error, []⟩

/-- Signals on the way. -/
def tell (signals : List Signal) : Attempt Unit := ⟨.ok (), signals⟩

/-- One attempt after another; a failure ends it. -/
def andThen (first : Attempt α) (next : α → Attempt β) : Attempt β :=
  match first.result with
  | .error error => ⟨.error error, first.signals⟩
  | .ok value =>
    let second := next value
    ⟨second.result, first.signals ++ second.signals⟩

instance : Monad Attempt where
  pure := done
  bind := andThen

/-- A value that may be missing for a reason. -/
def ofExcept {ε : Type} (reason : ε → ServiceError) : Except ε α → Attempt α
  | .ok value => done value
  | .error e => fail (reason e)

/-- A value that may be missing. -/
def ofOption (error : ServiceError) : Option α → Attempt α
  | some value => done value
  | none => fail error

@[simp] theorem bind_eq (first : Attempt α) (next : α → Attempt β) :
    (first >>= next) = first.andThen next := rfl

@[simp] theorem done_andThen (value : α) (next : α → Attempt β) :
    (done value).andThen next = next value := rfl

end Attempt

end Audience
