import Audience.Catalog.Basic
import Audience.Json.Shape
import Audience.Rule.Validation
import Audience.Sql.Statement

/-!
**Errors** of the engine.

An error has a kind and a text.  The whole text is for the log; callers are told the text of errors
that they can do something about, and a general sentence for the others.

Main definitions:

* `ErrorKind`, `EngineError` — errors, with `EngineError.message` for the log and
  `EngineError.publicMessage` for callers;
* `ServiceError` — the causes of failure of a request, with `ServiceError.error` as their errors.
-/

set_option relaxedAutoImplicit false
set_option autoImplicit false

namespace Audience

/-- The **kind** of an error. -/
inductive ErrorKind where
  | validation
  | lookup
  | config
  | serialization
  | internal
  deriving DecidableEq, Repr

/-- The name of a kind. -/
def ErrorKind.name : ErrorKind → String
  | validation => "Validation"
  | lookup => "Lookup"
  | config => "Config"
  | serialization => "Serialization"
  | internal => "Internal"

/-- The kinds by their names. -/
def ErrorKind.cases : List (String × ErrorKind) :=
  [("Validation", validation), ("Lookup", lookup), ("Config", config),
   ("Serialization", serialization), ("Internal", internal)]

/-- What the message of a kind begins with. -/
def ErrorKind.heading : ErrorKind → String
  | validation => "Validation error: "
  | lookup => "Lookup failed: "
  | config => "Configuration error: "
  | serialization => "Serialization error: "
  | internal => "Internal error: "

/-- An **error**. -/
structure EngineError where
  /-- The kind. -/
  kind : ErrorKind
  /-- The text. -/
  text : String
  deriving DecidableEq, Repr

namespace EngineError

/-- The **message for the log**. -/
def message (error : EngineError) : String := error.kind.heading ++ error.text

/-- The **message for callers**. -/
def publicMessage (error : EngineError) : String :=
  match error.kind with
  | .validation | .lookup => error.text
  | .config => "Segmentation is misconfigured"
  | .serialization => "Rules could not be decoded"
  | .internal => "An internal error occurred"

/-- A validation error. -/
def ofText (text : String) : EngineError := ⟨.validation, text⟩

end EngineError

/-! ### Causes -/

/-- A catalog error as an error of the engine. -/
def CatalogError.error (e : CatalogError) : EngineError := .ofText e.message

/-- A fault of a tree as an error of the engine. -/
def TreeFault.error (fault : TreeFault) : EngineError := .ofText fault.message

/-- A predicate that cannot be a query as an error of the engine. -/
def SqlError.error (e : SqlError) : EngineError := .ofText e.message

/-- Rules without the expected shape as an error of the engine. -/
def ShapeError.treeError (e : ShapeError) : EngineError :=
  .ofText ("malformed rule tree: " ++ e.message)

/-- Why a **request has failed**. -/
inductive ServiceError where
  | nameRequired
  | ownerRequired
  | noRules
  | malformedTree (cause : ShapeError)
  | badTree (fault : TreeFault)
  | segmentWithoutRules
  | noQuery (cause : SqlError)
  | segmentNotFound
  | lookupFailed
  | recordsUnavailable
  | savingFailed
  | deletingFailed
  deriving DecidableEq, Repr

/-- The error that a cause of failure is. -/
def ServiceError.error : ServiceError → EngineError
  | nameRequired => ⟨.validation, "Segment name is required"⟩
  | ownerRequired => ⟨.validation, "Owner is required"⟩
  | noRules => ⟨.validation, "there are no rules"⟩
  | malformedTree cause => cause.treeError
  | badTree fault => fault.error
  | segmentWithoutRules => ⟨.validation, "Segment has no rules"⟩
  | noQuery cause => cause.error
  | segmentNotFound => ⟨.lookup, "Segment not found"⟩
  | lookupFailed => ⟨.lookup, "Segment lookup failed"⟩
  | recordsUnavailable => ⟨.lookup, "Records could not be loaded"⟩
  | savingFailed => ⟨.internal, "saving segment"⟩
  | deletingFailed => ⟨.internal, "deleting segment"⟩

/-- What is said in the log about a failed request. -/
def ServiceError.message (e : ServiceError) : String := e.error.message

/-- What a caller is told about a failed request. -/
def ServiceError.publicMessage (e : ServiceError) : String := e.error.publicMessage

end Audience
