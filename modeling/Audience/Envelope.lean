import Audience.Json.Shape

/-!
**Envelopes** of the answers that callers get.

Main definitions:

* `Response` — the answer to a request that makes or changes something;
* `FilterResult` — the answer to a request for records;
* `Response.toJson`, `Response.ofJson`, `FilterResult.toJson`, `FilterResult.ofJson` — envelopes in
  JSON, where what is absent is left out.
-/

set_option relaxedAutoImplicit false
set_option autoImplicit false

namespace Audience

/-- The **answer** to a request that makes, changes or looks up something. -/
structure Response (α : Type) where
  /-- Has the request been met? -/
  success : Bool
  /-- What there is to say. -/
  message : Option String
  /-- What was asked for. -/
  data : Option α
  deriving DecidableEq, Repr

namespace Response

variable {α : Type}

/-- The answer to a request that has been met. -/
def ok (message : String) (data : α) : Response α := ⟨true, some message, some data⟩

/-- The answer to a request that has not been met. -/
def failure (message : String) : Response α := ⟨false, some message, none⟩

@[simp] theorem success_ok (message : String) (data : α) : (ok message data).success = true := rfl

@[simp] theorem success_failure (message : String) :
    (failure message : Response α).success = false := rfl

/-- An answer in JSON. -/
def toJson (encode : α → Json) (response : Response α) : Json :=
  let data := match response.data with
    | some data => [("data", encode data)]
    | none => []
  let message := match response.message with
    | some message => [("message", Json.string message)]
    | none => []
  .object (data ++ message ++ [("success", .bool response.success)])

/-- The description of the list form of an answer. -/
def listForm : String := "a response of three fields"

/-- An **answer read from JSON**. -/
def ofJson (decode : Json → Decoded α) : Json → Decoded (Response α)
  | .object members => do
    let data ← Json.member? members "data" (Json.asOption decode)
    let message ← Json.member? members "message" (Json.asOption Json.asString)
    let success ← Json.member? members "success" Json.asBool
    let success ← Json.required "success" success
    return ⟨success, message.join, data.join⟩
  | .array items => do
    let success ← Json.element items 0 listForm Json.asBool
    let message ← Json.elementOr items 1 none (Json.asOption Json.asString)
    let data ← Json.elementOr items 2 none (Json.asOption decode)
    Json.atMost 3 items
    return ⟨success, message, data⟩
  | other => .error (.wrongKind other "a response")

end Response

/-- The **answer** to a request for records. -/
structure FilterResult (α : Type) where
  /-- Has the request been met? -/
  success : Bool
  /-- The records. -/
  data : List α
  /-- Their number. -/
  total : Nat
  /-- The number of records that were looked at. -/
  originalTotal : Option Nat
  /-- Why the request has not been met. -/
  error : Option String
  deriving DecidableEq, Repr

namespace FilterResult

variable {α : Type}

/-- The answer with the records that were found among so many. -/
def matched (data : List α) (originalTotal : Nat) : FilterResult α :=
  ⟨true, data, data.length, some originalTotal, none⟩

/-- The answer to a request that has not been met. -/
def failed (error : String) : FilterResult α := ⟨false, [], 0, none, some error⟩

@[simp] theorem success_matched (data : List α) (originalTotal : Nat) :
    (matched data originalTotal).success = true := rfl

@[simp] theorem success_failed (error : String) :
    (failed error : FilterResult α).success = false := rfl

/-- An answer in JSON. -/
def toJson (encode : α → Json) (result : FilterResult α) : Json :=
  let error := match result.error with
    | some error => [("error", Json.string error)]
    | none => []
  let originalTotal := match result.originalTotal with
    | some total => [("originalTotal", Json.int total)]
    | none => []
  .object ([("data", .array (result.data.map encode))] ++ error ++ originalTotal
    ++ [("success", .bool result.success), ("total", .int result.total)])

/-- The description of the list form of an answer. -/
def listForm : String := "an answer of five fields"

/-- The records of an answer. -/
def dataOfJson (decode : Json → Decoded α) (json : Json) : Decoded (List α) := do
  (← json.asItems).mapM decode

/-- An **answer read from JSON**. -/
def ofJson (decode : Json → Decoded α) : Json → Decoded (FilterResult α)
  | .object members => do
    let data ← Json.member? members "data" (dataOfJson decode)
    let error ← Json.member? members "error" (Json.asOption Json.asString)
    let originalTotal ← Json.member? members "originalTotal" (Json.asOption (Json.asNat 64))
    let success ← Json.member? members "success" Json.asBool
    let total ← Json.member? members "total" (Json.asNat 64)
    let success ← Json.required "success" success
    let data ← Json.required "data" data
    let total ← Json.required "total" total
    return ⟨success, data, total, originalTotal.join, error.join⟩
  | .array items => do
    let success ← Json.element items 0 listForm Json.asBool
    let data ← Json.element items 1 listForm (dataOfJson decode)
    let total ← Json.element items 2 listForm (Json.asNat 64)
    let originalTotal ← Json.elementOr items 3 none (Json.asOption (Json.asNat 64))
    let error ← Json.elementOr items 4 none (Json.asOption Json.asString)
    Json.atMost 5 items
    return ⟨success, data, total, originalTotal, error⟩
  | other => .error (.wrongKind other "an answer")

end FilterResult

end Audience
