import Audience.Envelope
import Audience.Proofs.Json.RoundTrip

/-!
**What comes back of an envelope** that has been written in JSON.

What is absent is left out, and what is left out is read as absent.  So an envelope comes back as it
was, unless what it holds is written as null: null is read as absent too.

Main results:

* `Response.ofJson_toJson` — **what comes back** of an answer: its data is kept unless it is written
  as null;
* `Response.ofJson_toJson_iff` — the answers that come back as they were;
* `FilterResult.ofJson_toJson` — answers with records come back as they were.
-/

set_option relaxedAutoImplicit false
set_option autoImplicit false

namespace Audience

variable {α : Type} {encode : α → Json} {decode : Json → Decoded α}

namespace Response

/-- **What comes back** of an answer: its data is kept unless it is written as null. -/
theorem ofJson_toJson (response : Response α)
    (hdata : ∀ data ∈ response.data, decode (encode data) = .ok data) :
    ofJson decode (response.toJson encode) = .ok
      { response with data := response.data.filter fun data => !(encode data).isNull } := by
  obtain ⟨success, message, data⟩ := response
  cases data with
  | none => cases message <;> simp [toJson, ofJson]
  | some data =>
      have hread := Json.asOption_of_read (hdata data rfl)
      cases message <;> cases hnull : (encode data).isNull <;>
        simp [toJson, ofJson, hread, hnull, Option.filter_some]

/-- An answer comes back as it was unless it has data that is written as null. -/
theorem ofJson_toJson_iff (response : Response α)
    (hdata : ∀ data ∈ response.data, decode (encode data) = .ok data) :
    ofJson decode (response.toJson encode) = .ok response ↔
      ∀ data ∈ response.data, encode data ≠ .null := by
  rw [ofJson_toJson response hdata]
  obtain ⟨success, message, data⟩ := response
  cases data with
  | none => simp
  | some data => cases h : encode data <;> simp [Json.isNull, h]

end Response

/-- An answer with records **comes back as it was**, if its numbers are numbers of the machine. -/
theorem FilterResult.ofJson_toJson (result : FilterResult α)
    (hdata : ∀ data ∈ result.data, decode (encode data) = .ok data)
    (htotal : result.total < 2 ^ 64) (horiginal : ∀ total ∈ result.originalTotal, total < 2 ^ 64) :
    ofJson decode (result.toJson encode) = .ok result := by
  obtain ⟨success, data, total, originalTotal, error⟩ := result
  have hlist : dataOfJson decode (.array (data.map encode)) = .ok data :=
    Json.mapM_map_eq_ok hdata
  have hcount : Json.asNat 64 (.int total) = .ok total := Json.asNat_ofNat htotal
  cases originalTotal with
  | none => cases error <;> simp [toJson, ofJson, hlist, hcount]
  | some original =>
      have hread : Json.asOption (Json.asNat 64) (.int original) = .ok (some original) :=
        Json.asOption_of_read (Json.asNat_ofNat (horiginal original rfl))
      cases error <;> simp [toJson, ofJson, hlist, hcount, hread]

end Audience
