import Audience.Proofs.Calendar.RoundTrip
import Audience.Proofs.Json.RoundTrip
import Audience.Proofs.Rule.Persistence
import Audience.Proofs.Uuid.RoundTrip
import Audience.Segment.Codec

/-!
**What comes back of a segment** that has been written in JSON.

Its identifier and its times are read again from their texts.  A segment without rules has null in
the place of them, which no tree is written as; so all that can be lost is in the conditions of its
rules.

Main definitions:

* `Segment.IsStorable` — segments whose rules come back as they were.

Main results:

* `Uuid.ofJson_toJson`, `Instant.ofJson_toJson` — identifiers and times are read again;
* `Segment.ofJson_toJson` — **what comes back** of any segment;
* `Segment.ofJson_toJson_of_isStorable` — storable segments come back as they were.
-/

set_option relaxedAutoImplicit false
set_option autoImplicit false

namespace Audience

/-! ### Identifiers and times -/

theorem Uuid.ofJson_toJson (id : Uuid) : ofJson id.toJson = .ok id := by
  simp [toJson, ofJson, Json.asParsed, ofText?_write]

theorem Instant.ofJson_toJson (t : Instant) : ofJson t.toJson = .ok t := by
  simp [toJson, ofJson, Json.asParsed, write, Calendar.lenient?_chars]

/-! ### Segments -/

namespace Segment

/-- Do the rules of a segment **come back as they were**? -/
def IsStorable (segment : Segment) : Prop := ∀ rules ∈ segment.rules, rules.IsStorable

theorem asOption_rulesToJson (rules : Option Group) :
    Json.asOption Group.ofJson (rulesToJson rules) = .ok (rules.map Group.stored) := by
  cases rules with
  | none => rfl
  | some rules =>
      rw [rulesToJson, Json.asOption_of_read rules.ofJson_toJson]
      rfl

/-- **What comes back** of a segment: the segment, with what comes back of its rules. -/
theorem ofJson_toJson (segment : Segment) :
    ofJson segment.toJson = .ok { segment with rules := segment.rules.map Group.stored } := by
  simp [toJson, ofJson, Uuid.ofJson_toJson, Instant.ofJson_toJson, asOption_rulesToJson]

theorem ofJson_toJson_of_isStorable {segment : Segment} (h : segment.IsStorable) :
    ofJson segment.toJson = .ok segment := by
  rw [ofJson_toJson]
  obtain ⟨id, name, ownerId, rules, createdAt, updatedAt⟩ := segment
  cases rules with
  | none => rfl
  | some rules => rw [Option.map_some, Group.stored_eq_self (h rules rfl)]

end Segment

end Audience
