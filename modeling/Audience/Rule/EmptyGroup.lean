import Audience.Json.Shape
import Audience.Rule.Basic

/-!
**Groups without children**: what they count for.

Main definitions:

* `EmptyGroupPolicy` — the two answers there are;
* `EmptyGroupPolicy.outcome` — what a childless group counts for.
-/

set_option relaxedAutoImplicit false
set_option autoImplicit false

namespace Audience

/-- What a **group without children** counts for. -/
inductive EmptyGroupPolicy where
  /-- It demands nothing, so it holds. -/
  | inclusive
  /-- A conjunction of nothing holds, a disjunction of nothing does not. -/
  | vacuous
  deriving DecidableEq, Repr, Inhabited

namespace EmptyGroupPolicy

/-- Does a group without children hold? -/
def outcome : EmptyGroupPolicy → Logic → Bool
  | inclusive, _ => true
  | vacuous, .and => true
  | vacuous, .or => false

/-- The name of a policy. -/
def name : EmptyGroupPolicy → String
  | inclusive => "inclusive"
  | vacuous => "vacuous"

/-- The policies by their names. -/
def cases : List (String × EmptyGroupPolicy) := [("inclusive", inclusive), ("vacuous", vacuous)]

/-- A policy read from JSON. -/
def ofJson (json : Json) : Decoded EmptyGroupPolicy := json.asCase cases

end EmptyGroupPolicy

end Audience
