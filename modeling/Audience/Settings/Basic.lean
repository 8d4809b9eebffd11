import Audience.Rule.EmptyGroup
import Audience.Rule.Validation

/-!
**Settings** of the engine.

Main definitions:

* `Settings` — the answer for groups without children, the limits on trees, and the table that
  queries select from;
* `Settings.ofJson`, `Settings.rootOfJson` — settings read from JSON, alone and as the section of a
  whole application.
-/

set_option relaxedAutoImplicit false
set_option autoImplicit false

namespace Audience

/-- The **settings** of the engine. -/
structure Settings where
  /-- What a group without children counts for. -/
  emptyGroups : EmptyGroupPolicy := .inclusive
  /-- The limits on trees. -/
  limits : TreeLimits := {}
  /-- The table that queries select from. -/
  table : String := "customers"
  deriving DecidableEq, Repr, Inhabited

namespace Settings

/-- Settings, where some may be given and the others have their defaults. -/
def withDefaults (emptyGroups : Option EmptyGroupPolicy) (maxDepth maxChildren : Option Nat)
    (table : Option String) : Settings :=
  let default : Settings := {}
  { emptyGroups := emptyGroups.getD default.emptyGroups
    limits :=
      { maxDepth := maxDepth.getD default.limits.maxDepth
        maxChildren := maxChildren.getD default.limits.maxChildren }
    table := table.getD default.table }

/-- **Settings read from JSON**. -/
def ofJson : Json → Decoded Settings
  | .object members => do
    let table ← Json.member? members "default_table" Json.asString
    let emptyGroups ← Json.member? members "empty_group_policy" EmptyGroupPolicy.ofJson
    let maxChildren ← Json.member? members "max_children" (Json.asNat 64)
    let maxDepth ← Json.member? members "max_depth" (Json.asNat 64)
    return withDefaults emptyGroups maxDepth maxChildren table
  | .array items => do
    let emptyGroups ← Json.elementOr items 0 none fun v => (EmptyGroupPolicy.ofJson v).map some
    let maxDepth ← Json.elementOr items 1 none fun v => (v.asNat 64).map some
    let maxChildren ← Json.elementOr items 2 none fun v => (v.asNat 64).map some
    let table ← Json.elementOr items 3 none fun v => v.asString.map some
    Json.atMost 4 items
    return withDefaults emptyGroups maxDepth maxChildren table
  | other => .error (.wrongKind other "the settings of the engine")

/-- The settings of an application, of which those of the engine are one section. -/
def rootOfJson : Json → Decoded Settings
  | .object members => do
    let settings? ← Json.member? members "segmentation" ofJson
    return settings?.getD {}
  | .array items => do
    let settings ← Json.elementOr items 0 {} ofJson
    Json.atMost 1 items
    return settings
  | other => .error (.wrongKind other "the settings of an application")

/-- Settings in JSON. -/
def toJson (settings : Settings) : Json :=
  .object [("default_table", .string settings.table),
    ("empty_group_policy", .string settings.emptyGroups.name),
    ("max_children", .int settings.limits.maxChildren),
    ("max_depth", .int settings.limits.maxDepth)]

end Settings

end Audience
