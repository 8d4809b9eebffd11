import Audience.Catalog.Basic
import Audience.Json.Shape

/-!
**Catalogs in JSON**: a list of fields, each with its name, label, type and options.

Main definitions:

* `Field.toJson`, `Field.ofJson` — a field, whose options are left out if there are none;
* `Catalog.toJson`, `Catalog.ofJson` — a catalog, whose fields are checked when it is read.
-/

set_option relaxedAutoImplicit false
set_option autoImplicit false

namespace Audience

namespace Field

/-- A field in JSON. -/
def toJson (field : Field) : Json :=
  let members := [("label", .string field.label), ("name", .string field.name)]
  let options := if field.options.isEmpty then [] else [("options", Json.ofStrings field.options)]
  .object (members ++ options ++ [("type", .string field.type.name)])

/-- The type of a field. -/
def typeOfJson (json : Json) : Decoded FieldType := json.asCase FieldType.cases

/-- The description of the list form of a field. -/
def listForm : String := "struct Field with 4 elements"

/-- A **field read from JSON**. -/
def ofJson : Json → Decoded Field
  | .object members => do
    let label ← Json.member? members "label" Json.asString
    let name ← Json.member? members "name" Json.asString
    let options ← Json.member? members "options" Json.asStrings
    let type ← Json.member? members "type" typeOfJson
    let name ← Json.required "name" name
    let label ← Json.required "label" label
    let type ← Json.required "type" type
    return ⟨name, label, type, options.getD []⟩
  | .array items => do
    let name ← Json.element items 0 listForm Json.asString
    let label ← Json.element items 1 listForm Json.asString
    let type ← Json.element items 2 listForm typeOfJson
    let options ← Json.elementOr items 3 [] Json.asStrings
    Json.atMost 4 items
    return ⟨name, label, type, options⟩
  | other => .error (.wrongKind other "struct Field")

end Field

namespace Catalog

/-- A catalog in JSON. -/
def toJson (catalog : Catalog) : Json := .array (catalog.fields.map Field.toJson)

/-- A **catalog read from JSON**. -/
def ofJson (json : Json) : Decoded Catalog := do
  let fields ← (← json.asItems).mapM Field.ofJson
  match ofFields fields with
  | .ok catalog => return catalog
  | .error error => throw (.refused ("Validation error: " ++ error.message))

end Catalog

end Audience
