import Audience.Json.Shape

/-!
**Records**: what rules are evaluated on.

A record gives values to fields.  A field with the value null is as good as absent.

Main definitions:

* `Record`, `Record.get?` — records, and the value of a field where it is present and not null;
* `Record.insert` — a record with another value for a field;
* `Record.toJson`, `Record.ofJson` — records as JSON objects.
-/

set_option relaxedAutoImplicit false
set_option autoImplicit false

namespace Audience

/-- A **record**: fields with values, in the order of their names. -/
structure Record where
  /-- The fields and their values. -/
  fields : Members := []
  deriving DecidableEq, Repr, Inhabited

namespace Record

/-- The **value of a field**, where there is one other than null. -/
def get? (record : Record) (field : String) : Option Json :=
  (Members.find? field record.fields).filter (!·.isNull)

/-- Gives a field a value. -/
def insert (record : Record) (field : String) (value : Json) : Record :=
  ⟨Members.insert field value record.fields⟩

/-- The fields that are present but null. -/
def nullFields (record : Record) : List String :=
  record.fields.filterMap fun (field, value) => if value.isNull then some field else none

/-- A record in JSON. -/
def toJson (record : Record) : Json := .object record.fields

/-- A record read from JSON. -/
def ofJson (json : Json) : Decoded Record := json.asMembers.map Record.mk

/-- A field has the value it was given, if that is not null. -/
theorem get?_insert_self (record : Record) (field : String) (value : Json) :
    (record.insert field value).get? field = (some value).filter (!·.isNull) := by
  simp [get?, insert]

/-- A record keeps the values of the other fields. -/
theorem get?_insert_of_ne (record : Record) {field other : String} (h : other ≠ field)
    (value : Json) : (record.insert field value).get? other = record.get? other := by
  simp [get?, insert, Members.find?_insert_of_ne h]

end Record

end Audience
