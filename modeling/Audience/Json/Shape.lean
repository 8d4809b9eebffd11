import Audience.Json.Printer
import Audience.Text.Visible

/-!
**Shapes of JSON values**: reading the parts of a record out of a value, and what can be wrong.

A record is written as an object, whose other members do not matter, or as a list of its fields in
order.  An enumeration is written as the name of a case, or as an object with that name as its only
key and null as its value.

Main definitions:

* `ShapeError`, `ShapeError.message` — why a value has not the expected shape, and how that is told;
* `Decoded` — a value read, or why it could not be;
* `Json.asString`, `Json.asItems`, `Json.asCase` and their like — the readers of simple parts;
* `Json.member?`, `Json.element` — a field in an object and in a list.
-/

set_option relaxedAutoImplicit false
set_option autoImplicit false

namespace Audience

/-- Why a value has not the **expected shape**. -/
inductive ShapeError where
  /-- A value of another kind than the expected one. -/
  | wrongKind (found : Json) (expected : String)
  /-- An object that should have one key has none or several. -/
  | notSingleKey
  /-- A name that is none of an enumeration. -/
  | unknownCase (name : String) (known : List String)
  /-- An object lacks a field. -/
  | missingField (name : String)
  /-- An object gives a field twice, under two names. -/
  | duplicateField (name : String)
  /-- A list of fields ends before the last field it needs. -/
  | tooShort (length : Nat) (expected : String)
  /-- A list of fields goes on after the last field. -/
  | tooLong (length : Nat)
  /-- A value is none of the alternatives of a type. -/
  | noAlternative (type : String)
  /-- A number is none that the field can hold, or a text does not denote a value. -/
  | badValue (expected : String)
  /-- A value of the right shape breaks a rule. -/
  | refused (reason : String)
  deriving DecidableEq, Repr

namespace ShapeError

/-- A value as it is named in a message. -/
def describe : Json → String
  | .null => "null"
  | .bool b => "boolean `" ++ (if b then "true" else "false") ++ "`"
  | .int n => "integer `" ++ toString n ++ "`"
  | .float x => "floating point `" ++ x.write Json.doubleLayout ++ "`"
  | .string s => "string " ++ Text.visible s
  | .array _ => "sequence"
  | .object _ => "map"

/-- The cases of an enumeration as they are named in a message. -/
def describeCases (names : List String) : String :=
  match names.map fun name => "`" ++ name ++ "`" with
  | [] => "nothing"
  | [a] => a
  | [a, b] => a ++ " or " ++ b
  | quoted => "one of " ++ ", ".intercalate quoted

/-- The **message** for a value without the expected shape. -/
def message : ShapeError → String
  | wrongKind found expected => "invalid type: " ++ describe found ++ ", expected " ++ expected
  | notSingleKey => "invalid value: map, expected map with a single key"
  | unknownCase name known =>
    "unknown variant `" ++ name ++ "`, expected " ++ describeCases known
  | missingField name => "missing field `" ++ name ++ "`"
  | duplicateField name => "duplicate field `" ++ name ++ "`"
  | tooShort length expected => s!"invalid length {length}, expected " ++ expected
  | tooLong length => s!"invalid length {length}, expected fewer elements in array"
  | noAlternative type => "data did not match any variant of untagged enum " ++ type
  | badValue expected => "invalid value, expected " ++ expected
  | refused reason => reason

end ShapeError

/-- A value that has been read, or why it could not be. -/
abbrev Decoded (α : Type) := Except ShapeError α

namespace Json

/-! ### Simple parts -/

/-- A text. -/
def asString : Json → Decoded String
  | string s => .ok s
  | other => .error (.wrongKind other "a string")

/-- A truth value. -/
def asBool : Json → Decoded Bool
  | bool b => .ok b
  | other => .error (.wrongKind other "a boolean")

/-- A list of values. -/
def asItems : Json → Decoded (List Json)
  | array items => .ok items
  | other => .error (.wrongKind other "a sequence")

/-- A list of texts. -/
def asStrings (json : Json) : Decoded (List String) := do
  (← json.asItems).mapM asString

/-- A number as a double. -/
def asDouble : Json → Decoded Double
  | int n => .ok (Double.ofInt n)
  | float x => .ok x
  | other => .error (.wrongKind other "a number")

/-- A natural number of so many bits. -/
def asNat (bits : Nat) : Json → Decoded Nat
  | int n =>
    if 0 ≤ n ∧ n.toNat < Nat.pow 2 bits then .ok n.toNat
    else .error (.badValue "a number in range")
  | other => .error (.wrongKind other "a whole number")

/-- The named values of an object. -/
def asMembers : Json → Decoded Members
  | object members => .ok members
  | other => .error (.wrongKind other "a map")

/-- Nothing, which null stands for. -/
def asUnit : Json → Decoded Unit
  | null => .ok ()
  | other => .error (.wrongKind other "unit")

/-- A value, or nothing where null stands. -/
def asOption {α : Type} (read : Json → Decoded α) : Json → Decoded (Option α)
  | null => .ok none
  | other => (read other).map some

/-- The case of an enumeration that has a name. -/
def caseNamed {α : Type} (cases : List (String × α)) (name : String) : Decoded α :=
  match cases.find? (·.1 == name) with
  | some (_, value) => .ok value
  | none => .error (.unknownCase name (cases.map (·.1)))

/-- A case of an enumeration. -/
def asCase {α : Type} (cases : List (String × α)) : Json → Decoded α
  | string name => caseNamed cases name
  | object [(name, value)] => do
    let found ← caseNamed cases name
    value.asUnit
    return found
  | object _ => .error .notSingleKey
  | other => .error (.wrongKind other "string or map")

/-! ### Fields -/

/-- A field of an object, where it is present. -/
def member? {α : Type} (members : Members) (name : String) (read : Json → Decoded α) :
    Decoded (Option α) :=
  match members.find? name with
  | none => .ok none
  | some value => (read value).map some

/-- A field that an object must have, once it has been looked for. -/
def required {α : Type} (name : String) : Option α → Decoded α
  | some value => .ok value
  | none => .error (.missingField name)

/-- A field at its place in a list of fields. -/
def element {α : Type} (items : List Json) (index : Nat) (expected : String)
    (read : Json → Decoded α) : Decoded α :=
  match items[index]? with
  | some value => read value
  | none => .error (.tooShort index expected)

/-- A field at its place in a list of fields, which may end before it. -/
def elementOr {α : Type} (items : List Json) (index : Nat) (default : α)
    (read : Json → Decoded α) : Decoded α :=
  match items[index]? with
  | some value => read value
  | none => .ok default

/-- A list of fields must end after so many. -/
def atMost (count : Nat) (items : List Json) : Decoded Unit :=
  if count < items.length then .error (.tooLong items.length) else .ok ()

end Json

end Audience
