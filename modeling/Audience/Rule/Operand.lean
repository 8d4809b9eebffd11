import Audience.Coercion
import Audience.Text.Search

/-!
**Operands**: the values that conditions compare with.

Main definitions:

* `Operand`, with `Operand.ofJson` and `Operand.toJson` — texts, numbers, lists and whatever else
  JSON can hold;
* `Operand.folded`, `Operand.number?`, `Operand.date?` — the readings of an operand;
* `Operand.bounds?` — the two ends of a range.
-/

set_option relaxedAutoImplicit false
set_option autoImplicit false

namespace Audience

/-- The **value** that a condition compares with. -/
inductive Operand where
  | text (s : String)
  | number (x : Double)
  | list (items : List Json)
  | other (json : Json)
  deriving DecidableEq, Repr

namespace Operand

/-- The operand that a condition starts out with. -/
def empty : Operand := text ""

instance : Inhabited Operand := ⟨empty⟩

/-- Is this the empty text? -/
def isEmpty : Operand → Bool
  | text s => s.isEmpty
  | _ => false

/-- The operand for a range. -/
def range (first last : String) : Operand := list [.string first, .string last]

/-- The name of an alternative. -/
def name : Operand → String
  | text _ => "text"
  | number _ => "number"
  | list _ => "list"
  | other _ => "other"

/-- The **operand that a JSON value is**.  Null is the empty text, and every number a double. -/
def ofJson : Json → Operand
  | .null => empty
  | .string s => text s
  | .int n => number (Double.ofInt n)
  | .float x => number x
  | .array items => list items
  | .bool b => other (.bool b)
  | .object members => other (.object members)

/-- The **JSON value of an operand**. -/
def toJson : Operand → Json
  | text s => .string s
  | number x => Json.ofDouble x
  | list items => .array items
  | other json => json

/-! ### Readings -/

/-- The text of an operand in lowercase. -/
def folded : Operand → Except Uncoercible String
  | text s => .ok (Text.lowercase s)
  | number x => .ok x.plain
  | operand => operand.toJson.folded

/-- The number of an operand. -/
def number? : Operand → Except Uncoercible (Option Double)
  | number x => .ok (if x.isNaN then none else some x)
  | text s => .ok (Double.ofTrimmed? s)
  | operand => operand.toJson.number

/-- The point in time of an operand. -/
def date? (operand : Operand) : Except Uncoercible (Option Instant) := operand.toJson.date

/-- The texts of the **two ends of a range**: a list of two values that have texts, or a text with
one comma. -/
def bounds? : Operand → Option (String × String)
  | list [first, last] =>
    match first.text, last.text with
    | .ok first, .ok last => some (first, last)
    | _, _ => none
  | text s =>
    match Text.splitAll ',' s.toList with
    | [first, last] => some (Text.trim (String.ofList first), Text.trim (String.ofList last))
    | _ => none
  | _ => none

end Operand

end Audience
