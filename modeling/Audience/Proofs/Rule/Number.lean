import Audience.Rule.Operand

/-!
**Numbers of values and of operands**.

Both sides of a comparison of numbers are read by the same rules: the operand that a JSON value is
has the number of the value.  Not-a-number is never the outcome of a reading, so two numbers that
have been read have an ordering.

Main results:

* `Json.eq_of_number_float` — the number of a double is the double;
* `Json.isNaN_of_number`, `Operand.isNaN_of_number?` — the number of a value or of an operand is
  not not-a-number;
* `Operand.number?_ofJson` — an operand has **the number of the value** that it is.
-/

set_option relaxedAutoImplicit false
set_option autoImplicit false

namespace Audience

/-- The number of a double is the double. -/
theorem Json.eq_of_number_float {x y : Double} (h : (float x).number = .ok (some y)) :
    x = y ∧ x.isNaN = false := by
  rw [number] at h
  split at h
  · cases h
  · next hx => exact ⟨Option.some.inj (Except.ok.inj h), Bool.eq_false_iff.2 hx⟩

/-- The number of a value is not not-a-number. -/
theorem Json.isNaN_of_number (json : Json) {x : Double} (h : json.number = .ok (some x)) :
    x.isNaN = false := by
  cases json with
  | int n =>
      cases h
      rfl
  | float y =>
      obtain ⟨rfl, hy⟩ := eq_of_number_float h
      exact hy
  | string s =>
      obtain ⟨-, hx⟩ := Option.filter_eq_some_iff.1 (Except.ok.inj h)
      simpa using hx
  | bool b =>
      cases h
      rfl
  | null => cases h
  | array items => cases h
  | object members => cases h

/-- The number of an operand is not not-a-number. -/
theorem Operand.isNaN_of_number? {operand : Operand} {x : Double}
    (h : operand.number? = .ok (some x)) : x.isNaN = false := by
  cases operand with
  | text s => exact (Json.string s).isNaN_of_number h
  | number y => exact (Json.float y).isNaN_of_number h
  | list items => exact (Json.array items).isNaN_of_number h
  | other json => exact json.isNaN_of_number h

/-- An operand has **the number of the value** that it is; null is an operand of its own. -/
theorem Operand.number?_ofJson {json : Json} (h : json.isNull = false) :
    (ofJson json).number? = json.number := by
  cases json with
  | null => simp at h
  | _ => rfl

end Audience
