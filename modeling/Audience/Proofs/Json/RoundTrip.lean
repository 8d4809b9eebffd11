import Audience.Json.Shape
import Mathlib.Algebra.Ring.Nat

/-!
**Simple parts are read as they were written**.

Main results:

* `Json.member?_cons_self`, `Json.member?_cons_of_ne` — a member is looked for under its name;
* `Json.mapM_map_eq_ok` — a list is read again if its items are;
* `Json.asStrings_ofStrings` — so is a list of texts;
* `Json.asOption_of_read` — what is read as a value is read as the value in a place where there may
  be none, unless it is null;
* `Json.asNat_ofNat` — a number that fits is read again.
-/

set_option relaxedAutoImplicit false
set_option autoImplicit false

namespace Audience

/-! ### Steps -/

namespace Decoded

variable {α β : Type}

@[simp] theorem ok_bind (value : α) (next : α → Decoded β) :
    ((.ok value : Decoded α) >>= next) = next value := rfl

@[simp] theorem map_ok (f : α → β) (value : α) :
    Except.map f (.ok value : Decoded α) = .ok (f value) := rfl

@[simp] theorem pure_eq_ok (value : α) : (pure value : Decoded α) = .ok value := rfl

end Decoded

namespace Json

variable {α : Type} {read : Json → Decoded α} {write : α → Json}

@[simp] theorem asString_string (s : String) : asString (.string s) = .ok s := rfl

@[simp] theorem asBool_bool (b : Bool) : asBool (.bool b) = .ok b := rfl

@[simp] theorem asItems_array (items : List Json) : asItems (.array items) = .ok items := rfl

/-! ### Members -/

section Members

variable {members : Members} {name : String}

@[simp] theorem member?_nil : member? [] name read = .ok none := rfl

@[simp] theorem member?_cons_self {json : Json} :
    member? ((name, json) :: members) name read = (read json).map some := by
  rw [member?, Members.find?, if_pos rfl]

@[simp] theorem member?_cons_of_ne {key : String} {json : Json} (h : key ≠ name) :
    member? ((key, json) :: members) name read = member? members name read := by
  rw [member?, Members.find?, if_neg h, member?]

end Members

@[simp] theorem required_some {name : String} {value : α} :
    required name (some value) = .ok value := rfl

/-! ### Parts -/

/-- A list is read again if its items are. -/
theorem mapM_map_eq_ok {values : List α} (h : ∀ value ∈ values, read (write value) = .ok value) :
    (values.map write).mapM read = .ok values := by
  induction values with
  | nil => rfl
  | cons value values ih =>
      rw [List.forall_mem_cons] at h
      rw [List.map_cons, List.mapM_cons, h.1, ih h.2]
      rfl

theorem asStrings_ofStrings (texts : List String) : (ofStrings texts).asStrings = .ok texts :=
  mapM_map_eq_ok fun _ _ => rfl

/-- What is written of a value is read as the value in a place where there may be none, unless it
is null, which stands for none there. -/
theorem asOption_of_read {json : Json} {value : α} (h : read json = .ok value) :
    asOption read json = .ok (if json.isNull then none else some value) := by
  cases json with
  | null => rfl
  | _ => simp [asOption, isNull, h]

@[simp] theorem asOption_string (s : String) :
    asOption asString (.string s) = .ok (some s) := rfl

theorem asNat_ofNat {bits n : Nat} (h : n < 2 ^ bits) : asNat bits (.int n) = .ok n := by
  have hfits : (0 : Int) ≤ n ∧ (n : Int).toNat < Nat.pow 2 bits := ⟨by omega, by simpa using h⟩
  rw [asNat, if_pos hfits, Int.toNat_natCast]

end Json

end Audience
