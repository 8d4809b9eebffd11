import Audience.Json.Reader
import Audience.Proofs.Double.Rounding

/-!
**Proper JSON values**: those that a JSON text can denote.

The type of values also holds numbers that no text denotes: doubles that are not finite, and whole
numbers of more than 64 bits.  A value is proper if it holds none of them, at any depth.

Main definitions:

* `Json.parts`, `Json.induction` — the parts of a value, and induction on them;
* `Json.isProper` — are all the numbers in a value such as a text can denote?

Main results:

* `Json.isProper_of_mem_parts` — the parts of a proper value are proper;
* `Json.isFinite_ofInt_of_isWord` — whole numbers of 64 bits have finite doubles.
-/

set_option relaxedAutoImplicit false
set_option autoImplicit false

namespace Audience

namespace Json

/-- The **parts** of a value: the items of a list, and the values of an object. -/
def parts : Json → List Json
  | array items => items
  | object members => members.map (·.2)
  | _ => []

/-- Induction on values: a property holds of every value if it holds of each one whose parts
it holds of. -/
theorem induction {motive : Json → Prop}
    (step : ∀ json : Json, (∀ part ∈ json.parts, motive part) → motive json) (json : Json) :
    motive json :=
  @Json.rec motive (fun items => ∀ part ∈ items, motive part)
    (fun members => ∀ part ∈ members.map (·.2), motive part) (fun entry => motive entry.2)
    (step null nofun) (fun b => step (bool b) nofun) (fun n => step (int n) nofun)
    (fun x => step (float x) nofun) (fun s => step (string s) nofun)
    (fun items => step (array items)) (fun members => step (object members))
    nofun (fun _ _ hitem hitems => List.forall_mem_cons.2 ⟨hitem, hitems⟩)
    nofun (fun _ _ hentry hrest => List.forall_mem_cons.2 ⟨hentry, hrest⟩)
    (fun _ _ hvalue => hvalue) json

/-! ### Proper values -/

mutual

/-- Can a text denote the value?  All the numbers in it must be whole ones of 64 bits or
finite doubles. -/
def isProper : Json → Bool
  | .int n => isWord n
  | .float x => x.isFinite
  | .array items => isProperItems items
  | .object members => isProperMembers members
  | .null | .bool _ | .string _ => true

/-- Are all values of a list proper? -/
def isProperItems : List Json → Bool
  | [] => true
  | item :: items => item.isProper && isProperItems items

/-- Are all values of an object proper? -/
def isProperMembers : List (String × Json) → Bool
  | [] => true
  | (_, value) :: members => value.isProper && isProperMembers members

end

theorem isProperItems_iff {items : List Json} :
    isProperItems items = true ↔ ∀ item ∈ items, item.isProper = true := by
  induction items with
  | nil => simp [isProperItems]
  | cons item items ih => simp [isProperItems, ih]

theorem isProperMembers_iff {members : Members} :
    isProperMembers members = true ↔ ∀ part ∈ members.map (·.2), part.isProper = true := by
  induction members with
  | nil => simp [isProperMembers]
  | cons entry members ih => simp [isProperMembers, ih]

theorem isProper_of_mem_parts {json part : Json} (h : json.isProper = true)
    (hpart : part ∈ json.parts) : part.isProper = true := by
  cases json with
  | array items => exact isProperItems_iff.1 h part hpart
  | object members => exact isProperMembers_iff.1 h part hpart
  | _ => nomatch hpart

theorem isFinite_ofInt_of_isWord {n : Int} (h : isWord n = true) :
    (Double.ofInt n).isFinite = true := by
  simp only [isWord, Bool.and_eq_true, decide_eq_true_eq] at h
  exact Double.isFinite_ofInt (show 64 ≤ 1023 by decide) (by omega)

end Json

theorem Members.mem_parts_of_find? {key : String} {members : Members} {value : Json}
    (h : members.find? key = some value) : value ∈ (Json.object members).parts := by
  induction members with
  | nil => cases h
  | cons entry members ih =>
      obtain ⟨k, v⟩ := entry
      rw [find?] at h
      split at h
      · obtain rfl := Option.some.inj h
        exact List.mem_cons_self
      · exact List.mem_cons_of_mem _ (ih h)

end Audience
