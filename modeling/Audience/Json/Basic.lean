import Audience.Double.Basic

/-!
**JSON values**.

Whole numbers are kept apart from doubles, because the two are written differently and a date can
be read from the former only.  The members of an object are listed in the order of their keys, each
key once; `Members.insert` keeps a list so.

Main definitions:

* `Json` — the values, with decidable equality;
* `Members.find?`, `Members.insert` — look-up and update by key;
* `Json.ofDouble` — a double as a value, where not every double has one.
-/

set_option relaxedAutoImplicit false
set_option autoImplicit false

namespace Audience

/-- A **JSON value**. -/
inductive Json where
  | null
  | bool (b : Bool)
  /-- A whole number of at most 64 bits, signed or not. -/
  | int (n : Int)
  /-- Any other number. -/
  | float (x : Double)
  | string (s : String)
  | array (items : List Json)
  /-- Named values, in the order of their names. -/
  | object (members : List (String × Json))
  deriving Inhabited, Repr

namespace Json

/-! ### Equality -/

mutual

/-- Decides whether two values are equal. -/
def decEq : (a b : Json) → Decidable (a = b)
  | null, null => isTrue rfl
  | bool a, bool b => decidable_of_iff (a = b) (by simp)
  | int a, int b => decidable_of_iff (a = b) (by simp)
  | float a, float b => decidable_of_iff (a = b) (by simp)
  | string a, string b => decidable_of_iff (a = b) (by simp)
  | array a, array b => @decidable_of_iff _ _ (by simp) (decEqItems a b)
  | object a, object b => @decidable_of_iff _ _ (by simp) (decEqMembers a b)
  | null, bool _ | null, int _ | null, float _ | null, string _ | null, array _
  | null, object _ | bool _, null | bool _, int _ | bool _, float _ | bool _, string _
  | bool _, array _ | bool _, object _ | int _, null | int _, bool _ | int _, float _
  | int _, string _ | int _, array _ | int _, object _ | float _, null | float _, bool _
  | float _, int _ | float _, string _ | float _, array _ | float _, object _
  | string _, null | string _, bool _ | string _, int _ | string _, float _
  | string _, array _ | string _, object _ | array _, null | array _, bool _
  | array _, int _ | array _, float _ | array _, string _ | array _, object _
  | object _, null | object _, bool _ | object _, int _ | object _, float _
  | object _, string _ | object _, array _ => isFalse (by simp)

/-- Decides whether two lists of values are equal. -/
def decEqItems : (as bs : List Json) → Decidable (as = bs)
  | [], [] => isTrue rfl
  | [], _ :: _ | _ :: _, [] => isFalse (by simp)
  | a :: as, b :: bs =>
    match decEq a b, decEqItems as bs with
    | isTrue h, isTrue hs => isTrue (by rw [h, hs])
    | isFalse h, _ => isFalse (by simp [h])
    | _, isFalse hs => isFalse (by simp [hs])

/-- Decides whether two lists of named values are equal. -/
def decEqMembers : (as bs : List (String × Json)) → Decidable (as = bs)
  | [], [] => isTrue rfl
  | [], _ :: _ | _ :: _, [] => isFalse (by simp)
  | (k, a) :: as, (l, b) :: bs =>
    if hk : k = l then
      match decEq a b, decEqMembers as bs with
      | isTrue h, isTrue hs => isTrue (by rw [hk, h, hs])
      | isFalse h, _ => isFalse (by simp [h])
      | _, isFalse hs => isFalse (by simp [hs])
    else isFalse (by simp [hk])

end

instance : DecidableEq Json := decEq

/-- Is this the null value? -/
def isNull : Json → Bool
  | null => true
  | _ => false

/-- A double as a value; not-a-number and the infinities have none but null. -/
def ofDouble (x : Double) : Json := if x.isFinite then float x else null

@[simp] theorem isNull_null : isNull null = true := rfl

end Json

/-! ### Named values -/

/-- The named values of an object. -/
abbrev Members := List (String × Json)

namespace Members

/-- The value of a key. -/
def find? (key : String) : Members → Option Json
  | [] => none
  | (k, v) :: rest => if k = key then some v else find? key rest

/-- Gives a key a value, in place of its old one or else in the order of keys. -/
def insert (key : String) (value : Json) : Members → Members
  | [] => [(key, value)]
  | (k, v) :: rest =>
    if k = key then (key, value) :: rest
    else if key < k then (key, value) :: (k, v) :: rest
    else (k, v) :: insert key value rest

/-- Named values in the order of their keys; of several with one key the last one counts. -/
def ofList (entries : List (String × Json)) : Members :=
  entries.foldl (fun members (key, value) => members.insert key value) []

@[simp] theorem find?_nil (key : String) : find? key [] = none := rfl

/-- Looking up a key after giving it a value finds that value. -/
@[simp] theorem find?_insert_self (key : String) (value : Json) (members : Members) :
    find? key (members.insert key value) = some value := by
  induction members with
  | nil => simp [insert, find?]
  | cons entry rest ih =>
    obtain ⟨k, v⟩ := entry
    simp only [insert]
    split
    · simp [find?]
    · split
      · simp [find?]
      · simp_all [find?]

/-- Giving a key a value leaves the other keys as they are. -/
theorem find?_insert_of_ne {key other : String} (h : other ≠ key) (value : Json)
    (members : Members) : find? other (members.insert key value) = find? other members := by
  induction members with
  | nil => simp [insert, find?, h.symm]
  | cons entry rest ih =>
    obtain ⟨k, v⟩ := entry
    simp only [insert]
    split
    · next hk => subst hk; simp [find?, h.symm]
    · split
      · simp [find?, h.symm]
      · simp [find?, ih]

end Members

namespace Json

/-- An object with the given named values. -/
def ofMembers (entries : List (String × Json)) : Json := object (Members.ofList entries)

/-- A list of texts. -/
def ofStrings (texts : List String) : Json := array (texts.map string)

end Json

end Audience
