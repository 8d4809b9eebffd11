import Audience.Json.Reader

/-!
**UUIDs**: identifiers of thirty-two hexadecimal digits.

Main definitions:

* `Uuid` — the identifiers, with `Uuid.ofNat` for the one that a number denotes;
* `Uuid.write` — the hyphenated text of an identifier;
* `Uuid.ofText?` — the identifier that a text denotes, in any of four notations.
-/

set_option relaxedAutoImplicit false
set_option autoImplicit false

namespace Audience

/-- A **UUID**: thirty-two hexadecimal digits. -/
structure Uuid where
  /-- The digits, from the first. -/
  digits : List (Fin 16)
  /-- There are thirty-two. -/
  length_eq : digits.length = 32
  deriving DecidableEq, Repr

namespace Uuid

/-- The identifier whose digits are those of a number. -/
def ofNat (n : Nat) : Uuid where
  digits := (List.range 32).map fun i => Fin.ofNat 16 (n / Nat.pow 16 (31 - i))
  length_eq := by simp

/-- The identifier of zeros. -/
def nil : Uuid := ofNat 0

instance : Inhabited Uuid := ⟨nil⟩

/-- The lowercase hexadecimal digit of a number. -/
def digitChar (d : Fin 16) : Char := Nat.digitChar d.val

/-- Digits in groups of eight, four, four, four and twelve, with hyphens between them. -/
def hyphenate (cs : List Char) : List Char :=
  cs.take 8 ++ '-' :: (cs.drop 8).take 4 ++ '-' :: (cs.drop 12).take 4
    ++ '-' :: (cs.drop 16).take 4 ++ '-' :: cs.drop 20

/-- The **text of an identifier**: hyphenated, in lowercase. -/
def write (u : Uuid) : String := String.ofList (hyphenate (u.digits.map digitChar))

/-- The number of a hexadecimal digit in either case. -/
def digit? (c : Char) : Option (Fin 16) := (Json.hexDigit? c).map (Fin.ofNat 16)

/-- Thirty-two digits. -/
def ofDigits? (cs : List Char) : Option Uuid :=
  match cs.mapM digit? with
  | some digits => if h : digits.length = 32 then some ⟨digits, h⟩ else none
  | none => none

/-- Groups of eight, four, four, four and twelve digits with hyphens between them. -/
def ofHyphenated? (cs : List Char) : Option Uuid :=
  if cs.length = 36 ∧ cs[8]? = some '-' ∧ cs[13]? = some '-' ∧ cs[18]? = some '-'
      ∧ cs[23]? = some '-' then
    ofDigits? (cs.take 8 ++ (cs.drop 9).take 4 ++ (cs.drop 14).take 4 ++ (cs.drop 19).take 4
      ++ cs.drop 24)
  else none

/-- What stands before an identifier that is written with the name of its notation. -/
def scheme : List Char := "urn:uuid:".toList

/-- The **identifier that a text denotes**: digits alone, hyphenated, hyphenated between braces,
or hyphenated after the name of the notation, which may be in any case. -/
def ofText? (s : String) : Option Uuid :=
  let cs := s.toList
  if cs.length = 32 then ofDigits? cs
  else if (cs.take scheme.length).map Char.toLower = scheme then
    ofHyphenated? (cs.drop scheme.length)
  else match cs with
    | '\x7b' :: rest =>
      if rest.getLast? = some '\x7d' then ofHyphenated? rest.dropLast else none
    | cs => ofHyphenated? cs

end Uuid

end Audience
