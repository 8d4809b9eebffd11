import Audience.Text.LetterCase

/-!
**Lowercasing**: the full mapping of the Unicode standard, with its rule for the final sigma.

Every character is replaced on its own, but for the capital sigma, whose lowercase form depends on
whether it ends a word, and the capital dotted I, which becomes two characters.

Main definitions:

* `Text.lowerChar` — the lowercase form of a character other than sigma;
* `Text.endsWord` — is a place in a text the end of a word?
* `Text.lowercase` — a text in lowercase.
-/

set_option relaxedAutoImplicit false
set_option autoImplicit false

namespace Audience.Text

/-- The lowercase form of a character by itself. -/
def lowerChar (c : Char) : List Char :=
  if c = 'İ' then ['i', '\u0307'] else
    match lowerRanges.find? (·.contains c.toNat) with
    | some range => [Char.ofNat ((c.toNat : Int) + range.shift).toNat]
    | none => [c]

/-- Is the first character that is not case-ignorable a cased one? -/
def startsCased (cs : List Char) : Bool :=
  match cs.dropWhile isCaseIgnorable with
  | [] => false
  | c :: _ => isCased c

/-- Does a letter end a word, given the text before it from its end, and the text after it? -/
def endsWord (before after : List Char) : Bool := startsCased before && !startsCased after

/-- Lowercases a text of which the part before, read backwards, is `before`. -/
def lowercaseFrom (before : List Char) : List Char → List Char
  | [] => []
  | c :: rest =>
    (if c = 'Σ' then (if endsWord before rest then ['ς'] else ['σ']) else lowerChar c)
      ++ lowercaseFrom (c :: before) rest

/-- A text in **lowercase**. -/
def lowercase (s : String) : String := String.ofList (lowercaseFrom [] s.toList)

@[simp] theorem lowercaseFrom_nil (before : List Char) : lowercaseFrom before [] = [] := rfl

end Audience.Text
