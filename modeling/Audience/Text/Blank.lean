/-!
**Blank text**: the white space characters of the Unicode standard, and trimming them off.

Main definitions:

* `Text.isBlank` — is a character white space?
* `Text.trim` — a text without the white space at its ends;
* `Text.isBlankText` — does a text hold nothing but white space?
-/

set_option relaxedAutoImplicit false
set_option autoImplicit false

namespace Audience.Text

/-- Is this a white space character?  These are the characters with the property `White_Space`;
the zero width space and the byte order mark are not among them. -/
def isBlank (c : Char) : Bool :=
  let n := c.toNat
  (9 ≤ n && n ≤ 13) || n == 0x20 || n == 0x85 || n == 0xA0 || n == 0x1680
    || (0x2000 ≤ n && n ≤ 0x200A) || n == 0x2028 || n == 0x2029 || n == 0x202F || n == 0x205F
    || n == 0x3000

/-- A list of characters without the white space at its start. -/
def trimStart (cs : List Char) : List Char := cs.dropWhile isBlank

/-- A list of characters without the white space at its end. -/
def trimEnd (cs : List Char) : List Char := (trimStart cs.reverse).reverse

/-- A text without the **white space at its ends**. -/
def trim (s : String) : String := String.ofList (trimEnd (trimStart s.toList))

/-- Does a text hold nothing but white space? -/
def isBlankText (s : String) : Bool := s.toList.all isBlank

end Audience.Text
