/-!
**Searching texts**: prefixes, suffixes, occurrences and the parts between them.

Main definitions:

* `Text.startsWith`, `Text.endsWith`, `Text.contains` — does one text begin with, end with or hold
  another one?
* `Text.splitOnce` — the two sides of the first occurrence of a character;
* `Text.splitAll` — the parts between all occurrences of a character.
-/

set_option relaxedAutoImplicit false
set_option autoImplicit false

namespace Audience.Text

/-- Does a list of characters hold another one as a run of its own? -/
def holds (part : List Char) : List Char → Bool
  | [] => part.isEmpty
  | c :: cs => part.isPrefixOf (c :: cs) || holds part cs

/-- Does the text `s` begin with `part`? -/
def startsWith (s part : String) : Bool := part.toList.isPrefixOf s.toList

/-- Does the text `s` end with `part`? -/
def endsWith (s part : String) : Bool := part.toList.isSuffixOf s.toList

/-- Does the text `s` hold `part` somewhere? -/
def contains (s part : String) : Bool := holds part.toList s.toList

/-- What stands before and after the first occurrence of a character. -/
def splitOnce (separator : Char) : List Char → Option (List Char × List Char)
  | [] => none
  | c :: cs =>
    if c = separator then some ([], cs)
    else (splitOnce separator cs).map fun (before, after) => (c :: before, after)

/-- The parts of a text between all occurrences of a character. -/
def splitAll (separator : Char) : List Char → List (List Char)
  | [] => [[]]
  | c :: cs =>
    if c = separator then [] :: splitAll separator cs
    else match splitAll separator cs with
      | [] => [[c]]
      | part :: parts => (c :: part) :: parts

end Audience.Text
