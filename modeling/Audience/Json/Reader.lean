import Audience.Double.Reader
import Audience.Json.Basic

/-!
**Reading JSON values** from their text.

The readers take a list of characters and give back a value with the characters after it.  Nesting
and repetition both use up characters, so a supply of steps as long as the text suffices.

Main definitions:

* `Json.ofNumberText?` — the value of a number: a whole number where 64 bits hold it, else a double;
* `Json.readString`, `Json.readValue` — a text between quotation marks, and any value;
* `Json.ofText?` — the value that a whole text denotes.
-/

set_option relaxedAutoImplicit false
set_option autoImplicit false

namespace Audience.Json

/-- Is this one of the four characters that may stand between the parts of a value? -/
def isSpace (c : Char) : Bool := c == ' ' || c == '\n' || c == '\t' || c == '\r'

/-- A text without the spaces at its start. -/
def skipSpace (cs : List Char) : List Char := cs.dropWhile isSpace

/-! ### Numbers -/

/-- The characters a number consists of, at the start of a text, and the rest. -/
def spanNumber (cs : List Char) : List Char × List Char :=
  let belongs c := Double.isDigit c || c == '-' || c == '+' || c == '.' || c == 'e' || c == 'E'
  (cs.takeWhile belongs, cs.dropWhile belongs)

/-- Does a 64-bit whole number, signed or not, hold this one? -/
def isWord (n : Int) : Bool := -0x8000000000000000 ≤ n && n < 0x10000000000000000

/-- The value of a number.  Negative zero is a double, as is every number with a fraction or an
exponent and every whole number that 64 bits do not hold; a number beyond all finite doubles has no
value. -/
def ofNumberText? (cs : List Char) : Option Json :=
  let (negative, rest) := match cs with
    | '-' :: rest => (true, rest)
    | rest => (false, rest)
  let (whole, rest) := Double.spanDigits rest
  let (fraction, afterFraction) := Double.spanFraction rest
  if whole.isEmpty || (whole.head? == some '0' && whole.length != 1) then none
  else if rest.head? == some '.' && fraction.isEmpty then none
  else (Double.exponentOf? afterFraction).bind fun exponent =>
    let n := Double.natOfDigits whole
    let signed : Int := if negative then -(n : Int) else n
    if rest.isEmpty && isWord signed && !(negative && n == 0) then some (int signed)
    else
      let x := Double.ofDecimal negative (Double.natOfDigits (whole ++ fraction))
        (exponent - fraction.length)
      if x.isFinite then some (float x) else none

/-! ### Texts -/

/-- The value of a hexadecimal digit. -/
def hexDigit? (c : Char) : Option Nat :=
  if '0' ≤ c ∧ c ≤ '9' then some (c.toNat - 48)
  else if 'a' ≤ c ∧ c ≤ 'f' then some (c.toNat - 87)
  else if 'A' ≤ c ∧ c ≤ 'F' then some (c.toNat - 55)
  else none

/-- The number of four hexadecimal digits at the start of a text, and the rest. -/
def hexFour? : List Char → Option (Nat × List Char)
  | a :: b :: c :: d :: rest => do
    let a ← hexDigit? a
    let b ← hexDigit? b
    let c ← hexDigit? c
    let d ← hexDigit? d
    some (((a * 16 + b) * 16 + c) * 16 + d, rest)
  | _ => none

/-- The character of a `\u` escape, whose `u` has been read.  Two escapes together denote a
character beyond the first 65536; a half of such a pair alone denotes nothing. -/
def escapedCode? (cs : List Char) : Option (Char × List Char) := do
  let (high, rest) ← hexFour? cs
  if 0xD800 ≤ high ∧ high < 0xDC00 then
    match rest with
    | '\\' :: 'u' :: rest =>
      let (low, rest) ← hexFour? rest
      if 0xDC00 ≤ low ∧ low < 0xE000 then
        some (Char.ofNat (0x10000 + (high - 0xD800) * 0x400 + (low - 0xDC00)), rest)
      else none
    | _ => none
  else if 0xDC00 ≤ high ∧ high < 0xE000 then none
  else some (Char.ofNat high, rest)

/-- The character that a letter after a backslash denotes. -/
def escaped? : Char → Option Char
  | '"' => some '"'
  | '\\' => some '\\'
  | '/' => some '/'
  | 'b' => some '\x08'
  | 'f' => some '\x0c'
  | 'n' => some '\n'
  | 'r' => some '\r'
  | 't' => some '\t'
  | _ => none

/-- A text up to its closing quotation mark; `read` holds what has been read, backwards. -/
def readString : (steps : Nat) → (read : List Char) → List Char → Option (String × List Char)
  | 0, _, _ => none
  | _, _, [] => none
  | _ + 1, read, '"' :: rest => some (String.ofList read.reverse, rest)
  | steps + 1, read, '\\' :: 'u' :: rest =>
    match escapedCode? rest with
    | some (c, rest) => readString steps (c :: read) rest
    | none => none
  | steps + 1, read, '\\' :: c :: rest =>
    match escaped? c with
    | some c => readString steps (c :: read) rest
    | none => none
  | steps + 1, read, c :: rest =>
    if c.toNat < 0x20 ∨ c = '\\' then none else readString steps (c :: read) rest

/-! ### Values -/

mutual

/-- A value at the start of a text, and the rest. -/
def readValue : (steps : Nat) → List Char → Option (Json × List Char)
  | 0, _ => none
  | steps + 1, cs =>
    match skipSpace cs with
    | 'n' :: 'u' :: 'l' :: 'l' :: rest => some (null, rest)
    | 't' :: 'r' :: 'u' :: 'e' :: rest => some (bool true, rest)
    | 'f' :: 'a' :: 'l' :: 's' :: 'e' :: rest => some (bool false, rest)
    | '"' :: rest => (readString steps [] rest).map fun (s, rest) => (string s, rest)
    | '[' :: rest =>
      match skipSpace rest with
      | ']' :: rest => some (array [], rest)
      | rest => (readItems steps rest).map fun (items, rest) => (array items, rest)
    | '\x7b' :: rest =>
      match skipSpace rest with
      | '\x7d' :: rest => some (object [], rest)
      | rest => (readMembers steps rest).map fun (entries, rest) => (ofMembers entries, rest)
    | cs =>
      let (number, rest) := spanNumber cs
      (ofNumberText? number).map fun value => (value, rest)

/-- The items of a list up to its closing bracket. -/
def readItems : (steps : Nat) → List Char → Option (List Json × List Char)
  | 0, _ => none
  | steps + 1, cs =>
    match readValue steps cs with
    | none => none
    | some (item, rest) =>
      match skipSpace rest with
      | ',' :: rest => (readItems steps rest).map fun (items, rest) => (item :: items, rest)
      | ']' :: rest => some ([item], rest)
      | _ => none

/-- The named values of an object up to its closing brace, in the order of the text. -/
def readMembers : (steps : Nat) → List Char → Option (List (String × Json) × List Char)
  | 0, _ => none
  | steps + 1, cs =>
    match skipSpace cs with
    | '"' :: rest =>
      match readString steps [] rest with
      | none => none
      | some (key, rest) =>
        match skipSpace rest with
        | ':' :: rest =>
          match readValue steps rest with
          | none => none
          | some (value, rest) =>
            match skipSpace rest with
            | ',' :: rest =>
              (readMembers steps rest).map fun (entries, rest) => ((key, value) :: entries, rest)
            | '\x7d' :: rest => some ([(key, value)], rest)
            | _ => none
        | _ => none
    | _ => none

end

/-- The **value that a text denotes**. -/
def ofText? (text : String) : Option Json :=
  let cs := text.toList
  match readValue (cs.length + 1) cs with
  | some (value, rest) => if (skipSpace rest).isEmpty then some value else none
  | none => none

end Audience.Json
