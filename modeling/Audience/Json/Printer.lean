import Audience.Double.Shortest
import Audience.Json.Basic

/-!
**The text of JSON values**: compact, with the shortest digits for doubles.

Main definitions:

* `Json.doubleLayout` — how a double is written in JSON;
* `Json.quote` — a text as a JSON string;
* `Json.compress` — the compact text of a value.
-/

set_option relaxedAutoImplicit false
set_option autoImplicit false

namespace Audience.Json

/-- Doubles are written out in full when the decimal point stands between four zeros before the
first digit and sixteen digits after it, whole ones with a zero behind the point, and with an
exponent otherwise; ties go to the even digit. -/
def doubleLayout : Double.Layout where
  tie := .even
  positional := some (-4, 16)
  wholeEnding := ".0"

/-- The hexadecimal digits of a control character. -/
def hexPair (n : Nat) : List Char := [Nat.digitChar (n / 16), Nat.digitChar (n % 16)]

/-- A character of a text as it is written between quotation marks. -/
def escapeChar (c : Char) : List Char :=
  match c with
  | '"' => ['\\', '"']
  | '\\' => ['\\', '\\']
  | '\n' => ['\\', 'n']
  | '\r' => ['\\', 'r']
  | '\t' => ['\\', 't']
  | '\x08' => ['\\', 'b']
  | '\x0c' => ['\\', 'f']
  | c => if c.toNat < 0x20 then ['\\', 'u', '0', '0'] ++ hexPair c.toNat else [c]

/-- A text as a JSON string. -/
def quote (s : String) : String :=
  String.ofList ('"' :: (s.toList.flatMap escapeChar ++ ['"']))

mutual

/-- The **compact text** of a value. -/
def compress : Json → String
  | null => "null"
  | bool b => if b then "true" else "false"
  | int n => toString n
  | float x => x.write doubleLayout
  | string s => quote s
  | array items => "[" ++ ",".intercalate (compressItems items) ++ "]"
  | object members => "\x7b" ++ ",".intercalate (compressMembers members) ++ "\x7d"

/-- The texts of a list of values. -/
def compressItems : List Json → List String
  | [] => []
  | item :: items => compress item :: compressItems items

/-- The texts of a list of named values. -/
def compressMembers : List (String × Json) → List String
  | [] => []
  | (key, value) :: members =>
    (quote key ++ ":" ++ compress value) :: compressMembers members

end

end Audience.Json
