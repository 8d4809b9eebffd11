import Audience.Coercion
import Audience.Error
import Audience.Settings.Basic
import Audience.Text.Search

/-!
**Settings from environment variables**.

A variable `CRM__SECTION__KEY`, in any case, sets a value of a section; a key may be followed by
places of a list, as in `KEY[0]`.  The text of the variable is read as a truth value, a whole number
or a double where it denotes one, and converted to what the setting needs.  The settings of a section
are given by their names, or as a list in the order of their declaration.

Main definitions:

* `EnvScalar`, `EnvTree` — the values of variables, and the tables and lists that they fill;
* `EnvStep`, `stepsOf?` — the way that the name of a variable leads;
* `EnvTree.ofVariables` — the table of a list of variables;
* `Settings.ofVariables` — the settings that a list of variables makes.
-/

set_option relaxedAutoImplicit false
set_option autoImplicit false

namespace Audience

/-- The **value of a variable**. -/
inductive EnvScalar where
  | bool (b : Bool)
  | int (n : Int)
  | float (x : Double)
  | text (s : String)
  deriving DecidableEq, Repr

/-- A **table** of named values, a list, or a value. -/
inductive EnvTree where
  /-- Nothing: a place that no variable has filled. -/
  | gap
  | scalar (value : EnvScalar)
  | list (items : List EnvTree)
  | table (entries : List (String × EnvTree))
  deriving Repr

/-- A **step** towards a value. -/
inductive EnvStep where
  /-- To the value of a key. -/
  | key (name : String)
  /-- To a place of a list; negative ones count from the end. -/
  | place (index : Int)
  deriving DecidableEq, Repr

instance : Inhabited EnvTree := ⟨.table []⟩

/-! ### Reading variables -/

/-- What the name of every variable that counts begins with. -/
def EnvTree.opening : List Char := "crm__".toList

/-- May a character be part of a key? -/
def isKeyChar (c : Char) : Bool :=
  c.isAlphanum || c == ' ' || c == '_' || c == '-'

/-- The parts of a name between pairs of low lines, or points. -/
def splitKeys : List Char → List (List Char)
  | '_' :: '_' :: rest => [] :: splitKeys rest
  | '.' :: rest => [] :: splitKeys rest
  | c :: rest =>
    match splitKeys rest with
    | [] => [[c]]
    | part :: parts => (c :: part) :: parts
  | [] => [[]]

/-- A whole number of at most 64 bits with a sign. -/
def wholeNumber? (cs : List Char) : Option Int :=
  let (negative, digits) := Double.spanSign cs
  if digits.isEmpty || !digits.all Double.isDigit then none
  else
    let n : Int := Double.natOfDigits digits
    let signed := if negative then -n else n
    if Json.isSignedWord signed then some signed else none

/-- The place of a list that the characters after an opening bracket name. -/
def placeOf? (cs : List Char) : Option EnvStep :=
  let isSpace (c : Char) : Bool := c == ' ' || c == '\t'
  if cs.getLast? = some ']' then
    let inner := ((cs.dropLast.dropWhile isSpace).reverse.dropWhile isSpace).reverse
    if inner.head? = some '+' then none else (wholeNumber? inner).map .place
  else none

/-- The steps of a part of a name: to a key, and then to places. -/
def partOf? (cs : List Char) : Option (List EnvStep) :=
  match Text.splitAll '[' cs with
  | [] => none
  | key :: places =>
    if !key.isEmpty && key.all isKeyChar then
      (places.mapM placeOf?).map (.key (String.ofList key) :: ·)
    else none

/-- The **steps that the name of a variable leads**, if it counts. -/
def stepsOf? (name : String) : Option (List EnvStep) :=
  let lowered := (Text.lowercase name).toList
  if EnvTree.opening.isPrefixOf lowered then
    ((splitKeys (lowered.drop EnvTree.opening.length)).mapM partOf?).map List.flatten
  else none

/-- The value that the text of a variable denotes. -/
def EnvScalar.ofText (s : String) : EnvScalar :=
  let lowered := Text.lowercase s
  if lowered = "true" then .bool true
  else if lowered = "false" then .bool false
  else match wholeNumber? s.toList with
    | some n => .int n
    | none =>
      match Double.ofText? s.toList with
      | some x => .float x
      | none => .text s

/-! ### Filling tables -/

/-- Gives a key what `change` makes of what it had. -/
def alter (key : String) (change : EnvTree → EnvTree) :
    List (String × EnvTree) → List (String × EnvTree)
  | [] => [(key, change .gap)]
  | (k, old) :: entries =>
    if k = key then (k, change old) :: entries else (k, old) :: alter key change entries

/-- The number of a place in a list of `length` items; there is none before the first. -/
def position? (length : Nat) (index : Int) : Option Nat :=
  if 0 ≤ index then some index.toNat
  else if index.natAbs ≤ length then some (length - index.natAbs)
  else none

/-- Gives a place of a list what `change` makes of what it had; the list grows as far as needed. -/
def alterAt (index : Int) (change : EnvTree → EnvTree) (items : List EnvTree) : List EnvTree :=
  match position? items.length index with
  | some n => (items ++ List.replicate (n + 1 - items.length) EnvTree.gap).modify n change
  | none => items

/-- The entries of a table; anything else has none. -/
def EnvTree.entries : EnvTree → List (String × EnvTree)
  | table entries => entries
  | _ => []

/-- The items of a list; anything else has none. -/
def EnvTree.items : EnvTree → List EnvTree
  | list items => items
  | _ => []

/-- A tree in which a value is reached by some steps; what is in the way is replaced. -/
def EnvTree.set (value : EnvScalar) : List EnvStep → EnvTree → EnvTree
  | [], _ => .scalar value
  | .key name :: steps, tree => .table (alter name (EnvTree.set value steps) tree.entries)
  | .place index :: steps, tree => .list (alterAt index (EnvTree.set value steps) tree.items)

/-- The **table of a list of variables**. -/
def EnvTree.ofVariables (environment : List (String × String)) : EnvTree :=
  environment.foldl
    (fun tree (name, text) =>
      match stepsOf? name with
      | some steps => EnvTree.set (.ofText text) steps tree
      | none => tree)
    (.table [])

/-! ### Settings -/

/-- A setting that **cannot be converted** to what it should be. -/
structure SettingError where
  /-- The key of the setting. -/
  key : String
  deriving DecidableEq, Repr

/-- A setting that cannot be converted as an error of the engine. -/
def SettingError.error (e : SettingError) : EngineError := ⟨.config, "invalid value for " ++ e.key⟩

/-- The words that count as a truth value where a number is needed. -/
def wordNumber? (s : String) : Option Nat :=
  if s = "true" ∨ s = "on" ∨ s = "yes" then some 1
  else if s = "false" ∨ s = "off" ∨ s = "no" then some 0
  else none

/-- A value as a natural number of 64 bits. -/
def EnvScalar.toNat? : EnvScalar → Option Nat
  | bool b => some (if b then 1 else 0)
  | int n => if 0 ≤ n then some n.toNat else none
  | float x => some (x.toNat 0xFFFFFFFFFFFFFFFF)
  | text s => wordNumber? (Text.lowercase s)

/-- A value as a text. -/
def EnvScalar.toText : EnvScalar → String
  | bool b => if b then "true" else "false"
  | int n => toString n
  | float x => x.plain
  | text s => s

/-- The policy with a name, in any case. -/
def EmptyGroupPolicy.named? (name : String) : Option EmptyGroupPolicy :=
  (EmptyGroupPolicy.cases.find? (·.1 == Text.lowercase name)).map (·.2)

/-- A tree as a natural number. -/
def EnvTree.toNat? : EnvTree → Option Nat
  | scalar value => value.toNat?
  | _ => none

/-- A tree as a text. -/
def EnvTree.toText? : EnvTree → Option String
  | scalar value => some value.toText
  | _ => none

/-- A tree as a policy: its name, or a table with its name as the only key. -/
def EnvTree.toPolicy? : EnvTree → Option EmptyGroupPolicy
  | scalar (.text name) => EmptyGroupPolicy.named? name
  | table [(name, _)] => EmptyGroupPolicy.named? name
  | _ => none

/-- The part of a section with a name: the value of a key, or of a place where it is a list. -/
def EnvTree.part? (key : String) (position : Nat) : EnvTree → Option EnvTree
  | table entries => (entries.find? (·.1 == key)).map (·.2)
  | list items => items[position]?
  | _ => none

/-- A setting of a section, where it is given. -/
def EnvTree.setting? {α : Type} (part : EnvTree) (key : String) (position : Nat)
    (convert : EnvTree → Option α) : Except SettingError (Option α) :=
  match part.part? key position with
  | none => .ok none
  | some tree =>
    match convert tree with
    | some value => .ok (some value)
    | none => .error ⟨key⟩

/-- May a tree be a section? -/
def EnvTree.isSection : EnvTree → Bool
  | table _ | list _ => true
  | _ => false

/-- The settings that a section makes. -/
def Settings.ofSection (part : EnvTree) : Except SettingError Settings :=
  if part.isSection then do
    let emptyGroups ← part.setting? "empty_group_policy" 0 EnvTree.toPolicy?
    let maxDepth ← part.setting? "max_depth" 1 EnvTree.toNat?
    let maxChildren ← part.setting? "max_children" 2 EnvTree.toNat?
    let table ← part.setting? "default_table" 3 EnvTree.toText?
    return Settings.withDefaults emptyGroups maxDepth maxChildren table
  else .error ⟨"segmentation"⟩

/-- The **settings that a list of variables makes**. -/
def Settings.ofVariables (environment : List (String × String)) : Except SettingError Settings :=
  match (EnvTree.ofVariables environment).entries.find? (·.1 == "segmentation") with
  | some (_, tree) => ofSection tree
  | none => .ok {}

end Audience
