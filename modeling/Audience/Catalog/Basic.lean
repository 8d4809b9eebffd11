import Audience.Operator
import Audience.Text.Blank

/-!
**Catalogs**: the attributes that a rule may test.

A catalog is a list of fields with names that are not blank and pairwise different, in which
exactly the fields to select from have options.  Its first field is the one that a new condition
starts out with.

Main definitions:

* `FieldType`, `Field` — an attribute and its type;
* `Catalog`, `Catalog.ofFields` — the lists of fields that form a catalog, and what is wrong with
  the others;
* `Catalog.field?` — look-up by name;
* `Catalog.operators`, `Catalog.allows` — the operators that may be used with a field;
* `Catalog.customers` — the attributes of customers.
-/

set_option relaxedAutoImplicit false
set_option autoImplicit false

namespace Audience

/-- The **type** of an attribute, which decides on the operators for it. -/
inductive FieldType where
  | text
  | number
  | date
  /-- One of the options that the field lists. -/
  | select
  deriving DecidableEq, Repr

namespace FieldType

/-- The name of a type. -/
def name : FieldType → String
  | text => "text"
  | number => "number"
  | date => "date"
  | select => "select"

/-- The types by their names. -/
def cases : List (String × FieldType) :=
  [("text", text), ("number", number), ("date", date), ("select", select)]

/-- The **operators for a type**, the default one first. -/
def operators : FieldType → List Operator
  | text => [.equals, .contains, .startsWith, .endsWith, .notEquals]
  | number => [.equals, .greaterThan, .lessThan, .greaterEqual, .lessEqual, .notEquals]
  | date => [.equals, .before, .after, .between]
  | select => [.equals, .notEquals]

end FieldType

/-- An **attribute** that a rule may test. -/
structure Field where
  /-- The name that rules and records use. -/
  name : String
  /-- The name shown to people. -/
  label : String
  /-- The type. -/
  type : FieldType
  /-- What there is to select from. -/
  options : List String := []
  deriving DecidableEq, Repr

/-- What is wrong with a list of fields. -/
inductive CatalogError where
  | blankName
  | duplicate (name : String)
  /-- A field to select from has no options. -/
  | noOptions (name : String)
  | strayOptions (name : String)
  deriving DecidableEq, Repr

/-- What is wrong with a list of fields, in words. -/
def CatalogError.message : CatalogError → String
  | blankName => "field name must not be empty"
  | duplicate name => "duplicate field '" ++ name ++ "' in catalog"
  | noOptions name => "select field '" ++ name ++ "' has no options"
  | strayOptions name => "options are only allowed on select fields ('" ++ name ++ "')"

/-- What is wrong with a field that comes after fields with the names `seen`. -/
def Field.problem? (seen : List String) (field : Field) : Option CatalogError :=
  if Text.isBlankText field.name then some .blankName
  else if field.name ∈ seen then some (.duplicate field.name)
  else match field.type, field.options with
    | .select, [] => some (.noOptions field.name)
    | .select, _ :: _ => none
    | _, [] => none
    | _, _ :: _ => some (.strayOptions field.name)

/-- The first thing wrong with a list of fields that come after fields with the names `seen`. -/
def Catalog.problem? (seen : List String) : List Field → Option CatalogError
  | [] => none
  | field :: fields => (field.problem? seen).or (problem? (field.name :: seen) fields)

/-- A **catalog**: a list of fields with nothing wrong with it. -/
structure Catalog where
  /-- The fields. -/
  fields : List Field
  /-- Nothing is wrong with them. -/
  valid : Catalog.problem? [] fields = none
  deriving DecidableEq, Repr

namespace Catalog

/-- The catalog of a list of fields, or the first thing wrong with it. -/
def ofFields (fields : List Field) : Except CatalogError Catalog :=
  match h : problem? [] fields with
  | none => .ok ⟨fields, h⟩
  | some error => .error error

/-- The first field, if there is one. -/
def first? (catalog : Catalog) : Option Field := catalog.fields.head?

/-- The **field** with a name. -/
def field? (catalog : Catalog) (name : String) : Option Field :=
  catalog.fields.find? (·.name == name)

/-- Is there a field with a name? -/
def contains (catalog : Catalog) (name : String) : Bool := (catalog.field? name).isSome

/-- The type of the field with a name. -/
def fieldType? (catalog : Catalog) (name : String) : Option FieldType :=
  (catalog.field? name).map (·.type)

/-- The options of the field with a name; none if there is no such field. -/
def options (catalog : Catalog) (name : String) : List String :=
  ((catalog.field? name).map (·.options)).getD []

/-- The **operators** that may be used with a field, the default one first; equality alone for a
field that the catalog does not have. -/
def operators (catalog : Catalog) (name : String) : List Operator :=
  match catalog.fieldType? name with
  | some type => type.operators
  | none => [.equals]

/-- The operator that a condition on a field starts out with. -/
def defaultOperator (catalog : Catalog) (name : String) : Operator :=
  (catalog.operators name).headD .equals

/-- May an operator be used with a field? -/
def allows (catalog : Catalog) (name : String) (op : Operator) : Bool :=
  op ∈ catalog.operators name

/-- The attributes of **customers**. -/
def customers : Catalog where
  fields :=
    [ { name := "name", label := "Full Name", type := .text },
      { name := "email", label := "Email Address", type := .text },
      { name := "phoneNumber", label := "Phone Number", type := .text },
      { name := "age", label := "Age", type := .number },
      { name := "total_spend", label := "Total Spend", type := .number },
      { name := "order_count", label := "Order Count", type := .number },
      { name := "registration_date", label := "Registration Date", type := .date },
      { name := "last_order_date", label := "Last Order Date", type := .date },
      { name := "status", label := "Account Status", type := .select,
        options := ["Active", "Inactive", "Pending", "Suspended"] } ]
  valid := by decide +kernel

instance : Inhabited Catalog := ⟨customers⟩

/-- Every field starts out with equality. -/
@[simp] theorem defaultOperator_eq (catalog : Catalog) (name : String) :
    catalog.defaultOperator name = .equals := by
  unfold defaultOperator operators
  split
  · next type _ => cases type <;> rfl
  · rfl

end Catalog

end Audience
