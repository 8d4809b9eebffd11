import Audience.Predicate.Basic
import Audience.Catalog.Basic

/-!
**Conditions of a database query** that say what a predicate says.

Values never become part of the text of a condition: every operand is a parameter, kept with the
expression at the place where it is used.

Main definitions:

* `Sql.Comparison`, `Sql.Cast`, `Sql.Expression` — the conditions;
* `Sql.Expression.params` — the parameters, from the left;
* `Sql.likePattern?` — the pattern that finds a text literally;
* `Predicate.expression` — the condition that says what a predicate says.
-/

set_option relaxedAutoImplicit false
set_option autoImplicit false

namespace Audience.Sql

/-- A **comparison** of two values. -/
inductive Comparison where
  | eq
  | ne
  | lt
  | gt
  | le
  | ge
  deriving DecidableEq, Repr

/-- The sign of a comparison. -/
def Comparison.sign : Comparison → String
  | eq => "="
  | ne => "<>"
  | lt => "<"
  | gt => ">"
  | le => "<="
  | ge => ">="

/-- What a column is read as. -/
inductive Cast where
  | loweredText
  | double
  | timestamp
  deriving DecidableEq, Repr

/-- A **condition** of a query, with its parameters in their places. -/
inductive Expression where
  | truth (holds : Bool)
  | conjunction (parts : List Expression)
  | disjunction (parts : List Expression)
  | notNull (column : String)
  | compare (column : String) (cast : Cast) (comparison : Comparison) (param : Json)
  | like (column : String) (pattern : Json)
  | between (column : String) (first last : Json)
  deriving Repr

mutual

/-- The **parameters** of a condition, from the left. -/
def Expression.params : Expression → List Json
  | .truth _ | .notNull _ => []
  | .conjunction parts | .disjunction parts => Expression.paramsAll parts
  | .compare _ _ _ param => [param]
  | .like _ pattern => [pattern]
  | .between _ first last => [first, last]

/-- The parameters of a list of conditions. -/
def Expression.paramsAll : List Expression → List Json
  | [] => []
  | part :: parts => part.params ++ Expression.paramsAll parts

end

/-! ### Tests as conditions -/

/-- The comparison that an operator makes; equality for one that makes none. -/
def comparisonOf : Operator → Comparison
  | .greaterThan | .after => .gt
  | .lessThan | .before => .lt
  | .greaterEqual => .ge
  | .lessEqual => .le
  | .notEquals => .ne
  | _ => .eq

/-- A character as it stands in a pattern, where three characters have a meaning of their own. -/
def escapeLike (c : Char) : List Char :=
  if c = '\\' ∨ c = '%' ∨ c = '_' then ['\\', c] else [c]

/-- A text as it stands in a pattern. -/
def likeLiteral (s : String) : List Char := s.toList.flatMap escapeLike

/-- The **pattern** for an operator that looks for a text within another one. -/
def likePattern? (op : Operator) (operand : String) : Option String :=
  match op with
  | .contains => some (String.ofList ('%' :: (likeLiteral operand ++ ['%'])))
  | .startsWith => some (String.ofList (likeLiteral operand ++ ['%']))
  | .endsWith => some (String.ofList ('%' :: likeLiteral operand))
  | _ => none

/-- An instant as a parameter. -/
def instantParam (t : Instant) : Json := .string (t.write .offset)

end Audience.Sql

namespace Audience

open Sql

/-- The condition that says what a **test** of a column says. -/
def ColumnTest.expression (column : String) : ColumnTest → Expression
  | present => .notNull column
  | text op operand =>
    match likePattern? op operand with
    | some pattern => .like column (.string pattern)
    | none => .compare column .loweredText (comparisonOf op) (.string operand)
  | numeric op (some operand) =>
    .compare column .double (comparisonOf op) (Json.ofDouble operand)
  | date op (some operand) => .compare column .timestamp (comparisonOf op) (instantParam operand)
  | dateRange (some first) (some last) =>
    .between column (instantParam first) (instantParam last)
  | numeric _ none | date _ none | dateRange none _ | dateRange (some _) none => .truth false

mutual

/-- The condition that says what a **predicate** says. -/
def Predicate.expression : Predicate → Expression
  | const holds => .truth holds
  | column name test => test.expression name
  | all parts => .conjunction (Predicate.expressionAll parts)
  | any parts => .disjunction (Predicate.expressionAll parts)

/-- The conditions that say what a list of predicates says. -/
def Predicate.expressionAll : List Predicate → List Expression
  | [] => []
  | part :: parts => part.expression :: Predicate.expressionAll parts

end

end Audience
