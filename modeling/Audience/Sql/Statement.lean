import Audience.Sql.Expression

/-!
**Queries as text**.

A condition is first laid out as a list of tokens, in which the parameters are numbered from the
left, and then the tokens are written one after another.

Main definitions:

* `Sql.Token`, `Sql.Token.text` — the pieces of a query, and how they are written;
* `Sql.Expression.tokens` — a condition laid out;
* `Sql.Fragment`, `Sql.Query` — a condition and a whole query, with the values of the parameters;
* `Predicate.toSql` — the condition for a predicate whose columns are all in a catalog.
-/

set_option relaxedAutoImplicit false
set_option autoImplicit false

namespace Audience.Sql

/-- A **piece of the text** of a query. -/
inductive Token where
  /-- A key word, or a name or number that is part of the language. -/
  | word (text : String)
  | mark (text : String)
  | identifier (name : String)
  | param (number : Nat)
  | literal (text : String)
  | space
  deriving DecidableEq, Repr

/-- A character as it stands in a quoted name: a quotation mark is written twice. -/
def escapeIdentifier (c : Char) : List Char := if c = '"' then ['"', '"'] else [c]

/-- A **name between quotation marks**. -/
def quoteIdentifier (name : String) : String :=
  String.ofList ('"' :: (name.toList.flatMap escapeIdentifier ++ ['"']))

/-- The text of a piece. -/
def Token.text : Token → String
  | word text | mark text => text
  | identifier name => quoteIdentifier name
  | param number => "$" ++ toString number
  | literal text => "'" ++ text ++ "'"
  | space => " "

/-- The text of a list of pieces. -/
def write (tokens : List Token) : String := String.join (tokens.map Token.text)

/-! ### Layout -/

/-- Words with spaces between them. -/
def words (texts : List String) : List Token :=
  (texts.map Token.word).intersperse .space

/-- What a column is cast to, in the words of the language. -/
def Cast.type : Cast → List String
  | loweredText => ["TEXT"]
  | double => ["DOUBLE", "PRECISION"]
  | timestamp => ["TIMESTAMPTZ"]

/-- A column that is cast. -/
def castTokens (column : String) (cast : Cast) : List Token :=
  [.word "CAST", .mark "(", .identifier column, .space, .word "AS", .space] ++ words cast.type
    ++ [.mark ")"]

/-- A column as it is read for a comparison. -/
def readTokens (column : String) : Cast → List Token
  | .loweredText =>
    [.word "LOWER", .mark "("] ++ castTokens column .loweredText ++ [.mark ")"]
  | cast => castTokens column cast

/-- The word that stands for a fixed outcome. -/
def truthWord (holds : Bool) : String := if holds then "TRUE" else "FALSE"

mutual

/-- A **condition laid out**, its parameters numbered from `next`. -/
def Expression.tokens (next : Nat) : Expression → List Token
  | .truth holds => [.word (truthWord holds)]
  | .conjunction parts =>
    .mark "(" :: Expression.joinTokens "AND" next parts ++ [.mark ")"]
  | .disjunction parts =>
    .mark "(" :: Expression.joinTokens "OR" next parts ++ [.mark ")"]
  | .notNull column =>
    [.identifier column, .space] ++ words ["IS", "NOT", "NULL"]
  | .compare column cast comparison _ =>
    readTokens column cast
      ++ [.space, .mark comparison.sign, .space, .param next]
  | .like column _ =>
    readTokens column .loweredText
      ++ [.space, .word "LIKE", .space, .param next, .space, .word "ESCAPE", .space,
        .literal "\\"]
  | .between column _ _ =>
    readTokens column .timestamp
      ++ [.space, .word "BETWEEN", .space, .param next, .space, .word "AND", .space,
        .param (next + 1)]

/-- Conditions laid out with a word between them. -/
def Expression.joinTokens (joiner : String) (next : Nat) : List Expression → List Token
  | [] => []
  | [part] => part.tokens next
  | part :: parts =>
    part.tokens next ++ [.space, .word joiner, .space]
      ++ Expression.joinTokens joiner (next + part.params.length) parts

end

/-- A **condition as text**, with the values of its parameters. -/
structure Fragment where
  /-- The pieces of the text. -/
  tokens : List Token
  /-- The values of the parameters. -/
  params : List Json
  deriving DecidableEq, Repr

/-- The text of a condition. -/
def Fragment.text (fragment : Fragment) : String := write fragment.tokens

/-- A condition laid out, its parameters numbered from one. -/
def Expression.fragment (e : Expression) : Fragment := ⟨e.tokens 1, e.params⟩

/-- A **query** for the rows of a table, with the values of its parameters. -/
structure Query where
  /-- The text. -/
  text : String
  /-- The values of the parameters. -/
  params : List Json
  deriving DecidableEq, Repr

/-- The pieces of the query for the rows of a table that meet a condition. -/
def Fragment.selectTokens (table : String) (fragment : Fragment) : List Token :=
  [.word "SELECT", .space, .mark "*", .space, .word "FROM", .space, .identifier table, .space,
    .word "WHERE", .space] ++ fragment.tokens

/-- The query for the rows of a table that meet a condition. -/
def Fragment.select (table : String) (fragment : Fragment) : Query :=
  ⟨write (fragment.selectTokens table), fragment.params⟩

/-- A query in JSON. -/
def Query.toJson (query : Query) : Json :=
  .object [("params", .array query.params), ("sql", .string query.text)]

end Audience.Sql

namespace Audience

open Sql

/-- A predicate that **cannot be a condition** of a query. -/
inductive SqlError where
  | notFilterable (column : String)
  deriving DecidableEq, Repr

/-- Why a predicate cannot be a condition of a query, in words. -/
def SqlError.message : SqlError → String
  | notFilterable column => "field '" ++ column ++ "' is not filterable"

/-- The **condition of a query** that says what a predicate says, if the catalog has all columns
of the predicate; else the first one that it has not. -/
def Predicate.toSql (catalog : Catalog) (p : Predicate) : Except SqlError Fragment :=
  match p.columns.find? (!catalog.contains ·) with
  | some name => .error (.notFilterable name)
  | none => .ok p.expression.fragment

end Audience
