import Audience.Proofs.Sql.Agreement

/-!
**Queries are safe**: what stands in the text of a query, whatever names it is written with.

The text of a query is scanned back to tokens, and nothing is among them but the words and signs of
the language, quoted names and numbers of parameters.  The names are that of the table and those of
columns that the catalog has; the parentheses match; and the parameters are numbered from one, each
used once.

Main definitions:

* `Sql.Token.isFixed` — tokens of the language, and those that carry no text but a quoted name;
* `Sql.identifiers`, `Sql.placeholders` — the names and the numbers of parameters, from the left;
* `Sql.nesting?` — the parentheses that are open after some tokens, if none closes that is not;
* `Sql.LaidOut` — **safe tokens** with given names and numbers;
* `ColumnTest.isRendered` — tests that become a condition on their column.

Main results:

* `Sql.laidOut_tokens` — the tokens of a condition are safe;
* `Predicate.columns_expression` — the columns in the condition for a predicate are those of its
  tests that have all operands;
* `Predicate.select_is_safe` — **queries are safe**, and their parameters have a value each.
-/

set_option relaxedAutoImplicit false
set_option autoImplicit false

namespace Audience.Sql

/-! ### What stands in a query -/

/-- The key words of queries, with the names of types and functions. -/
def keyWords : List String :=
  ["SELECT", "FROM", "WHERE", "TRUE", "FALSE", "AND", "OR", "IS", "NOT", "NULL", "LOWER", "CAST",
    "AS", "TEXT", "DOUBLE", "PRECISION", "TIMESTAMPTZ", "LIKE", "ESCAPE", "BETWEEN"]

/-- The signs of queries. -/
def signs : List String := ["*", "(", ")", "=", "<>", "<", ">", "<=", ">="]

/-- Does a token carry no text from outside, unless it is a quoted name?  The one literal is the
character that escapes others in a pattern. -/
def Token.isFixed : Token → Bool
  | word text => keyWords.contains text
  | mark text => signs.contains text
  | literal text => text == "\\"
  | identifier _ | param _ | space => true

/-- The name that a token stands for. -/
def Token.identifier? : Token → Option String
  | identifier name => some name
  | _ => none

/-- The number of the parameter that a token stands for. -/
def Token.param? : Token → Option Nat
  | param number => some number
  | _ => none

/-- The quoted names, from the left. -/
def identifiers (tokens : List Token) : List String := tokens.filterMap Token.identifier?

/-- The numbers of parameters, from the left. -/
def placeholders (tokens : List Token) : List Nat := tokens.filterMap Token.param?

/-- How many parentheses are open after a token, if `depth` of them are before; none if it
closes one and none is open. -/
def Token.nesting? (depth : Nat) (token : Token) : Option Nat :=
  if token = mark "(" then some (depth + 1)
  else if token = mark ")" then
    if depth = 0 then none else some (depth - 1)
  else some depth

/-- How many parentheses are open after some tokens. -/
def nesting? (depth : Nat) (tokens : List Token) : Option Nat := tokens.foldlM Token.nesting? depth

theorem nesting?_append (depth : Nat) (xs ys : List Token) :
    nesting? depth (xs ++ ys) = (nesting? depth xs).bind (nesting? · ys) :=
  List.foldlM_append

theorem nesting?_cons (depth : Nat) (token : Token) (tokens : List Token) :
    nesting? depth (token :: tokens) = (token.nesting? depth).bind (nesting? · tokens) :=
  List.foldlM_cons

/-! ### Safe tokens -/

/-- **Safe tokens**, with the names and the numbers of parameters in them: `count` numbers, from
`next` on. -/
structure LaidOut (next : Nat) (columns : List String) (count : Nat) (tokens : List Token) :
    Prop where
  /-- Nothing but names comes from outside. -/
  fixed : ∀ token ∈ tokens, token.isFixed = true
  /-- The names. -/
  identifiers_eq : identifiers tokens = columns
  /-- The numbers. -/
  placeholders_eq : placeholders tokens = List.range' next count
  /-- The parentheses match. -/
  nested : ∀ depth, nesting? depth tokens = some depth

namespace LaidOut

variable {next : Nat} {columns others : List String} {count more : Nat} {xs ys : List Token}

theorem append (hx : LaidOut next columns count xs)
    (hy : LaidOut (next + count) others more ys) :
    LaidOut next (columns ++ others) (count + more) (xs ++ ys) where
  fixed := by
    intro token htoken
    rcases List.mem_append.1 htoken with h | h
    · exact hx.fixed token h
    · exact hy.fixed token h
  identifiers_eq := by
    rw [← hx.identifiers_eq, ← hy.identifiers_eq]
    exact List.filterMap_append
  placeholders_eq := by
    rw [← List.range'_append_1, ← hx.placeholders_eq, ← hy.placeholders_eq]
    exact List.filterMap_append
  nested := by
    intro depth
    rw [nesting?_append, hx.nested depth, Option.bind_some, hy.nested depth]

theorem append_left (hx : LaidOut next [] 0 xs) (hy : LaidOut next columns count ys) :
    LaidOut next columns count (xs ++ ys) := by
  have h := hx.append hy
  rwa [List.nil_append, Nat.zero_add] at h

/-- Safe tokens stay so between parentheses. -/
theorem parentheses (h : LaidOut next columns count xs) :
    LaidOut next columns count (.mark "(" :: xs ++ [.mark ")"]) where
  fixed := by
    intro token htoken
    rw [List.cons_append, List.mem_cons, List.mem_append, List.mem_singleton] at htoken
    rcases htoken with rfl | htoken | rfl
    · decide
    · exact h.fixed token htoken
    · decide
  identifiers_eq := by
    rw [← h.identifiers_eq]
    simp [identifiers, List.filterMap_cons, Token.identifier?]
  placeholders_eq := by
    rw [← h.placeholders_eq]
    simp [placeholders, List.filterMap_cons, Token.param?]
  nested := by
    intro depth
    -- one more is open around the tokens, and closes after them
    have hopen : (Token.mark "(").nesting? depth = some (depth + 1) := rfl
    rw [List.cons_append, nesting?_cons, hopen, Option.bind_some, nesting?_append,
      h.nested (depth + 1)]
    rfl

end LaidOut

/-! ### Conditions -/

mutual

/-- The columns in a condition, from the left. -/
def Expression.columns : Expression → List String
  | .truth _ => []
  | .conjunction parts | .disjunction parts => Expression.columnsAll parts
  | .notNull column | .compare column _ _ _ | .like column _ | .between column _ _ => [column]

/-- The columns in a list of conditions. -/
def Expression.columnsAll : List Expression → List String
  | [] => []
  | part :: parts => part.columns ++ Expression.columnsAll parts

end

theorem Expression.columnsAll_eq_flatMap (parts : List Expression) :
    Expression.columnsAll parts = parts.flatMap Expression.columns := by
  induction parts with
  | nil => rfl
  | cons part parts ih => rw [columnsAll, ih, List.flatMap_cons]

theorem laidOut_readTokens (next : Nat) (column : String) (cast : Cast) :
    LaidOut next [column] 0 (readTokens column cast) where
  fixed := by cases cast <;> simp +decide [readTokens, castTokens, words, Cast.type, Token.isFixed]
  identifiers_eq := by cases cast <;> rfl
  placeholders_eq := by cases cast <;> rfl
  nested := by intro depth; cases cast <;> rfl

/-- A test of a column is safe. -/
theorem laidOut_test {e : Expression} (he : e.isCombination = false) (next : Nat) :
    LaidOut next e.columns e.params.length (e.tokens next) := by
  cases e with
  | truth holds =>
      refine ⟨?_, rfl, rfl, fun _ => by cases holds <;> rfl⟩
      cases holds <;> simp +decide [Expression.tokens, truthWord, Token.isFixed]
  | notNull column =>
      refine ⟨?_, rfl, rfl, fun _ => rfl⟩
      simp +decide [Expression.tokens, words, Token.isFixed]
  | compare column cast comparison param =>
      have hrest : LaidOut next [] 1
          [.space, .mark comparison.sign, .space, .param next] := by
        refine ⟨?_, rfl, rfl, fun _ => by cases comparison <;> rfl⟩
        cases comparison <;> simp +decide [Comparison.sign, Token.isFixed]
      exact (laidOut_readTokens next column cast).append hrest
  | like column pattern =>
      have hrest : LaidOut next [] 1
          [.space, .word "LIKE", .space, .param next, .space, .word "ESCAPE", .space,
            .literal "\\"] :=
        ⟨by simp +decide [Token.isFixed], rfl, rfl, fun _ => rfl⟩
      exact (laidOut_readTokens next column .loweredText).append hrest
  | between column first last =>
      have hrest : LaidOut next [] 2
          [.space, .word "BETWEEN", .space, .param next, .space, .word "AND", .space,
            .param (next + 1)] :=
        ⟨by simp +decide [Token.isFixed], rfl, rfl, fun _ => rfl⟩
      exact (laidOut_readTokens next column .timestamp).append hrest
  | conjunction parts => simp [Expression.isCombination] at he
  | disjunction parts => simp [Expression.isCombination] at he

mutual

/-- The tokens of a condition are safe, with its columns and a number for each parameter. -/
theorem laidOut_tokens (next : Nat) :
    (e : Expression) → LaidOut next e.columns e.params.length (e.tokens next)
  | .conjunction parts => (laidOut_joinTokens "AND" (by decide) next parts).parentheses
  | .disjunction parts => (laidOut_joinTokens "OR" (by decide) next parts).parentheses
  | .truth _ | .notNull _ | .compare .. | .like .. | .between .. => laidOut_test rfl next

/-- The tokens of conditions with a key word between them are safe. -/
theorem laidOut_joinTokens (joiner : String) (hj : (Token.word joiner).isFixed = true)
    (next : Nat) : (parts : List Expression) →
      LaidOut next (Expression.columnsAll parts) (Expression.paramsAll parts).length
        (Expression.joinTokens joiner next parts)
  | [] => ⟨nofun, rfl, rfl, fun _ => rfl⟩
  | [part] => by
    rw [Expression.joinTokens, Expression.columnsAll, Expression.columnsAll, List.append_nil,
      Expression.paramsAll, Expression.paramsAll, List.append_nil]
    exact laidOut_tokens next part
  | part :: second :: parts => by
    have hsecond := laidOut_joinTokens joiner hj (next + part.params.length) (second :: parts)
    -- the numbers go on after the word, which has none
    have hword : LaidOut (next + part.params.length) [] 0 [.space, .word joiner, .space] :=
      ⟨by simpa [Token.isFixed] using hj, rfl, rfl, fun _ => rfl⟩
    rw [Expression.joinTokens, Expression.columnsAll, Expression.paramsAll, List.length_append,
      List.append_assoc]
    · exact (laidOut_tokens next part).append (hword.append_left hsecond)
    · simp

end

theorem Fragment.text_select (table : String) (fragment : Fragment) :
    (fragment.select table).text = write (fragment.selectTokens table) := by
  rw [Fragment.select]

theorem scan_select (table : String) (e : Expression) :
    scan (e.fragment.select table).text = some (e.fragment.selectTokens table) := by
  rw [Fragment.text_select]
  exact scan_write (legible_selectTokens table e)

theorem laidOut_selectTokens (table : String) (e : Expression) :
    LaidOut 1 (table :: e.columns) e.params.length (e.fragment.selectTokens table) := by
  have hhead : LaidOut 1 [table] 0
      [.word "SELECT", .space, .mark "*", .space, .word "FROM", .space, .identifier table, .space,
        .word "WHERE", .space] :=
    ⟨by simp +decide [Token.isFixed], rfl, rfl, fun _ => rfl⟩
  have h := hhead.append (laidOut_tokens 1 e)
  rwa [Nat.zero_add] at h

end Audience.Sql

namespace Audience

open Sql

/-! ### Predicates -/

/-- Does a test become a condition on its column?  Without an operand it is never met, and
becomes a fixed outcome. -/
def ColumnTest.isRendered : ColumnTest → Bool
  | present | text _ _ => true
  | numeric _ operand => operand.isSome
  | date _ operand => operand.isSome
  | dateRange first last => first.isSome && last.isSome

theorem ColumnTest.columns_expression (name : String) (test : ColumnTest) :
    (test.expression name).columns = if test.isRendered then [name] else [] := by
  cases test with
  | present => rfl
  | text op operand =>
      rw [expression]
      cases likePattern? op operand <;> rfl
  | numeric op operand => cases operand <;> rfl
  | date op operand => cases operand <;> rfl
  | dateRange first last => cases first <;> cases last <;> rfl

namespace Predicate

/-- The columns in the condition for a predicate are those of the tests that become conditions
on their columns. -/
theorem columns_expression (p : Predicate) :
    p.expression.columns = (p.tests.filter (·.2.isRendered)).map (·.1) := by
  have hparts := Expression.columnsAll_eq_flatMap
  have hcollect : p.expression.columns
      = p.tests.flatMap fun test => (test.2.expression test.1).columns :=
    collect_expression (fun _ => rfl) hparts hparts p
  rw [hcollect]
  induction p.tests with
  | nil => rfl
  | cons test tests ih =>
      rw [List.flatMap_cons, ih, ColumnTest.columns_expression, List.filter_cons]
      split <;> rfl

theorem exists_field_of_toSql {catalog : Catalog} {p : Predicate} {fragment : Fragment}
    (h : p.toSql catalog = .ok fragment) {name : String} (hname : name ∈ p.columns) :
    ∃ field ∈ catalog.fields, field.name = name := by
  rw [toSql] at h
  split at h
  · cases h
  · next hnone =>
    have hcontains : catalog.contains name = true := by
      simpa using List.find?_eq_none.1 hnone name hname
    rw [Catalog.contains, Catalog.field?, List.find?_isSome] at hcontains
    simpa using hcontains

/-- **Queries are safe**, whatever predicate they are made from and whatever stands in the names of
the table and of the columns: the text of a query is scanned back to tokens of the language, quoted
names and numbers of parameters.  The first name is that of the table; the others are fields of the
catalog, which are the columns of the predicate less those of tests that are never met.  The
parentheses match, and the parameters are numbered from one, each used once and with a value. -/
theorem select_is_safe {catalog : Catalog} {p : Predicate} {fragment : Fragment}
    (h : p.toSql catalog = .ok fragment) (table : String) :
    ∃ tokens, scan (fragment.select table).text = some tokens ∧
      write tokens = (fragment.select table).text ∧
      (∀ token ∈ tokens, token.isFixed = true) ∧
      identifiers tokens = table :: (p.tests.filter (·.2.isRendered)).map (·.1) ∧
      p.columns = p.tests.map (·.1) ∧
      (∀ name ∈ (identifiers tokens).tail, ∃ field ∈ catalog.fields, field.name = name) ∧
      nesting? 0 tokens = some 0 ∧
      placeholders tokens = List.range' 1 (fragment.select table).params.length := by
  obtain rfl := toSql_eq_ok h
  have hsafe := laidOut_selectTokens table p.expression
  have hnames := hsafe.identifiers_eq
  rw [columns_expression] at hnames
  refine ⟨_, scan_select table p.expression, (Fragment.text_select table _).symm, hsafe.fixed,
    hnames, columns_eq_map_tests p, ?_, hsafe.nested 0, hsafe.placeholders_eq⟩
  intro name hname
  rw [hnames, List.tail_cons] at hname
  refine exists_field_of_toSql h ?_
  rw [columns_eq_map_tests]
  exact List.map_subset _ List.filter_sublist.subset hname

/-- A catalog with a field whose name looks like the end of a query. -/
def exampleCatalog : Catalog where
  fields :=
    [⟨"name\"; DROP TABLE x; --", "Name", .text, []⟩, ⟨"age", "Age", .number, []⟩]
  valid := by decide +kernel

/-- Rules on that field and on one that is compared with no number. -/
def exampleTree : Group where
  id := "root"
  logic := .and
  children :=
    [.condition ⟨"c1", "name\"; DROP TABLE x; --", .contains, .text "o'brien"⟩,
     .group "g1" .or
      [.condition ⟨"c2", "age", .equals, .text "$2"⟩,
       .condition ⟨"c3", "age", .greaterThan, .text "no number"⟩,
       .condition ⟨"c4", "age", .lessThan, .number (Double.ofInt 3)⟩]]

/-- The name does not end the query, and the test that is never met has no name and no number. -/
theorem exampleTree_select_is_safe :
    ∃ fragment, (exampleTree.compile .inclusive).predicate.toSql exampleCatalog = .ok fragment ∧
      ∃ tokens, scan (fragment.select "cl\"ients").text = some tokens ∧
        identifiers tokens = ["cl\"ients", "name\"; DROP TABLE x; --", "age", "age"] ∧
        placeholders tokens = [1, 2, 3] := by
  have hsql : (exampleTree.compile .inclusive).predicate.toSql exampleCatalog
      = .ok (exampleTree.compile .inclusive).predicate.expression.fragment := by decide +kernel
  refine ⟨_, hsql, ?_⟩
  obtain ⟨tokens, hscan, -, -, hnames, -, -, -, hnumbers⟩ := select_is_safe hsql "cl\"ients"
  refine ⟨tokens, hscan, hnames.trans ?_, hnumbers.trans ?_⟩
  · decide +kernel
  · decide +kernel

end Predicate

end Audience
