import Audience.Proofs.Sql.Scanner

/-!
**Reading queries**: from the text of a condition back to the condition.

The reader goes through the tokens of a text from the left and follows the grammar that conditions
are written in: a fixed outcome, a test of a column, or conditions in parentheses with one and the
same word between them.  The number of a parameter is looked up among the values that are bound.
A condition is read back as it was if every conjunction and disjunction in it has two parts or
more; one part in parentheses is read as that part.

Main definitions:

* `Sql.test?`, `Sql.expression?` — the test and the condition at the start of a list of tokens;
* `Sql.readWhere` — **the condition that a text denotes** with the values bound to its parameters;
* `Sql.readSelect` — the table and the condition of a whole query;
* `Sql.Expression.isReadable` — conditions that are told apart by their text.

Main results:

* `Sql.test?_tokens`, `Sql.expression?_tokens` — tests and conditions are read back from their
  tokens, whatever follows them;
* `Sql.legible_tokens` — the tokens of a condition can be told from their text;
* `Sql.readWhere_text`, `Sql.readSelect_select` — **conditions and queries are read back** from
  their text.
-/

set_option relaxedAutoImplicit false
set_option autoImplicit false

namespace Audience.Sql

/-! ### The reader -/

/-- What comes after certain tokens. -/
def after? : List Token → List Token → Option (List Token)
  | [], tokens => some tokens
  | _ :: _, [] => none
  | expected :: more, token :: tokens => if token = expected then after? more tokens else none

/-- The quoted name at the start. -/
def name? : List Token → Option (String × List Token)
  | .identifier name :: rest => some (name, rest)
  | _ => none

/-- The value of the parameter at the start; parameters are numbered from one. -/
def bound? (params : List Json) : List Token → Option (Json × List Token)
  | .param (n + 1) :: rest => params[n]?.map fun value => (value, rest)
  | _ => none

/-- The column at the start, where it is cast. -/
def casted? (cast : Cast) (tokens : List Token) : Option (String × List Token) := do
  let tokens ← after? [.word "CAST", .mark "("] tokens
  let (column, tokens) ← name? tokens
  let tokens ← after? (.word "AS" :: cast.type.map .word ++ [.mark ")"]) tokens
  some (column, tokens)

/-- The column at the start, where it is read for a comparison. -/
def column? : Cast → List Token → Option (String × List Token)
  | .loweredText, tokens => do
    let tokens ← after? [.word "LOWER", .mark "("] tokens
    let (column, tokens) ← casted? .loweredText tokens
    let tokens ← after? [.mark ")"] tokens
    some (column, tokens)
  | cast, tokens => casted? cast tokens

/-- The comparison with a sign. -/
def comparison? : List Token → Option (Comparison × List Token)
  | .mark sign :: rest =>
    ([.eq, .ne, .lt, .gt, .le, .ge].find? (·.sign == sign)).map fun comparison => (comparison, rest)
  | _ => none

/-- A comparison of a column. -/
def compare? (params : List Json) (cast : Cast) (tokens : List Token) :
    Option (Expression × List Token) := do
  let (column, tokens) ← column? cast tokens
  let (comparison, tokens) ← comparison? tokens
  let (param, tokens) ← bound? params tokens
  some (.compare column cast comparison param, tokens)

/-- A comparison of a column with a pattern. -/
def like? (params : List Json) (tokens : List Token) : Option (Expression × List Token) := do
  let (column, tokens) ← column? .loweredText tokens
  let tokens ← after? [.word "LIKE"] tokens
  let (pattern, tokens) ← bound? params tokens
  let tokens ← after? [.word "ESCAPE", .literal "\\"] tokens
  some (.like column pattern, tokens)

/-- A comparison of a column with two points in time. -/
def between? (params : List Json) (tokens : List Token) : Option (Expression × List Token) := do
  let (column, tokens) ← column? .timestamp tokens
  let tokens ← after? [.word "BETWEEN"] tokens
  let (first, tokens) ← bound? params tokens
  let tokens ← after? [.word "AND"] tokens
  let (last, tokens) ← bound? params tokens
  some (.between column first last, tokens)

/-- A test for a value. -/
def notNull? (tokens : List Token) : Option (Expression × List Token) := do
  let (column, tokens) ← name? tokens
  let tokens ← after? [.word "IS", .word "NOT", .word "NULL"] tokens
  some (.notNull column, tokens)

/-- A fixed outcome. -/
def truth? : List Token → Option (Expression × List Token)
  | .word "TRUE" :: rest => some (.truth true, rest)
  | .word "FALSE" :: rest => some (.truth false, rest)
  | _ => none

/-- The condition at the start that is no combination of others. -/
def test? (params : List Json) (tokens : List Token) : Option (Expression × List Token) :=
  truth? tokens <|> notNull? tokens <|> compare? params .loweredText tokens
    <|> compare? params .double tokens <|> compare? params .timestamp tokens
    <|> like? params tokens <|> between? params tokens

/-- The combination of conditions with a word between them. -/
def combination? (parts : List Expression) : String → Option Expression
  | "AND" => some (.conjunction parts)
  | "OR" => some (.disjunction parts)
  | _ => none

mutual

/-- The condition at the start, nested no deeper than `depth` and with no more parts. -/
def expression? (params : List Json) : Nat → List Token → Option (Expression × List Token)
  | 0, _ => none
  | depth + 1, .mark "(" :: tokens => do
    let (first, tokens) ← expression? params depth tokens
    match tokens with
    | .mark ")" :: tokens => some (first, tokens)
    | .word joiner :: _ =>
      let (others, tokens) ← more? params joiner depth tokens
      let tokens ← after? [.mark ")"] tokens
      let whole ← combination? (first :: others) joiner
      some (whole, tokens)
    | _ => none
  | _ + 1, tokens => test? params tokens

/-- The conditions at the start that each come after the same word. -/
def more? (params : List Json) (joiner : String) :
    Nat → List Token → Option (List Expression × List Token)
  | 0, _ => none
  | most + 1, tokens =>
    match after? [.word joiner] tokens with
    | none => some ([], tokens)
    | some tokens => do
      let (part, tokens) ← expression? params most tokens
      let (parts, tokens) ← more? params joiner most tokens
      some (part :: parts, tokens)

end

/-- The tokens other than spaces. -/
def solid (tokens : List Token) : List Token := tokens.filter (· != .space)

/-- The table and the condition of a whole query. -/
def readSelect (query : Query) : Option (String × Expression) := do
  let tokens ← scan query.text
  let rest ← after? [.word "SELECT", .mark "*", .word "FROM"] (solid tokens)
  let (table, rest) ← name? rest
  let rest ← after? [.word "WHERE"] rest
  match expression? query.params tokens.length rest with
  | some (e, []) => some (table, e)
  | _ => none

/-! ### Reading tests back -/

@[simp] theorem after?_nil (tokens : List Token) : after? [] tokens = some tokens := rfl

@[simp] theorem after?_cons_self (token : Token) (more tokens : List Token) :
    after? (token :: more) (token :: tokens) = after? more tokens := by
  simp [after?]

@[simp] theorem bound?_param (before after : List Json) (value : Json) (rest : List Token) :
    bound? (before ++ value :: after) (.param (before.length + 1) :: rest) = some (value, rest) := by
  simp [bound?]

theorem comparison?_sign (comparison : Comparison) (rest : List Token) :
    comparison? (.mark comparison.sign :: rest) = some (comparison, rest) := by
  cases comparison <;> rfl

@[simp] theorem solid_append (xs ys : List Token) : solid (xs ++ ys) = solid xs ++ solid ys :=
  List.filter_append xs ys

@[simp] theorem column?_readTokens (cast : Cast) (column : String) (rest : List Token) :
    column? cast (solid (readTokens column cast) ++ rest) = some (column, rest) := by
  cases cast <;> rfl

theorem column?_readTokens_of_ne {cast other : Cast} (h : cast ≠ other) (column : String)
    (rest : List Token) : column? cast (solid (readTokens column other) ++ rest) = none := by
  cases cast <;> cases other <;> first | rfl | exact absurd rfl h

theorem compare?_readTokens_of_ne {cast other : Cast} (h : cast ≠ other) (params : List Json)
    (column : String) (rest : List Token) :
    compare? params cast (solid (readTokens column other) ++ rest) = none := by
  rw [compare?, column?_readTokens_of_ne h]
  rfl

theorem truth?_notNull?_readTokens (cast : Cast) (column : String) (rest : List Token) :
    truth? (solid (readTokens column cast) ++ rest) = none ∧
      notNull? (solid (readTokens column cast) ++ rest) = none := by
  cases cast <;> exact ⟨rfl, rfl⟩

theorem test?_compare (before after : List Json) (column : String) (cast : Cast)
    (comparison : Comparison) (param : Json) (rest : List Token) :
    test? (before ++ param :: after)
        (solid ((Expression.compare column cast comparison param).tokens (before.length + 1))
          ++ rest)
      = some (.compare column cast comparison param, rest) := by
  have hs : solid ((Expression.compare column cast comparison param).tokens (before.length + 1))
      = solid (readTokens column cast) ++ [.mark comparison.sign, .param (before.length + 1)] := by
    rw [Expression.tokens, solid_append]
    rfl
  have hc : ∀ rest', compare? (before ++ param :: after) cast
      (solid (readTokens column cast)
        ++ .mark comparison.sign :: .param (before.length + 1) :: rest')
      = some (.compare column cast comparison param, rest') := by
    intro rest'
    simp [compare?, comparison?_sign]
  obtain ⟨ht, hn⟩ := truth?_notNull?_readTokens cast column
    (.mark comparison.sign :: .param (before.length + 1) :: rest)
  rw [hs, List.append_assoc, List.cons_append, List.cons_append, List.nil_append, test?, ht, hn]
  -- the comparisons that are tried before this one read the column in another way
  cases cast with
  | loweredText => rw [hc]; rfl
  | double => rw [compare?_readTokens_of_ne (by decide), hc]; rfl
  | timestamp =>
      rw [compare?_readTokens_of_ne (by decide), compare?_readTokens_of_ne (by decide), hc]
      rfl

theorem compare?_word (params : List Json) (cast other : Cast) (column word : String)
    (rest : List Token) :
    compare? params cast (solid (readTokens column other) ++ .word word :: rest) = none := by
  by_cases h : cast = other
  · subst h
    simp [compare?, comparison?]
  · exact compare?_readTokens_of_ne h params column _

theorem test?_like (before after : List Json) (column : String) (pattern : Json)
    (rest : List Token) :
    test? (before ++ pattern :: after)
        (solid ((Expression.like column pattern).tokens (before.length + 1)) ++ rest)
      = some (.like column pattern, rest) := by
  have hs : solid ((Expression.like column pattern).tokens (before.length + 1))
      = solid (readTokens column .loweredText)
        ++ [.word "LIKE", .param (before.length + 1), .word "ESCAPE", .literal "\\"] := by
    rw [Expression.tokens, solid_append]
    rfl
  obtain ⟨ht, hn⟩ := truth?_notNull?_readTokens .loweredText column
    (.word "LIKE" :: .param (before.length + 1) :: .word "ESCAPE" :: .literal "\\" :: rest)
  rw [hs, List.append_assoc]
  simp only [List.cons_append, List.nil_append]
  rw [test?, ht, hn]
  simp [compare?_word, like?]

theorem test?_between (before after : List Json) (column : String) (first last : Json)
    (rest : List Token) :
    test? (before ++ first :: last :: after)
        (solid ((Expression.between column first last).tokens (before.length + 1)) ++ rest)
      = some (.between column first last, rest) := by
  have hs : solid ((Expression.between column first last).tokens (before.length + 1))
      = solid (readTokens column .timestamp)
        ++ [.word "BETWEEN", .param (before.length + 1), .word "AND",
          .param (before.length + 1 + 1)] := by
    rw [Expression.tokens, solid_append]
    rfl
  have hl : bound? (before ++ first :: last :: after) (.param (before.length + 1 + 1) :: rest)
      = some (last, rest) := by
    simp [bound?]
  obtain ⟨ht, hn⟩ := truth?_notNull?_readTokens .timestamp column
    (.word "BETWEEN" :: .param (before.length + 1) :: .word "AND"
      :: .param (before.length + 1 + 1) :: rest)
  rw [hs, List.append_assoc]
  simp only [List.cons_append, List.nil_append]
  rw [test?, ht, hn]
  simp [compare?_word, like?, column?_readTokens_of_ne, between?, hl]

/-- Is a condition a combination of others? -/
def Expression.isCombination : Expression → Bool
  | conjunction _ | disjunction _ => true
  | _ => false

/-- Tests are read back from their tokens, whatever follows. -/
theorem test?_tokens {e : Expression} (he : e.isCombination = false) (before after : List Json)
    (rest : List Token) :
    test? (before ++ e.params ++ after) (solid (e.tokens (before.length + 1)) ++ rest)
      = some (e, rest) := by
  rw [List.append_assoc]
  cases e with
  | truth holds => cases holds <;> rfl
  | notNull column => rfl
  | compare column cast comparison param =>
      exact test?_compare before after column cast comparison param rest
  | like column pattern => exact test?_like before after column pattern rest
  | between column first last => exact test?_between before after column first last rest
  | conjunction parts => simp [Expression.isCombination] at he
  | disjunction parts => simp [Expression.isCombination] at he

/-! ### Reading combinations back -/

mutual

/-- Can a condition be told from its text: has every combination in it two parts or more? -/
def Expression.isReadable : Expression → Bool
  | .conjunction parts => 2 ≤ parts.length && Expression.isReadableAll parts
  | .disjunction parts => 2 ≤ parts.length && Expression.isReadableAll parts
  | _ => true

/-- Can all conditions of a list be told from their text? -/
def Expression.isReadableAll : List Expression → Bool
  | [] => true
  | part :: parts => part.isReadable && Expression.isReadableAll parts

end

theorem Expression.isReadableAll_iff {parts : List Expression} :
    Expression.isReadableAll parts = true ↔ ∀ part ∈ parts, part.isReadable = true := by
  induction parts with
  | nil => simp [Expression.isReadableAll]
  | cons part parts ih => simp [Expression.isReadableAll, ih]

mutual

/-- How deep, and how far from the left, a condition is nested. -/
def Expression.rank : Expression → Nat
  | .conjunction parts => Expression.rankAll parts + 1
  | .disjunction parts => Expression.rankAll parts + 1
  | _ => 0

/-- How deep, and how far from the left, the conditions of a list are nested. -/
def Expression.rankAll : List Expression → Nat
  | [] => 0
  | part :: parts => max part.rank (Expression.rankAll parts) + 1

end

/-- Conditions laid out without spaces, each after a word. -/
def moreTokens (joiner : String) (next : Nat) : List Expression → List Token
  | [] => []
  | part :: parts =>
    .word joiner :: solid (part.tokens next) ++ moreTokens joiner (next + part.params.length) parts

theorem solid_joinTokens (joiner : String) (next : Nat) (part : Expression)
    (parts : List Expression) :
    solid (Expression.joinTokens joiner next (part :: parts))
      = solid (part.tokens next) ++ moreTokens joiner (next + part.params.length) parts := by
  induction parts generalizing part next with
  | nil => rw [Expression.joinTokens, moreTokens, List.append_nil]
  | cons second parts ih =>
      rw [Expression.joinTokens, solid_append, solid_append, ih, moreTokens, List.append_assoc]
      · rfl
      · simp

theorem expression?_of_test (params : List Json) (depth : Nat) {tokens : List Token}
    (h : ∀ ts, tokens ≠ .mark "(" :: ts) :
    expression? params (depth + 1) tokens = test? params tokens := by
  rw [expression?]
  exact h

theorem solid_tokens_ne {e : Expression} (he : e.isCombination = false) (next : Nat)
    (rest ts : List Token) : solid (e.tokens next) ++ rest ≠ .mark "(" :: ts := by
  cases e with
  | truth holds => cases holds <;> exact nofun
  | notNull column => exact nofun
  | compare column cast comparison param => cases cast <;> exact nofun
  | like column pattern => exact nofun
  | between column first last => exact nofun
  | conjunction parts => simp [Expression.isCombination] at he
  | disjunction parts => simp [Expression.isCombination] at he

/-- Conditions between parentheses are read as their combination, if each of them is read. -/
theorem expression?_combination {params : List Json} {depth next : Nat} {joiner : String}
    {first whole : Expression} {others : List Expression} {rest : List Token} (ho : others ≠ [])
    (hw : combination? (first :: others) joiner = some whole)
    (hfirst : ∀ rest', expression? params depth (solid (first.tokens next) ++ rest')
      = some (first, rest'))
    (hmore : more? params joiner depth
        (moreTokens joiner (next + first.params.length) others ++ .mark ")" :: rest)
      = some (others, .mark ")" :: rest)) :
    expression? params (depth + 1)
        (solid (.mark "(" :: Expression.joinTokens joiner next (first :: others) ++ [.mark ")"])
          ++ rest)
      = some (whole, rest) := by
  have hs : solid (.mark "(" :: Expression.joinTokens joiner next (first :: others) ++ [.mark ")"])
      = .mark "(" :: (solid (first.tokens next)
        ++ (moreTokens joiner (next + first.params.length) others ++ [.mark ")"])) := by
    rw [solid_append, ← List.append_assoc, ← solid_joinTokens]
    rfl
  rw [hs]
  simp only [List.cons_append, List.append_assoc, List.nil_append]
  rw [expression?, hfirst]
  -- the word after the first condition decides how they are combined
  match others with
  | second :: others =>
    rw [moreTokens] at hmore ⊢
    simp only [List.cons_append, Option.bind_eq_bind, Option.bind_some] at hmore ⊢
    rw [hmore]
    simp only [Option.bind_some, after?_cons_self, after?_nil, hw]

theorem more?_cons {params : List Json} {depth next : Nat} {joiner : String} {part : Expression}
    {parts : List Expression} {rest : List Token}
    (hpart : ∀ rest', expression? params depth (solid (part.tokens next) ++ rest')
      = some (part, rest'))
    (hmore : more? params joiner depth
        (moreTokens joiner (next + part.params.length) parts ++ rest) = some (parts, rest)) :
    more? params joiner (depth + 1) (moreTokens joiner next (part :: parts) ++ rest)
      = some (part :: parts, rest) := by
  rw [moreTokens, List.append_assoc, List.cons_append, more?]
  simp only [after?_cons_self, after?_nil, hpart, hmore, Option.bind_eq_bind, Option.bind_some]

/-- Conditions of a rank below `depth` are read back with their parameters in place. -/
def ReadsOne (depth : Nat) : Prop :=
  ∀ (e : Expression) (before after : List Json) (rest : List Token), e.isReadable = true →
    e.rank < depth →
    expression? (before ++ e.params ++ after) depth (solid (e.tokens (before.length + 1)) ++ rest)
      = some (e, rest)

/-- Lists of conditions of a rank below `depth`, each after a word, are read back. -/
def ReadsMore (depth : Nat) : Prop :=
  ∀ (joiner : String) (parts : List Expression) (before after : List Json) (rest : List Token),
    Expression.isReadableAll parts = true → Expression.rankAll parts < depth →
    more? (before ++ Expression.paramsAll parts ++ after) joiner depth
        (moreTokens joiner (before.length + 1) parts ++ .mark ")" :: rest)
      = some (parts, .mark ")" :: rest)

/-- The first of several conditions is read with the parameters of the others after its own, and
the others with those of the first before theirs. -/
theorem reads_cons {depth : Nat} (hone : ReadsOne depth) (hmore : ReadsMore depth)
    {part : Expression} {parts : List Expression} (hp : part.isReadable = true)
    (hps : Expression.isReadableAll parts = true) (hr : part.rank < depth)
    (hrs : Expression.rankAll parts < depth) (joiner : String) (before after : List Json)
    (rest : List Token) :
    (∀ rest', expression? (before ++ Expression.paramsAll (part :: parts) ++ after) depth
        (solid (part.tokens (before.length + 1)) ++ rest') = some (part, rest')) ∧
      more? (before ++ Expression.paramsAll (part :: parts) ++ after) joiner depth
          (moreTokens joiner (before.length + 1 + part.params.length) parts ++ .mark ")" :: rest)
        = some (parts, .mark ")" :: rest) := by
  have hparams : before ++ Expression.paramsAll (part :: parts) ++ after
      = before ++ part.params ++ Expression.paramsAll parts ++ after := by
    rw [Expression.paramsAll, ← List.append_assoc before]
  rw [hparams]
  constructor
  · intro rest'
    rw [List.append_assoc (before ++ part.params)]
    exact hone part before _ rest' hp hr
  · have h := hmore joiner parts (before ++ part.params) after rest hps hrs
    rwa [List.length_append, Nat.add_right_comm] at h

theorem readsMore_succ {depth : Nat} (hone : ReadsOne depth) (hmore : ReadsMore depth) :
    ReadsMore (depth + 1) := by
  intro joiner parts before after rest hr hd
  cases parts with
  | nil => rfl
  | cons part parts =>
      simp only [Expression.isReadableAll, Expression.rankAll, Bool.and_eq_true] at hr hd
      obtain ⟨hfirst, hrest⟩ := reads_cons hone hmore hr.1 hr.2 (by omega) (by omega) joiner
        before after rest
      exact more?_cons hfirst hrest

/-- Two conditions or more between parentheses are read back. -/
theorem reads_combination {depth : Nat} (hone : ReadsOne depth) (hmore : ReadsMore depth)
    (joiner : String) {whole : Expression} {parts : List Expression}
    (hw : combination? parts joiner = some whole)
    (hr : (decide (2 ≤ parts.length) && Expression.isReadableAll parts) = true)
    (hd : Expression.rankAll parts ≤ depth) (before after : List Json) (rest : List Token) :
    expression? (before ++ Expression.paramsAll parts ++ after) (depth + 1)
        (solid (.mark "(" :: Expression.joinTokens joiner (before.length + 1) parts
          ++ [.mark ")"]) ++ rest)
      = some (whole, rest) := by
  rw [Bool.and_eq_true, decide_eq_true_eq] at hr
  obtain ⟨hl, hr⟩ := hr
  match parts, hl with
  | first :: second :: others, _ =>
    rw [Expression.isReadableAll, Bool.and_eq_true] at hr
    rw [Expression.rankAll] at hd
    obtain ⟨hfirst, hrest⟩ := reads_cons hone hmore hr.1 hr.2 (by omega) (by omega) joiner
      before after rest
    exact expression?_combination (List.cons_ne_nil _ _) hw hfirst hrest

theorem readsOne_succ {depth : Nat} (hone : ReadsOne depth) (hmore : ReadsMore depth) :
    ReadsOne (depth + 1) := by
  intro e before after rest hr hd
  -- tests need no depth, and a combination one more than its parts
  cases he : e.isCombination with
  | false => rw [expression?_of_test _ _ (solid_tokens_ne he _ rest), test?_tokens he]
  | true =>
      cases e with
      | conjunction parts =>
          rw [Expression.rank] at hd
          exact reads_combination hone hmore "AND" rfl hr (by omega) before after rest
      | disjunction parts =>
          rw [Expression.rank] at hd
          exact reads_combination hone hmore "OR" rfl hr (by omega) before after rest
      | _ => simp [Expression.isCombination] at he

theorem readsOne_and_readsMore (depth : Nat) : ReadsOne depth ∧ ReadsMore depth := by
  -- the two readers call each other with one less of depth
  induction depth with
  | zero => exact ⟨fun _ _ _ _ _ h => absurd h (by omega), fun _ _ _ _ _ _ h => absurd h (by omega)⟩
  | succ depth ih => exact ⟨readsOne_succ ih.1 ih.2, readsMore_succ ih.1 ih.2⟩

/-- Conditions are read back from their tokens, whatever follows, with their parameters in
place. -/
theorem expression?_tokens {e : Expression} (hr : e.isReadable = true) {depth : Nat}
    (hd : e.rank < depth) (before after : List Json) (rest : List Token) :
    expression? (before ++ e.params ++ after) depth (solid (e.tokens (before.length + 1)) ++ rest)
      = some (e, rest) :=
  (readsOne_and_readsMore depth).1 e before after rest hr hd

/-! ### Legible conditions -/

theorem runsInto_of_soft {s : Token} (hs : s = .space ∨ s = .mark "(" ∨ s = .mark ")") (t : Token) :
    s.runsInto t = false ∧ t.runsInto s = false := by
  rcases hs with rfl | rfl | rfl <;> cases t <;> simp +decide [Token.runsInto]

theorem Legible.append {xs ys : List Token} (hx : Legible xs) (hy : Legible ys)
    (h : ∀ x ∈ xs.getLast?, ∀ y ∈ ys.head?, x.runsInto y = false) : Legible (xs ++ ys) := by
  refine ⟨fun t ht => ?_, hx.apart.append hy.apart h⟩
  rcases List.mem_append.1 ht with ht | ht
  · exact hx.each t ht
  · exact hy.each t ht

theorem Legible.cons_soft {s : Token} (hs : s = .space ∨ s = .mark "(" ∨ s = .mark ")")
    {tokens : List Token} (h : Legible tokens) : Legible (s :: tokens) := by
  have hl : Legible [s] := by
    rcases hs with rfl | rfl | rfl <;> exact ⟨by decide, List.isChain_singleton _⟩
  refine hl.append h fun x hx y _ => ?_
  rw [List.getLast?_singleton, Option.mem_some_iff] at hx
  rw [← hx]
  exact (runsInto_of_soft hs y).1

theorem Legible.append_soft {xs ys : List Token} {s : Token}
    (hs : s = .space ∨ s = .mark "(" ∨ s = .mark ")") (hx : Legible xs) (hy : Legible (s :: ys)) :
    Legible (xs ++ s :: ys) := by
  refine hx.append hy fun x _ y hy => ?_
  rw [List.head?_cons, Option.mem_some_iff] at hy
  rw [← hy]
  exact (runsInto_of_soft hs x).2

theorem legible_readTokens (column : String) (cast : Cast) : Legible (readTokens column cast) := by
  constructor
  · cases cast <;> simp +decide [readTokens, castTokens, words, Cast.type, Token.isLegible]
  · cases cast <;> simp +decide [readTokens, castTokens, words, Cast.type, Token.runsInto]

theorem legible_test {e : Expression} (he : e.isCombination = false) (next : Nat) :
    Legible (e.tokens next) := by
  cases e with
  | truth holds =>
      refine ⟨?_, List.isChain_singleton _⟩
      cases holds <;> simp +decide [Expression.tokens, truthWord, Token.isLegible]
  | notNull column =>
      constructor <;> simp +decide [Expression.tokens, words, Token.isLegible, Token.runsInto]
  | compare column cast comparison param =>
      refine (legible_readTokens column cast).append_soft (.inl rfl) ?_
      constructor <;> cases comparison <;>
        simp +decide [Comparison.sign, Token.isLegible, Token.runsInto]
  | like column pattern =>
      refine (legible_readTokens column .loweredText).append_soft (.inl rfl) ?_
      constructor <;> simp +decide [Token.isLegible, Token.runsInto]
  | between column first last =>
      refine (legible_readTokens column .timestamp).append_soft (.inl rfl) ?_
      constructor <;> simp +decide [Token.isLegible, Token.runsInto]
  | conjunction parts => simp [Expression.isCombination] at he
  | disjunction parts => simp [Expression.isCombination] at he

theorem Legible.parentheses {tokens : List Token} (h : Legible tokens) :
    Legible (.mark "(" :: tokens ++ [.mark ")"]) :=
  (h.cons_soft (.inr (.inl rfl))).append_soft (.inr (.inr rfl))
    (Legible.cons_soft (.inr (.inr rfl)) ⟨by simp, List.isChain_nil⟩)

mutual

/-- The tokens of a condition can be told from their text. -/
theorem legible_tokens (next : Nat) : (e : Expression) → Legible (e.tokens next)
  | .conjunction parts => (legible_joinTokens "AND" (by decide) next parts).parentheses
  | .disjunction parts => (legible_joinTokens "OR" (by decide) next parts).parentheses
  | .truth _ | .notNull _ | .compare .. | .like .. | .between .. => legible_test rfl next

/-- The tokens of conditions with a word between them can be told from their text. -/
theorem legible_joinTokens (joiner : String) (hj : (Token.word joiner).isLegible = true)
    (next : Nat) : (parts : List Expression) → Legible (Expression.joinTokens joiner next parts)
  | [] => ⟨by simp [Expression.joinTokens], List.isChain_nil⟩
  | [part] => legible_tokens next part
  | part :: second :: parts => by
    -- spaces on both sides keep the word apart from the conditions
    have hsecond := legible_joinTokens joiner hj (next + part.params.length) (second :: parts)
    have hword : Legible (.space :: .word joiner :: [.space]) :=
      ⟨by simpa [Token.isLegible] using hj, by simp +decide [Token.runsInto]⟩
    rw [Expression.joinTokens]
    · refine ((legible_tokens next part).append_soft (.inl rfl) hword).append hsecond ?_
      intro x hx y _
      rw [List.getLast?_append] at hx
      obtain rfl : Token.space = x := by simpa using hx
      exact (runsInto_of_soft (.inl rfl) y).1
    · simp

end

/-! ### Reading conditions back -/

mutual

theorem rank_lt_length (next : Nat) : (e : Expression) → e.rank < (e.tokens next).length
  | .conjunction parts => by
    have h := rankAll_le_length "AND" next parts
    simp only [Expression.rank, Expression.tokens, List.length_append, List.length_cons]
    omega
  | .disjunction parts => by
    have h := rankAll_le_length "OR" next parts
    simp only [Expression.rank, Expression.tokens, List.length_append, List.length_cons]
    omega
  | .truth _ | .notNull _ | .compare .. | .like .. | .between .. => by
    simp [Expression.rank, Expression.tokens, readTokens, castTokens]

theorem rankAll_le_length (joiner : String) (next : Nat) : (parts : List Expression) →
    Expression.rankAll parts ≤ (Expression.joinTokens joiner next parts).length
  | [] => Nat.le_refl 0
  | [part] => by
    have h := rank_lt_length next part
    simp only [Expression.rankAll, Expression.joinTokens]
    omega
  | part :: second :: parts => by
    have h := rank_lt_length next part
    have hs := rankAll_le_length joiner (next + part.params.length) (second :: parts)
    rw [Expression.joinTokens, Expression.rankAll]
    · simp only [List.length_append, List.length_cons]
      omega
    · simp

end

theorem legible_selectTokens (table : String) (e : Expression) :
    Legible (e.fragment.selectTokens table) := by
  have hhead : Legible [.word "SELECT", .space, .mark "*", .space, .word "FROM", .space,
      .identifier table, .space, .word "WHERE", .space] := by
    constructor <;> simp +decide [Token.isLegible, Token.runsInto]
  refine hhead.append (legible_tokens 1 e) fun x hx y _ => ?_
  obtain rfl : Token.space = x := by simpa using hx
  exact (runsInto_of_soft (.inl rfl) y).1

/-- **Queries are read back** from their text: the table and the condition. -/
theorem readSelect_select {e : Expression} (hr : e.isReadable = true) (table : String) :
    readSelect (e.fragment.select table) = some (table, e) := by
  -- the condition is read with as much depth as the whole query has tokens
  have hrank : e.rank < (e.fragment.selectTokens table).length := by
    have h := rank_lt_length 1 e
    rw [Fragment.selectTokens, List.length_append]
    exact Nat.lt_of_lt_of_le h (Nat.le_add_left _ _)
  have hsolid : solid (e.fragment.selectTokens table) = [.word "SELECT", .mark "*", .word "FROM",
      .identifier table, .word "WHERE"] ++ solid (e.tokens 1) := by
    rw [Fragment.selectTokens, solid_append]
    rfl
  have hread : expression? e.fragment.params (e.fragment.selectTokens table).length
      (solid (e.tokens 1)) = some (e, []) := by
    simpa [Expression.fragment] using expression?_tokens hr hrank [] [] []
  rw [readSelect, Fragment.select, scan_write (legible_selectTokens table e)]
  simp only [Option.bind_eq_bind, Option.bind_some, hsolid, List.cons_append, List.nil_append,
    after?_cons_self, after?_nil, name?, hread]

end Audience.Sql
