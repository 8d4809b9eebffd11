import Audience.Proofs.Calendar.Digits
import Audience.Sql.Statement
import Mathlib.Data.List.Chain

/-!
**Scanning queries**: from the text of a query back to its tokens.

The scanner takes one token after the other off the start of a text: a word or a sign goes as far
as its characters do, a name or a literal up to a quotation mark that is not written twice, and the
number of a parameter as far as its digits.  What was written is therefore scanned back if no token
runs into the next one.

Main definitions:

* `Sql.token?`, `Sql.scan` — the first token of a text, and all of its tokens;
* `Sql.Token.isLegible`, `Sql.Token.runsInto` — tokens that can be told from their text, and pairs
  of them that cannot stand side by side;
* `Sql.Legible` — lists of tokens that can be told from their text.

Main results:

* `Sql.token?_chars` — a legible token is scanned from the start of a text;
* `Sql.scan_write` — **legible tokens are scanned back**.
-/

set_option relaxedAutoImplicit false
set_option autoImplicit false

namespace Audience.Sql

/-! ### The scanner -/

/-- Is this a character of words? -/
def isWordChar (c : Char) : Bool := c.isAlphanum || c == '_'

/-- Is this a character of the signs of comparisons? -/
def isSignChar (c : Char) : Bool := c == '<' || c == '>' || c == '='

/-- Is this a mark by itself? -/
def isSoleMark (c : Char) : Bool := c == '(' || c == ')' || c == '*'

/-- A text up to a quotation mark, where one that is written twice stands for itself, and what
comes after it. -/
def quoted? (quote : Char) : List Char → Option (List Char × List Char)
  | [] => none
  | [c] => if c = quote then some ([], []) else none
  | c :: d :: rest =>
    if c = quote then
      if d = quote then (quoted? quote rest).map fun (text, after) => (quote :: text, after)
      else some ([], d :: rest)
    else (quoted? quote (d :: rest)).map fun (text, after) => (c :: text, after)

/-- The **first token** of a text, and what comes after it. -/
def token? : List Char → Option (Token × List Char)
  | [] => none
  | c :: cs =>
    if c = ' ' then some (.space, cs)
    else if c = '"' then
      (quoted? '"' cs).map fun (name, after) => (.identifier (String.ofList name), after)
    else if c = '\'' then
      (quoted? '\'' cs).map fun (text, after) => (.literal (String.ofList text), after)
    else if c = '$' then
      (Calendar.number? 1 cs.length cs).map fun (number, after) => (.param number, after)
    else if isSoleMark c then some (.mark (String.ofList [c]), cs)
    else if isSignChar c then
      some (.mark (String.ofList ((c :: cs).takeWhile isSignChar)), (c :: cs).dropWhile isSignChar)
    else if c.isAlpha then
      some (.word (String.ofList ((c :: cs).takeWhile isWordChar)), (c :: cs).dropWhile isWordChar)
    else none

/-- The tokens of a text with no more tokens than `most`. -/
def scanUpTo : Nat → List Char → Option (List Token)
  | _, [] => some []
  | 0, _ :: _ => none
  | most + 1, c :: cs => do
    let (token, rest) ← token? (c :: cs)
    let tokens ← scanUpTo most rest
    return token :: tokens

/-- The tokens of a text, which are no more than its characters. -/
def scan (text : String) : Option (List Token) := scanUpTo text.length text.toList

/-! ### Legible tokens -/

/-- Can a token be told from its text? -/
def Token.isLegible : Token → Bool
  | word text => text.toList.all isWordChar && text.toList.head?.any (·.isAlpha)
  | mark text =>
    match text.toList with
    | [] => false
    | [c] => isSoleMark c || isSignChar c
    | c :: cs => (c :: cs).all isSignChar
  | literal text => text.toList.all (· != '\'')
  | identifier _ | param _ | space => true

/-- Does a token end where this character follows it? -/
def Token.endsBefore (c : Char) : Token → Bool
  | word _ => !isWordChar c
  | mark text => !(text.toList.all isSignChar && isSignChar c)
  | identifier _ => c != '"'
  | param _ => !Double.isDigit c
  | literal _ => c != '\''
  | space => true

/-- Would a token run into the one after it? -/
def Token.runsInto : Token → Token → Bool
  | word _, word _ => true
  | mark a, mark b => a.toList.all isSignChar && b.toList.all isSignChar
  | identifier _, identifier _ => true
  | literal _, literal _ => true
  | _, _ => false

/-- Tokens that can be told from their text: each can by itself, and none runs into the
next. -/
structure Legible (tokens : List Token) : Prop where
  /-- Every token can be told from its text. -/
  each : ∀ token ∈ tokens, token.isLegible = true
  /-- No token runs into the next one. -/
  apart : tokens.IsChain fun a b => a.runsInto b = false

/-- The characters of a token. -/
def Token.chars (token : Token) : List Char := token.text.toList

theorem toList_write (tokens : List Token) : (write tokens).toList = tokens.flatMap Token.chars := by
  rw [write, String.toList_join, List.flatMap_map]
  rfl

/-! ### Quotation marks -/

theorem quoted?_cons_of_ne {quote c : Char} (h : c ≠ quote) (cs : List Char) :
    quoted? quote (c :: cs) = (quoted? quote cs).map fun (text, after) => (c :: text, after) := by
  cases cs <;> simp [quoted?, h]

theorem quoted?_twice (quote : Char) (cs : List Char) :
    quoted? quote (quote :: quote :: cs)
      = (quoted? quote cs).map fun (text, after) => (quote :: text, after) := by
  simp [quoted?]

theorem quoted?_once {quote : Char} {rest : List Char} (h : ∀ c ∈ rest.head?, c ≠ quote) :
    quoted? quote (quote :: rest) = some ([], rest) := by
  cases rest with
  | nil => simp [quoted?]
  | cons c cs => simp [quoted?, h c rfl]

theorem quoted?_flatMap (name : List Char) {rest : List Char} (hr : ∀ c ∈ rest.head?, c ≠ '"') :
    quoted? '"' (name.flatMap escapeIdentifier ++ '"' :: rest) = some (name, rest) := by
  induction name with
  | nil => exact quoted?_once hr
  | cons c cs ih =>
      rw [List.flatMap_cons, escapeIdentifier, List.append_assoc]
      by_cases hc : c = '"'
      · -- written twice, so it does not end the name
        subst hc
        rw [if_pos rfl, List.cons_append, List.cons_append, List.nil_append, quoted?_twice, ih]
        rfl
      · rw [if_neg hc, List.cons_append, List.nil_append, quoted?_cons_of_ne hc, ih]
        rfl

theorem quoted?_append {text rest : List Char} (ht : ∀ c ∈ text, c ≠ '\'')
    (hr : ∀ c ∈ rest.head?, c ≠ '\'') :
    quoted? '\'' (text ++ '\'' :: rest) = some (text, rest) := by
  induction text with
  | nil => exact quoted?_once hr
  | cons c cs ih =>
      have hcs := ih fun d hd => ht d (List.mem_cons_of_mem c hd)
      rw [List.cons_append, quoted?_cons_of_ne (ht c List.mem_cons_self), hcs]
      rfl

/-! ### Scanning one token -/

theorem ne_of_kind {p : Char → Bool} {c d : Char} (hc : p c = true) (hd : p d = false) : c ≠ d := by
  rintro rfl
  rw [hc] at hd
  cases hd

theorem span_append {p : Char → Bool} {body rest : List Char} (hb : ∀ c ∈ body, p c = true)
    (hr : ∀ c ∈ rest.head?, p c = false) :
    (body ++ rest).takeWhile p = body ∧ (body ++ rest).dropWhile p = rest := by
  rw [List.takeWhile_append_of_pos hb, List.dropWhile_append_of_pos hb]
  cases rest with
  | nil => exact ⟨List.append_nil body, rfl⟩
  | cons c cs =>
      have hc : ¬ p c = true := by simp [hr c rfl]
      rw [List.takeWhile_cons_of_neg hc, List.dropWhile_cons_of_neg hc]
      exact ⟨List.append_nil body, rfl⟩

theorem token?_identifier (name : String) {rest : List Char} (hr : ∀ c ∈ rest.head?, c ≠ '"') :
    token? ((Token.identifier name).chars ++ rest) = some (.identifier name, rest) := by
  have hq := quoted?_flatMap name.toList hr
  have hc : (Token.identifier name).chars
      = '"' :: (name.toList.flatMap escapeIdentifier ++ ['"']) := by
    simp [Token.chars, Token.text, quoteIdentifier]
  rw [hc, List.cons_append, List.append_assoc, List.cons_append, List.nil_append, token?,
    if_neg (by decide), if_pos rfl, hq]
  simp only [Option.map_some, String.ofList_toList]

theorem token?_literal {text : String} (ht : ∀ c ∈ text.toList, c ≠ '\'') {rest : List Char}
    (hr : ∀ c ∈ rest.head?, c ≠ '\'') :
    token? ((Token.literal text).chars ++ rest) = some (.literal text, rest) := by
  have hq := quoted?_append ht hr
  have hc : (Token.literal text).chars = '\'' :: (text.toList ++ ['\'']) := by
    simp [Token.chars, Token.text]
  rw [hc, List.cons_append, List.append_assoc, List.cons_append, List.nil_append, token?,
    if_neg (by decide), if_neg (by decide), if_pos rfl, hq]
  simp only [Option.map_some, String.ofList_toList]

theorem token?_param (number : Nat) {rest : List Char}
    (hr : ∀ c ∈ rest.head?, Double.isDigit c = false) :
    token? ((Token.param number).chars ++ rest) = some (.param number, rest) := by
  have hd : ∀ d ∈ Nat.toDigits 10 number, Double.isDigit d = true :=
    fun d => Double.isDigit_of_mem_toDigits
  have hl : 0 < (Nat.toDigits 10 number).length := Nat.length_toDigits_pos
  have hn : Calendar.number? 1 (Nat.toDigits 10 number ++ rest).length
      (Nat.toDigits 10 number ++ rest)
      = some (Double.natOfDigits (Nat.toDigits 10 number), rest) :=
    Calendar.number?_append hd hl (by simp) (Or.inr hr)
  have hc : (Token.param number).chars = '$' :: Nat.toDigits 10 number := by
    simp [Token.chars, Token.text, Nat.toList_repr]
  rw [hc, List.cons_append, token?, if_neg (by decide), if_neg (by decide), if_neg (by decide),
    if_pos rfl, hn]
  simp only [Option.map_some, Double.natOfDigits_toDigits]

theorem token?_word {text : String} (hw : ∀ c ∈ text.toList, isWordChar c = true)
    (ha : text.toList.head?.any (·.isAlpha) = true) {rest : List Char}
    (hr : ∀ c ∈ rest.head?, isWordChar c = false) :
    token? ((Token.word text).chars ++ rest) = some (.word text, rest) := by
  obtain ⟨htake, hdrop⟩ := span_append hw hr
  have hofList : String.ofList text.toList = text := String.ofList_toList
  have hchars : (Token.word text).chars = text.toList := rfl
  rw [hchars]
  cases ht : text.toList with
  | nil => simp [ht] at ha
  | cons c cs =>
      have hc : c.isAlpha = true := by simpa [ht] using ha
      -- a letter begins no other token
      have hne : ∀ d : Char, d.isAlpha = false → c ≠ d := fun _ => ne_of_kind hc
      have hsole : isSoleMark c = false := by
        simp [isSoleMark, hne '(' rfl, hne ')' rfl, hne '*' rfl]
      have hsign : isSignChar c = false := by
        simp [isSignChar, hne '<' rfl, hne '>' rfl, hne '=' rfl]
      rw [ht] at htake hdrop hofList
      rw [List.cons_append] at htake hdrop
      rw [List.cons_append, token?, if_neg (hne ' ' rfl), if_neg (hne '"' rfl),
        if_neg (hne '\'' rfl), if_neg (hne '$' rfl), if_neg (by simp [hsole]),
        if_neg (by simp [hsign]), if_pos hc, htake, hdrop, hofList]

theorem token?_soleMark {c : Char} (hc : isSoleMark c = true) (rest : List Char) :
    token? (c :: rest) = some (.mark (String.ofList [c]), rest) := by
  have hne : ∀ d : Char, isSoleMark d = false → c ≠ d := fun _ => ne_of_kind hc
  rw [token?, if_neg (hne ' ' rfl), if_neg (hne '"' rfl), if_neg (hne '\'' rfl),
    if_neg (hne '$' rfl), if_pos hc]

theorem token?_sign {c : Char} {cs : List Char} (hs : ∀ d ∈ c :: cs, isSignChar d = true)
    {rest : List Char} (hr : ∀ d ∈ rest.head?, isSignChar d = false) :
    token? (c :: cs ++ rest) = some (.mark (String.ofList (c :: cs)), rest) := by
  obtain ⟨htake, hdrop⟩ := span_append hs hr
  have hc := hs c List.mem_cons_self
  have hne : ∀ d : Char, isSignChar d = false → c ≠ d := fun _ => ne_of_kind hc
  have hsole : isSoleMark c = false := by
    simp [isSoleMark, hne '(' rfl, hne ')' rfl, hne '*' rfl]
  rw [List.cons_append] at htake hdrop
  rw [List.cons_append, token?, if_neg (hne ' ' rfl), if_neg (hne '"' rfl), if_neg (hne '\'' rfl),
    if_neg (hne '$' rfl), if_neg (by simp [hsole]), if_pos hc, htake, hdrop]

/-- A legible token is scanned from the start of a text that it ends before. -/
theorem token?_chars {t : Token} (ht : t.isLegible = true) {rest : List Char}
    (hr : ∀ c ∈ rest.head?, t.endsBefore c = true) :
    token? (t.chars ++ rest) = some (t, rest) := by
  cases t with
  | word text =>
      simp only [Token.isLegible, Bool.and_eq_true, List.all_eq_true] at ht
      simp only [Token.endsBefore, Bool.not_eq_true'] at hr
      exact token?_word ht.1 ht.2 hr
  | mark text =>
      have hofList : String.ofList text.toList = text := String.ofList_toList
      have hchars : (Token.mark text).chars = text.toList := rfl
      simp only [Token.isLegible, Token.endsBefore] at ht hr
      rw [hchars]
      -- a mark is one character by itself, or a sign, which must not be gone on with
      have hsign : ∀ c cs, text.toList = c :: cs → (c :: cs).all isSignChar = true →
          token? (text.toList ++ rest) = some (.mark text, rest) := by
        intro c cs hcs hall
        rw [hcs] at hr hofList ⊢
        rw [token?_sign (List.all_eq_true.1 hall) fun d hd => by simpa [hall] using hr d hd,
          hofList]
      match htext : text.toList, ht with
      | [c], ht =>
        cases hc : isSoleMark c with
        | true =>
            rw [htext] at hofList
            rw [List.cons_append, List.nil_append, token?_soleMark hc, hofList]
        | false =>
            rw [← htext]
            exact hsign c [] htext (by simpa [hc] using ht)
      | c :: d :: cs, ht =>
        rw [← htext]
        exact hsign c (d :: cs) htext ht
  | identifier name =>
      simp only [Token.endsBefore, bne_iff_ne] at hr
      exact token?_identifier name hr
  | param number =>
      simp only [Token.endsBefore, Bool.not_eq_true'] at hr
      exact token?_param number hr
  | literal text =>
      simp only [Token.isLegible, Token.endsBefore, List.all_eq_true, bne_iff_ne] at ht hr
      exact token?_literal ht hr
  | space =>
      have hchars : Token.space.chars = [' '] := rfl
      rw [hchars, List.cons_append, List.nil_append, token?, if_pos rfl]

/-! ### Scanning all tokens -/

theorem isDigit_of_isAlpha {c : Char} (h : c.isAlpha = true) : Double.isDigit c = false := by
  have hcase : decide (c.val ≥ 'A'.val ∧ c.val ≤ 'Z'.val) = true
      ∨ (decide (c.val ≥ 'a'.val) && decide (c.val ≤ 'z'.val)) = true := Bool.or_eq_true_iff.1 h
  rw [Bool.eq_false_iff, ne_eq, Double.isDigit_iff]
  simp only [Bool.and_eq_true, decide_eq_true_eq, ge_iff_le, UInt32.le_iff_toNat_le,
    Char.toNat_val, Char.reduceVal, UInt32.reduceToNat] at hcase
  omega

theorem Token.mark_cases {text : String} (h : (mark text).isLegible = true) :
    ∃ c cs, text.toList = c :: cs ∧
      (isSoleMark c = true ∨ isSignChar c = true ∧ text.toList.all isSignChar = true) := by
  simp only [isLegible] at h
  match ht : text.toList, h with
  | [c], h =>
    refine ⟨c, [], rfl, ?_⟩
    simpa using h
  | c :: d :: cs, h =>
    refine ⟨c, d :: cs, rfl, Or.inr ⟨?_, h⟩⟩
    exact List.all_eq_true.1 h c List.mem_cons_self

/-- A legible token has characters, and a token that does not run into it ends before them. -/
theorem Token.exists_chars_eq_cons {u : Token} (hu : u.isLegible = true) :
    ∃ c cs, u.chars = c :: cs ∧ ∀ t : Token, t.runsInto u = false → t.endsBefore c = true := by
  cases u with
  | word text =>
      simp only [isLegible, Bool.and_eq_true, List.all_eq_true] at hu
      cases ht : text.toList with
      | nil => simp [ht] at hu
      | cons c cs =>
          have hc : c.isAlpha = true := by simpa [ht] using hu.2
          have hne : ∀ d : Char, d.isAlpha = false → c ≠ d := fun _ => ne_of_kind hc
          refine ⟨c, cs, ht, fun t ht => ?_⟩
          cases t <;> simp_all [runsInto, endsBefore, isSignChar, isDigit_of_isAlpha hc,
            hne '"' rfl, hne '\'' rfl, hne '<' rfl, hne '>' rfl, hne '=' rfl]
  | mark text =>
      obtain ⟨c, cs, htext, hc⟩ := mark_cases hu
      refine ⟨c, cs, htext, fun t ht => ?_⟩
      rcases hc with hc | ⟨hc, hall⟩
      -- a mark by itself ends every token, a sign every token but a sign
      · simp only [isSoleMark, Bool.or_eq_true, beq_iff_eq] at hc
        rcases hc with (rfl | rfl) | rfl <;> cases t <;> simp +decide [endsBefore]
      · have hother : isWordChar c = false ∧ c ≠ '"' ∧ c ≠ '\'' ∧ Double.isDigit c = false := by
          simp only [isSignChar, Bool.or_eq_true, beq_iff_eq] at hc
          rcases hc with (rfl | rfl) | rfl <;> decide
        cases t with
        | mark other =>
            rw [runsInto, hall, Bool.and_true] at ht
            rw [endsBefore, ht]
            rfl
        | _ => simp [endsBefore, hother]
  | identifier name =>
      refine ⟨'"', name.toList.flatMap escapeIdentifier ++ ['"'], ?_, fun t ht => ?_⟩
      · simp [chars, text, quoteIdentifier]
      · cases t <;> simp_all +decide [runsInto, endsBefore]
  | param number =>
      refine ⟨'$', Nat.toDigits 10 number, ?_, fun t ht => ?_⟩
      · simp [chars, text, Nat.toList_repr]
      · cases t <;> simp +decide [endsBefore]
  | literal text =>
      refine ⟨'\'', text.toList ++ ['\''], ?_, fun t ht => ?_⟩
      · simp [chars, Token.text]
      · cases t <;> simp_all +decide [runsInto, endsBefore]
  | space =>
      refine ⟨' ', [], rfl, fun t ht => ?_⟩
      cases t <;> simp +decide [endsBefore]

/-- The tokens of a legible list are scanned from their characters one by one. -/
theorem scanUpTo_flatMap {tokens : List Token} (h : Legible tokens) {most : Nat}
    (hm : tokens.length ≤ most) : scanUpTo most (tokens.flatMap Token.chars) = some tokens := by
  induction tokens generalizing most with
  | nil => cases most <;> rfl
  | cons t ts ih =>
      obtain ⟨heach, happart⟩ := h
      have ht := heach t List.mem_cons_self
      have hts : Legible ts :=
        ⟨fun u hu => heach u (List.mem_cons_of_mem t hu), happart.tail⟩
      obtain ⟨c, cs, hchars, -⟩ := Token.exists_chars_eq_cons ht
      -- the token ends where the next one begins, or the text ends
      have hends : ∀ c ∈ (ts.flatMap Token.chars).head?, t.endsBefore c = true := by
        intro d hd
        cases ts with
        | nil => simp at hd
        | cons u us =>
            obtain ⟨e, es, hes, hu⟩ := Token.exists_chars_eq_cons (heach u (by simp))
            rw [List.flatMap_cons, hes, List.cons_append, List.head?_cons, Option.mem_some_iff] at hd
            rw [← hd]
            exact hu t (List.isChain_cons_cons.1 happart).1
      have hstep := token?_chars ht hends
      rw [List.length_cons] at hm
      -- there is a token left to be scanned
      obtain ⟨most, rfl⟩ : ∃ m, most = m + 1 := ⟨most - 1, by omega⟩
      rw [hchars] at hstep
      rw [List.flatMap_cons, hchars, List.cons_append, scanUpTo, ← List.cons_append, hstep]
      simp only [Option.bind_eq_bind, Option.bind_some, ih hts (Nat.le_of_succ_le_succ hm)]
      rfl

theorem length_le_flatMap {tokens : List Token} (h : ∀ t ∈ tokens, t.isLegible = true) :
    tokens.length ≤ (tokens.flatMap Token.chars).length := by
  induction tokens with
  | nil => exact Nat.le_refl 0
  | cons t ts ih =>
      obtain ⟨c, cs, hchars, -⟩ := Token.exists_chars_eq_cons (h t List.mem_cons_self)
      have hts := ih fun u hu => h u (List.mem_cons_of_mem t hu)
      rw [List.flatMap_cons, hchars]
      simp only [List.length_cons, List.length_append]
      omega

/-- **Legible tokens are scanned back**. -/
theorem scan_write {tokens : List Token} (h : Legible tokens) :
    scan (write tokens) = some tokens := by
  have hl := length_le_flatMap h.each
  rw [scan, ← String.length_toList, toList_write]
  exact scanUpTo_flatMap h hl

end Audience.Sql
