import Audience.Proofs.Sql.Pattern
import Audience.Sql.Statement
import Mathlib.Algebra.Ring.Parity
import Mathlib.Data.List.DropRight

/-!
**Texts that are like a pattern**.

What a pattern stands for is given by rules, one for each kind of character that it can go on with.
No rule is about a backslash at the end of a pattern, which has no character to take the meaning
from.  A search that takes a pattern to parts and tries all ends of a text at every percent sign
finds just the texts that the rules allow; and the patterns of the three operators that look for a
text within another one allow just the texts that compare so.

Main definitions:

* `Sql.IsLike` — the **rules** of patterns;
* `Sql.escapesAtEnd` — the backslashes at the end of a pattern.

Main results:

* `Sql.isLike_iff` — the search finds what the rules allow;
* `Sql.patternParts?_eq_none_iff` — a pattern has no parts just when a backslash at its end takes
  the meaning from nothing, that is, when an odd number of them stands there;
* `Sql.patterns_match_literally` — **patterns are matched by the texts that compare with the
  operand**, and end in no such backslash.
-/

set_option relaxedAutoImplicit false
set_option autoImplicit false

namespace Audience.Sql

/-! ### Rules of patterns -/

/-- A text **is like a pattern**. -/
inductive IsLike : List Char → List Char → Prop
  /-- The empty pattern stands for the empty text. -/
  | nil : IsLike [] []
  /-- A character after a backslash stands for itself. -/
  | escaped (c : Char) {text pattern : List Char} (h : IsLike text pattern) :
      IsLike (c :: text) ('\\' :: c :: pattern)
  /-- An underscore stands for any one character. -/
  | one (c : Char) {text pattern : List Char} (h : IsLike text pattern) :
      IsLike (c :: text) ('_' :: pattern)
  /-- A percent sign stands for any run of characters. -/
  | run (before : List Char) {text pattern : List Char} (h : IsLike text pattern) :
      IsLike (before ++ text) ('%' :: pattern)
  /-- Any other character stands for itself. -/
  | char {c : Char} (hc : ¬(c = '\\' ∨ c = '%' ∨ c = '_')) {text pattern : List Char}
      (h : IsLike text pattern) : IsLike (c :: text) (c :: pattern)

/-- Induction on patterns: what holds of the empty pattern and of a lone backslash, and of a
pattern that goes on with a character after a backslash, a percent sign, an underscore or any other
character whenever it holds of the rest, holds of all patterns. -/
theorem pattern_induction {motive : List Char → Prop} (nil : motive [])
    (backslash : motive ['\\'])
    (escaped : ∀ c pattern, motive pattern → motive ('\\' :: c :: pattern))
    (run : ∀ pattern, motive pattern → motive ('%' :: pattern))
    (one : ∀ pattern, motive pattern → motive ('_' :: pattern))
    (char : ∀ c pattern, ¬(c = '\\' ∨ c = '%' ∨ c = '_') → motive pattern → motive (c :: pattern))
    (pattern : List Char) : motive pattern := by
  induction pattern using patternParts?.induct with
  | case1 => exact nil
  | case2 => exact backslash
  | case3 c pattern ih => exact escaped c pattern ih
  | case4 pattern ih => exact run pattern ih
  | case5 pattern ih => exact one pattern ih
  | case6 c pattern hlone hpair hrun hone ih =>
      refine char c pattern ?_ ih
      rintro (hc | hc | hc)
      · -- a backslash has a character after it or not
        cases pattern with
        | nil => exact hlone hc rfl
        | cons d pattern => exact hpair d pattern hc rfl
      · exact hrun hc
      · exact hone hc

/-- What the rules allow fits the parts of the pattern. -/
theorem IsLike.exists_parts {text pattern : List Char} (h : IsLike text pattern) :
    ∃ parts, patternParts? pattern = some parts ∧ fits parts text = true := by
  induction h with
  | nil => exact ⟨[], rfl, rfl⟩
  | escaped c _ ih =>
      obtain ⟨parts, hparts, hfits⟩ := ih
      refine ⟨.char c :: parts, ?_, by simp [fits, hfits]⟩
      rw [patternParts?_backslash, hparts, Option.map_some]
  | one c _ ih =>
      obtain ⟨parts, hparts, hfits⟩ := ih
      refine ⟨.one :: parts, ?_, hfits⟩
      rw [patternParts?_underscore, hparts, Option.map_some]
  | run before _ ih =>
      obtain ⟨parts, hparts, hfits⟩ := ih
      refine ⟨.run :: parts, ?_, fits_run.2 ⟨_, List.suffix_append before _, hfits⟩⟩
      rw [patternParts?_percent, hparts, Option.map_some]
  | @char c hc _ _ _ ih =>
      obtain ⟨parts, hparts, hfits⟩ := ih
      refine ⟨.char c :: parts, ?_, by simp [fits, hfits]⟩
      rw [patternParts?_of_ne hc, hparts, Option.map_some]

theorem fits_char {c : Char} {parts : List PatternPart} {text : List Char} :
    fits (.char c :: parts) text = true ↔ ∃ rest, text = c :: rest ∧ fits parts rest = true :=
  @fits_chars [c] parts text

theorem fits_one {parts : List PatternPart} {text : List Char} :
    fits (.one :: parts) text = true ↔ ∃ c rest, text = c :: rest ∧ fits parts rest = true := by
  cases text with
  | nil => simp [fits]
  | cons c text => simp [fits]

/-- What fits the parts of a pattern the rules allow. -/
theorem isLike_of_fits {pattern text : List Char} {parts : List PatternPart}
    (hparts : patternParts? pattern = some parts) (hfits : fits parts text = true) :
    IsLike text pattern := by
  induction pattern using pattern_induction generalizing text parts with
  | nil =>
      obtain rfl := Option.some.inj hparts
      rw [fits, List.isEmpty_iff] at hfits
      exact hfits ▸ .nil
  | backslash => cases hparts
  | escaped c pattern ih =>
      rw [patternParts?_backslash] at hparts
      obtain ⟨parts, hrest, rfl⟩ := Option.map_eq_some_iff.1 hparts
      obtain ⟨rest, rfl, hfit⟩ := fits_char.1 hfits
      exact .escaped c (ih hrest hfit)
  | run pattern ih =>
      rw [patternParts?_percent] at hparts
      obtain ⟨parts, hrest, rfl⟩ := Option.map_eq_some_iff.1 hparts
      obtain ⟨rest, ⟨before, rfl⟩, hfit⟩ := fits_run.1 hfits
      exact .run before (ih hrest hfit)
  | one pattern ih =>
      rw [patternParts?_underscore] at hparts
      obtain ⟨parts, hrest, rfl⟩ := Option.map_eq_some_iff.1 hparts
      obtain ⟨c, rest, rfl, hfit⟩ := fits_one.1 hfits
      exact .one c (ih hrest hfit)
  | char c pattern hc ih =>
      rw [patternParts?_of_ne hc] at hparts
      obtain ⟨parts, hrest, rfl⟩ := Option.map_eq_some_iff.1 hparts
      obtain ⟨rest, rfl, hfit⟩ := fits_char.1 hfits
      exact .char hc (ih hrest hfit)

/-- The search finds what the rules allow. -/
theorem isLike_iff {text pattern : String} :
    IsLike text.toList pattern.toList ↔ fitsPattern? pattern text = some true := by
  rw [fitsPattern?, Option.map_eq_some_iff]
  constructor
  · intro h
    exact h.exists_parts
  · rintro ⟨parts, hparts, hfits⟩
    exact isLike_of_fits hparts hfits

/-! ### Backslashes at the end -/

/-- The number of backslashes at the end of a pattern. -/
def escapesAtEnd (pattern : List Char) : Nat := (pattern.rtakeWhile (· == '\\')).length

theorem escapesAtEnd_le (pattern : List Char) : escapesAtEnd pattern ≤ pattern.length :=
  (List.rtakeWhile_suffix _ _).length_le

/-- One more character in front of a pattern is one more backslash at its end only if it is one and
all of the pattern is backslashes. -/
theorem escapesAtEnd_cons (c : Char) (pattern : List Char) :
    escapesAtEnd (c :: pattern)
      = if escapesAtEnd pattern = pattern.length ∧ c = '\\' then pattern.length + 1
        else escapesAtEnd pattern := by
  simp only [escapesAtEnd, List.rtakeWhile, List.reverse_cons, List.takeWhile_append,
    List.length_reverse]
  by_cases hall : (pattern.reverse.takeWhile (· == '\\')).length = pattern.length
  · by_cases hc : c = '\\'
    · simp [hall, hc]
    · simp [hall, hc]
  · simp [hall]

theorem escapesAtEnd_cons_of_ne {c : Char} (hc : c ≠ '\\') (pattern : List Char) :
    escapesAtEnd (c :: pattern) = escapesAtEnd pattern := by
  rw [escapesAtEnd_cons, if_neg fun h => hc h.2]

theorem odd_escapesAtEnd_escaped (c : Char) (pattern : List Char) :
    Odd (escapesAtEnd ('\\' :: c :: pattern)) ↔ Odd (escapesAtEnd pattern) := by
  have hle := escapesAtEnd_le pattern
  rw [escapesAtEnd_cons, escapesAtEnd_cons, List.length_cons, Nat.odd_iff, Nat.odd_iff]
  by_cases hall : escapesAtEnd pattern = pattern.length ∧ c = '\\'
  · rw [if_pos hall, if_pos ⟨rfl, rfl⟩, hall.1]
    omega
  · rw [if_neg hall, if_neg]
    omega

/-- A pattern has no parts just when an odd number of backslashes is at its end. -/
theorem patternParts?_eq_none_iff {pattern : List Char} :
    patternParts? pattern = none ↔ Odd (escapesAtEnd pattern) := by
  induction pattern using pattern_induction with
  | nil => simp [patternParts?, escapesAtEnd]
  | backslash => simp [patternParts?, escapesAtEnd, List.rtakeWhile]
  | escaped c pattern ih =>
      rw [patternParts?_backslash, Option.map_eq_none_iff, ih, odd_escapesAtEnd_escaped]
  | run pattern ih =>
      rw [patternParts?_percent, Option.map_eq_none_iff, ih, escapesAtEnd_cons_of_ne (by decide)]
  | one pattern ih =>
      rw [patternParts?_underscore, Option.map_eq_none_iff, ih, escapesAtEnd_cons_of_ne (by decide)]
  | char c pattern hc ih =>
      rw [patternParts?_of_ne hc, Option.map_eq_none_iff, ih,
        escapesAtEnd_cons_of_ne fun h => hc (.inl h)]

/-! ### Operators as patterns -/

theorem exists_likePattern? {op : Operator}
    (h : op = .contains ∨ op = .startsWith ∨ op = .endsWith) (operand : String) :
    ∃ pattern, likePattern? op operand = some pattern := by
  rcases h with rfl | rfl | rfl
  all_goals exact ⟨_, rfl⟩

/-- **Patterns are matched by the texts that compare with the operand**.  The pattern that is bound
for an operator that looks for a text within another one allows just the texts that compare with the
operand, the search decides this, and no backslash at the end of it takes its meaning from
nothing. -/
theorem patterns_match_literally {op : Operator}
    (h : op = .contains ∨ op = .startsWith ∨ op = .endsWith) (column operand : String) :
    ∃ pattern : String,
      (Predicate.column column (.text op operand)).expression = .like column (.string pattern) ∧
      (Predicate.column column (.text op operand)).expression.fragment.params
        = [.string pattern] ∧
      Even (escapesAtEnd pattern.toList) ∧
      ∀ actual : String,
        (IsLike actual.toList pattern.toList ↔ op.matchesText actual operand = true) ∧
          fitsPattern? pattern actual = some (op.matchesText actual operand) := by
  obtain ⟨pattern, hpattern⟩ := exists_likePattern? h operand
  have hexpression : (Predicate.column column (.text op operand)).expression
      = .like column (.string pattern) := by
    rw [Predicate.expression, ColumnTest.expression, hpattern]
  have hsearch : ∀ actual, fitsPattern? pattern actual = some (op.matchesText actual operand) :=
    fitsPattern?_likePattern hpattern
  refine ⟨pattern, hexpression, ?_, ?_, fun actual => ⟨?_, hsearch actual⟩⟩
  · rw [hexpression]
    rfl
  · rw [← Nat.not_odd_iff_even, ← patternParts?_eq_none_iff]
    intro hnone
    -- a pattern without parts finds nothing, not even that a text does not fit
    have hempty := hsearch ""
    rw [fitsPattern?, hnone] at hempty
    cases hempty
  · rw [isLike_iff, hsearch, Option.some.injEq]

/-- An operand with all three characters that mean something else has a pattern that texts match
which end in it, and others do not. -/
theorem endsWith_backslash_literally :
    likePattern? .endsWith "50%_\\" = some "%50\\%\\_\\\\" ∧
      IsLike "now at 50%_\\".toList "%50\\%\\_\\\\".toList ∧
      ¬ IsLike "now at 50 %__".toList "%50\\%\\_\\\\".toList ∧
      Even (escapesAtEnd "%50\\%\\_\\\\".toList) := by
  have hpattern : likePattern? .endsWith "50%_\\" = some "%50\\%\\_\\\\" := by decide +kernel
  have hop : Operator.endsWith = .contains ∨ Operator.endsWith = .startsWith
      ∨ Operator.endsWith = .endsWith := .inr (.inr rfl)
  obtain ⟨pattern, hexpression, -, heven, hlike⟩ := patterns_match_literally hop "name" "50%_\\"
  rw [Predicate.expression, ColumnTest.expression, hpattern] at hexpression
  obtain ⟨-, hparam⟩ := Expression.like.inj hexpression
  obtain rfl := Json.string.inj hparam
  have hends := (hlike "now at 50%_\\").1
  have hother := (hlike "now at 50 %__").1
  refine ⟨hpattern, hends.2 (by decide +kernel), fun h => ?_, heven⟩
  exact absurd (hother.1 h) (by decide +kernel)

end Audience.Sql
