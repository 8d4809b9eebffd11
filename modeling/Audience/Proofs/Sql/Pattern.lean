import Audience.Proofs.Text.Search
import Audience.Sql.Expression
import Mathlib.Data.List.Infix

/-!
**Patterns of texts** in which a backslash makes the next character stand for itself.

In a pattern a percent sign stands for any run of characters and an underscore for any one
character.  Texts to look for are put into patterns with a backslash before each of the three
characters that mean something else, so that a pattern finds exactly the text that it was made for.

Main definitions:

* `Sql.PatternPart`, `Sql.patternParts?` — what a pattern is made of; a backslash at its end makes
  it no pattern;
* `Sql.fits` — does a text fit the parts of a pattern?
* `Sql.fitsPattern?` — does a text fit a pattern, if it is one?

Main results:

* `Sql.patternParts?_likeLiteral` — a text put into a pattern stands for its characters;
* `Sql.fits_run` — a percent sign fits any run of characters;
* `Sql.fitsPattern?_likePattern` — **patterns find texts literally**: at the start, at the end or
  anywhere.
-/

set_option relaxedAutoImplicit false
set_option autoImplicit false

namespace Audience

namespace Sql

/-! ### Patterns -/

/-- A **part of a pattern**. -/
inductive PatternPart where
  | run
  | one
  | char (c : Char)
  deriving DecidableEq, Repr

/-- The parts of a pattern, unless it ends in a backslash that makes no character stand for
itself. -/
def patternParts? : List Char → Option (List PatternPart)
  | [] => some []
  | '\\' :: [] => none
  | '\\' :: c :: pattern => (patternParts? pattern).map (.char c :: ·)
  | '%' :: pattern => (patternParts? pattern).map (.run :: ·)
  | '_' :: pattern => (patternParts? pattern).map (.one :: ·)
  | c :: pattern => (patternParts? pattern).map (.char c :: ·)

/-- Does a text fit the parts of a pattern? -/
def fits : List PatternPart → List Char → Bool
  | [], text => text.isEmpty
  | .run :: parts, text => text.tails.any (fits parts)
  | .one :: parts, text =>
    match text with
    | [] => false
    | _ :: text => fits parts text
  | .char c :: parts, text =>
    match text with
    | [] => false
    | d :: text => c == d && fits parts text

/-- Does a text fit a pattern, if it is one? -/
def fitsPattern? (pattern text : String) : Option Bool :=
  (patternParts? pattern.toList).map fun parts => fits parts text.toList

/-! ### Texts put into patterns -/

theorem patternParts?_backslash (c : Char) (pattern : List Char) :
    patternParts? ('\\' :: c :: pattern) = (patternParts? pattern).map (.char c :: ·) := by
  rw [patternParts?]

theorem patternParts?_percent (pattern : List Char) :
    patternParts? ('%' :: pattern) = (patternParts? pattern).map (.run :: ·) := rfl

theorem patternParts?_underscore (pattern : List Char) :
    patternParts? ('_' :: pattern) = (patternParts? pattern).map (.one :: ·) := rfl

theorem patternParts?_of_ne {c : Char} (h : ¬(c = '\\' ∨ c = '%' ∨ c = '_'))
    (pattern : List Char) :
    patternParts? (c :: pattern) = (patternParts? pattern).map (.char c :: ·) := by
  obtain ⟨hb, hp, hu⟩ : c ≠ '\\' ∧ c ≠ '%' ∧ c ≠ '_' := by simpa using h
  rw [patternParts?]
  · exact fun hc => absurd hc hb
  · exact fun _ _ hc => absurd hc hb
  · exact hp
  · exact hu

/-- A text put into a pattern stands for its characters. -/
theorem patternParts?_likeLiteral (s pattern : List Char) :
    patternParts? (s.flatMap escapeLike ++ pattern)
      = (patternParts? pattern).map (s.map .char ++ ·) := by
  induction s with
  | nil => simp
  | cons c cs ih =>
      -- a backslash takes its meaning from a character that has one
      have hcs : patternParts? (escapeLike c ++ (cs.flatMap escapeLike ++ pattern))
          = (patternParts? (cs.flatMap escapeLike ++ pattern)).map (.char c :: ·) := by
        unfold escapeLike
        split
        · exact patternParts?_backslash c _
        · next hc => exact patternParts?_of_ne hc _
      rw [List.flatMap_cons, List.append_assoc, hcs, ih, Option.map_map]
      rfl

/-! ### Texts that fit -/

theorem fits_run {parts : List PatternPart} {text : List Char} :
    fits (.run :: parts) text = true ↔ ∃ rest, rest <:+ text ∧ fits parts rest = true := by
  simp [fits, List.any_eq_true]

theorem fits_run_nil (text : List Char) : fits [.run] text = true :=
  fits_run.2 ⟨[], List.nil_suffix, rfl⟩

/-- Certain characters fit themselves at the start of a text. -/
theorem fits_chars {cs : List Char} {parts : List PatternPart} {text : List Char} :
    fits (cs.map .char ++ parts) text = true ↔ ∃ rest, text = cs ++ rest ∧ fits parts rest = true := by
  induction cs generalizing text with
  | nil => simp
  | cons c cs ih =>
      rw [List.map_cons, List.cons_append]
      cases text with
      | nil => simp [fits]
      | cons d text =>
          simp only [fits, Bool.and_eq_true, beq_iff_eq, ih, List.cons_append, List.cons.injEq]
          constructor
          · rintro ⟨rfl, rest, rfl, hrest⟩
            exact ⟨rest, ⟨rfl, rfl⟩, hrest⟩
          · rintro ⟨rest, ⟨rfl, rfl⟩, hrest⟩
            exact ⟨rfl, rest, rfl, hrest⟩

theorem fits_chars_run {cs text : List Char} :
    fits (cs.map .char ++ [.run]) text = true ↔ cs <+: text := by
  rw [fits_chars]
  constructor
  · rintro ⟨rest, rfl, -⟩
    exact List.prefix_append cs rest
  · rintro ⟨rest, rfl⟩
    exact ⟨rest, rfl, fits_run_nil rest⟩

theorem fits_run_chars {cs text : List Char} :
    fits (.run :: cs.map .char) text = true ↔ cs <:+ text := by
  -- nothing may follow the characters
  have hc : ∀ rest, fits (cs.map .char) rest = true ↔ rest = cs := by
    intro rest
    have h : fits (cs.map .char ++ []) rest = true ↔ ∃ after, rest = cs ++ after
        ∧ fits [] after = true := fits_chars
    simpa [fits, List.isEmpty_iff] using h
  simp only [fits_run, hc, exists_eq_right]

theorem fits_run_chars_run {cs text : List Char} :
    fits (.run :: (cs.map .char ++ [.run])) text = true ↔ cs <:+: text := by
  simp only [fits_run, fits_chars_run, List.infix_iff_prefix_suffix, and_comm]

/-! ### Operators as patterns -/

/-- **Patterns find texts literally**: the pattern for an operator fits the texts that compare with
the text that is looked for as the operator says. -/
theorem fitsPattern?_likePattern {op : Operator} {operand pattern : String}
    (h : likePattern? op operand = some pattern) (actual : String) :
    fitsPattern? pattern actual = some (op.matchesText actual operand) := by
  have hlit := patternParts?_likeLiteral operand.toList
  -- the pattern for the end of a text has nothing after the literal part
  have hnil : likeLiteral operand = operand.toList.flatMap escapeLike ++ [] :=
    (List.append_nil _).symm
  cases op with
  | contains =>
      obtain rfl := Option.some.inj h
      rw [fitsPattern?, String.toList_ofList, patternParts?_percent, likeLiteral, hlit]
      simp only [patternParts?_percent, patternParts?, Option.map_some, Option.some.injEq]
      rw [Bool.eq_iff_iff, fits_run_chars_run]
      exact Text.holds_iff.symm
  | startsWith =>
      obtain rfl := Option.some.inj h
      rw [fitsPattern?, String.toList_ofList, likeLiteral, hlit]
      simp only [patternParts?_percent, patternParts?, Option.map_some, Option.some.injEq]
      rw [Bool.eq_iff_iff, fits_chars_run]
      exact List.isPrefixOf_iff_prefix.symm
  | endsWith =>
      obtain rfl := Option.some.inj h
      rw [fitsPattern?, String.toList_ofList, patternParts?_percent, hnil, hlit]
      simp only [patternParts?, Option.map_some, Option.some.injEq, List.append_nil]
      rw [Bool.eq_iff_iff, fits_run_chars]
      exact List.isSuffixOf_iff_suffix.symm
  | _ => simp [likePattern?] at h

end Sql

end Audience
