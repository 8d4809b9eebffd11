import Audience.Proofs.Sql.Pattern

/-!
**What conditions of queries say of a row**.

A column without a value has no truth value to its comparisons, and combinations go by the logic of
three truth values.  A value that cannot be cast, and a parameter that cannot be bound, make the
whole query fail.

Main definitions:

* `Sql.Value`, `Sql.Fault` — what columns are cast to, and why queries fail;
* `Sql.Cast.apply`, `Sql.Cast.bind` — a value of a column and a parameter, cast;
* `Sql.Truth`, with `Sql.Truth.and` and `Sql.Truth.or` — the three truth values;
* `Sql.Expression.eval` — **the truth value of a condition** on a row;
* `Sql.Expression.Says` — a condition does not fail on a row, and is true of it or not;
* `Sql.Expression.selects` — does a query with a condition select a row?

Main results:

* `Sql.says_conjunction`, `Sql.says_disjunction` — **combinations are true when the logic of two
  truth values has them true**, whatever of their parts has no truth value.
-/

set_option relaxedAutoImplicit false
set_option autoImplicit false

namespace Audience.Sql

/-! ### Values -/

/-- A value that columns are cast to. -/
inductive Value where
  | text (s : String)
  | double (x : Double)
  | timestamp (t : Instant)
  deriving DecidableEq, Repr

/-- Why a query fails. -/
inductive Fault where
  | uncastable (value : Json)
  | unbindable (param : Json)
  | incomparable
  | badPattern
  deriving DecidableEq, Repr

/-- The value of a column, cast. -/
def Cast.apply (cast : Cast) (value : Json) : Except Fault Value :=
  match cast with
  | loweredText =>
    match value.folded with
    | .ok s => .ok (.text s)
    | .error _ => .error (.uncastable value)
  | double =>
    match value.number with
    | .ok (some x) => .ok (.double x)
    | _ => .error (.uncastable value)
  | timestamp =>
    match value.date with
    | .ok (some t) => .ok (.timestamp t)
    | _ => .error (.uncastable value)

/-- The value of a column that may have none, cast. -/
def Cast.applyTo (cast : Cast) : Option Json → Except Fault (Option Value)
  | none => .ok none
  | some value => (cast.apply value).map some

/-- The value of a parameter that is compared with a column that is cast; null is no value, and
the text of an instant denotes that instant. -/
def Cast.bind (cast : Cast) (param : Json) : Except Fault (Option Value) :=
  match cast, param with
  | _, .null => .ok none
  | loweredText, .string s => .ok (some (.text s))
  | double, .int n => .ok (some (.double (Double.ofInt n)))
  | double, .float x => .ok (some (.double x))
  | timestamp, .string s =>
    match Calendar.lenient? s.toList with
    | some t => .ok (some (.timestamp t))
    | none => .error (.unbindable param)
  | _, _ => .error (.unbindable param)

/-- The ordering of two values of one kind. -/
def Value.compare? : Value → Value → Option Ordering
  | text a, text b => some (compare a b)
  | double x, double y => x.compare? y
  | timestamp s, timestamp t => some (s.compare t)
  | _, _ => none

/-! ### Truth values -/

/-- A truth value; none is neither true nor false. -/
abbrev Truth := Option Bool

/-- The conjunction of two truth values. -/
def Truth.and : Truth → Truth → Truth
  | some false, _ | _, some false => some false
  | some true, some true => some true
  | _, _ => none

/-- The disjunction of two truth values. -/
def Truth.or : Truth → Truth → Truth
  | some true, _ | _, some true => some true
  | some false, some false => some false
  | _, _ => none

theorem Truth.and_eq_true {a b : Truth} : a.and b = some true ↔ a = some true ∧ b = some true := by
  cases a with
  | none => cases b with
    | none => simp [Truth.and]
    | some b => cases b <;> simp [Truth.and]
  | some a => cases a <;> cases b with
    | none => simp [Truth.and]
    | some b => cases b <;> simp [Truth.and]

theorem Truth.or_eq_true {a b : Truth} : a.or b = some true ↔ a = some true ∨ b = some true := by
  cases a with
  | none => cases b with
    | none => simp [Truth.or]
    | some b => cases b <;> simp [Truth.or]
  | some a => cases a <;> cases b with
    | none => simp [Truth.or]
    | some b => cases b <;> simp [Truth.or]

/-- Does a comparison hold of values in this order? -/
def Comparison.holds : Comparison → Ordering → Bool
  | eq, ordering => ordering == .eq
  | ne, ordering => ordering != .eq
  | lt, ordering => ordering == .lt
  | gt, ordering => ordering == .gt
  | le, ordering => ordering != .gt
  | ge, ordering => ordering != .lt

/-- The truth value of a comparison; none if a value is missing. -/
def Comparison.apply (comparison : Comparison) : Option Value → Option Value → Except Fault Truth
  | some a, some b =>
    match a.compare? b with
    | some ordering => .ok (some (comparison.holds ordering))
    | none => .error .incomparable
  | _, _ => .ok none

/-- The truth value of a comparison with a pattern; none if a value is missing. -/
def likeTruth : Option Value → Option Value → Except Fault Truth
  | some (.text text), some (.text pattern) =>
    match fitsPattern? pattern text with
    | some holds => .ok (some holds)
    | none => .error .badPattern
  | some _, some _ => .error .incomparable
  | _, _ => .ok none

/-! ### Conditions -/

mutual

/-- The **truth value of a condition** on a row. -/
def Expression.eval (row : Record) : Expression → Except Fault Truth
  | .truth holds => .ok (some holds)
  | .conjunction parts => Expression.evalAll row parts
  | .disjunction parts => Expression.evalAny row parts
  | .notNull column => .ok (some (row.get? column).isSome)
  | .compare column cast comparison param => do
    let value ← cast.applyTo (row.get? column)
    let operand ← cast.bind param
    comparison.apply value operand
  | .like column pattern => do
    let value ← Cast.loweredText.applyTo (row.get? column)
    let operand ← Cast.loweredText.bind pattern
    likeTruth value operand
  | .between column first last => do
    let value ← Cast.timestamp.applyTo (row.get? column)
    let first ← Cast.timestamp.bind first
    let last ← Cast.timestamp.bind last
    let above ← Comparison.ge.apply value first
    let below ← Comparison.le.apply value last
    return above.and below

/-- The truth value of the conjunction of a list of conditions. -/
def Expression.evalAll (row : Record) : List Expression → Except Fault Truth
  | [] => .ok (some true)
  | part :: parts => do
    let first ← part.eval row
    let others ← Expression.evalAll row parts
    return first.and others

/-- The truth value of the disjunction of a list of conditions. -/
def Expression.evalAny (row : Record) : List Expression → Except Fault Truth
  | [] => .ok (some false)
  | part :: parts => do
    let first ← part.eval row
    let others ← Expression.evalAny row parts
    return first.or others

end

/-- A condition does not fail on a row, and is true of it if `holds` does, and not otherwise. -/
def Expression.Says (row : Record) (holds : Bool) (e : Expression) : Prop :=
  ∃ truth, e.eval row = .ok truth ∧ (truth = some true ↔ holds = true)

/-- Does a query with this condition select a row?  Only if the condition is true of it. -/
def Expression.selects (e : Expression) (row : Record) : Bool :=
  match e.eval row with
  | .ok (some true) => true
  | _ => false

/-- The rows that a query selects are those of which its condition says that they are. -/
theorem Expression.Says.selects_eq {row : Record} {holds : Bool} {e : Expression}
    (h : e.Says row holds) : e.selects row = holds := by
  obtain ⟨truth, heval, htruth⟩ := h
  rw [selects, heval]
  cases truth with
  | none => simpa using htruth
  | some outcome =>
      cases outcome with
      | false => simpa using htruth
      | true => simpa using htruth

/-! ### Combinations -/

theorem says_truth (row : Record) (holds : Bool) : (Expression.truth holds).Says row holds :=
  ⟨some holds, rfl, by simp⟩

theorem says_notNull (row : Record) (column : String) :
    (Expression.notNull column).Says row (row.get? column).isSome :=
  ⟨some (row.get? column).isSome, rfl, by simp⟩

/-- A conjunction is true when all of its parts are. -/
theorem says_conjunction {row : Record} {parts : List (Expression × Bool)}
    (h : ∀ part ∈ parts, part.1.Says row part.2) :
    (Expression.conjunction (parts.map (·.1))).Says row (parts.all (·.2)) := by
  simp only [Expression.Says, Expression.eval]
  induction parts with
  | nil => exact ⟨some true, rfl, by simp⟩
  | cons part parts ih =>
      obtain ⟨first, hfirst, hpart⟩ := h part List.mem_cons_self
      obtain ⟨others, hothers, hparts⟩ := ih fun p hp => h p (List.mem_cons_of_mem part hp)
      refine ⟨first.and others, ?_, ?_⟩
      · rw [List.map_cons, Expression.evalAll, hfirst, hothers]
        rfl
      · rw [Truth.and_eq_true, hpart, hparts, List.all_cons, Bool.and_eq_true]

/-- **A disjunction is true** when one of its parts is. -/
theorem says_disjunction {row : Record} {parts : List (Expression × Bool)}
    (h : ∀ part ∈ parts, part.1.Says row part.2) :
    (Expression.disjunction (parts.map (·.1))).Says row (parts.any (·.2)) := by
  simp only [Expression.Says, Expression.eval]
  induction parts with
  | nil => exact ⟨some false, rfl, by simp⟩
  | cons part parts ih =>
      obtain ⟨first, hfirst, hpart⟩ := h part List.mem_cons_self
      obtain ⟨others, hothers, hparts⟩ := ih fun p hp => h p (List.mem_cons_of_mem part hp)
      refine ⟨first.or others, ?_, ?_⟩
      · rw [List.map_cons, Expression.evalAny, hfirst, hothers]
        rfl
      · rw [Truth.or_eq_true, hpart, hparts, List.any_cons, Bool.or_eq_true]

end Audience.Sql
