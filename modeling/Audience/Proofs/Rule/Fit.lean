import Audience.Rule.Validation

/-!
**Conditions that fit a catalog**.

A condition fits a catalog if its field is one of the catalog and its operator may be used with that
field; all others are warned of.  For a field that the catalog does not have equality is allowed, so
an operator may be allowed though the condition does not fit.

Main definitions:

* `Condition.IsAllowed`, `Group.IsAllowed` — the operator may be used with the field, in a condition
  and in all conditions of a tree.

Main results:

* `Catalog.allows_defaultOperator` — a field allows the operator that it starts out with;
* `Condition.misfit?_eq_none_iff`, `Group.lint_eq_nil_iff` — when a condition, and when a tree, is
  **not warned of**.
-/

set_option relaxedAutoImplicit false
set_option autoImplicit false

namespace Audience

/-! ### Operators for fields -/

namespace Catalog

variable {catalog : Catalog}

theorem allows_equals (catalog : Catalog) (name : String) :
    catalog.allows name .equals = true := by
  rw [allows, operators, decide_eq_true_eq]
  split
  · next type _ => cases type <;> exact List.mem_cons_self
  · exact List.mem_cons_self

theorem allows_defaultOperator (catalog : Catalog) (name : String) :
    catalog.allows name (catalog.defaultOperator name) = true := by
  rw [defaultOperator_eq]
  exact catalog.allows_equals name

theorem contains_of_first? {field : Field} (h : catalog.first? = some field) :
    catalog.contains field.name = true := by
  rw [contains, field?, List.find?_isSome]
  exact ⟨field, List.mem_of_head? h, beq_self_eq_true field.name⟩

end Catalog

/-! ### Conditions and trees -/

/-- May the operator of a condition **be used with its field**? -/
def Condition.IsAllowed (catalog : Catalog) (c : Condition) : Prop :=
  catalog.allows c.field c.operator = true

/-- A tree in all of whose conditions the operator **may be used with the field**. -/
def Group.IsAllowed (catalog : Catalog) (g : Group) : Prop :=
  ∀ c ∈ g.conditions, c.IsAllowed catalog

/-- A condition is not warned of if it is on a field of the catalog with an operator for it. -/
theorem Condition.misfit?_eq_none_iff {catalog : Catalog} {c : Condition} :
    c.misfit? catalog = none ↔ catalog.contains c.field = true ∧ c.IsAllowed catalog := by
  unfold misfit? IsAllowed
  cases catalog.contains c.field with
  | false => simp
  | true => cases catalog.allows c.field c.operator <;> simp

/-- A tree is **not warned of** if none of its conditions is. -/
theorem Group.lint_eq_nil_iff {catalog : Catalog} {tree : Group} :
    tree.lint catalog = [] ↔ ∀ c ∈ tree.conditions, c.misfit? catalog = none := by
  simp [lint, List.filterMap_eq_nil_iff]

end Audience
