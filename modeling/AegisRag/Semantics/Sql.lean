import Mathlib.Logic.Basic

/-!
# SQL conditions

The three truth values of SQL and the connectives on them. A row passes a `WHERE`
condition only when the condition is true: unknown excludes it as false does, and
`NOT` leaves unknown as it is.
-/

namespace AegisRag.Semantics

/-- A truth value of SQL; `none` is unknown. -/
abbrev Truth := Option Bool

namespace Truth

def not : Truth → Truth
  | none => none
  | some value => some !value

def and : Truth → Truth → Truth
  | some false, _ => some false
  | _, some false => some false
  | some true, some true => some true
  | _, _ => none

def or : Truth → Truth → Truth
  | some true, _ => some true
  | _, some true => some true
  | some false, some false => some false
  | _, _ => none

/-- Conditions joined by `OR`. -/
def anyOf : List Truth → Truth
  | [] => some false
  | condition :: rest => or condition (anyOf rest)

@[simp] theorem not_eq_true : not condition = some true ↔ condition = some false := by
  rcases condition with _ | _ | _ <;> simp [not]

@[simp] theorem and_eq_true :
    and left right = some true ↔ left = some true ∧ right = some true := by
  rcases left with _ | _ | _ <;> rcases right with _ | _ | _ <;> simp [and]

@[simp] theorem or_eq_true : or left right = some true ↔ left = some true ∨ right = some true := by
  rcases left with _ | _ | _ <;> rcases right with _ | _ | _ <;> simp [or]

/-- One true alternative is enough, whatever is unknown beside it. -/
theorem anyOf_eq_true : anyOf conditions = some true ↔ some true ∈ conditions := by
  induction conditions with
  | nil => simp [anyOf]
  | cons condition rest ih =>
    rw [anyOf, or_eq_true, ih, List.mem_cons, eq_comm]

end Truth

end AegisRag.Semantics
