import Mathlib.Data.Rat.Defs

/-!
# JSON values

The values that programs store in JSON columns, hash or send. A number is kept by
its exact value.
-/

namespace AegisRag.Semantics

/-- A JSON value. Object members are listed in key order, as `sort_keys` dumps them. -/
inductive Json where
  | null
  | bool (value : Bool)
  | int (value : Int)
  | float (value : ℚ)
  | str (value : String)
  | arr (items : List Json)
  | obj (members : List (String × Json))

namespace Json

def ofOption {α : Type} (encode : α → Json) : Option α → Json
  | none => .null
  | some value => encode value

def ofNat (value : Nat) : Json := .int value

/-- What directly stands in a value, with the key of each object member. -/
def children : Json → List (Option String × Json)
  | .obj members => members.map fun member => (some member.1, member.2)
  | .arr items => items.map fun item => (none, item)
  | _ => []

inductive Shape where
  | object (keys : List String)
  | array (length : Nat)
  | scalar

def shape : Json → Shape
  | .obj members => .object (members.map Prod.fst)
  | .arr items => .array items.length
  | _ => .scalar

/-- A value stands somewhere in another, at any depth. -/
inductive Within (inner : Json) : Json → Prop
  | self : Within inner inner
  | child {key : Option String} {item outer : Json} (mem : (key, item) ∈ outer.children)
      (within : Within inner item) : Within inner outer

/-- When an operation builds its results from results of its own, nothing else stands
within one, at any depth. -/
theorem Within.image {operation : Json → Json} {inner value : Json}
    (child_image : ∀ value key item, (key, item) ∈ (operation value).children →
      ∃ original, item = operation original)
    (within : Within inner (operation value)) : ∃ original, inner = operation original := by
  generalize built : operation value = outer at within
  induction within generalizing value with
  | self => exact ⟨value, built.symm⟩
  | child mem _ of_item =>
    obtain ⟨original, equal⟩ := child_image value _ _ (built ▸ mem)
    exact of_item equal.symm

end Json

end AegisRag.Semantics
