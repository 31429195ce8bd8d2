import AegisRag.Common.Redaction

/-!
# Redaction at any depth

What `redact_sensitive_data` keeps and hides of a nested value, and what is left when
`_drop_redacted` of `packages/rag/service_token.py` removes the hidden entries from the
metadata of a response.
-/

namespace AegisRag.Rag

open Semantics Common

def isMarker : Json → Bool
  | .str text => text = redactedText
  | _ => false

def isEmptyObject : Json → Bool
  | .obj [] => true
  | _ => false

mutual

/-- `_drop_redacted`. -/
def dropRedacted : Json → Json
  | .obj members => .obj (dropMembers members)
  | .arr items => .arr (dropItems items)
  | value => value

def dropItems : List Json → List Json
  | [] => []
  | item :: rest =>
    if isMarker (dropRedacted item) then dropItems rest else dropRedacted item :: dropItems rest

def dropMembers : List (String × Json) → List (String × Json)
  | [] => []
  | (key, item) :: rest =>
    let cleaned := dropRedacted item
    if isMarker cleaned || isEmptyObject cleaned then dropMembers rest
    else (key, cleaned) :: dropMembers rest

end

/-- A text that matches a pattern of secrets. -/
def isSecret (redaction : Redaction) : Json → Bool
  | .str text => redaction.containsSensitiveValue text
  | _ => false

/-- A part of a value and what stands in its place in another value, not below a
sensitive key. -/
inductive Beside (value result : Json) : Json → Json → Prop
  | root : Beside value result value result
  | child {before after item image : Json} {key imageKey : Option String} {index : Nat}
      (beside : Beside value result before after)
      (item_at : before.children[index]? = some (key, item))
      (image_at : after.children[index]? = some (imageKey, image))
      (ordinary : key.any isSensitiveKey = false) : Beside value result item image

theorem of_mem_dropItems {items : List Json} {item : Json} (mem : item ∈ dropItems items) :
    isMarker item = false ∧ ∃ original ∈ items, item = dropRedacted original := by
  induction items with
  | nil => cases mem
  | cons head rest of_rest =>
    rw [dropItems] at mem
    split at mem
    all_goals grind

theorem of_mem_dropMembers {members : List (String × Json)} {member : String × Json}
    (mem : member ∈ dropMembers members) : isMarker member.2 = false ∧
      ∃ original ∈ members, member = (original.1, dropRedacted original.2) := by
  induction members with
  | nil => cases mem
  | cons head rest of_rest =>
    simp only [dropMembers] at mem
    split at mem
    all_goals grind

/-- What is left stood in the value before and is no marker. -/
theorem children_dropRedacted {value item : Json} {key : Option String}
    (mem : (key, item) ∈ (dropRedacted value).children) : isMarker item = false ∧
      ∃ original, (key, original) ∈ value.children ∧ item = dropRedacted original := by
  cases value with
  | obj members =>
    rw [dropRedacted, Json.children] at mem
    obtain ⟨_, kept, rfl, rfl⟩ := List.mem_map.mp mem
    obtain ⟨unmarked, original, stood, rfl⟩ := of_mem_dropMembers kept
    exact ⟨unmarked, original.2, List.mem_map.mpr ⟨original, stood, rfl⟩, rfl⟩
  | arr items =>
    rw [dropRedacted, Json.children] at mem
    obtain ⟨_, kept, rfl, rfl⟩ := List.mem_map.mp mem
    obtain ⟨unmarked, original, stood, rfl⟩ := of_mem_dropItems kept
    exact ⟨unmarked, original, List.mem_map.mpr ⟨original, stood, rfl⟩, rfl⟩
  | null | bool _ | int _ | float _ | str _ => cases mem

variable (redaction : Redaction)

theorem isSecret_dropRedacted (value : Json) :
    isSecret redaction (dropRedacted value) = isSecret redaction value := by
  cases value with
  | obj _ | arr _ | null | bool _ | int _ | float _ | str _ => rfl

/-- What stands under a key after the redaction. -/
def redactUnder (key : Option String) (item : Json) : Json :=
  if key.any isSensitiveKey then .str redactedText else redact redaction item

theorem redactItems_eq (items : List Json) :
    redactItems redaction items = items.map (redact redaction) := by
  induction items with
  | nil => rfl
  | cons item rest equal => rw [redactItems, equal, List.map_cons]

theorem redactMembers_eq (members : List (String × Json)) :
    redactMembers redaction members =
      members.map fun member => (member.1, redactUnder redaction (some member.1) member.2) := by
  induction members with
  | nil => rfl
  | cons member rest equal => simp [redactMembers, equal, redactUnder]

theorem children_redact (value : Json) : (redact redaction value).children =
    value.children.map fun child => (child.1, redactUnder redaction child.1 child.2) := by
  cases value with
  | obj members => simp [redact, Json.children, redactMembers_eq]
  | arr items => simp [redact, Json.children, redactItems_eq, redactUnder]
  | null | bool _ | int _ | float _ | str _ => rfl

theorem shape_redact (value : Json) : (redact redaction value).shape = value.shape := by
  cases value with
  | obj members => simp [redact, Json.shape, redactMembers_eq, Function.comp_def]
  | arr items => simp [redact, Json.shape, redactItems_eq]
  | null | bool _ | int _ | float _ | str _ => rfl

variable {redaction}

theorem isSecret_redact (markerHarmless : redaction.containsSensitiveValue redactedText = false)
    (value : Json) : isSecret redaction (redact redaction value) = false := by
  cases value with
  | str text =>
    by_cases secret : redaction.containsSensitiveValue text = true
    · simpa [redact, redactText, secret, isSecret] using markerHarmless
    · simp [redact, redactText, secret, isSecret]
  | obj _ | arr _ | null | bool _ | int _ | float _ => rfl

theorem redact_of_scalar {value : Json} (scalar : value.shape = .scalar)
    (harmless : isSecret redaction value = false) : redact redaction value = value := by
  cases value with
  | str text =>
    rw [isSecret] at harmless
    simp [redact, redactText, harmless]
  | obj _ | arr _ => cases scalar
  | null | bool _ | int _ | float _ => rfl

theorem child_redact {value item : Json} {key : Option String}
    (mem : (key, item) ∈ (redact redaction value).children) :
    ∃ original, item = redactUnder redaction key original := by
  rw [children_redact] at mem
  obtain ⟨child, _, rfl, rfl⟩ := List.mem_map.mp mem
  exact ⟨child.2, rfl⟩

theorem Beside.eq_redact {value before after : Json}
    (beside : Beside value (redact redaction value) before after) :
    after = redact redaction before := by
  induction beside with
  | root => rfl
  | child _ item_at image_at ordinary equal =>
    rw [equal, children_redact, List.getElem?_map, item_at] at image_at
    simp only [redactUnder, ordinary, Option.map_some, Option.some.injEq, Prod.mk.injEq] at image_at
    exact image_at.2.symm

/-- A marker is its own redaction, so everything in a redacted value is a redaction. -/
theorem within_redact {value inner : Json} (within : inner.Within (redact redaction value)) :
    ∃ original, inner = redact redaction original := by
  apply within.image
  intro value key item mem
  obtain ⟨original, rfl⟩ := child_redact mem
  unfold redactUnder
  split
  · exact ⟨.str redactedText, by simp [redact, redactText]⟩
  · exact ⟨original, rfl⟩

theorem within_dropRedacted {value inner : Json}
    (within : inner.Within (dropRedacted (redact redaction value))) :
    ∃ original, inner = dropRedacted (redact redaction original) := by
  apply @Json.Within.image (dropRedacted ∘ redact redaction) _ _ _ within
  intro value key item mem
  obtain ⟨_, _, stood, rfl⟩ := children_dropRedacted mem
  obtain ⟨original, equal⟩ := within_redact (.child stood .self)
  exact ⟨original, congrArg dropRedacted equal⟩

/-- The redaction keeps the shape and every harmless scalar, is stable, and hides what stands
under a sensitive key and every text that matches a pattern. -/
theorem redaction_hides_secrets (redaction : Redaction)
    (markerHarmless : redaction.containsSensitiveValue redactedText = false) (value : Json) :
    let redacted := redact redaction value
    (∀ before after, Beside value redacted before after → after.shape = before.shape ∧
      (before.shape = .scalar → isSecret redaction before = false → after = before)) ∧
    (∀ inner : Json, inner.Within redacted → isSecret redaction inner = false ∧
      ∀ key item, (some key, item) ∈ inner.children → isSensitiveKey key = true →
        item = .str redactedText) ∧
    redact redaction redacted = redacted ∧
    ∀ inner : Json, inner.Within (dropRedacted redacted) → isSecret redaction inner = false ∧
      ∀ key item, (some key, item) ∈ inner.children → isSensitiveKey key = false := by
  refine ⟨fun before after beside => ?_, fun inner within => ?_, redact_redact _ value,
    fun inner within => ?_⟩
  · rw [beside.eq_redact]
    exact ⟨shape_redact redaction before, redact_of_scalar⟩
  · obtain ⟨original, rfl⟩ := within_redact within
    refine ⟨isSecret_redact markerHarmless original, fun key item mem sensitive => ?_⟩
    obtain ⟨_, equal⟩ := child_redact mem
    simp [equal, redactUnder, sensitive]
  · obtain ⟨original, rfl⟩ := within_dropRedacted within
    refine ⟨(isSecret_dropRedacted _ _).trans (isSecret_redact markerHarmless original),
      fun key item mem => Bool.eq_false_iff.mpr fun sensitive => ?_⟩
    obtain ⟨unmarked, before, stood, rfl⟩ := children_dropRedacted mem
    obtain ⟨_, equal⟩ := child_redact stood
    -- A sensitive key holds the marker, which is dropped.
    simp [equal, redactUnder, sensitive, dropRedacted, isMarker] at unmarked

theorem redaction_hides_password :
    let redaction : Redaction := ⟨(· == "sk-12345678"), Char.isAlphanum⟩
    let value : Json := .arr [.obj [("password", .int 1)], .str "sk-12345678"]
    redaction.containsSensitiveValue redactedText = false ∧
      redact redaction (redact redaction value) = redact redaction value :=
  ⟨by decide, (redaction_hides_secrets _ (by decide) _).2.2.1⟩

end AegisRag.Rag
