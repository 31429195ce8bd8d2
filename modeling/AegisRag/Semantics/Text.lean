import Mathlib

/-!
# Text

The text operations of Python's `str` that the modelled programs use, on the
characters of a string.
-/

namespace AegisRag.Semantics

instance lawfulBEqChars : LawfulBEq (List Char) := inferInstance

/-- `str.isspace` on one character. -/
def isSpace (char : Char) : Bool :=
  let code := char.toNat
  (9 ≤ code && code ≤ 13) || (28 ≤ code && code ≤ 32) || code == 0x85 || code == 0xA0 ||
    code == 0x1680 || (0x2000 ≤ code && code ≤ 0x200A) || code == 0x2028 || code == 0x2029 ||
    code == 0x202F || code == 0x205F || code == 0x3000

/-- `str.strip`. -/
def strip (value : String) : String :=
  String.ofList ((value.toList.dropWhile isSpace).rdropWhile isSpace)

/-- Text that is stripped at its end has no more space in front than before. -/
theorem dropWhile_rdropWhile_dropWhile (chars : List Char) :
    ((chars.dropWhile isSpace).rdropWhile isSpace).dropWhile isSpace =
      (chars.dropWhile isSpace).rdropWhile isSpace := by
  rw [List.dropWhile_eq_self_iff]
  intro nonempty
  have isPrefix := List.rdropWhile_prefix isSpace (chars.dropWhile isSpace)
  have filled : chars.dropWhile isSpace ≠ [] :=
    List.ne_nil_of_length_pos (Nat.lt_of_lt_of_le nonempty isPrefix.length_le)
  rw [isPrefix.getElem nonempty, ← List.head_eq_getElem_zero filled,
    List.head_dropWhile_not isSpace filled]
  exact Bool.false_ne_true

/-- What `strip` leaves has no space at either end. -/
@[simp] theorem strip_strip (value : String) : strip (strip value) = strip value := by
  rw [strip, strip, String.toList_ofList, dropWhile_rdropWhile_dropWhile,
    List.rdropWhile_idempotent]

/-- A text that `strip` keeps and that is not blank. -/
def IsText (value : String) : Prop := strip value = value ∧ value ≠ ""

instance (value : String) : Decidable (IsText value) :=
  inferInstanceAs (Decidable (strip value = value ∧ value ≠ ""))

theorem isText_strip (filled : strip value ≠ "") : IsText (strip value) :=
  ⟨strip_strip value, filled⟩

/-- The trimmed texts of a list that are not blank. -/
def texts (values : List String) : List String := (values.map strip).filter (· ≠ "")

theorem texts_areTexts (values : List String) : ∀ value ∈ texts values, IsText value := by
  intro value isIn
  obtain ⟨isStripped, filled⟩ := List.mem_filter.mp isIn
  obtain ⟨_, _, rfl⟩ := List.mem_map.mp isStripped
  exact isText_strip (by simpa using filled)

theorem IsText.mem_texts (isText : IsText value) :
    value ∈ texts values ↔ ∃ original ∈ values, strip original = value := by
  simp [texts, isText.2]

theorem none_isText : ∀ text, (none : Option String) = some text → IsText text := by simp

/-- Texts are kept as they are. -/
theorem texts_eq_self (areTexts : ∀ value ∈ values, IsText value) : texts values = values := by
  have stripped : values.map strip = values.map id := by
    apply List.map_congr_left
    intro value isIn
    exact (areTexts value isIn).1
  rw [texts, stripped, List.map_id, List.filter_eq_self]
  intro value isIn
  simpa using (areTexts value isIn).2

/-- A trimmed text, unless it is blank. -/
def optionalText (value : Option String) : Option String := (value.map strip).filter (· ≠ "")

theorem optionalText_isText (value : Option String) :
    ∀ text, optionalText value = some text → IsText text := by
  intro text isText
  rw [optionalText, Option.filter_eq_some_iff] at isText
  obtain ⟨_, _, rfl⟩ := Option.map_eq_some_iff.mp isText.1
  exact isText_strip (by simpa using isText.2)

theorem optionalText_eq_self (isText : ∀ text, value = some text → IsText text) :
    optionalText value = value := by
  cases value with
  | none => rfl
  | some text => simp [optionalText, (isText text rfl).1, (isText text rfl).2]

/-- `str.lower` as far as an ASCII needle can see it: besides the ASCII capitals
only U+0130 and U+212A lower to text with an ASCII letter. -/
def lowerChar (char : Char) : List Char :=
  if char.toNat = 0x130 then ['i', Char.ofNat 0x307]
  else if char.toNat = 0x212A then ['k']
  else [char.toLower]

def lower (value : String) : List Char := value.toList.flatMap lowerChar

end AegisRag.Semantics
