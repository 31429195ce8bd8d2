import Mathlib

/-!
# Base64 for URLs

Three bytes become four characters, each for six bits; what is left at the end is not padded.
-/

namespace AegisRag.Semantics.Base64

/-- The digits of the URL-safe alphabet, by value. -/
def alphabet : List Char :=
  "ABCDEFGHIJKLMNOPQRSTUVWXYZabcdefghijklmnopqrstuvwxyz0123456789-_".toList

/-- The digit of a value below 64. -/
def digit (value : ℕ) : Char := alphabet.getD value 'A'

/-- The value of a digit. -/
def value (character : Char) : Option ℕ := alphabet.idxOf? character

/-- A digit is read back as its value. -/
theorem value_digit (isSmall : number < 64) : value (digit number) = some number := by
  have each : ∀ number : Fin 64, value (digit number) = some number.val := by decide +kernel
  exact each ⟨number, isSmall⟩

/-- Every digit is in the alphabet. -/
theorem digit_mem (isSmall : number < 64) : digit number ∈ alphabet := by
  have each : ∀ number : Fin 64, digit number ∈ alphabet := by decide +kernel
  exact each ⟨number, isSmall⟩

/-- The digits of a list of bytes, without padding. -/
def encode : List UInt8 → List Char
  | first :: second :: third :: rest =>
    digit (first.toNat / 4) :: digit (first.toNat % 4 * 16 + second.toNat / 16) ::
      digit (second.toNat % 16 * 4 + third.toNat / 64) :: digit (third.toNat % 64) :: encode rest
  | [first, second] => [digit (first.toNat / 4), digit (first.toNat % 4 * 16 + second.toNat / 16),
      digit (second.toNat % 16 * 4)]
  | [first] => [digit (first.toNat / 4), digit (first.toNat % 4 * 16)]
  | [] => []

/-- The bytes of a text, of which a single character may not be left. -/
def decode : List Char → Option (List UInt8)
  | first :: second :: third :: fourth :: rest => do
    let first ← value first
    let second ← value second
    let third ← value third
    let fourth ← value fourth
    let rest ← decode rest
    some (.ofNat (first * 4 + second / 16) :: .ofNat (second % 16 * 16 + third / 4) ::
      .ofNat (third % 4 * 64 + fourth) :: rest)
  | [first, second, third] => do
    let first ← value first
    let second ← value second
    let third ← value third
    some [.ofNat (first * 4 + second / 16), .ofNat (second % 16 * 16 + third / 4)]
  | [first, second] => do
    let first ← value first
    let second ← value second
    some [.ofNat (first * 4 + second / 16)]
  | [_] => none
  | [] => some []

/-- A byte is rebuilt from its number. -/
theorem ofNat_eq (byte : UInt8) (same : number = byte.toNat) : UInt8.ofNat number = byte := by
  rw [same, UInt8.ofNat_toNat]

/-- Every list of bytes is read back from its digits. -/
theorem decode_encode (bytes : List UInt8) : decode (encode bytes) = some bytes := by
  fun_induction encode bytes with
  | case1 first second third rest ih =>
    have firstSmall := first.toNat_lt
    have secondSmall := second.toNat_lt
    have thirdSmall := third.toNat_lt
    rw [decode, value_digit (by omega), value_digit (by omega), value_digit (by omega),
      value_digit (by omega), ih]
    simp only [Option.bind_eq_bind, Option.bind_some]
    rw [ofNat_eq first (by omega), ofNat_eq second (by omega),
      ofNat_eq third (by omega)]
  | case2 first second =>
    have firstSmall := first.toNat_lt
    have secondSmall := second.toNat_lt
    rw [decode, value_digit (by omega), value_digit (by omega), value_digit (by omega)]
    simp only [Option.bind_eq_bind, Option.bind_some]
    rw [ofNat_eq first (by omega), ofNat_eq second (by omega)]
  | case3 first =>
    have firstSmall := first.toNat_lt
    rw [decode, value_digit (by omega), value_digit (by omega)]
    simp only [Option.bind_eq_bind, Option.bind_some]
    rw [ofNat_eq first (by omega)]
  | case4 => rfl

/-- Three bytes take four digits. -/
theorem length_encode (bytes : List UInt8) :
    (encode bytes).length = (4 * bytes.length + 2) / 3 := by
  fun_induction encode bytes with
  | case1 first second third rest ih =>
    simp only [List.length_cons, ih]
    omega
  | _ => simp

/-- An encoding consists of digits. -/
theorem mem_alphabet_of_mem_encode : ∀ character ∈ encode bytes, character ∈ alphabet := by
  fun_induction encode bytes with
  | case1 first second third rest ih =>
    have firstSmall := first.toNat_lt
    have secondSmall := second.toNat_lt
    have thirdSmall := third.toNat_lt
    simp only [List.forall_mem_cons]
    exact ⟨digit_mem (by omega), digit_mem (by omega), digit_mem (by omega),
      digit_mem (by omega), ih⟩
  | case2 first second =>
    have firstSmall := first.toNat_lt
    have secondSmall := second.toNat_lt
    simp only [List.forall_mem_cons]
    exact ⟨digit_mem (by omega), digit_mem (by omega), digit_mem (by omega), nofun⟩
  | case3 first =>
    have firstSmall := first.toNat_lt
    simp only [List.forall_mem_cons]
    exact ⟨digit_mem (by omega), digit_mem (by omega), nofun⟩
  | case4 => nofun

end AegisRag.Semantics.Base64
