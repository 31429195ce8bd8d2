import AegisRag.Semantics.Text

/-!
# Names of sources

The sanitising of names and title paths in `packages/common/source_metadata.py`. Space is
folded, a text that looks like a path, a key, a secret or an instruction is withheld, and
what is left is cut to its greatest length.
-/

namespace AegisRag.Common

open Semantics

/-- `" ".join(value.split())` of a text that does not begin with space. -/
def foldSpace : List Char → List Char
  | [] => []
  | char :: rest =>
    if !isSpace char then char :: foldSpace rest
    else if (foldSpace rest).head?.all isSpace then foldSpace rest
    else ' ' :: foldSpace rest

/-- `" ".join(value.strip().split())`. -/
def folded (value : List Char) : List Char := foldSpace (value.dropWhile isSpace)

def promptMarkers : List String :=
  ["assistant:", "developer:", "ignore previous", "ignore system", "ignore the previous",
    "ignore the system", "prompt:", "system:", "tool:", "user:"]

def secretMarkers : List String :=
  ["access_token", "api_key", "apikey", "authorization", "bearer ", "password", "secret", "token"]

/-- `_looks_like_local_absolute_path`. -/
def isLocalAbsolutePath : List Char → Bool
  | '/' :: _ => true
  | '\\' :: '\\' :: _ => true
  | drive :: ':' :: separator :: _ => drive.isAlpha && (separator = '\\' || separator = '/')
  | _ => false

/-- `_looks_like_internal_uri`: what precedes the first colon names the scheme. -/
def isInternalUri (value : List Char) : Bool :=
  let url := value.dropWhile (·.toNat ≤ 0x20)
  ':' ∈ url &&
    (url.takeWhile (· ≠ ':')).map Char.toLower ∈ ["file".toList, "s3".toList, "minio".toList]

/-- `_looks_like_object_key`. -/
def isObjectKey (value : List Char) : Bool :=
  let parts := (value.splitOn '/').filter (· ≠ [])
  ¬ "://".toList <:+: value && ('\\' ∈ value || (2 ≤ parts.length &&
    (parts.tail.any ('.' ∈ ·) || parts.any (· ∈ ["raw".toList, "objects".toList]))))

/-- `_is_unsafe_display_text`, of a text without space at its ends. -/
def isUnsafeDisplayText (value : List Char) : Bool :=
  (promptMarkers ++ secretMarkers).any (fun marker =>
      marker.toList <:+: value.flatMap lowerChar) ||
    "://".toList <:+: value || isLocalAbsolutePath value || isInternalUri value ||
    isObjectKey value || value.any (·.toNat ∈ [0, 9, 10, 13])

/-- `_truncate`. -/
def truncate (value : List Char) (maxChars : Nat) : List Char :=
  if value.length ≤ maxChars then value
  else (value.take (maxChars - 1)).rdropWhile isSpace ++ "...".toList

/-- `_MAX_DISPLAY_CHARS` and `_MAX_TITLE_PART_CHARS`. -/
def maxDisplayChars : Nat := 160

/-- `_safe_display_text`. -/
def safeDisplayText (value : List Char) : Option (List Char) :=
  if folded value = [] ∨ isUnsafeDisplayText (folded value) then none
  else some (truncate (folded value) maxDisplayChars)

def sourceUnavailable : List Char := "Source unavailable".toList

/-- `safe_source_display_name`. -/
def safeSourceDisplayName (value : List Char) : List Char :=
  (safeDisplayText value).getD sourceUnavailable

/-- `_looks_like_split_object_key`. -/
def isSplitObjectKey (parts : List (List Char)) : Bool :=
  2 ≤ parts.length && (isObjectKey (['/'].intercalate parts) ||
    parts.getLast?.any ('.' ∈ ·) && parts.dropLast.any fun part => '-' ∈ part || '_' ∈ part)

/-- `_safe_title_path`. -/
def safeTitlePath (path : List (List Char)) : List (List Char) :=
  let parts := path.filterMap safeDisplayText
  if parts = [] ∨ isSplitObjectKey parts then ["Untitled".toList] else parts

/-! ## Folding twice -/

theorem foldSpace_foldSpace (text : List Char) : foldSpace (foldSpace text) = foldSpace text := by
  induction text with
  | nil => rfl
  | cons char rest ih =>
    rw [foldSpace]
    split
    · rename_i shown
      rw [foldSpace, if_pos shown, ih]
    · split
      · exact ih
      · rename_i kept
        rw [foldSpace, ih, if_neg (by decide), if_neg kept]

theorem folded_folded (value : List Char) : folded (folded value) = folded value := by
  have front : (folded value).dropWhile isSpace = folded value := by
    rw [folded]
    cases begins : value.dropWhile isSpace with
    | nil => rfl
    | cons char rest =>
      have shown : isSpace char = false := by
        simpa [begins] using List.head_dropWhile_not isSpace (l := value) (by simp [begins])
      rw [foldSpace, shown, Bool.not_false, if_pos rfl]
      exact List.dropWhile_cons_of_neg (by simp [shown])
  rw [folded, front, folded, foldSpace_foldSpace]

/-! ## Cutting a text -/

/-- Folding leaves no two spaces side by side. -/
theorem foldSpace_isChain (text : List Char) :
    (foldSpace text).IsChain fun left right => isSpace left = false ∨ isSpace right = false := by
  induction text with
  | nil => exact .nil
  | cons char rest ih =>
    rw [foldSpace]
    split
    · rename_i shown
      refine List.isChain_cons.mpr ⟨fun next _ => .inl ?_, ih⟩
      simpa using shown
    · split
      · exact ih
      · rename_i kept
        refine List.isChain_cons.mpr ⟨fun next isNext => .inr ?_, ih⟩
        simpa [Option.mem_def.mp isNext] using kept

/-- Without two spaces side by side, at most one is trimmed from the end. -/
theorem length_le_rdropWhile {text : List Char}
    (apart : text.IsChain fun left right => isSpace left = false ∨ isSpace right = false) :
    text.length ≤ (text.rdropWhile isSpace).length + 1 := by
  cases text using List.reverseRecOn with
  | nil => simp
  | append_singleton front last =>
    by_cases isLast : isSpace last = true
    · rw [List.rdropWhile_concat_pos _ _ _ isLast]
      suffices kept : front.rdropWhile isSpace = front by rw [kept]; simp
      refine List.rdropWhile_eq_self_iff.mpr fun nonempty => ?_
      have ends := (List.isChain_append.mp apart).2.2 _ (List.getLast?_eq_some_getLast nonempty)
        last (by simp)
      simpa [isLast] using ends
    · rw [List.rdropWhile_concat_neg _ _ _ isLast]
      omega

/-- What is withheld, or short enough without its cut. -/
def IsDisplayable (value : List Char) : Prop :=
  (folded value).length ≤ maxDisplayChars ∨ isUnsafeDisplayText (folded value) = true

/-- A text that is shown and displayable is sanitised to itself. -/
theorem safeDisplayText_stable {value part : List Char} (displayable : IsDisplayable value)
    (safe : safeDisplayText value = some part) :
    part.length ≤ maxDisplayChars ∧ safeDisplayText part = some part := by
  simp only [safeDisplayText, Option.ite_none_left_eq_some, Option.some.injEq] at safe
  obtain ⟨shown, rfl⟩ := safe
  have short : (folded value).length ≤ maxDisplayChars :=
    displayable.resolve_right fun isUnsafe => shown (.inr isUnsafe)
  rw [truncate, if_pos short]
  refine ⟨short, ?_⟩
  simp only [safeDisplayText, folded_folded, truncate, if_pos short, if_neg shown]

/-- A text that is cut comes out too long: the cut adds three dots and trims one space
at most. -/
theorem safeDisplayText_too_long {value : List Char} (cut : ¬ IsDisplayable value) :
    ∃ part, safeDisplayText value = some part ∧ maxDisplayChars < part.length := by
  rw [IsDisplayable, not_or, not_le, Bool.not_eq_true] at cut
  obtain ⟨long, isSafe⟩ := cut
  refine ⟨truncate (folded value) maxDisplayChars, ?_, ?_⟩
  · rw [safeDisplayText, if_neg]
    rintro (isEmpty | isUnsafe)
    · simp [isEmpty] at long
    · simp [isSafe] at isUnsafe
  · have apart := List.IsChain.prefix (foldSpace_isChain (value.dropWhile isSpace))
      (List.take_prefix (maxDisplayChars - 1) (folded value))
    have trimmed := length_le_rdropWhile apart
    rw [List.length_take] at trimmed
    rw [truncate, if_neg (by omega), List.length_append]
    have dots : "...".toList.length = 3 := rfl
    omega

/-- A name is sanitised to a text of at most the allowed length that stays as it is exactly
when it is withheld or short enough once its space is folded; a title path, exactly when
this holds of all its parts or the whole path is withheld as an object key. -/
theorem sanitising_is_stable (value : List Char) (path : List (List Char)) :
    ((safeSourceDisplayName value).length ≤ maxDisplayChars ∧
      safeSourceDisplayName (safeSourceDisplayName value) = safeSourceDisplayName value ↔
        IsDisplayable value) ∧
    ((∀ part ∈ safeTitlePath path, part.length ≤ maxDisplayChars) ∧
      safeTitlePath (safeTitlePath path) = safeTitlePath path ↔
        (∀ part ∈ path, IsDisplayable part) ∨
          isSplitObjectKey (path.filterMap safeDisplayText) = true) := by
  constructor
  · constructor
    · rintro ⟨bounded, -⟩
      by_contra cut
      obtain ⟨part, shown, long⟩ := safeDisplayText_too_long cut
      rw [safeSourceDisplayName, shown, Option.getD_some] at bounded
      omega
    · intro displayable
      unfold safeSourceDisplayName
      cases safe : safeDisplayText value with
      | none => decide +kernel
      | some part =>
        obtain ⟨bounded, same⟩ := safeDisplayText_stable displayable safe
        exact ⟨bounded, by simp [same]⟩
  · by_cases withheld : path.filterMap safeDisplayText = [] ∨
        isSplitObjectKey (path.filterMap safeDisplayText) = true
    · -- The path is replaced as a whole; without any part left, all of them were withheld.
      refine iff_of_true ?_ ?_
      · rw [safeTitlePath, if_pos withheld]
        decide +kernel
      · refine withheld.imp_left fun none part isIn => ?_
        by_contra cut
        obtain ⟨shown, isShown, -⟩ := safeDisplayText_too_long cut
        have isLeft : shown ∈ path.filterMap safeDisplayText :=
          List.mem_filterMap.mpr ⟨part, isIn, isShown⟩
        rw [none] at isLeft
        cases isLeft
    · have shown : safeTitlePath path = path.filterMap safeDisplayText := if_neg withheld
      rw [shown, or_iff_left fun isKey => withheld (.inr isKey)]
      constructor
      · rintro ⟨bounded, -⟩ part isIn
        by_contra cut
        obtain ⟨cutPart, isShown, long⟩ := safeDisplayText_too_long cut
        have := bounded cutPart (List.mem_filterMap.mpr ⟨part, isIn, isShown⟩)
        omega
      · intro displayable
        have parts : ∀ part ∈ path.filterMap safeDisplayText,
            part.length ≤ maxDisplayChars ∧ safeDisplayText part = some part := by
          intro part isIn
          obtain ⟨original, isOriginal, safe⟩ := List.mem_filterMap.mp isIn
          exact safeDisplayText_stable (displayable original isOriginal) safe
        have again : (path.filterMap safeDisplayText).filterMap safeDisplayText =
            path.filterMap safeDisplayText := by
          rw [List.filterMap_congr fun part isIn => (parts part isIn).2, List.filterMap_some]
        refine ⟨fun part isIn => (parts part isIn).1, ?_⟩
        rw [safeTitlePath]
        simp only [again, if_neg withheld]

/-- A name cut at a space is a character too long, and cut again it gains a dot. -/
theorem sanitising_is_not_stable :
    let name := List.replicate 158 'a' ++ " bb".toList
    safeSourceDisplayName name = List.replicate 158 'a' ++ "...".toList ∧
      safeSourceDisplayName (safeSourceDisplayName name) =
        List.replicate 158 'a' ++ "....".toList ∧
      (safeDisplayText name).map List.length = some 161 := by
  decide +kernel

end AegisRag.Common
