import AegisRag.Ingestion.Connectors
import AegisRag.Semantics.Base64
import AegisRag.Semantics.Loop
import AegisRag.Semantics.Text

/-!
# Folder imports page by page

`_signed_cursor_token` and `_decode_signed_cursor` of `packages/ingestion/connectors.py`, and
`FolderImportService.import_folder` of `packages/data/service.py`. A page ends with a cursor
that carries the path of its last document, up to the length a cursor may have.
-/

namespace AegisRag.Ingestion

open Semantics

/-- Names that no entry of a directory has. -/
def reservedNames : List (List Char) := [[], ['.'], ['.', '.']]

def hexDigits : List Char := "0123456789abcdef".toList

/-- The first 32 digits of the keyed hash of a payload. -/
structure Signer where
  sign : List Char → List Char
  length_sign : ∀ payload, (sign payload).length = 32
  hex_sign : ∀ payload, ∀ character ∈ sign payload, character ∈ hexDigits

def pathBytes (path : List Char) : List UInt8 := path.flatMap String.utf8EncodeChar

/-- `_signed_cursor_token`; `none` where it raises. -/
def signedCursorToken (signer : Signer) (path : List Char) : Option (List Char) :=
  let payload := Base64.encode (pathBytes path)
  let token := payload ++ '.' :: signer.sign payload
  if 512 < token.length then none else some token

/-- `is_valid_folder_cursor`, for a token split before its last 33 characters. -/
def isValidFolderCursor (payload rest : List Char) : Bool :=
  1 ≤ payload.length && payload.length ≤ 479 && payload.all (· ∈ Base64.alphabet) &&
    rest.head? == some '.' && rest.tail.length == 32 && rest.tail.all (· ∈ hexDigits)

/-- `Path(text).as_posix()`; `none` for an absolute path or one that goes up. -/
def posixPath (text : List Char) : Option (List Char) :=
  let parts := (text.splitOn '/').filter fun part => part ≠ [] ∧ part ≠ ['.']
  if text.head? = some '/' ∨ ['.', '.'] ∈ parts then none
  else some (if parts = [] then ['.'] else ['/'].intercalate parts)

/-- `_decode_signed_cursor`; `none` where it raises. -/
def decodeSignedCursor (signer : Signer) (token : List Char) : Option (List Char) :=
  let payload := token.take (token.length - 33)
  let rest := token.drop (token.length - 33)
  if isValidFolderCursor payload rest ∧ rest.tail = signer.sign payload then do
    let bytes ← Base64.decode payload
    let path ← bytes.toByteArray.utf8Decode?
    posixPath path.toList
  else none

/-! ## Round trip -/

variable {path : List Char} {startAfter : Option (List Char)}

/-- The path of a file is joined from names. -/
theorem IsFile.names (isFile : IsFile '/' base entries path)
    (wellFormed : WellFormed '/' reservedNames entries) :
    ∃ names, names ≠ [] ∧ path = base ++ ['/'].intercalate names ∧
      ∀ name ∈ names, '/' ∉ name ∧ name ∉ reservedNames := by
  induction isFile with
  | @here base name entries isIn =>
    obtain ⟨-, plain, -⟩ := wellFormed
    exact ⟨[name], List.cons_ne_nil _ _, by simp [List.intercalate],
      by simpa [Entry.name] using plain _ isIn⟩
  | @inside base name path entries inner isIn _ ih =>
    obtain ⟨-, plain, below⟩ := wellFormed
    obtain ⟨names, notNil, rfl, areNames⟩ := ih (below _ _ _ isIn)
    refine ⟨name :: names, List.cons_ne_nil _ _, ?_, ?_⟩
    · obtain ⟨_, _, rfl⟩ := List.exists_cons_of_ne_nil notNil
      simp [List.intercalate]
    · exact List.forall_mem_cons.mpr ⟨plain _ isIn, areNames⟩

theorem posixPath_intercalate (notNil : names ≠ [])
    (areNames : ∀ name ∈ names, '/' ∉ name ∧ name ∉ reservedNames) :
    posixPath (['/'].intercalate names) = some (['/'].intercalate names) := by
  have parts : ((['/'].intercalate names).splitOn '/').filter
      (fun part => part ≠ [] ∧ part ≠ ['.']) = names := by
    rw [List.splitOn_intercalate '/' (fun name isIn => (areNames name isIn).1) notNil,
      List.filter_eq_self]
    intro name isIn
    have notReserved := (areNames name isIn).2
    simp only [reservedNames, List.mem_cons, not_or] at notReserved
    simpa using ⟨notReserved.1, notReserved.2.1⟩
  have isRelative : (['/'].intercalate names).head? ≠ some '/' := by
    obtain ⟨name, later, rfl⟩ := List.exists_cons_of_ne_nil notNil
    obtain ⟨notSlash, notReserved⟩ := areNames name List.mem_cons_self
    cases name with
    | nil => exact absurd List.mem_cons_self notReserved
    | cons first name =>
      have isFirst : (['/'].intercalate ((first :: name) :: later)).head? = some first := by
        cases later <;> simp [List.intercalate]
      rw [isFirst]
      rintro ⟨rfl⟩
      exact notSlash List.mem_cons_self
  have notUp : ['.', '.'] ∉ names := fun isIn => (areNames _ isIn).2 (by decide)
  unfold posixPath
  dsimp only
  rw [parts, if_neg (by simpa using ⟨isRelative, notUp⟩), if_neg notNil]

theorem length_le_pathBytes (path : List Char) : path.length ≤ (pathBytes path).length := by
  induction path with
  | nil => exact Nat.zero_le _
  | cons first path ih =>
    have isPositive := first.utf8Size_pos
    rw [pathBytes, List.flatMap_cons, List.length_append, String.length_utf8EncodeChar,
      List.length_cons]
    rw [pathBytes] at ih
    omega

/-- A cursor decodes to the path it was made from. -/
theorem decode_signedCursorToken (isPath : posixPath path = some path) (notNil : path ≠ [])
    (isToken : signedCursorToken signer path = some token) :
    decodeSignedCursor signer token = some path := by
  obtain ⟨isShort, rfl⟩ : _ ∧ Base64.encode (pathBytes path) ++ '.' ::
      signer.sign (Base64.encode (pathBytes path)) = token := by
    simpa [signedCursorToken] using isToken
  have isDecoded := Base64.decode_encode (pathBytes path)
  have inAlphabet : ∀ character ∈ Base64.encode (pathBytes path), character ∈ Base64.alphabet :=
    Base64.mem_alphabet_of_mem_encode
  have isPositive : 1 ≤ (Base64.encode (pathBytes path)).length := by
    rw [Base64.length_encode]
    have isLonger := length_le_pathBytes path
    have isPositive := List.length_pos_iff.mpr notNil
    omega
  generalize Base64.encode (pathBytes path) = payload at *
  have length : (payload ++ '.' :: signer.sign payload).length = payload.length + 33 := by
    rw [List.length_append, List.length_cons, signer.length_sign]
  unfold decodeSignedCursor
  dsimp only
  rw [length, Nat.add_sub_cancel, List.take_left, List.drop_left, List.tail_cons, if_pos]
  · rw [isDecoded]
    have isUtf8 : (pathBytes path).toByteArray.utf8Decode? = some path.toArray :=
      List.utf8Decode?_utf8Encode
    simp only [Option.bind_eq_bind, Option.bind_some, isUtf8, isPath]
  · refine ⟨?_, rfl⟩
    have isHex := signer.hex_sign payload
    have isBounded : payload.length ≤ 479 := by
      rw [signer.length_sign] at isShort
      omega
    simpa [isValidFolderCursor, signer.length_sign] using
      ⟨⟨⟨isPositive, isBounded⟩, inAlphabet⟩, isHex⟩

/-! ## Pages -/

/-- What `import_folder` raises. -/
inductive ImportError where
  | forbidden
  | tenantMismatch
  | invalid (field : String)
  | pathTooLong
  | refused (reason : String)
deriving DecidableEq

/-- Who imports: the permission and the tenant that are checked. -/
structure ImportContext where
  canManage : Bool
  isTenant : Bool

variable (signer : Signer) (folder : Folder '/' reservedNames)

section

-- What `import_document` does with the document at a path: `upload` refuses an empty file, say.
variable (importDocument : List Char → Except ImportError PUnit)

/-- The path that a request starts after. -/
def cursorPath : Option (List Char) → Except ImportError (Option (List Char))
  | none => pure none
  | some token =>
    match decodeSignedCursor signer token with
    | some path => pure (some path)
    | none => throw (.invalid "cursor")

/-- The answer after a page of documents, of which some are left. -/
def pageOf (imported left : List (List Char)) :
    Except ImportError (List (List Char) × Option (List Char)) :=
  match imported.getLast? with
  | none => pure ([], none)
  | some last =>
    if left.any (last < ·) then
      match signedCursorToken signer last with
      | some token => pure (imported, some token)
      | none => throw .pathTooLong
    else
      pure (imported, none)

/-- `import_folder`: the paths imported and the next cursor. -/
def importFolder (context : ImportContext) (cursor : Option (List Char)) (batchSize : ℤ) :
    Except ImportError (List (List Char) × Option (List Char)) := do
  if context.canManage = false then throw .forbidden
  else if context.isTenant = false then throw .tenantMismatch
  else if batchSize ≤ 0 ∨ 100 < batchSize then throw (.invalid "batch_size")
  else
    let startAfter ← cursorPath signer cursor
    let documents := folder.iterDocuments startAfter
    (documents.take batchSize.toNat).forM importDocument
    pageOf signer (documents.take batchSize.toNat) (documents.drop batchSize.toNat)

/-- Follow the cursors until there is none. -/
def importAll (context : ImportContext) (batchSize : ℤ) :
    ℕ → Option (List Char) → Except ImportError (Option (List (List Char)))
  | 0, _ => pure none
  | fuel + 1, cursor => do
    let (imported, next) ← importFolder signer folder importDocument context cursor batchSize
    match next with
    | none => pure (some imported)
    | some token =>
      let later ← importAll context batchSize fuel (some token)
      pure (later.map (imported ++ ·))

end

variable {signer folder} {importDocument : List Char → Except ImportError PUnit}

theorem iterDocuments_after_last
    (isLeft : folder.iterDocuments startAfter = front ++ last :: left) :
    folder.iterDocuments (some last) = left := by
  induction front generalizing startAfter with
  | nil => exact folder.iterDocuments_after isLeft
  | cons first front ih => exact ih (folder.iterDocuments_after isLeft)

/-- A path fits into a cursor when it has at most 359 bytes. -/
theorem signedCursorToken_isSome (signer : Signer) (path : List Char) :
    (signedCursorToken signer path).isSome ↔ (pathBytes path).length ≤ 359 := by
  unfold signedCursorToken
  dsimp only
  rw [List.length_append, List.length_cons, signer.length_sign, Base64.length_encode]
  split <;> simp <;> omega

theorem decode_document (isIn : path ∈ folder.iterDocuments startAfter)
    (isToken : signedCursorToken signer path = some token) :
    decodeSignedCursor signer token = some path := by
  obtain ⟨isFile, -⟩ := folder.mem_iterDocuments.mp isIn
  obtain ⟨names, notNil, rfl, areNames⟩ := isFile.names folder.wellFormed
  apply decode_signedCursorToken (posixPath_intercalate notNil areNames) _ isToken
  obtain ⟨name, later, rfl⟩ := List.exists_cons_of_ne_nil notNil
  intro isNil
  have isName : name = [] := by
    cases later <;> simp_all [List.intercalate]
  exact (areNames name List.mem_cons_self).2 (by simp [isName, reservedNames])

/-- The paths that end a page, with documents left behind it, fit into a cursor. -/
def PagesFit (size : ℕ) (documents : List (List Char)) : Prop :=
  ∀ front last left, documents = front ++ last :: left → left ≠ [] → size ∣ front.length + 1 →
    (pathBytes last).length ≤ 359

/-- One page holds all the documents. -/
theorem pagesFit_of_le (isEnd : documents.length ≤ size) : PagesFit size documents := by
  rintro front last left rfl isMore isPage
  have isLeft := List.length_pos_iff.mpr isMore
  have isLess := Nat.le_of_dvd (Nat.succ_pos _) isPage
  rw [List.length_append, List.length_cons] at isEnd
  omega

/-- The first page ends before documents that are left. -/
theorem pagesFit_append (isSize : front.length + 1 = size) (isMore : left ≠ []) :
    PagesFit size (front ++ last :: left) ↔
      (pathBytes last).length ≤ 359 ∧ PagesFit size left := by
  constructor
  · intro fit
    refine ⟨fit front last left rfl isMore (by rw [isSize]), ?_⟩
    rintro later path rest rfl isRest isPage
    refine fit (front ++ last :: later) path rest (by simp) isRest ?_
    have length : (front ++ last :: later).length + 1 = size + (later.length + 1) := by
      rw [List.length_append, List.length_cons]
      omega
    rw [length]
    exact (Nat.dvd_add_right (dvd_refl size)).mpr isPage
  · rintro ⟨isShort, fit⟩ before path rest isSame isRest isPage
    have isLonger := Nat.le_of_dvd (Nat.succ_pos _) isPage
    by_cases isFirst : before.length = front.length
    · obtain ⟨-, isRest⟩ := List.append_inj isSame isFirst.symm
      rw [← (List.cons.inj isRest).1]
      exact isShort
    · obtain ⟨later, isBefore, isLeft⟩ | ⟨later, isFront, isLater⟩ :=
        List.append_eq_append_iff.mp isSame
      · cases later with
        | nil => simp [isBefore] at isFirst
        | cons first later =>
          obtain ⟨rfl, rfl⟩ := List.cons.inj isLeft
          refine fit later path rest rfl isRest ?_
          have length : before.length + 1 = size + (later.length + 1) := by
            rw [isBefore, List.length_append, List.length_cons]
            omega
          rwa [length, Nat.dvd_add_right (dvd_refl size)] at isPage
      · rw [isFront, List.length_append] at isSize isFirst
        simp only [Nat.left_eq_add] at isFirst
        omega

theorem exists_page (isPositive : 0 < size) (isMore : size < documents.length) :
    ∃ front last left, documents = front ++ last :: left ∧ front.length + 1 = size ∧ left ≠ [] := by
  have isIn : size - 1 < documents.length := by omega
  refine ⟨documents.take (size - 1), documents.get ⟨size - 1, isIn⟩, documents.drop (size - 1 + 1),
    ?_, ?_, ?_⟩
  · rw [List.get_eq_getElem, ← List.drop_eq_getElem_cons isIn, List.take_append_drop]
  · rw [List.length_take]
    omega
  · rw [← List.length_pos_iff, List.length_drop]
    omega

/-- A page that stops before documents that are left. -/
theorem pageOf_append (increasing : (front ++ last :: left).Pairwise (· < ·)) (isMore : left ≠ []) :
    pageOf signer (front ++ [last]) left =
      match signedCursorToken signer last with
      | some token => .ok (front ++ [last], some token)
      | none => .error .pathTooLong := by
  have isLeft : left.any (last < ·) = true := by
    obtain ⟨next, isNext⟩ := List.exists_mem_of_ne_nil left isMore
    rw [List.pairwise_append, List.pairwise_cons] at increasing
    rw [List.any_eq_true]
    exact ⟨next, isNext, by simpa using increasing.2.1.1 next isNext⟩
  unfold pageOf
  rw [List.getLast?_concat]
  dsimp only
  rw [if_pos isLeft]
  rfl

/-- The last page names no cursor. -/
theorem pageOf_nil (documents : List (List Char)) :
    pageOf signer documents [] = .ok (documents, none) := by
  unfold pageOf
  cases isLast : documents.getLast? with
  | none => rw [List.getLast?_eq_none_iff.mp isLast]; rfl
  | some last => rfl

section

variable {context : ImportContext} {batchSize : ℤ}
  (isAllowed : context.canManage = true ∧ context.isTenant = true)
  (isSize : 0 < batchSize ∧ batchSize ≤ 100) (isStart : cursorPath signer cursor = .ok startAfter)

include isAllowed isSize isStart

theorem importFolder_eq : importFolder signer folder importDocument context cursor batchSize =
    (((folder.iterDocuments startAfter).take batchSize.toNat).forM importDocument >>= fun _ =>
      pageOf signer ((folder.iterDocuments startAfter).take batchSize.toNat)
        ((folder.iterDocuments startAfter).drop batchSize.toNat)) := by
  unfold importFolder
  rw [isAllowed.1, isAllowed.2, if_neg nofun, if_neg nofun, if_neg (by omega), isStart]
  rfl

theorem importAll_last (isEnd : (folder.iterDocuments startAfter).length ≤ batchSize.toNat) :
    importAll signer folder importDocument context batchSize (fuel + 1) cursor =
        .ok (some (folder.iterDocuments startAfter)) ↔
      ∀ path ∈ folder.iterDocuments startAfter, importDocument path = .ok () := by
  rw [importAll, importFolder_eq isAllowed isSize isStart, List.take_of_length_le isEnd,
    List.drop_of_length_le isEnd, pageOf_nil, ← forM_eq_ok]
  cases (folder.iterDocuments startAfter).forM importDocument with
  | error raised => exact ⟨nofun, nofun⟩
  | ok _ => exact ⟨fun _ => rfl, fun _ => rfl⟩

theorem importAll_page (isDocuments : folder.iterDocuments startAfter = front ++ last :: left)
    (isFront : front.length + 1 = batchSize.toNat) (isLeft : left ≠ []) :
    importAll signer folder importDocument context batchSize (fuel + 1) cursor =
        .ok (some (folder.iterDocuments startAfter)) ↔
      (∀ path ∈ front ++ [last], importDocument path = .ok ()) ∧
        ∃ token, signedCursorToken signer last = some token ∧
          importAll signer folder importDocument context batchSize fuel (some token) =
            .ok (some left) := by
  have increasing := folder.iterDocuments_increasing startAfter
  rw [importAll, importFolder_eq isAllowed isSize isStart]
  rw [isDocuments] at increasing ⊢
  rw [List.append_cons, List.take_left' (by simpa using isFront),
    List.drop_left' (by simpa using isFront), pageOf_append increasing isLeft, ← forM_eq_ok]
  cases (front ++ [last]).forM importDocument with
  | error raised => exact ⟨nofun, nofun⟩
  | ok _ =>
    cases signedCursorToken signer last with
    | none => exact ⟨nofun, nofun⟩
    | some token =>
      show (importAll signer folder importDocument context batchSize fuel (some token) >>=
        fun later => pure (later.map (front ++ [last] ++ ·))) = _ ↔ _
      rw [bind_eq_ok]
      constructor
      · rintro ⟨later, ends, isRest⟩
        obtain ⟨rest, rfl, isSame⟩ := Option.map_eq_some_iff.mp (Except.ok.inj isRest)
        rw [List.append_cancel_left isSame] at ends
        exact ⟨rfl, token, rfl, ends⟩
      · rintro ⟨-, _, ⟨⟩, ends⟩
        exact ⟨some left, ends, rfl⟩

end

/-- Following the cursors from a position imports what is left exactly if each document is
imported and each page's end fits into a cursor. -/
theorem importAll_iff (isAllowed : context.canManage = true ∧ context.isTenant = true)
    (isSize : 0 < batchSize ∧ batchSize ≤ 100) (length : ℕ) : ∀ cursor startAfter,
    cursorPath signer cursor = .ok startAfter → (folder.iterDocuments startAfter).length = length →
    ((∃ fuel, importAll signer folder importDocument context batchSize (fuel + 1) cursor =
        .ok (some (folder.iterDocuments startAfter))) ↔
      (∀ path ∈ folder.iterDocuments startAfter, importDocument path = .ok ()) ∧
        PagesFit batchSize.toNat (folder.iterDocuments startAfter)) := by
  -- By the number of documents that are left: the last page, or one page and the rest.
  induction length using Nat.strong_induction_on with
  | _ length ih =>
    intro cursor startAfter isStart isLength
    by_cases isMore : batchSize.toNat < (folder.iterDocuments startAfter).length
    · obtain ⟨front, last, left, isDocuments, isFront, isLeft⟩ := exists_page (by omega) isMore
      have isNext : folder.iterDocuments (some last) = left := iterDocuments_after_last isDocuments
      have isLess : left.length < length := by
        rw [← isLength, isDocuments, List.length_append, List.length_cons]
        omega
      have isCursor (token : List Char) (isToken : signedCursorToken signer last = some token) :
          cursorPath signer (some token) = .ok (some last) := by
        unfold cursorPath
        dsimp only
        rw [decode_document (by rw [isDocuments]; simp) isToken]
        rfl
      simp only [importAll_page isAllowed isSize isStart isDocuments isFront isLeft]
      have split : (∀ path ∈ front ++ last :: left, importDocument path = .ok ()) ↔
          (∀ path ∈ front ++ [last], importDocument path = .ok ()) ∧
            ∀ path ∈ left, importDocument path = .ok () := by
        rw [List.append_cons, List.forall_mem_append]
      rw [isDocuments, pagesFit_append isFront isLeft, ← signedCursorToken_isSome signer,
        Option.isSome_iff_exists, split]
      constructor
      · rintro ⟨fuel, imports, token, isToken, ends⟩
        have later := ih left.length isLess _ _ (isCursor token isToken) (by rw [isNext])
        rw [isNext] at later
        cases fuel with
        | zero => cases ends
        | succ fuel =>
          obtain ⟨others, fit⟩ := later.mp ⟨fuel, ends⟩
          exact ⟨⟨imports, others⟩, ⟨token, isToken⟩, fit⟩
      · rintro ⟨⟨imports, others⟩, ⟨token, isToken⟩, fit⟩
        have later := ih left.length isLess _ _ (isCursor token isToken) (by rw [isNext])
        rw [isNext] at later
        obtain ⟨fuel, ends⟩ := later.mpr ⟨others, fit⟩
        exact ⟨fuel + 1, imports, token, isToken, ends⟩
    · simp only [importAll_last isAllowed isSize isStart (not_lt.mp isMore), exists_const]
      exact (and_iff_left (pagesFit_of_le (not_lt.mp isMore))).symm

/-- Following the cursors imports every document of the folder once and in order exactly if
`import_document` refuses none and every path that ends a page, with documents left behind it,
has at most 359 bytes. Every path that fits into a cursor is read back from it. -/
theorem folder_import_is_complete (signer : Signer) (folder : Folder '/' reservedNames)
    (importDocument : List Char → Except ImportError PUnit) (context : ImportContext)
    (isAllowed : context.canManage = true ∧ context.isTenant = true) (batchSize : ℤ)
    (isSize : 0 < batchSize ∧ batchSize ≤ 100) :
    ((∃ fuel, importAll signer folder importDocument context batchSize (fuel + 1) none =
        .ok (some (folder.iterDocuments none))) ↔
      (∀ path ∈ folder.iterDocuments none, importDocument path = .ok ()) ∧
      ∀ front last left, folder.iterDocuments none = front ++ last :: left → left ≠ [] →
        batchSize.toNat ∣ front.length + 1 → (pathBytes last).length ≤ 359) ∧
    (folder.iterDocuments none).Nodup ∧
    ∀ path ∈ folder.iterDocuments none, ∀ token, signedCursorToken signer path = some token →
      decodeSignedCursor signer token = some path := by
  refine ⟨importAll_iff isAllowed isSize _ none none rfl rfl, ?_, ?_⟩
  · exact (folder.iterDocuments_increasing none).imp ne_of_lt
  · exact fun path isIn token isToken => decode_document isIn isToken

def zeroSigner : Signer where
  sign _ := List.replicate 32 '0'
  length_sign _ := List.length_replicate
  hex_sign _ character isIn := by
    rw [List.eq_of_mem_replicate isIn]
    decide

/-- A folder with one document below a directory and one beside it. -/
def nestedFolder (directory file : List Char)
    (areNames : '/' ∉ directory ∧ directory ∉ reservedNames ∧ '/' ∉ file ∧ file ∉ reservedNames)
    (isOther : directory ≠ "z.md".toList) : Folder '/' reservedNames where
  entries := [.directory directory true [.file file], .file "z.md".toList]
  wellFormed := by
    constructor
    · simpa [Entry.name] using isOther
    · simpa [Entry.name] using ⟨⟨areNames.1, areNames.2.1⟩, by decide⟩
    · intro name readable inner isIn
      obtain ⟨-, -, rfl⟩ : _ ∧ _ ∧ inner = [.file file] := by simpa using isIn
      exact ⟨by simp, by simpa [Entry.name] using areNames.2.2, by simp⟩
  isDocument _ := true

theorem folder_import_is_complete_nested :
    ∃ fuel, importAll zeroSigner (nestedFolder ['a'] "b.md".toList (by decide) (by decide))
        (fun _ => .ok ()) ⟨true, true⟩ 1 (fuel + 1) none =
      .ok (some ((nestedFolder ['a'] "b.md".toList
        (by decide) (by decide)).iterDocuments none)) := by
  refine (folder_import_is_complete zeroSigner _ _ ⟨true, true⟩ ⟨rfl, rfl⟩ 1
    ⟨by decide, by decide⟩).1.mpr ⟨fun _ _ => rfl, fun front last left isSplit _ _ => ?_⟩
  have areShort : ∀ path ∈ (nestedFolder ['a'] "b.md".toList (by decide)
    (by decide)).iterDocuments none, (pathBytes path).length ≤ 359 := by decide +kernel
  exact areShort last (by rw [isSplit]; simp)

/-- The first page of a folder whose first path has 361 bytes imports its document and raises. -/
theorem long_path_stops_import :
    importFolder zeroSigner (nestedFolder (List.replicate 200 'a')
        (List.replicate 157 'b' ++ ".md".toList) (by decide +kernel) (by decide +kernel))
      (fun _ => .ok ()) ⟨true, true⟩ none 1 = .error .pathTooLong := by
  decide +kernel

end AegisRag.Ingestion
