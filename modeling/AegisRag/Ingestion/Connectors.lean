import Mathlib

/-!
# The folder connector

`_iter_connector_paths` and `FolderConnector.iter_documents` of
`packages/ingestion/connectors.py`. A path is a list of characters of any ordered type with a
separator, compared character by character. Whether a file becomes a document is a given
predicate, the same for each visit.
-/

namespace AegisRag.Ingestion

variable {α : Type}

/-- A directory entry, with what is below a directory. -/
inductive Entry (α : Type) where
  | file (name : List α)
  | directory (name : List α) (readable : Bool) (entries : List (Entry α))
  | other (name : List α)

namespace Entry

def name : Entry α → List α
  | file name => name
  | directory name _ _ => name
  | other name => name

def key (separator : α) : Entry α → List α
  | directory name _ _ => name ++ [separator]
  | entry => entry.name

end Entry

/-- What a file system guarantees of a directory: no name is used twice, holds the separator
or is reserved. -/
inductive WellFormed (separator : α) (reserved : List (List α)) : List (Entry α) → Prop where
  | intro {entries : List (Entry α)} (distinct : (entries.map Entry.name).Nodup)
      (plain : ∀ entry ∈ entries, separator ∉ entry.name ∧ entry.name ∉ reserved)
      (below : ∀ name readable inner, .directory name readable inner ∈ entries →
        WellFormed separator reserved inner) :
      WellFormed separator reserved entries

/-- The files that can be reached through readable directories. -/
inductive IsFile (separator : α) : List α → List (Entry α) → List α → Prop where
  | here {base name : List α} {entries : List (Entry α)} (isIn : .file name ∈ entries) :
      IsFile separator base entries (base ++ name)
  | inside {base name path : List α} {entries inner : List (Entry α)}
      (isIn : .directory name true inner ∈ entries)
      (isFile : IsFile separator (base ++ name ++ [separator]) inner path) :
      IsFile separator base entries path

variable {base path : List α} {entries : List (Entry α)}

theorem IsFile.begins (isFile : IsFile separator base entries path) :
    ∃ rest, path = base ++ rest := by
  induction isFile with
  | here isIn => exact ⟨_, rfl⟩
  | inside isIn _ ih =>
    obtain ⟨rest, rfl⟩ := ih
    exact ⟨_, by rw [List.append_assoc, List.append_assoc]⟩

/-- A directory's key does not begin the key of another entry. -/
theorem key_begins {left right : Entry α} (isPlain : separator ∉ right.name)
    (isDirectory : left.key separator = left.name ++ [separator])
    (begins : left.key separator <+: right.key separator) : left.name = right.name := by
  obtain ⟨_, same⟩ := begins
  rw [isDirectory] at same
  cases right with
  | directory name readable inner =>
    rw [Entry.key, List.append_assoc, List.append_eq_append_iff] at same
    obtain ⟨middle, isName, isRest⟩ | ⟨middle, isName, isRest⟩ := same
    · cases middle with
      | nil => simpa [Entry.name] using isName.symm
      | cons first middle =>
        rw [List.singleton_append, List.cons_append, List.cons.injEq] at isRest
        exact absurd (by simp [Entry.name, isName, isRest.1]) isPlain
    · cases middle with
      | nil => simpa [Entry.name] using isName
      | cons first middle => simp at isRest
  | _ => exact absurd (by simp [Entry.key, Entry.name] at same ⊢; simp [← same]) isPlain

variable [LinearOrder α]

/-- `ordered_entries`. -/
def ordered (separator : α) (entries : List (Entry α)) : List (Entry α) :=
  entries.insertionSort fun left right => left.key separator ≤ right.key separator

@[simp] theorem mem_ordered : entry ∈ ordered separator entries ↔ entry ∈ entries :=
  List.mem_insertionSort _

/-- `_iter_connector_paths` of a directory whose relative path, with its separator, is
`base`. -/
def iterConnectorPaths (separator : α) (base : List α) (entries : List (Entry α)) : List (List α) :=
  (ordered separator entries).attach.flatMap fun
    | ⟨.file name, _⟩ => [base ++ name]
    | ⟨.directory name readable inner, _⟩ =>
      if readable then iterConnectorPaths separator (base ++ name ++ [separator]) inner else []
    | ⟨.other _, _⟩ => []
termination_by sizeOf entries
decreasing_by
  rename_i isIn _
  have smaller := List.sizeOf_lt_of_mem (mem_ordered.mp isIn)
  simp only [Entry.directory.sizeOf_spec] at smaller
  omega

def entryPaths (separator : α) (base : List α) : Entry α → List (List α)
  | .file name => [base ++ name]
  | .directory name readable inner =>
    if readable then iterConnectorPaths separator (base ++ name ++ [separator]) inner else []
  | .other _ => []

theorem iterConnectorPaths_eq (separator : α) (base : List α) (entries : List (Entry α)) :
    iterConnectorPaths separator base entries =
      (ordered separator entries).flatMap (entryPaths separator base) := by
  rw [iterConnectorPaths]
  conv_rhs => rw [← List.attach_map_subtype_val (ordered separator entries), List.flatMap_map]
  congr 1
  funext ⟨entry, isIn⟩
  cases entry <;> rfl

theorem mem_iterConnectorPaths :
    path ∈ iterConnectorPaths separator base entries ↔ IsFile separator base entries path := by
  constructor
  · intro isIn
    induction base, entries using iterConnectorPaths.induct separator with
    | case1 base entries ih =>
      rw [iterConnectorPaths_eq, List.mem_flatMap] at isIn
      obtain ⟨entry, isEntry, isPath⟩ := isIn
      rw [mem_ordered] at isEntry
      cases entry with
      | file name =>
        obtain rfl := List.mem_singleton.mp isPath
        exact .here isEntry
      | directory name readable inner =>
        cases readable with
        | false => cases isPath
        | true =>
          apply IsFile.inside isEntry
          exact ih name true inner (mem_ordered.mpr isEntry) isPath
      | other name => cases isPath
  · intro isFile
    induction isFile with
    | here isIn =>
      rw [iterConnectorPaths_eq, List.mem_flatMap]
      exact ⟨_, mem_ordered.mpr isIn, List.mem_singleton_self _⟩
    | inside isIn _ ih =>
      rw [iterConnectorPaths_eq, List.mem_flatMap]
      exact ⟨_, mem_ordered.mpr isIn, ih⟩

/-! ## Order of the paths -/

/-- Texts that differ before the shorter one ends stay in order whatever follows them. -/
theorem append_lt_append_of_lt (isLess : left < right) (notBegins : ¬ left <+: right)
    (leftRest rightRest : List α) :
    left ++ leftRest < right ++ rightRest := by
  induction left generalizing right with
  | nil => exact absurd List.nil_prefix notBegins
  | cons first left ih =>
    cases right with
    | nil => exact absurd isLess (List.not_lt_nil _)
    | cons other right =>
      rw [List.cons_append, List.cons_append, List.cons_lt_cons_iff]
      rw [List.cons_lt_cons_iff] at isLess
      obtain isLess | ⟨rfl, isLess⟩ := isLess
      · exact .inl isLess
      · rw [List.prefix_cons_inj] at notBegins
        exact .inr ⟨rfl, ih isLess notBegins⟩

/-- The paths of an entry begin with its key, and a file's path is its key. -/
theorem entryPaths_begins (isIn : path ∈ entryPaths separator base entry) :
    ∃ rest, path = base ++ (entry.key separator ++ rest) ∧
      (rest = [] ∧ entry.key separator = entry.name ∨
        entry.key separator = entry.name ++ [separator]) := by
  cases entry with
  | file name =>
    obtain rfl := List.mem_singleton.mp isIn
    exact ⟨[], by simp [Entry.key, Entry.name], .inl ⟨rfl, rfl⟩⟩
  | other name => cases isIn
  | directory name readable inner =>
    cases readable with
    | false => cases isIn
    | true =>
      obtain ⟨rest, rfl⟩ := (mem_iterConnectorPaths.mp isIn).begins
      exact ⟨rest, by simp [Entry.key], .inr rfl⟩

theorem entryPaths_lt {left right : Entry α} (leftPlain : separator ∉ left.name)
    (rightPlain : separator ∉ right.name) (isLess : left.key separator ≤ right.key separator)
    (distinct : left.name ≠ right.name) :
    ∀ first ∈ entryPaths separator base left, ∀ second ∈ entryPaths separator base right,
      first < second := by
  intro first isFirst second isSecond
  obtain ⟨rest, rfl, isKey⟩ := entryPaths_begins isFirst
  obtain ⟨later, rfl, -⟩ := entryPaths_begins isSecond
  apply List.append_left_lt
  by_cases begins : left.key separator <+: right.key separator
  · obtain ⟨rfl, isName⟩ | isDirectory := isKey
    · obtain ⟨more, same⟩ := begins
      rw [← same, List.append_assoc]
      apply List.append_left_lt
      cases more with
      | nil =>
        rw [List.append_nil, isName] at same
        cases right with
        | directory name readable inner =>
          exact absurd (by simp [same, Entry.key]) leftPlain
        | _ => exact absurd same distinct
      | cons character more => exact List.nil_lt_cons _ _
    · exact absurd (key_begins rightPlain isDirectory begins) distinct
  · have isNot : left.key separator ≠ right.key separator := by
      intro same
      exact begins (same ▸ List.prefix_rfl)
    exact append_lt_append_of_lt (lt_of_le_of_ne isLess isNot) begins rest later

/-- The paths of a folder are yielded in strictly increasing order. -/
theorem iterConnectorPaths_increasing (wellFormed : WellFormed separator reserved entries)
    (base : List α) :
    (iterConnectorPaths separator base entries).Pairwise (· < ·) := by
  induction wellFormed generalizing base with
  | @intro entries distinct plain below ih =>
    rw [iterConnectorPaths_eq, List.pairwise_flatMap]
    constructor
    · intro entry isIn
      cases entry with
      | file name => exact List.pairwise_singleton _ _
      | other name => exact List.Pairwise.nil
      | directory name readable inner =>
        cases readable with
        | false => exact List.Pairwise.nil
        | true => exact ih name true inner (mem_ordered.mp isIn) _
    · have byKey : (ordered separator entries).Pairwise fun left right =>
          left.key separator ≤ right.key separator := by
        have : Std.Total fun left right : Entry α => left.key separator ≤ right.key separator :=
          ⟨fun _ _ => le_total _ _⟩
        have : IsTrans (Entry α) fun left right => left.key separator ≤ right.key separator :=
          ⟨fun _ _ _ => le_trans⟩
        exact List.pairwise_insertionSort _ entries
      have byName : (ordered separator entries).Pairwise fun left right =>
          left.name ≠ right.name := by
        rw [← List.pairwise_map (f := Entry.name)]
        exact ((List.perm_insertionSort _ entries).map Entry.name).nodup_iff.mpr distinct
      have inOrder := byKey.and byName
      apply inOrder.imp_of_mem
      rintro left right isLeft isRight ⟨isLess, isOther⟩
      exact entryPaths_lt (plain left (mem_ordered.mp isLeft)).1
        (plain right (mem_ordered.mp isRight)).1 isLess isOther

/-! ## Documents -/

/-- A folder that does not change, and which of its files are documents. -/
structure Folder (separator : α) (reserved : List (List α)) where
  entries : List (Entry α)
  wellFormed : WellFormed separator reserved entries
  isDocument : List α → Bool

namespace Folder

variable {separator : α} {reserved : List (List α)} (folder : Folder separator reserved)

/-- The relative paths of `iter_documents`. -/
def iterDocuments (startAfter : Option (List α)) : List (List α) :=
  (iterConnectorPaths separator [] folder.entries).filter fun path =>
    startAfter.all (fun stored => !decide (path ≤ stored)) && folder.isDocument path

theorem iterDocuments_increasing (startAfter : Option (List α)) :
    (folder.iterDocuments startAfter).Pairwise (· < ·) :=
  (iterConnectorPaths_increasing folder.wellFormed []).filter _

@[simp] theorem mem_iterDocuments :
    path ∈ folder.iterDocuments startAfter ↔ IsFile separator [] folder.entries path ∧
      (∀ stored ∈ startAfter, stored < path) ∧ folder.isDocument path = true := by
  simp [iterDocuments, mem_iterConnectorPaths, Option.all_eq_true]

/-- Starting after the first path that is left gives the others. -/
theorem iterDocuments_after (isLeft : folder.iterDocuments startAfter = path :: rest) :
    folder.iterDocuments (some path) = rest := by
  have increasing := folder.iterDocuments_increasing startAfter
  rw [isLeft, List.pairwise_cons] at increasing
  have isNext {other : List α} :
      other ∈ folder.iterDocuments startAfter ↔ other = path ∨ other ∈ rest := by
    rw [isLeft, List.mem_cons]
  have isAfter := ((folder.mem_iterDocuments).mp (isNext.mpr (.inl rfl))).2.1
  apply (folder.iterDocuments_increasing _).eq_of_mem_iff increasing.2
  intro other
  constructor
  · intro isIn
    rw [mem_iterDocuments] at isIn
    have isLater : path < other := isIn.2.1 path rfl
    obtain rfl | isRest := isNext.mp (folder.mem_iterDocuments.mpr
      ⟨isIn.1, fun stored isStored => (isAfter stored isStored).trans isLater, isIn.2.2⟩)
    · exact absurd isLater (lt_irrefl _)
    · exact isRest
  · intro isRest
    have isIn := folder.mem_iterDocuments.mp (isNext.mpr (.inr isRest))
    rw [mem_iterDocuments]
    refine ⟨isIn.1, ?_, isIn.2.2⟩
    rintro stored ⟨rfl⟩
    exact increasing.1 other isRest

end Folder

end AegisRag.Ingestion
