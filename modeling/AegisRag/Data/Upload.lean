import Mathlib.Logic.Function.Basic
import Mathlib.Data.Nat.Notation
import Mathlib.Data.List.Basic
import AegisRag.Semantics.Transitions

/-!
# Concurrent uploads

`DocumentUploadService.upload` and `FolderImportService.import_document`
(`packages/data/service.py`). An upload looks for its document, puts its object, inserts its
rows and enqueues; an insert that raises takes the object away again. Each transaction and each
call of the object store is one move of one upload.
-/

namespace AegisRag.Data.Upload

open Semantics

/-- What an upload is asked for. An import fixes the ids by source and checksum; `isAccepted` is
what the checks before the first read say. -/
structure Command where
  document : ℕ
  version : ℕ
  key : ℕ
  checksum : ℕ
  isImport : Bool
  isAccepted : Bool := true
deriving DecidableEq

/-- Why an insert failed. -/
inductive Failure where
  | infrastructure
  | storageWrite
  | notFound
  | conflict
deriving DecidableEq

/-- Where an upload stands; `hasDocument` is what it read. -/
inductive Place where
  | ready
  | looked
  | opened (hasDocument : Bool)
  | stored (hasDocument : Bool)
  | failing (failure : Failure)
  | rechecking
  | inserted
  | returned (document version : ℕ)
  | raised (isInfrastructure : Bool)
deriving DecidableEq

structure VersionRow where
  document : ℕ
  key : ℕ
  checksum : ℕ
deriving DecidableEq

/-- The rows, with whether a document is deleted, the objects, the uploads that inserted a
version, and where each upload stands. -/
structure State where
  documents : ℕ → Option Bool := fun _ => none
  versions : ℕ → Option VersionRow := fun _ => none
  objects : ℕ → Option ℕ := fun _ => none
  created : List ℕ := []
  places : ℕ → Place := fun _ => .ready

/-- How an insert's transaction ends, if the rows are not refused; a lost one is committed and
raises all the same. -/
inductive InsertEnd where
  | done
  | failed
  | lost
deriving DecidableEq

inductive Move where
  | look (upload : ℕ)
  | getDocument (upload : ℕ)
  | put (upload : ℕ)
  | insert (upload : ℕ) (ended : InsertEnd)
  | deleteObject (upload : ℕ)
  | lookAgain (upload : ℕ)
  | enqueue (upload : ℕ)
  | interrupt (upload : ℕ)
deriving DecidableEq

namespace State

variable (command : ℕ → Command)

def move (state : State) (upload : ℕ) (place : Place) : State :=
  { state with places := Function.update state.places upload place }

variable {upload : ℕ} {place : Place}

@[simp] theorem move_places (state : State) (upload other : ℕ) (place : Place) :
    (state.move upload place).places other =
      if other = upload then place else state.places other := by
  simp [move, Function.update_apply]

/-- The version of an import, if it is there already. -/
def existing (state : State) (upload : ℕ) : Option VersionRow :=
  (state.versions (command upload).version).filter (·.checksum = (command upload).checksum)

/-- The object at an upload's key. -/
def setObject (state : State) (upload : ℕ) (content : Option ℕ) : State :=
  { state with objects := Function.update state.objects (command upload).key content }

/-- Why the rows cannot be inserted, if they cannot. -/
def refusal (state : State) (upload : ℕ) : Bool → Option Failure
  | false =>
    if state.documents (command upload).document = none ∧
        state.versions (command upload).version = none then none
    else some .storageWrite
  | true =>
    if state.documents (command upload).document ≠ some false then some .notFound
    else if state.versions (command upload).version ≠ none then some .conflict
    else none

def insertRows (state : State) (upload : ℕ) : State :=
  { state with
    documents := Function.update state.documents (command upload).document (some false)
    versions := Function.update state.versions (command upload).version (some
      { document := (command upload).document
        key := (command upload).key
        checksum := (command upload).checksum })
    created := upload :: state.created }

def step (state : State) : Move → Option State
  | .look upload =>
    if state.places upload = .ready then
      match if (command upload).isImport then state.existing command upload else none with
      | some row => some (state.move upload (.returned row.document (command upload).version))
      | none => some (state.move upload .looked)
    else none
  | .getDocument upload =>
    if state.places upload = .looked then
      if (command upload).isAccepted = false then some (state.move upload (.raised false))
      else
      match state.documents (command upload).document with
      | none => some (state.move upload (.opened false))
      | some false => some (state.move upload (.opened true))
      | some true => some (state.move upload (.raised false))
    else none
  | .put upload =>
    match state.places upload with
    | .opened hasDocument =>
      some ((state.setObject command upload (some (command upload).checksum)).move upload
        (.stored hasDocument))
    | _ => none
  | .insert upload ended =>
    match state.places upload with
    | .stored hasDocument =>
      if ended = .failed then some (state.move upload (.failing .infrastructure))
      else
        match state.refusal command upload hasDocument with
        | some failure => some (state.move upload (.failing failure))
        | none =>
          some ((state.insertRows command upload).move upload
            (if ended = .lost then .failing .infrastructure else .inserted))
    | _ => none
  | .deleteObject upload =>
    match state.places upload with
    | .failing failure =>
      some ((state.setObject command upload none).move upload
        (if failure = .conflict ∧ (command upload).isImport = true then .rechecking
          else .raised (failure = .infrastructure)))
    | _ => none
  | .lookAgain upload =>
    if state.places upload = .rechecking then
      match state.existing command upload with
      | some row => some (state.move upload (.returned row.document (command upload).version))
      | none => some (state.move upload (.raised false))
    else none
  | .enqueue upload =>
    if state.places upload = .inserted then
      some (state.move upload (.returned (command upload).document (command upload).version))
    else none
  | .interrupt upload => some (state.move upload (.raised true))

def run (state : State) (moves : List Move) : Option State := moves.foldlM (step command) state

/-- The moves of an upload that change nothing else, and what each of them has seen. -/
inductive Allowed (state : State) (upload : ℕ) : Place → Prop where
  | looked (isFirst : state.places upload = .ready) : Allowed state upload .looked
  | found {row : VersionRow} (isExisting : state.existing command upload = some row) :
      Allowed state upload (.returned row.document (command upload).version)
  | absent (isLooked : state.places upload = .looked)
      (isAbsent : state.documents (command upload).document = none) :
      Allowed state upload (.opened false)
  | present (isLooked : state.places upload = .looked)
      (isPresent : state.documents (command upload).document = some false) :
      Allowed state upload (.opened true)
  | invalid (isInvalid : (command upload).isAccepted = false) : Allowed state upload (.raised false)
  | deleted (isDeleted : state.documents (command upload).document = some true) :
      Allowed state upload (.raised false)
  | broken {hasDocument : Bool} (isStored : state.places upload = .stored hasDocument) :
      Allowed state upload (.failing .infrastructure)
  | missing (isRechecking : state.places upload = .rechecking)
      (isMissing : state.existing command upload = none) : Allowed state upload (.raised false)
  | enqueued (isInserted : state.places upload = .inserted) :
      Allowed state upload (.returned (command upload).document (command upload).version)
  | interrupted : Allowed state upload (.raised true)

/-- What one move does. -/
inductive Effect (state : State) : Move → State → Prop where
  | moves (upload : ℕ) {place : Place} (move : Move)
      (isAllowed : Allowed command state upload place) : Effect state move (state.move upload place)
  | puts (upload : ℕ) {hasDocument : Bool} (isOpened : state.places upload = .opened hasDocument) :
      Effect state (.put upload)
        ((state.setObject command upload (some (command upload).checksum)).move upload
          (.stored hasDocument))
  | refuses (upload : ℕ) {ended : InsertEnd} {hasDocument : Bool} {failure : Failure}
      (isStored : state.places upload = .stored hasDocument)
      (isRefused : state.refusal command upload hasDocument = some failure) :
      Effect state (.insert upload ended) (state.move upload (.failing failure))
  | inserts (upload : ℕ) {ended : InsertEnd} {hasDocument : Bool}
      (isStored : state.places upload = .stored hasDocument) (isDone : ended ≠ .failed)
      (isFree : state.refusal command upload hasDocument = none) :
      Effect state (.insert upload ended) ((state.insertRows command upload).move upload
        (if ended = .lost then .failing .infrastructure else .inserted))
  | deletes (upload : ℕ) {failure : Failure} (isFailing : state.places upload = .failing failure) :
      Effect state (.deleteObject upload) ((state.setObject command upload none).move upload
        (if failure = .conflict ∧ (command upload).isImport = true then .rechecking
          else .raised (failure = .infrastructure)))

theorem effect_of_step {command : ℕ → Command} {state next : State} {move : Move}
    (moves : state.step command move = some next) : Effect command state move next := by
  cases move with
  | look upload =>
    simp only [step, Option.ite_none_right_eq_some] at moves
    obtain ⟨isReady, moves⟩ := moves
    split at moves <;> cases moves
    · rename_i isExisting
      split at isExisting
      · exact .moves _ _ (.found isExisting)
      · cases isExisting
    · exact .moves _ _ (.looked isReady)
  | getDocument upload =>
    simp only [step, Option.ite_none_right_eq_some] at moves
    obtain ⟨isLooked, moves⟩ := moves
    split at moves
    · cases moves
      exact .moves _ _ (.invalid ‹_›)
    · split at moves <;> cases moves
      · exact .moves _ _ (.absent isLooked ‹_›)
      · exact .moves _ _ (.present isLooked ‹_›)
      · exact .moves _ _ (.deleted ‹_›)
  | put upload =>
    simp only [step] at moves
    split at moves <;> cases moves
    exact .puts _ ‹_›
  | insert upload ended =>
    simp only [step] at moves
    split at moves
    · rename_i isStored
      split at moves
      · cases moves
        exact .moves _ _ (.broken isStored)
      · rename_i isDone
        split at moves <;> cases moves
        · exact .refuses _ isStored ‹_›
        · exact .inserts _ isStored isDone ‹_›
    · cases moves
  | deleteObject upload =>
    simp only [step] at moves
    split at moves <;> cases moves
    exact .deletes _ ‹_›
  | lookAgain upload =>
    simp only [step, Option.ite_none_right_eq_some] at moves
    obtain ⟨isRechecking, moves⟩ := moves
    split at moves <;> cases moves
    · exact .moves _ _ (.found ‹_›)
    · exact .moves _ _ (.missing isRechecking ‹_›)
  | enqueue upload =>
    simp only [step, Option.ite_none_right_eq_some] at moves
    obtain ⟨isInserted, moves⟩ := moves
    cases moves
    exact .moves _ _ (.enqueued isInserted)
  | interrupt upload =>
    cases moves
    exact .moves _ _ .interrupted

theorem versions_insertRows {command : ℕ → Command} {state : State}
    (isRow : (state.insertRows command upload).versions version = some row) :
    (version = (command upload).version ∧ row = ⟨(command upload).document, (command upload).key,
      (command upload).checksum⟩) ∨
    (version ≠ (command upload).version ∧ state.versions version = some row) := by
  by_cases isSame : version = (command upload).version
  · simp only [insertRows, isSame, Function.update_self, Option.some.injEq] at isRow
    exact .inl ⟨isSame, isRow.symm⟩
  · simp only [insertRows, Function.update_of_ne isSame] at isRow
    exact .inr ⟨isSame, isRow⟩

theorem version_eq_none_of_free {command : ℕ → Command} {state : State}
    (isFree : state.refusal command upload hasDocument = none) :
    state.versions (command upload).version = none := by
  unfold refusal at isFree
  split at isFree
  · split at isFree
    · rename_i isNone
      exact isNone.2
    · cases isFree
  · split_ifs at isFree with isDocument isVersion
    exact not_not.mp isVersion

end State

/-! ## Identical imports -/

section

variable {command : Command} {state next : State} {act : Move}

/-- The version of an import is inserted at most once. -/
structure Once (command : Command) (state : State) : Prop where
  unused : state.versions command.version = none → state.created = []
  once : state.created.length ≤ 1

theorem Once.step (once : Once command state)
    (moves : state.step (fun _ => command) act = some next) : Once command next := by
  cases State.effect_of_step moves with
  | inserts upload isStored isDone isFree =>
    have isNone := once.unused (State.version_eq_none_of_free isFree)
    constructor
    · intro isNone
      simp [State.move, State.insertRows] at isNone
    · show (upload :: state.created).length ≤ 1
      rw [isNone]
      exact Nat.le_refl 1
  | _ => exact ⟨once.unused, once.once⟩

/-- Where imports of one source and checksum can stand; only one that meets the version
conflicts. -/
def IsAgreed (command : Command) (hasRow hasVersion : Prop) : Place → Prop
  | .opened hasDocument | .stored hasDocument => hasDocument = true → hasRow
  | .failing failure => failure = .infrastructure ∨ failure = .conflict ∧ hasVersion
  | .rechecking => hasVersion
  | .returned document version => document = command.document ∧ version = command.version
  | .raised isInfrastructure => isInfrastructure = true
  | _ => True

theorem IsAgreed.insert (isAgreed : IsAgreed command hasRow hasVersion place) (row : after)
    (version : afterVersion) : IsAgreed command after afterVersion place := by
  cases place with
  | failing failure => exact isAgreed.imp_right fun isConflict => ⟨isConflict.1, version⟩
  | rechecking => exact version
  | opened hasDocument => exact fun _ => row
  | stored hasDocument => exact fun _ => row
  | _ => exact isAgreed

/-- The document is not deleted, its version belongs to the import, and nobody is misled. -/
structure Agreed (command : Command) (state : State) : Prop where
  document : state.documents command.document ≠ some true
  version : ∀ row, state.versions command.version = some row →
    state.documents command.document = some false ∧ row.document = command.document ∧
      row.checksum = command.checksum
  places : ∀ upload, IsAgreed command (state.documents command.document = some false)
    (state.versions command.version ≠ none) (state.places upload)

theorem Agreed.existing (agreed : Agreed command state)
    (isVersion : state.versions command.version = some row) :
    state.existing (fun _ => command) upload = some row := by
  simp [State.existing, isVersion, (agreed.version row isVersion).2.2]

theorem Agreed.move (agreed : Agreed command state)
    (isAgreed : IsAgreed command (state.documents command.document = some false)
      (state.versions command.version ≠ none) place) :
    Agreed command (state.move upload place) := by
  refine ⟨agreed.document, agreed.version, fun other => ?_⟩
  rw [State.move_places]
  split
  · exact isAgreed
  · exact agreed.places other

theorem Agreed.allowed (isAccepted : command.isAccepted = true) (agreed : Agreed command state)
    (isAllowed : State.Allowed (fun _ => command) state upload place) :
    IsAgreed command (state.documents command.document = some false)
      (state.versions command.version ≠ none) place := by
  have here := agreed.places upload
  cases isAllowed with
  | looked isFirst => trivial
  | found isExisting =>
    obtain ⟨isVersion, -⟩ := Option.filter_eq_some_iff.mp isExisting
    exact ⟨(agreed.version _ isVersion).2.1, rfl⟩
  | absent isLooked isAbsent => exact nofun
  | present isLooked isPresent => exact fun _ => isPresent
  | invalid isInvalid => exact nomatch isInvalid.symm.trans isAccepted
  | deleted isDeleted => exact absurd isDeleted agreed.document
  | broken isStored => exact .inl rfl
  | missing isRechecking isMissing =>
    rw [isRechecking] at here
    obtain ⟨_, isVersion⟩ := Option.ne_none_iff_exists'.mp here
    exact nomatch isMissing.symm.trans (agreed.existing isVersion)
  | enqueued isInserted => exact ⟨rfl, rfl⟩
  | interrupted => rfl

/-- An insert through `create_upload_records` finds no document row. -/
def FindsNoDocument (command : Command) (state : State) : Move → Prop
  | .insert upload _ => state.places upload = .stored false →
    state.documents command.document = none
  | _ => True

instance : Decidable (FindsNoDocument command state act) := by
  cases act <;> unfold FindsNoDocument <;> infer_instance

theorem Agreed.refused {failure : Failure} (agreed : Agreed command state)
    (isAgreed : hasDocument = true → state.documents command.document = some false)
    (isNew : hasDocument = false → state.documents command.document = none)
    (isRefused : state.refusal (fun _ => command) upload hasDocument = some failure) :
    failure = .conflict ∧ state.versions command.version ≠ none := by
  cases hasDocument with
  | false =>
    have noVersion : state.versions command.version = none := by
      by_contra isVersion
      obtain ⟨row, isVersion⟩ := Option.ne_none_iff_exists'.mp isVersion
      exact nomatch (isNew rfl).symm.trans (agreed.version row isVersion).1
    simp [State.refusal, isNew rfl, noVersion] at isRefused
  | true =>
    simp only [State.refusal, isAgreed rfl, ne_eq, not_true_eq_false, if_false] at isRefused
    split at isRefused
    · rename_i isVersion
      exact ⟨(Option.some.inj isRefused).symm, isVersion⟩
    · cases isRefused

theorem Agreed.step (isImport : command.isImport = true) (isAccepted : command.isAccepted = true)
    (agreed : Agreed command state) (fits : FindsNoDocument command state act)
    (moves : state.step (fun _ => command) act = some next) : Agreed command next := by
  cases State.effect_of_step moves with
  | moves upload _ isAllowed => exact agreed.move (agreed.allowed isAccepted isAllowed)
  | @puts upload hasDocument isOpened =>
    have here := agreed.places upload
    rw [isOpened] at here
    have stored : Agreed command (state.setObject (fun _ => command) upload
      (some command.checksum)) := ⟨agreed.document, agreed.version, agreed.places⟩
    exact stored.move here
  | @refuses upload _ hasDocument failure isStored isRefused =>
    have here := agreed.places upload
    rw [isStored] at here
    refine agreed.move (.inr (agreed.refused here (fun isNew => fits ?_) isRefused))
    rw [isStored, isNew]
  | inserts upload isStored isDone isFree =>
    have isVersion : (state.insertRows (fun _ => command) upload).versions command.version =
        some ⟨command.document, command.key, command.checksum⟩ := Function.update_self ..
    have isRow : (state.insertRows (fun _ => command) upload).documents command.document =
        some false := Function.update_self ..
    have inserted : Agreed command (state.insertRows (fun _ => command) upload) := by
      refine ⟨by simp [isRow], ?_, fun other => ?_⟩
      · intro row found
        cases isVersion.symm.trans found
        exact ⟨isRow, rfl, rfl⟩
      · exact (agreed.places other).insert isRow (by rw [isVersion]; nofun)
    apply inserted.move
    split
    · exact .inl rfl
    · trivial
  | @deletes upload failure isFailing =>
    have here := agreed.places upload
    rw [isFailing] at here
    have deleted : Agreed command (state.setObject (fun _ => command) upload none) :=
      ⟨agreed.document, agreed.version, agreed.places⟩
    apply deleted.move
    obtain rfl | ⟨rfl, isVersion⟩ := here
    · exact rfl
    · rw [if_pos ⟨rfl, isImport⟩]
      exact isVersion

/-- An upload that ended has returned the ids of the import or met an infrastructure failure. -/
def Answered (command : Command) (state : State) : Prop := ∀ upload,
  (∀ document version, state.places upload = .returned document version →
    document = command.document ∧ version = command.version) ∧ state.places upload ≠ .raised false

theorem Agreed.answered (agreed : Agreed command state) : Answered command state := by
  intro upload
  have here := agreed.places upload
  constructor
  · intro document version isReturned
    rw [isReturned] at here
    exact here
  · intro isRaised
    rw [isRaised] at here
    cases here

/-- Of concurrent imports of one source and checksum at most one inserts the version. If the checks
accept the file and every import finds the document, which is not deleted, each one that no
infrastructure failure stops returns the ids of that document and version. -/
theorem identical_imports_agree (command : Command) (isImport : command.isImport = true)
    (first : State) (areReady : ∀ upload, first.places upload = .ready) (isNew : first.created = [])
    (isOwn : ∀ row, first.versions command.version = some row →
      first.documents command.document = some false ∧ row.document = command.document ∧
        row.checksum = command.checksum) (moves : List Move) :
    Throughout (State.step fun _ => command) (fun state => state.created.length ≤ 1) first moves ∧
    (command.isAccepted = true → first.documents command.document ≠ some true →
      EachStep (State.step fun _ => command) (FindsNoDocument command) first moves →
      Throughout (State.step fun _ => command) (Answered command) first moves) := by
  constructor
  · refine (eachStep_true.keeps (fun once _ => once.step) ?_).mono Once.once
    exact ⟨fun _ => isNew, by simp [isNew]⟩
  · intro isAccepted isKept each
    refine (each.keeps (Agreed.step isImport isAccepted) ?_).mono Agreed.answered
    exact ⟨isKept, isOwn, fun upload => by rw [areReady upload]; trivial⟩

def sampleImport : Command where
  document := 1
  version := 2
  key := 3
  checksum := 4
  isImport := true

def race : List Move :=
  [.look 0, .look 1, .getDocument 0, .getDocument 1, .put 0, .put 1, .insert 0 .done,
    .insert 1 .done, .deleteObject 1]

theorem identical_imports_agree_on_document :
    Throughout (State.step fun _ => sampleImport) (Answered sampleImport)
      { documents := fun _ => some false } (race ++ [.lookAgain 1, .enqueue 0]) := by
  exact (identical_imports_agree sampleImport rfl { documents := fun _ => some false }
    (fun _ => rfl) rfl nofun _).2 rfl nofun (by decide)

/-- Two imports of a source that has no document yet: the second one finds the document row
taken and raises a storage error. -/
theorem first_imports_disagree :
    (State.run (fun _ => sampleImport) {} (race ++ [.enqueue 0])).map
      (fun state => (state.places 0, state.places 1)) = some (.returned 1 2, .raised false) := by
  decide

end

/-! ## Committed content -/

section

variable {command : ℕ → Command} {state next : State} {move : Move}

/-- Every row's object is in place. -/
def IsKept (state : State) : Prop :=
  ∀ version row, state.versions version = some row → state.objects row.key = some row.checksum

/-- A put leaves the content of the rows of its key, the rows of an insert find the object that
was put for them, and what an insert that raised takes away belongs to no row. -/
def Harmless (command : ℕ → Command) (state : State) : Move → Prop
  | .put upload => ∀ hasDocument version row, state.places upload = .opened hasDocument →
    state.versions version = some row → row.key = (command upload).key →
    row.checksum = (command upload).checksum
  | .insert upload ended => ∀ hasDocument, state.places upload = .stored hasDocument →
    ended ≠ .failed → state.refusal command upload hasDocument = none →
    state.objects (command upload).key = some (command upload).checksum
  | .deleteObject upload => ∀ failure version row, state.places upload = .failing failure →
    state.versions version = some row → row.key ≠ (command upload).key
  | _ => True

theorem IsKept.step (kept : IsKept state) (harmless : Harmless command state move)
    (moves : state.step command move = some next) : IsKept next := by
  cases State.effect_of_step moves with
  | moves upload _ isAllowed => exact kept
  | refuses upload isStored isRefused => exact kept
  | @puts upload hasDocument isOpened =>
    intro version row isRow
    by_cases isKey : row.key = (command upload).key
    · rw [harmless hasDocument version row isOpened isRow isKey, isKey]
      exact Function.update_self ..
    · exact (Function.update_of_ne isKey ..).trans (kept version row isRow)
  | @inserts upload ended hasDocument isStored isDone isFree =>
    intro version row isRow
    obtain ⟨rfl, rfl⟩ | ⟨-, isRow⟩ := State.versions_insertRows isRow
    · exact harmless hasDocument isStored isDone isFree
    · exact kept version row isRow
  | @deletes upload failure isFailing =>
    intro version row isRow
    have isKey := harmless failure version row isFailing isRow
    exact (Function.update_of_ne isKey ..).trans (kept version row isRow)

/-- A move after which every row's object is in place is harmless. -/
theorem harmless_of_kept (kept : ∀ next ∈ state.step command move, IsKept next) :
    Harmless command state move := by
  cases move with
  | put upload =>
    intro hasDocument version row isOpened isRow isKey
    simp only [State.step, isOpened, Option.mem_def, Option.some.injEq, forall_eq'] at kept
    have isKept := kept version row isRow
    simp only [State.move, State.setObject, isKey, Function.update_self,
      Option.some.injEq] at isKept
    exact isKept.symm
  | insert upload ended =>
    intro hasDocument isStored isDone isFree
    simp only [State.step, isStored, if_neg isDone, isFree, Option.mem_def, Option.some.injEq,
      forall_eq'] at kept
    exact kept (command upload).version _ (Function.update_self ..)
  | deleteObject upload =>
    intro failure version row isFailing isRow isKey
    simp only [State.step, isFailing, Option.mem_def, Option.some.injEq, forall_eq'] at kept
    have isKept := kept version row isRow
    simp [State.move, State.setObject, isKey] at isKept
  | _ => trivial

/-- Whatever uploads complete or fail, every committed version's object stays in place exactly as
long as each of their moves is harmless. -/
theorem committed_content_is_kept (command : ℕ → Command) (first : State) (moves : List Move) :
    Throughout (State.step command) IsKept first moves ↔
      IsKept first ∧ EachStep (State.step command) (Harmless command) first moves := by
  constructor
  · intro through
    exact ⟨through.first, (throughout_iff IsKept.step harmless_of_kept through.first).mp through⟩
  · rintro ⟨isKept, each⟩
    exact each.keeps IsKept.step isKept

/-- The import that loses a race removes the object of the version that was committed. -/
theorem losing_import_destroys_content :
    (State.run (fun _ => sampleImport) { documents := fun _ => some false } race).map
      (fun state => (state.versions 2, state.objects 3)) = some (some ⟨1, 3, 4⟩, none) := by
  decide

end

end AegisRag.Data.Upload
