import AegisRag.Ingestion.Connectors
import AegisRag.Ingestion.FolderSync

/-!
# Traversal of a folder in batches

A batch starts after the path stored last, so a scan that was cut into batches passes over the
documents of an unchanged folder in their order. A result that was not stored is visited again;
without failures each document is visited once.
-/

namespace AegisRag.Ingestion.FolderSync

open Relation

variable {π : Type}

/-- What a scan visited against the documents it passed: these at least, or exactly these. -/
def Seen (exact : Bool) (passed visited : List π) : Prop :=
  if exact then visited = passed else passed ⊆ visited

theorem Seen.nil_nil : Seen exact ([] : List π) [] := by
  cases exact
  · exact List.Subset.refl []
  · rfl

theorem Seen.append (seen : Seen exact passed visited) (path : π) :
    Seen exact (passed ++ [path]) (visited ++ [path]) := by
  cases exact
  · exact List.append_subset.mpr ⟨List.subset_append_of_subset_left _ seen,
      List.subset_append_right _ _⟩
  · exact congrArg (· ++ [path]) seen

/-- A scan that goes on after a cursor has visited what stands before it. -/
def Covered (exact : Bool) (documents : Option π → List π) (visited : List π)
    (cursor : Option π) : Prop :=
  ∃ passed, documents none = passed ++ documents cursor ∧ Seen exact passed visited

/-- What a batch and its row owe to the scan they belong to. -/
structure Covering (exact : Bool) (documents : Option π → List π) (run : Run π) : Prop where
  scans : ∀ scan ∈ run.scans, Seen exact (documents none) scan
  reached : run.row.phase = .reconcile → run.scans ≠ [] ∧ run.visited = []
  plan : run.plan.phase = .scan → Covered exact documents run.visited run.plan.cursor
  row : (exact = true → run.unsaved = 0) → run.row.phase = .scan →
    Covered exact documents run.visited run.row.cursor
  iterator : ∀ left, run.iterator = some left → run.begun = true ∧ ¬ run.plan.IsOver ∧
    run.row.phase = .scan ∧ run.plan.phase = .scan ∧ left = documents run.plan.cursor
  finished : run.plan.phase = .reconcile → run.row.phase = .scan →
    Seen exact (documents none) run.visited
  notIdle : run.begun = true → run.plan.status ≠ .idle
  planOver : run.plan.IsOver → Seen exact [] run.visited
  rowOver : (exact = true → run.unsaved = 0) → run.row.IsOver → Seen exact [] run.visited

theorem Seen.start (seen : Seen exact [] visited) : Covered exact documents visited none :=
  ⟨[], rfl, seen⟩

variable {exact : Bool} {documents : Option π → List π}

section

variable {run : Run π} (covering : Covering exact documents run)

include covering

theorem Covering.commit (release : Bool) : Covering exact documents (run.commit release) := by
  by_cases scanned : run.row.phase = .scan ∧ run.plan.phase = .reconcile
  · have isFinished := covering.finished scanned.2 scanned.1
    have notScan : run.plan.phase ≠ .scan := by rw [scanned.2]; nofun
    have isEmpty : (run.commit release).visited = [] := if_pos scanned
    have isPushed : (run.commit release).scans = run.visited :: run.scans := if_pos scanned
    constructor
    case scans =>
      rw [isPushed]
      exact List.forall_mem_cons.mpr ⟨isFinished, covering.scans⟩
    case reached => exact fun _ => ⟨isPushed ▸ List.cons_ne_nil _ _, isEmpty⟩
    case plan => exact fun isScan => absurd isScan notScan
    case row => exact fun _ isScan => absurd isScan notScan
    case iterator =>
      exact fun left isSome => absurd (covering.iterator left isSome).2.2.2.1 notScan
    case finished => exact fun _ isScan => absurd isScan notScan
    case notIdle => exact covering.notIdle
    case planOver => rw [isEmpty]; exact fun _ => Seen.nil_nil
    case rowOver => rw [isEmpty]; exact fun _ _ => Seen.nil_nil
  · have isSame : (run.commit release).visited = run.visited := if_neg scanned
    have sameScans : (run.commit release).scans = run.scans := if_neg scanned
    constructor
    case scans => rw [sameScans]; exact covering.scans
    case reached =>
      intro isReconcile
      rw [isSame, sameScans]
      apply covering.reached
      cases isPhase : run.row.phase with
      | scan => exact absurd ⟨isPhase, isReconcile⟩ scanned
      | reconcile => rfl
    case plan => rw [isSame]; exact covering.plan
    case row => rw [isSame]; exact fun _ => covering.plan
    case iterator =>
      intro left isSome
      obtain ⟨isBegun, notOver, -, isScan, isLeft⟩ := covering.iterator left isSome
      exact ⟨isBegun, notOver, isScan, isScan, isLeft⟩
    case finished => exact fun isReconcile isScan => nomatch isScan.symm.trans isReconcile
    case notIdle => exact covering.notIdle
    case planOver => rw [isSame]; exact covering.planOver
    case rowOver => rw [isSame]; exact fun _ => covering.planOver

/-- A change of the plan outside a scan. -/
theorem Covering.of_plan (same : next.toWorld = run.toWorld) (unsaved : next.unsaved = run.unsaved)
    (iterator : next.iterator = none)
    (plan : next.plan.phase = .scan → Covered exact documents run.visited next.plan.cursor)
    (finished : next.plan.phase = .reconcile → run.row.phase = .scan →
      Seen exact (documents none) run.visited)
    (notIdle : next.plan.status ≠ .idle)
    (planOver : next.plan.status = .completed → Seen exact [] run.visited) :
    Covering exact documents next where
  scans := by rw [same]; exact covering.scans
  reached := by rw [same]; exact covering.reached
  plan := by rw [same]; exact plan
  row := by rw [same, unsaved]; exact covering.row
  iterator left isSome := nomatch iterator.symm.trans isSome
  finished := by rw [same]; exact finished
  notIdle _ := notIdle
  planOver := by rw [same]; exact fun isOver => planOver (isOver.resolve_left notIdle)
  rowOver := by rw [same, unsaved]; exact covering.rowOver

theorem Covering.iterator_eq_none
    (isNot : run.begun = false ∨ run.plan.phase = .reconcile) : run.iterator = none := by
  cases isSome : run.iterator with
  | none => rfl
  | some left =>
    obtain ⟨isBegun, -, -, isScan, -⟩ := covering.iterator left isSome
    obtain isFirst | isReconcile := isNot
    · exact nomatch isFirst.symm.trans isBegun
    · exact nomatch isReconcile.symm.trans isScan

theorem Covering.start (isFirst : run.begun = false) :
    Covering exact documents (run.start identity) := by
  have status (phase : Phase) :
      (if phase = .scan then PlanStatus.scanning else .reconciling) ≠ .idle ∧
      (if phase = .scan then PlanStatus.scanning else .reconciling) ≠ .completed := by
    split <;> exact ⟨nofun, nofun⟩
  refine covering.of_plan rfl rfl (covering.iterator_eq_none (.inl isFirst)) ?_ ?_ (status _).1
    fun isOver => absurd isOver (status _).2
  all_goals
    unfold Run.start
    dsimp only
    by_cases isOver : run.plan.IsOver
  · rw [if_pos isOver]
    exact fun _ => (covering.planOver isOver).start
  · rw [if_neg isOver]
    exact covering.plan
  · rw [if_pos isOver]
    nofun
  · rw [if_neg isOver]
    exact covering.finished

/-- From the end of a batch to the start of the next one, of any size. -/
theorem Covering.claimed (kept : exact = true → run.unsaved = 0) (size : ℕ) :
    Covering exact documents (run.toWorld.resized size).claimed where
  scans := covering.scans
  reached := covering.reached
  plan := covering.row kept
  row _ := covering.row kept
  iterator := nofun
  finished isReconcile isScan := nomatch isScan.symm.trans isReconcile
  notIdle := nofun
  planOver := covering.rowOver kept
  rowOver _ := covering.rowOver kept

end

variable [LinearOrder π] {script : Script π}

theorem Covering.visit (covering : Covering exact documents run)
    (isNext : run.iterator = some (path :: rest)) (isAfter : documents run.plan.cursor =
      path :: rest → documents (some path) = rest) (isImported : Bool) :
    Covering exact documents (run.visit path rest isImported) := by
  obtain ⟨isBegun, notOver, isRow, isScan, isLeft⟩ := covering.iterator _ isNext
  constructor
  case scans => exact covering.scans
  case reached => exact fun isReconcile => nomatch isReconcile.symm.trans isRow
  case plan =>
    intro _
    obtain ⟨passed, isPassed, seen⟩ := covering.plan isScan
    refine ⟨passed ++ [path], ?_, seen.append path⟩
    rw [isPassed, ← isLeft]
    show _ = _ ++ documents (some path)
    rw [isAfter isLeft.symm, List.append_assoc, List.singleton_append]
  case row =>
    intro kept _
    cases exact with
    | true => exact nomatch kept rfl
    | false =>
      obtain ⟨passed, isPassed, seen⟩ := covering.row nofun isRow
      exact ⟨passed, isPassed, List.subset_append_of_subset_left _ seen⟩
  case iterator =>
    rintro left ⟨rfl⟩
    exact ⟨isBegun, notOver, isRow, isScan, (isAfter isLeft.symm).symm⟩
  case finished => exact fun isReconcile => nomatch isReconcile.symm.trans isScan
  case notIdle => exact covering.notIdle
  case planOver => exact fun isOver => absurd isOver notOver
  case rowOver =>
    intro kept _
    cases exact with
    | true => exact nomatch kept rfl
    | false => exact List.nil_subset _

theorem Covering.change (covering : Covering exact documents run)
    (after : ∀ {cursor path rest}, documents cursor = path :: rest →
      documents (some path) = rest)
    (isFolder : script.documents = documents) (change : Change script run next) :
    Covering exact documents next := by
  cases change with
  | tick | lose => exact ⟨covering.scans, covering.reached, covering.plan, covering.row,
      covering.iterator, covering.finished, covering.notIdle, covering.planOver, covering.rowOver⟩
  | start identity isFirst held isRow => exact covering.start isFirst
  | openIterator saved isScan =>
    have isRow : run.row.phase = .scan := (congrArg Plan.phase saved.isRow).trans isScan
    have notOver : ¬ run.plan.IsOver := by
      rintro (isIdle | isOver)
      · exact covering.notIdle saved.isBegun isIdle
      · exact saved.isOpen isOver
    refine ⟨covering.scans, covering.reached, covering.plan, covering.row, ?_,
      covering.finished, covering.notIdle, covering.planOver, covering.rowOver⟩
    rintro left ⟨rfl⟩
    exact ⟨saved.isBegun, notOver, isRow, isScan, isFolder ▸ rfl⟩
  | visit isImported isNext => exact covering.visit isNext after isImported
  | finishScan isEnd =>
    obtain ⟨isBegun, notOver, isRow, isScan, isLeft⟩ := covering.iterator _ isEnd
    obtain ⟨_, isPassed, seen⟩ := covering.plan isScan
    rw [← isLeft, List.append_nil] at isPassed
    exact covering.of_plan rfl rfl rfl nofun (fun _ _ => isPassed ▸ seen) nofun nofun
  | passTo path isBegun isReconcile =>
    exact covering.of_plan rfl rfl (covering.iterator_eq_none (.inr isReconcile))
      (fun isScan => nomatch isScan.symm.trans isReconcile) covering.finished
      (covering.notIdle isBegun) fun isOver => covering.planOver (.inr isOver)
  | complete isBegun isReconcile isStored =>
    have seen : Seen exact [] run.visited := by
      rw [(covering.reached isStored).2]
      exact Seen.nil_nil
    exact covering.of_plan rfl rfl (covering.iterator_eq_none (.inr isReconcile))
      (fun _ => seen.start) nofun nofun fun _ => seen
  | fail =>
    refine ⟨covering.scans, covering.reached, covering.plan, covering.row, ?_,
      covering.finished, fun _ => nofun, ?_, covering.rowOver⟩
    · intro left isSome
      obtain ⟨isBegun, -, isRow, isScan, isLeft⟩ := covering.iterator left isSome
      exact ⟨isBegun, by rintro (isIdle | isOver) <;> contradiction, isRow, isScan, isLeft⟩
    · rintro (isIdle | isOver) <;> contradiction
  | checkpoint held isBegun isOpen => exact covering.commit false
  | close held isReady => exact covering.commit true

theorem Covering.batch (covering : Covering exact documents world.claimed)
    (after : ∀ {cursor path rest}, documents cursor = path :: rest →
      documents (some path) = rest) (isFolder : script.documents = documents) :
    Covering exact documents (runBatch script world).2 := by
  have changes := (runBatch_changes script world).1
  generalize (runBatch script world).2 = run at changes
  induction changes with
  | refl => exact covering
  | tail _ change ih => exact ih.change after isFolder change

/-- Every batch of a series returns. -/
def AllReturn : List (ℕ × Script π) → World π → Prop
  | [], _ => True
  | (size, script) :: later, world => (runBatch script (world.resized size)).1.isOk ∧
    AllReturn later (runBatch script (world.resized size)).2.toWorld

section

theorem Covering.batches (covering : Covering exact documents world.claimed)
    (after : ∀ {cursor path rest}, documents cursor = path :: rest →
      documents (some path) = rest)
    (areFolder : ∀ batch ∈ series, batch.2.documents = documents)
    (returns : exact = true → AllReturn series world) :
    Covering exact documents (runBatches series world).claimed := by
  induction series generalizing world with
  | nil => exact covering
  | cons first later ih =>
    obtain ⟨size, script⟩ := first
    obtain ⟨isFolder, areFolder⟩ := List.forall_mem_cons.mp areFolder
    have resized : Covering exact documents (world.resized size).claimed :=
      covering.claimed (fun _ => rfl) size
    have ended := resized.batch after isFolder
    have kept : exact = true → (runBatch script (world.resized size)).2.unsaved = 0 :=
      fun isExact => ((runBatch_changes script _).2 (returns isExact).1).kept
    have next : Covering exact documents
        (runBatch script (world.resized size)).2.toWorld.claimed := ended.claimed kept _
    exact ih next areFolder fun isExact => (returns isExact).2

theorem Change.scans_suffix (change : Change script run next) : run.scans <:+ next.scans := by
  cases change with
  | checkpoint | close =>
    unfold Run.commit
    dsimp only
    split
    · exact List.suffix_cons _ _
    · exact List.suffix_rfl
  | _ => exact List.suffix_rfl

/-- Finished scans stay on record. -/
theorem scans_suffix (series : List (ℕ × Script π)) (world : World π) :
    world.scans <:+ (runBatches series world).scans := by
  induction series generalizing world with
  | nil => exact List.suffix_rfl
  | cons first later ih =>
    obtain ⟨size, script⟩ := first
    have changes := (runBatch_changes script (world.resized size)).1
    apply List.IsSuffix.trans _ (ih (runBatch script (world.resized size)).2.toWorld)
    generalize (runBatch script (world.resized size)).2 = run at changes
    induction changes with
    | refl => exact List.suffix_rfl
    | tail _ change ih => exact ih.trans change.scans_suffix

/-- Each batch that returns advances the first scan until it is finished. -/
theorem finishes_or_advances (covering : Covering false documents world.claimed)
    (after : ∀ {cursor path rest}, documents cursor = path :: rest →
      documents (some path) = rest)
    (areFolder : ∀ batch ∈ series, batch.2.documents = documents)
    (positive : ∀ batch ∈ series, 0 < batch.1) (returns : AllReturn series world) :
    (runBatches series world).scans ≠ [] ∨
      world.total + series.length ≤ (runBatches series world).total := by
  induction series generalizing world with
  | nil => exact .inr le_rfl
  | cons first later ih =>
    cases isPhase : world.row.phase with
    | reconcile =>
      have isSome := (covering.reached isPhase).1
      have stays := scans_suffix (first :: later) world
      exact .inl fun isNone => isSome (List.suffix_nil.mp (isNone ▸ stays))
    | scan =>
      obtain ⟨size, script⟩ := first
      obtain ⟨isFolder, areFolder⟩ := List.forall_mem_cons.mp areFolder
      obtain ⟨isPositive, positive⟩ := List.forall_mem_cons.mp positive
      have done := (runBatch_changes script (world.resized size)).2 returns.1
      have advances : world.total < _ := done.advances isPhase isPositive
      have resized : Covering false documents (world.resized size).claimed :=
        covering.claimed nofun size
      have ended := resized.batch after isFolder
      have next : Covering false documents
          (runBatch script (world.resized size)).2.toWorld.claimed := ended.claimed nofun _
      obtain isSome | isMore := ih next areFolder positive returns.2
      · exact .inl isSome
      · refine .inr (le_trans ?_ isMore)
        rw [List.length_cons]
        omega

end

variable [LinearOrder α]

/-- The paths of a folder come in strictly increasing order. Over any series of batches each
finished scan visited every document; if every batch returned it visited each once and in
order, and enough batches finish a scan. -/
theorem traversal_is_resumable (folder : Folder separator reserved)
    (series : List (ℕ × Script (List α)))
    (areFolder : ∀ batch ∈ series, batch.2.documents = folder.iterDocuments) :
    ((iterConnectorPaths separator [] folder.entries).Pairwise (· < ·) ∧
      ∀ path, path ∈ folder.iterDocuments none ↔
        IsFile separator [] folder.entries path ∧ folder.isDocument path = true) ∧
    let final := runBatches series { row := {} }
    (∀ scan ∈ final.scans, folder.iterDocuments none ⊆ scan) ∧
    (AllReturn series { row := {} } →
      (∀ scan ∈ final.scans, scan = folder.iterDocuments none) ∧
      ((∀ batch ∈ series, 0 < batch.1) → (folder.iterDocuments none).length < series.length →
        final.scans ≠ [])) := by
  have initial (exact : Bool) : Covering exact folder.iterDocuments
      ({ row := {} } : World (List α)).claimed :=
    ⟨nofun, nofun, fun _ => Seen.nil_nil.start, fun _ _ => Seen.nil_nil.start, nofun, nofun,
      nofun, fun _ => Seen.nil_nil, fun _ _ => Seen.nil_nil⟩
  refine ⟨⟨iterConnectorPaths_increasing folder.wellFormed [], ?_⟩, ?_, ?_⟩
  · simp
  · exact ((initial false).batches folder.iterDocuments_after areFolder nofun).scans
  · intro returns
    have covering := (initial true).batches folder.iterDocuments_after areFolder fun _ => returns
    refine ⟨covering.scans, fun positive isLess isNone => ?_⟩
    obtain isSome | advances := finishes_or_advances (initial false) folder.iterDocuments_after
      areFolder positive returns
    · exact isSome isNone
    · -- without a finished scan, what was visited is the beginning of the documents
      have isScan : (runBatches series { row := {} }).row.phase = .scan := by
        cases isPhase : (runBatches series { row := {} }).row.phase with
        | scan => rfl
        | reconcile => exact absurd isNone (covering.reached isPhase).1
      obtain ⟨passed, isPassed, isVisited⟩ := covering.plan isScan
      have isShort : passed.length ≤ (folder.iterDocuments none).length := by
        rw [isPassed, List.length_append]
        exact Nat.le_add_right _ _
      have isTotal : (runBatches series { row := {} }).total = passed.length := by
        rw [World.total, isNone, ← show _ = passed from isVisited]
        simp [World.claimed]
      rw [isTotal] at advances
      omega

/-- A directory next to a file whose name begins like it. -/
def notesFolder : Folder '/' [] where
  entries := [.directory "notes".toList true [.file "a.md".toList], .file "notes.md".toList]
  wellFormed := by
    refine ⟨by decide, by decide, ?_⟩
    intro name readable inner isIn
    obtain ⟨-, -, rfl⟩ : _ ∧ _ ∧ inner = [.file "a.md".toList] := by simpa using isIn
    exact ⟨by decide, by decide, by simp⟩
  isDocument _ := true

def notesScript : Script (List Char) where
  identity := some "root"
  documents := notesFolder.iterDocuments
  outcome _ := .done
  maxManagedSources := 10

theorem traversal_is_resumable_notes :
    (runBatches (List.replicate 3 (1, notesScript)) { row := {} }).scans ≠ [] ∧
      ∀ scan ∈ (runBatches (List.replicate 3 (1, notesScript)) { row := {} }).scans,
        scan = notesFolder.iterDocuments none := by
  have resumable := (traversal_is_resumable notesFolder (List.replicate 3 (1, notesScript))
    (by simp [notesScript])).2.2 ⟨by decide +kernel, by decide +kernel, by decide +kernel, trivial⟩
  exact ⟨resumable.2 (by simp) (by decide +kernel), resumable.1⟩

end AegisRag.Ingestion.FolderSync
