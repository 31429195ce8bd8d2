import AegisRag.Semantics.Method
import Mathlib.Data.List.Sort
import Mathlib.Logic.Relation

/-!
# Folder synchronisation

`FolderSyncService.run_batch` with `_scan` and `_reconcile`
(`packages/ingestion/folder_sync/service.py`) over the leased row of
`SqlAlchemyFolderSyncStore.save`. A script fixes what the outside answers during one batch.
Next to the row, `World` keeps the imports that took effect, the completed cycles and the paths
each finished scan visited.
-/

namespace AegisRag.Ingestion.FolderSync

open Semantics Relation Semantics.Method

inductive PlanStatus where
  | idle
  | scanning
  | reconciling
  | completed
  | failed
deriving DecidableEq

inductive Phase where
  | scan
  | reconcile
deriving DecidableEq

/-- `FolderSyncPlan`. -/
structure Plan (π : Type) where
  batchSize : ℕ := 25
  status : PlanStatus := .idle
  cursor : Option π := none
  phase : Phase := .scan
  cycle : ℕ := 0
  importedCount : ℕ := 0
  skippedCount : ℕ := 0
  rootIdentity : Option String := none
  sources : List π := []
deriving DecidableEq

/-- Whether the next batch begins a new cycle. -/
def Plan.IsOver {π : Type} (plan : Plan π) : Prop :=
  plan.status = .idle ∨ plan.status = .completed

instance {π : Type} (plan : Plan π) : Decidable plan.IsOver :=
  inferInstanceAs (Decidable (_ ∨ _))

/-- What a completed cycle stored, and what was imported and skipped since the one before. -/
structure Cycle where
  number : ℕ
  importedCount : ℕ
  skippedCount : ℕ
  imported : ℕ
  skipped : ℕ
deriving DecidableEq

/-- The stored row, and what happened so far, newest first. -/
structure World (π : Type) where
  row : Plan π
  imported : ℕ := 0
  skipped : ℕ := 0
  cycles : List Cycle := []
  visited : List π := []
  scans : List (List π) := []

/-- A batch at work: its copy of the plan, its iterator, how many import results it has not
stored yet, and how many of its imports raised after they took effect. -/
structure Run (π : Type) extends World π where
  plan : Plan π
  begun : Bool := false
  iterator : Option (List π) := none
  released : Bool := false
  unsaved : ℕ := 0
  lost : ℕ := 0
  calls : ℕ := 0

/-- How a call ends; an interrupted one raises after it took effect. -/
inductive Outcome where
  | done
  | skipped
  | raised
  | interrupted
deriving DecidableEq

def Outcome.Returns (outcome : Outcome) : Prop := outcome = .done ∨ outcome = .skipped

instance (outcome : Outcome) : Decidable outcome.Returns := inferInstanceAs (Decidable (_ ∨ _))

/-- What the outside answers during one batch. -/
structure Script (π : Type) where
  identity : Option String
  documents : Option π → List π
  outcome : ℕ → Outcome
  maxManagedSources : ℕ

variable {π : Type}

namespace Run

def tick (run : Run π) : Run π := { run with calls := run.calls + 1 }

/-- The row takes the plan over, and what that completes is noted. -/
def commit (run : Run π) (release : Bool) : Run π :=
  let scanned := run.row.phase = .scan ∧ run.plan.phase = .reconcile
  let completed := run.plan.status = .completed
  { run with
    row := run.plan
    released := release
    unsaved := 0
    scans := if scanned then run.visited :: run.scans else run.scans
    visited := if scanned then [] else run.visited
    cycles := if completed then
        { number := run.plan.cycle
          importedCount := run.plan.importedCount
          skippedCount := run.plan.skippedCount
          imported := run.imported
          skipped := run.skipped } :: run.cycles
      else run.cycles
    imported := if completed then 0 else run.imported
    skipped := if completed then 0 else run.skipped }

/-- The opening of a batch, which starts a new cycle after an idle or completed one. -/
def start (run : Run π) (identity : String) : Run π :=
  let plan := if run.plan.IsOver then
      { run.plan with
        cycle := run.plan.cycle + 1, importedCount := 0, skippedCount := 0,
        phase := .scan, cursor := none }
    else run.plan
  { run with
    begun := true
    plan := { plan with
      rootIdentity := some identity
      status := if plan.phase = .scan then .scanning else .reconciling } }

def finishScan (run : Run π) : Run π :=
  { run with
    plan := { run.plan with phase := .reconcile, status := .reconciling, cursor := none }
    iterator := none }

def passTo (run : Run π) (path : π) : Run π :=
  { run with plan := { run.plan with cursor := some path } }

def complete (run : Run π) : Run π :=
  { run with plan := { run.plan with status := .completed, phase := .scan, cursor := none } }

def openIterator (run : Run π) (documents : Option π → List π) : Run π :=
  { run with iterator := some (documents run.plan.cursor) }

/-- An import that took effect and raised. -/
def lose (run : Run π) : Run π := { run with imported := run.imported + 1, lost := run.lost + 1 }

def fail (run : Run π) : Run π := { run with plan := { run.plan with status := .failed } }

end Run

/-- A part of a batch. -/
abbrev Batch (π α : Type) := Method (Run π) Unit α

section

variable (script : Script π)

def call : Batch π Outcome := do
  let run ← get
  set run.tick
  pure (script.outcome run.calls)

/-- A call of which only matters whether it raises. -/
def await : Batch π Unit := do
  match ← call script with
  | .done | .skipped => pure ()
  | .raised | .interrupted => throw ()

/-- `save`: it changes the row only under the lease, which the last save gives up. -/
def save (release : Bool) : Batch π Unit := do
  let outcome ← call script
  let run ← get
  if run.released ∨ outcome = .raised then throw ()
  else
    set (run.commit release)
    if outcome = .interrupted then throw ()

/-- The call of `import_document`, and whether it did more than skip the document. -/
def importDocument : Batch π Bool := do
  match ← call script with
  | .done => pure true
  | .skipped => pure false
  | .raised => throw ()
  | .interrupted => do
    modify Run.lose
    throw ()

variable {script} {run : Run π}

theorem wp_await (returns : (script.outcome run.calls).Returns → ok () run.tick)
    (raises : ¬ (script.outcome run.calls).Returns → raised () run.tick) :
    (await script).wp ok raised run := by
  show Method.wp (match script.outcome run.calls with
    | .done | .skipped => pure ()
    | .raised | .interrupted => throw ()) _ _ run.tick
  split
  · exact returns (.inl ‹_›)
  · exact returns (.inr ‹_›)
  · exact raises (by simp [Outcome.Returns, *])
  · exact raises (by simp [Outcome.Returns, *])

theorem wp_importDocument {ok : Bool → Run π → Prop}
    (returns : (script.outcome run.calls).Returns → ∀ isImported, ok isImported run.tick)
    (raises : raised () run.tick)
    (loses : script.outcome run.calls = .interrupted → raised () run.tick.lose) :
    (importDocument script).wp ok raised run := by
  show Method.wp (match script.outcome run.calls with
    | .done => pure true
    | .skipped => pure false
    | .raised => throw ()
    | .interrupted => do
      modify Run.lose
      throw ()) _ _ run.tick
  split
  · exact returns (.inl ‹_›) true
  · exact returns (.inr ‹_›) false
  · exact raises
  · exact loses ‹_›

theorem wp_save {release : Bool}
    (refused : run.released = true ∨ script.outcome run.calls = .raised → raised () run.tick)
    (committed : run.released = false → script.outcome run.calls ≠ .raised →
      ((script.outcome run.calls).Returns → ok () (run.tick.commit release)) ∧
        raised () (run.tick.commit release)) :
    (save script release).wp ok raised run := by
  show Method.wp (if run.released = true ∨ script.outcome run.calls = .raised then throw ()
    else do
      set (run.tick.commit release)
      if script.outcome run.calls = .interrupted then throw ()) _ _ run.tick
  split
  · exact refused ‹_›
  · rename_i isHeld
    rw [not_or] at isHeld
    obtain ⟨isOk, isRaised⟩ := committed (by simpa using isHeld.1) isHeld.2
    rw [wp_bind, wp_set]
    split
    · exact isRaised
    · refine isOk ?_
      unfold Outcome.Returns
      cases isOutcome : script.outcome run.calls <;> simp_all

end

/-- The results that imports of the scan returned, and the scans that were finished. -/
def World.total (world : World π) : ℕ :=
  world.scans.length + (world.visited :: world.scans).flatten.length

theorem total_commit (run : Run π) (release : Bool) : (run.commit release).total = run.total +
    if run.row.phase = .scan ∧ run.plan.phase = .reconcile then 1 else 0 := by
  unfold World.total Run.commit
  dsimp only
  split
  · simp only [List.flatten_cons, List.nil_append, List.length_cons]
    omega
  · rfl

variable [LinearOrder π]

/-- One import result of the scan. -/
def Run.visit (run : Run π) (path : π) (rest : List π) (isImported : Bool) : Run π :=
  { run with
    plan := { run.plan with
      sources := if path ∈ run.plan.sources then run.plan.sources else run.plan.sources ++ [path]
      importedCount := run.plan.importedCount + isImported.toNat
      skippedCount := run.plan.skippedCount + (!isImported).toNat
      cursor := some path }
    iterator := some rest
    imported := run.imported + isImported.toNat
    skipped := run.skipped + (!isImported).toNat
    visited := run.visited ++ [path]
    unsaved := run.unsaved + 1 }

section

variable (script : Script π)

/-- `_scan`; the number counts down to the batch size. -/
def scan : ℕ → Batch π ℕ
  | 0 => pure 0
  | remaining + 1 => do
    await script
    let run ← get
    match run.iterator.getD [] with
    | [] =>
      modify Run.finishScan
      save script false
      pure 0
    | path :: rest =>
      if path ∉ run.plan.sources ∧ script.maxManagedSources ≤ run.plan.sources.length then
        throw ()
      else
        let result ← importDocument script
        modify (Run.visit · path rest result)
        save script false
        let consumed ← scan remaining
        pure (consumed + 1)

/-- The loop of `_reconcile`: whether a source is missing only concerns deletions. -/
def passOver : List π → Batch π Unit
  | [] => pure ()
  | path :: rest => do
    await script
    modify (Run.passTo · path)
    save script false
    passOver rest

/-- `_reconcile`. -/
def reconcile (remaining : ℕ) : Batch π Unit := do
  let run ← get
  let candidates := (run.plan.sources.filter fun path =>
    run.plan.cursor.all fun stored => stored < path).insertionSort (· ≤ ·)
  passOver script (candidates.take remaining)
  if candidates.length ≤ remaining then modify Run.complete

def scanPhase (phase : Phase) (batchSize : ℕ) : Batch π ℕ :=
  match phase with
  | .scan => do
    modify (Run.openIterator · script.documents)
    scan script batchSize
  | .reconcile => pure 0

def reconcilePhase (remaining : ℕ) : Batch π Unit := do
  let run ← get
  if run.plan.phase = .reconcile ∧ 0 < remaining then reconcile script remaining

/-- The body of `run_batch` under its lease. -/
def batchBody : Batch π Unit := do
  await script
  match script.identity with
  | none => throw ()
  | some identity =>
    let run ← get
    if run.plan.rootIdentity.any (· ≠ identity) then throw ()
    else
      modify (Run.start · identity)
      save script false
      let run ← get
      let consumed ← scanPhase script run.plan.phase run.plan.batchSize
      reconcilePhase script (run.plan.batchSize - consumed)
      await script
      save script true

/-- `run_batch` from its claim of the row on. -/
def batch : Batch π Unit :=
  tryCatch (batchBody script) fun _ => do
    modify Run.fail
    save script true
    await script
    throw ()

def World.resized (world : World π) (size : ℕ) : World π :=
  { world with row := { world.row with batchSize := size } }

/-- A batch on a row, before it does anything. -/
def World.claimed (world : World π) : Run π := { world with plan := world.row }

def runBatch (world : World π) : Except Unit Unit × Run π := batch script world.claimed

/-- Batches one after the other. The size of each is given, for it can be set in between. -/
def runBatches : List (ℕ × Script π) → World π → World π
  | [], world => world
  | (size, script) :: later, world =>
    runBatches later (runBatch script (world.resized size)).2.toWorld

end

/-! ## What a batch can do -/

/-- A batch between its opening and its end. -/
structure Working (run : Run π) : Prop where
  isBegun : run.begun = true
  isOpen : run.plan.status ≠ .completed

/-- A batch whose plan is stored. -/
structure Saved (run : Run π) : Prop extends Working run where
  isRow : run.row = run.plan

/-- One change that a batch makes. Before its opening it can only be given up. -/
inductive Change (script : Script π) : Run π → Run π → Prop where
  | tick (run : Run π) : Change script run run.tick
  | start (run : Run π) (identity : String) (isFirst : run.begun = false)
      (held : run.released = false) (isRow : run.plan = run.row) :
      Change script run (run.start identity)
  | openIterator (run : Run π) (saved : Saved run) (isScan : run.plan.phase = .scan) :
      Change script run (run.openIterator script.documents)
  | visit (run : Run π) {path : π} {rest : List π} (isImported : Bool)
      (isNext : run.iterator = some (path :: rest)) :
      Change script run (run.visit path rest isImported)
  | lose (run : Run π) : Change script run run.lose
  | finishScan (run : Run π) (isEnd : run.iterator = some []) : Change script run run.finishScan
  | passTo (run : Run π) (path : π) (isBegun : run.begun = true)
      (isReconcile : run.plan.phase = .reconcile) : Change script run (run.passTo path)
  | complete (run : Run π) (isBegun : run.begun = true)
      (isReconcile : run.plan.phase = .reconcile) (isStored : run.row.phase = .reconcile) :
      Change script run run.complete
  | fail (run : Run π) : Change script run run.fail
  | checkpoint (run : Run π) (held : run.released = false) (isBegun : run.begun = true)
      (isOpen : run.plan.status ≠ .completed) : Change script run (run.commit false)
  | close (run : Run π) (held : run.released = false)
      (isReady : run.begun = true ∨ run.plan.status = .failed) :
      Change script run (run.commit true)

section

variable {script : Script π} {run next : Run π}

theorem Change.total_le (change : Change script run next) : run.total ≤ next.total := by
  cases change with
  | visit isImported isNext =>
    simp only [World.total, Run.visit, List.flatten_cons, List.length_append]
    omega
  | checkpoint | close =>
    rw [total_commit]
    omega
  | _ => exact le_rfl

theorem total_le (changes : ReflTransGen (Change script) run next) : run.total ≤ next.total := by
  induction changes with
  | refl => exact le_rfl
  | tail _ change ih => exact ih.trans change.total_le

theorem wp_save_working (working : Working run)
    (refused : ReflTransGen (Change script) run run.tick → raised () run.tick)
    (committed : ReflTransGen (Change script) run (run.tick.commit false) →
      Saved (run.tick.commit false) →
        ok () (run.tick.commit false) ∧ raised () (run.tick.commit false)) :
    (save script false).wp ok raised run := by
  have ticked : ReflTransGen (Change script) run run.tick := .single (.tick run)
  apply wp_save fun _ => refused ticked
  intro held _
  have saved := committed
    (ticked.tail (.checkpoint _ held working.isBegun working.isOpen))
    ⟨⟨working.isBegun, working.isOpen⟩, rfl⟩
  exact ⟨fun _ => saved.1, saved.2⟩

/-- A scan that is allowed a document finds one or ends. -/
theorem scan_changes (remaining : ℕ) (saved : Saved run) (isScan : run.plan.phase = .scan)
    (isSome : run.iterator.isSome) :
    (scan script remaining).wp
      (fun _ next => ReflTransGen (Change script) run next ∧ Saved next ∧
        (0 < remaining → run.total < next.total))
      (fun _ => ReflTransGen (Change script) run) run := by
  induction remaining generalizing run with
  | zero => exact ⟨.refl, saved, nofun⟩
  | succ remaining ih =>
    obtain ⟨left, isLeft⟩ := Option.isSome_iff_exists.mp isSome
    have ticked : ReflTransGen (Change script) run run.tick := .single (.tick run)
    have isSame : run.tick.iterator = some left := isLeft
    unfold scan
    rw [wp_bind]
    apply wp_await (fun _ => ?_) fun _ => ticked
    rw [wp_bind, wp_get, isSame, Option.getD_some]
    cases left with
    | nil =>
      rw [wp_bind, wp_modify, wp_bind]
      have finished := ticked.tail (.finishScan _ isSame)
      have working : Working run.tick.finishScan := ⟨saved.isBegun, nofun⟩
      apply wp_save_working working finished.trans
      intro changes isSaved
      refine ⟨⟨finished.trans changes, isSaved, fun _ => ?_⟩, finished.trans changes⟩
      rw [total_commit, if_pos ⟨(congrArg Plan.phase saved.isRow).trans isScan, rfl⟩]
      exact Nat.lt_succ_self _
    | cons path rest =>
      dsimp only
      split
      · exact ticked
      · have twice := ticked.tail (.tick run.tick)
        rw [wp_bind]
        apply wp_importDocument (fun _ => ?_) twice fun _ => twice.tail (.lose _)
        intro isImported
        rw [wp_bind, wp_modify, wp_bind]
        have visited := twice.tail (.visit _ isImported isSame)
        have working : Working (run.tick.tick.visit path rest isImported) :=
          ⟨saved.isBegun, saved.isOpen⟩
        apply wp_save_working working visited.trans
        intro changes isSaved
        refine ⟨?_, visited.trans changes⟩
        rw [wp_bind]
        apply wp_mono (ih isSaved isScan rfl)
        · rintro consumed next ⟨later, isSaved, -⟩
          refine ⟨(visited.trans changes).trans later, isSaved, fun _ => ?_⟩
          have isMore : run.total < (run.tick.tick.visit path rest isImported).total := by
            simp only [World.total, Run.visit, Run.tick, List.flatten_cons,
              List.length_append, List.length_singleton]
            omega
          exact isMore.trans_le ((total_le changes).trans (total_le later))
        · exact fun _ next later => (visited.trans changes).trans later

theorem scanPhase_changes (batchSize : ℕ) (saved : Saved run) :
    (scanPhase script run.plan.phase batchSize).wp
      (fun _ next => ReflTransGen (Change script) run next ∧ Saved next ∧
        (run.plan.phase = .scan → 0 < batchSize → run.total < next.total))
      (fun _ => ReflTransGen (Change script) run) run := by
  cases isPhase : run.plan.phase with
  | scan =>
    unfold scanPhase
    rw [wp_bind, wp_modify]
    have opened : Change script run _ := .openIterator run saved isPhase
    have isSaved : Saved (run.openIterator script.documents) :=
      ⟨⟨saved.isBegun, saved.isOpen⟩, saved.isRow⟩
    apply wp_mono (scan_changes batchSize isSaved isPhase rfl)
    · rintro _ next ⟨changes, isSaved, isMore⟩
      exact ⟨changes.head opened, isSaved, fun _ => isMore⟩
    · exact fun _ next changes => changes.head opened
  | reconcile => exact ⟨.refl, saved, nofun⟩

theorem passOver_changes (paths : List π) (saved : Saved run)
    (isReconcile : run.plan.phase = .reconcile) :
    (passOver script paths).wp
      (fun _ next => ReflTransGen (Change script) run next ∧ Saved next ∧
        next.plan.phase = .reconcile)
      (fun _ => ReflTransGen (Change script) run) run := by
  induction paths generalizing run with
  | nil => exact ⟨.refl, saved, isReconcile⟩
  | cons path paths ih =>
    have ticked : ReflTransGen (Change script) run run.tick := .single (.tick run)
    unfold passOver
    rw [wp_bind]
    apply wp_await (fun _ => ?_) fun _ => ticked
    rw [wp_bind, wp_modify, wp_bind]
    have passed := ticked.tail (.passTo _ path saved.isBegun isReconcile)
    have working : Working (run.tick.passTo path) := ⟨saved.isBegun, saved.isOpen⟩
    apply wp_save_working working passed.trans
    intro changes isSaved
    refine ⟨?_, passed.trans changes⟩
    apply wp_mono (ih isSaved isReconcile)
    · exact fun _ next ⟨later, isSaved⟩ => ⟨(passed.trans changes).trans later, isSaved⟩
    · exact fun _ next later => (passed.trans changes).trans later

theorem reconcilePhase_changes (remaining : ℕ) (saved : Saved run) :
    (reconcilePhase script remaining).wp
      (fun _ next => ReflTransGen (Change script) run next ∧ next.begun = true)
      (fun _ => ReflTransGen (Change script) run) run := by
  unfold reconcilePhase
  rw [wp_bind, wp_get]
  split
  · rename_i isReconcile
    unfold reconcile
    rw [wp_bind, wp_get, wp_bind]
    apply wp_mono (passOver_changes _ saved isReconcile.1)
    · rintro - next ⟨changes, saved, isReconcile⟩
      split
      · have isStored := (congrArg Plan.phase saved.isRow).trans isReconcile
        exact ⟨changes.tail (.complete next saved.isBegun isReconcile isStored), saved.isBegun⟩
      · exact ⟨changes, saved.isBegun⟩
    · exact fun _ _ changes => changes
  · exact ⟨.refl, saved.isBegun⟩

/-- The last save of a batch, also after a failure. -/
theorem wp_save_last (isReady : run.begun = true ∨ run.plan.status = .failed)
    (returns : ∀ next, ReflTransGen (Change script) run next → next.unsaved = 0 → ok () next)
    (raises : ∀ next, ReflTransGen (Change script) run next → raised () next) :
    (save script true).wp ok raised run := by
  have ticked : ReflTransGen (Change script) run run.tick := .single (.tick run)
  apply wp_save fun _ => raises _ ticked
  intro held _
  have committed := ticked.tail (.close run.tick held isReady)
  exact ⟨fun _ => returns _ committed rfl, raises _ committed⟩

/-- What a batch that returns has done. -/
structure Done (script : Script π) (run next : Run π) : Prop where
  changes : ReflTransGen (Change script) run next
  kept : next.unsaved = 0
  advances : run.row.phase = .scan → 0 < run.row.batchSize → run.total < next.total

theorem batchBody_changes (isFirst : run.begun = false) (held : run.released = false)
    (isRow : run.plan = run.row) :
    (batchBody script).wp (fun _ => Done script run) (fun _ => ReflTransGen (Change script) run)
      run := by
  have ticked : ReflTransGen (Change script) run run.tick := .single (.tick run)
  unfold batchBody
  rw [wp_bind]
  apply wp_await (fun _ => ?_) fun _ => ticked
  cases script.identity with
  | none => exact ticked
  | some identity =>
    dsimp only
    rw [wp_bind, wp_get]
    split
    · exact ticked
    · rw [wp_bind, wp_modify, wp_bind]
      have started := ticked.tail (.start _ identity isFirst held isRow)
      have working : Working (run.tick.start identity) := by
        refine ⟨rfl, ?_⟩
        unfold Run.start
        dsimp only
        split_ifs <;> simp
      have opening : run.row.phase = .scan → (run.tick.start identity).plan.phase = .scan ∧
          (run.tick.start identity).plan.batchSize = run.row.batchSize := by
        intro isScan
        unfold Run.start Run.tick
        dsimp only
        rw [isRow]
        split_ifs
        · exact ⟨rfl, rfl⟩
        · exact ⟨isScan, rfl⟩
      apply wp_save_working working started.trans
      intro saves saved
      refine ⟨?_, started.trans saves⟩
      have changes := started.trans saves
      rw [wp_bind, wp_get, wp_bind]
      apply wp_mono (scanPhase_changes _ saved)
      · rintro consumed next ⟨scans, isSaved, isMore⟩
        rw [wp_bind]
        apply wp_mono (reconcilePhase_changes _ isSaved)
        · rintro - last ⟨reconciles, isBegun⟩
          have ends := ((changes.trans scans).trans reconciles).tail (.tick last)
          rw [wp_bind]
          apply wp_await (fun _ => ?_) fun _ => ends
          have isReady : last.tick.begun = true ∨ last.tick.plan.status = .failed := .inl isBegun
          apply wp_save_last isReady
          · intro final closes kept
            refine ⟨ends.trans closes, kept, fun isScan isPositive => ?_⟩
            obtain ⟨isPhase, isSize⟩ := opening isScan
            have advances := isMore isPhase (isSize.symm ▸ isPositive)
            exact (total_le changes).trans_lt (advances.trans_le
              ((total_le (reconciles.tail (.tick last))).trans (total_le closes)))
          · exact fun final closes => ends.trans closes
        · exact fun _ _ reconciles => (changes.trans scans).trans reconciles
      · exact fun _ _ scans => changes.trans scans

/-- A batch is a series of changes, and one that returns stored its results and advanced. -/
theorem runBatch_changes (script : Script π) (world : World π) :
    ReflTransGen (Change script) world.claimed (runBatch script world).2 ∧
      ((runBatch script world).1.isOk → Done script world.claimed (runBatch script world).2) := by
  have ends : (batch script).wp (fun _ => Done script world.claimed)
      (fun _ => ReflTransGen (Change script) world.claimed) world.claimed := by
    unfold batch
    rw [wp_tryCatch]
    apply wp_mono (batchBody_changes rfl rfl rfl) fun _ _ done => done
    intro _ next changes
    have failed := changes.tail (.fail next)
    rw [wp_bind, wp_modify, wp_bind]
    apply wp_save_last (.inr rfl)
    · intro last closes _
      have ended := (failed.trans closes).tail (.tick last)
      rw [wp_bind]
      exact wp_await (fun _ => ended) fun _ => ended
    · exact fun _ closes => failed.trans closes
  unfold Method.wp at ends
  unfold runBatch
  rcases ended : batch script world.claimed with ⟨_ | _, next⟩
  · rw [ended] at ends
    exact ⟨ends, nofun⟩
  · rw [ended] at ends
    exact ⟨ends.changes, fun _ => ends⟩

end

end AegisRag.Ingestion.FolderSync
