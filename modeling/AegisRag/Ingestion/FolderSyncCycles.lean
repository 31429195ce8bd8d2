import AegisRag.Ingestion.FolderSync
import AegisRag.Semantics.History

/-!
# Accounting of folder synchronisation cycles

The counters of a plan are reset by the batch that finds it idle or completed. A batch that
fails before its opening stores a failed plan in place of a completed one, and the next batch
goes on with the old counters. An import that raises after it took effect is not counted.
-/

namespace AegisRag.Ingestion.FolderSync

open Semantics Relation Semantics.Method

variable {π : Type}

/-- Completed cycles are numbered in order, and each stored what was imported and skipped. -/
def Accounted (cycles : List Cycle) : Prop :=
  Along (fun cycle earlier => cycle.number = earlier.length + 1 ∧
    cycle.importedCount = cycle.imported ∧ cycle.skippedCount = cycle.skipped) cycles

/-- The counters of a plan in the cycle that is open. -/
structure Counts (world : World π) (plan : Plan π) : Prop where
  notIdle : plan.status ≠ .idle
  cycle : plan.cycle = world.cycles.length + 1
  imported : plan.importedCount = world.imported
  skipped : plan.skippedCount = world.skipped

/-- What the stored row says about the cycle that is open. -/
structure Books (world : World π) : Prop where
  accounted : Accounted world.cycles
  closed : world.row.IsOver →
    world.row.cycle = world.cycles.length ∧ world.imported = 0 ∧ world.skipped = 0
  running : ¬ world.row.IsOver → Counts world world.row

/-- A row whose batch failed before its opening. -/
def World.givenUp (world : World π) : World π :=
  { world with row := { world.row with status := .failed } }

/-- Where a batch stands: before its opening it can only have given up; then its plan counts the
open cycle until its last save. -/
structure Standing (world : World π) (run : Run π) : Prop where
  accounted : Accounted run.cycles
  before : run.begun = false → run.iterator = none ∧ run.unsaved = 0 ∧
    (run.plan = world.row ∨ run.plan = world.givenUp.row) ∧
    (run.toWorld = world ∨ run.released = true ∧ run.toWorld = world.givenUp)
  counts : run.begun = true → run.released = false → Counts run.toWorld run.plan
  stored : run.begun = true → run.unsaved = 0 → Books run.toWorld

section

variable {world : World π} {run next : Run π} (standing : Standing world run)

include standing

theorem Standing.begun_of_iterator (isSome : run.iterator = some left) : run.begun = true := by
  by_contra isNot
  have isNone := (standing.before (by simpa using isNot)).1
  rw [isNone] at isSome
  cases isSome

/-- A change of a begun batch that leaves the world and the counters alone. -/
theorem Standing.of_same (isBegun : run.begun = true)
    (begun : next.begun = run.begun) (released : next.released = run.released)
    (unsaved : next.unsaved = run.unsaved) (same : next.toWorld = run.toWorld)
    (counts : Counts run.toWorld run.plan → Counts run.toWorld next.plan) :
    Standing world next where
  accounted := by rw [same]; exact standing.accounted
  before isNot := nomatch (begun.trans isBegun).symm.trans isNot
  counts _ held := by
    rw [same]
    exact counts (standing.counts isBegun (released ▸ held))
  stored _ kept := by
    rw [same]
    exact standing.stored isBegun (unsaved ▸ kept)

theorem Standing.start (books : Books world)
    (isFirst : run.begun = false) (held : run.released = false) (isRow : run.plan = run.row) :
    Standing world (run.start identity) := by
  obtain ⟨-, -, -, same⟩ := standing.before isFirst
  have isWorld : run.toWorld = world := same.resolve_right fun ⟨released, _⟩ => by simp_all
  constructor
  case accounted => exact standing.accounted
  case before => nofun
  case stored =>
    intro _ _
    show Books run.toWorld
    rw [isWorld]
    exact books
  case counts =>
    intro _ _
    have isPlan : run.plan = world.row := by rw [isRow, isWorld]
    show Counts run.toWorld _
    rw [isWorld]
    unfold Run.start
    rw [isPlan]
    have status (phase : Phase) :
        (if phase = .scan then PlanStatus.scanning else .reconciling) ≠ .idle := by
      split <;> nofun
    by_cases isOver : world.row.IsOver
    · obtain ⟨cycle, imported, skipped⟩ := books.closed isOver
      dsimp only
      rw [if_pos isOver]
      exact ⟨status .scan, congrArg (· + 1) cycle, imported.symm, skipped.symm⟩
    · have counts := books.running isOver
      dsimp only
      rw [if_neg isOver]
      exact ⟨status _, counts.cycle, counts.imported, counts.skipped⟩

theorem Standing.checkpoint (held : run.released = false)
    (isBegun : run.begun = true) (isOpen : run.plan.status ≠ .completed) :
    Standing world (run.commit release) := by
  have counts := standing.counts isBegun held
  have same : Counts (run.commit release).toWorld run.plan := by
    constructor
    · exact counts.notIdle
    · simpa [Run.commit, isOpen] using counts.cycle
    · simpa [Run.commit, isOpen] using counts.imported
    · simpa [Run.commit, isOpen] using counts.skipped
  have accounted : Accounted (run.commit release).cycles := by
    simpa [Run.commit, isOpen] using standing.accounted
  constructor
  · exact accounted
  · exact fun isNot => nomatch isBegun.symm.trans isNot
  · exact fun _ _ => same
  · exact fun _ _ => ⟨accounted, fun isOver => absurd isOver (by
      rintro (isIdle | isOver)
      · exact counts.notIdle isIdle
      · exact isOpen isOver), fun _ => same⟩

/-- The last save of a completed cycle. -/
theorem Standing.completed (held : run.released = false)
    (isBegun : run.begun = true) (isOver : run.plan.status = .completed) :
    Standing world (run.commit true) := by
  have counts := standing.counts isBegun held
  have accounted : Accounted (run.commit true).cycles := by
    simp only [Run.commit, if_pos isOver]
    exact ⟨⟨counts.cycle, counts.imported, counts.skipped⟩, standing.accounted⟩
  constructor
  · exact accounted
  · exact fun isNot => nomatch isBegun.symm.trans isNot
  · nofun
  · intro _ _
    refine ⟨accounted, fun _ => ?_, fun isNot => absurd (.inr isOver) isNot⟩
    simpa [Run.commit, isOver] using counts.cycle

/-- A failure before the opening is stored as the row's status. -/
theorem Standing.givenUp (held : run.released = false)
    (isNot : run.begun = false) (isFailed : run.plan.status = .failed) :
    Standing world (run.commit true) := by
  obtain ⟨iterator, unsaved, plan, same⟩ := standing.before isNot
  have isWorld : run.toWorld = world := same.resolve_right fun ⟨released, _⟩ => by simp_all
  subst isWorld
  have isPlan : run.plan = run.toWorld.givenUp.row := by
    obtain isPlan | isPlan := plan
    · rw [World.givenUp, ← isFailed, isPlan]
    · exact isPlan
  have isGivenUp : (run.commit true).toWorld = run.toWorld.givenUp := by
    have notScanned : ¬ (run.row.phase = .scan ∧ run.plan.phase = .reconcile) := by
      rw [isPlan]
      rintro ⟨isScan, isReconcile⟩
      cases isScan.symm.trans isReconcile
    have notCompleted : run.plan.status ≠ .completed := by rw [isFailed]; nofun
    unfold Run.commit
    simp only [if_neg notScanned, if_neg notCompleted]
    rw [isPlan, World.givenUp]
  constructor
  · rw [isGivenUp]
    exact standing.accounted
  · exact fun _ => ⟨iterator, rfl, .inr isPlan, .inr ⟨rfl, isGivenUp⟩⟩
  · nofun
  · exact fun isBegun => nomatch isNot.symm.trans isBegun

variable [LinearOrder π] {script : Script π}

theorem Standing.change (books : Books world) (change : Change script run next)
    (noneLost : next.lost = 0) : Standing world next := by
  cases change with
  | tick => exact ⟨standing.accounted, standing.before, standing.counts, standing.stored⟩
  | start identity isFirst held isRow => exact standing.start books isFirst held isRow
  | openIterator saved isScan => exact standing.of_same saved.isBegun rfl rfl rfl rfl id
  | @visit path rest isImported isNext =>
    have isBegun := standing.begun_of_iterator isNext
    constructor
    · exact standing.accounted
    · exact fun isNot => nomatch isBegun.symm.trans isNot
    · intro _ held
      have counts := standing.counts isBegun held
      exact ⟨counts.notIdle, counts.cycle, congrArg (· + _) counts.imported,
        congrArg (· + _) counts.skipped⟩
    · nofun
  | lose => cases noneLost
  | finishScan isEnd =>
    exact standing.of_same (standing.begun_of_iterator isEnd) rfl rfl rfl rfl
      fun counts => ⟨nofun, counts.cycle, counts.imported, counts.skipped⟩
  | passTo path isBegun isReconcile =>
    exact standing.of_same isBegun rfl rfl rfl rfl fun counts =>
      ⟨counts.notIdle, counts.cycle, counts.imported, counts.skipped⟩
  | complete isBegun isReconcile isStored =>
    exact standing.of_same isBegun rfl rfl rfl rfl fun counts =>
      ⟨nofun, counts.cycle, counts.imported, counts.skipped⟩
  | fail =>
    constructor
    · exact standing.accounted
    · intro isNot
      obtain ⟨iterator, unsaved, plan, same⟩ := standing.before isNot
      refine ⟨iterator, unsaved, .inr ?_, same⟩
      obtain isPlan | isPlan := plan <;> simp only [Run.fail, isPlan, World.givenUp]
    · intro isBegun held
      have counts := standing.counts isBegun held
      exact ⟨nofun, counts.cycle, counts.imported, counts.skipped⟩
    · exact standing.stored
  | checkpoint held isBegun isOpen => exact standing.checkpoint held isBegun isOpen
  | close held isReady =>
    by_cases isBegun : run.begun = true
    · by_cases isOver : run.plan.status = .completed
      · exact standing.completed held isBegun isOver
      · exact standing.checkpoint held isBegun isOver
    · have isNot : run.begun = false := by simpa using isBegun
      exact standing.givenUp held isNot (isReady.resolve_left isBegun)

omit standing in
theorem Change.lost_le (change : Change script run next) : run.lost ≤ next.lost := by
  cases change with
  | lose => exact Nat.le_succ _
  | _ => exact le_rfl

/-- What a batch leaves behind so that the books stay right: no import was lost, every result was
stored, and it came to its opening, left the row alone or found a cycle open. -/
structure Ended (world : World π) (run : Run π) : Prop where
  noneLost : run.lost = 0
  allSaved : run.unsaved = 0
  opened : world.row.IsOver → run.begun = true ∨ run.row = world.row

omit standing in
theorem Books.batch (books : Books world) (ended : Ended world (runBatch script world).2) :
    Books (runBatch script world).2.toWorld := by
  obtain ⟨noneLost, kept, opened⟩ := ended
  have changes := (runBatch_changes script world).1
  generalize (runBatch script world).2 = run at changes noneLost kept opened
  have standing : Standing world run := by
    clear kept opened
    induction changes with
    | refl => exact ⟨books.accounted, fun _ => ⟨rfl, rfl, .inl rfl, .inl rfl⟩, nofun, nofun⟩
    | tail _ change ih =>
      exact (ih (Nat.le_zero.mp (noneLost ▸ change.lost_le))).change books change noneLost
  by_cases isBegun : run.begun = true
  · exact standing.stored isBegun kept
  · obtain ⟨-, -, -, same | ⟨-, same⟩⟩ := standing.before (by simpa using isBegun)
    · rw [same]
      exact books
    · by_cases isOver : world.row.IsOver
      · have isRow := (opened isOver).resolve_left isBegun
        rw [same] at isRow ⊢
        rw [show world.givenUp = { world with row := world.givenUp.row } from rfl, isRow]
        exact books
      · rw [same]
        have counts := books.running isOver
        refine ⟨books.accounted, ?_, fun _ => ?_⟩
        · rintro (isIdle | isOver)
          · cases isIdle
          · cases isOver
        · exact ⟨nofun, counts.cycle, counts.imported, counts.skipped⟩

end

/-! ## What a script lets a batch store -/

section

variable (script : Script π)

/-- A batch that has nothing to store. -/
structure Settled (run : Run π) : Prop where
  isBegun : run.begun = true
  noneLost : run.lost = 0
  allSaved : run.unsaved = 0

/-- A batch whose last save stores what it has to store. -/
structure Recoverable (run : Run π) : Prop where
  isBegun : run.begun = true
  noneLost : run.lost = 0
  allSaved : run.unsaved = 0 ∨ run.released = false ∧ script.outcome run.calls ≠ .raised

variable {script} {run : Run π}

theorem Settled.recoverable (settled : Settled run) : Recoverable script run :=
  ⟨settled.isBegun, settled.noneLost, .inl settled.allSaved⟩

theorem Settled.tick (settled : Settled run) : Settled run.tick :=
  ⟨settled.isBegun, settled.noneLost, settled.allSaved⟩

theorem wp_save_settled (settled : Settled run) (returns : ∀ next, Settled next → ok () next)
    (raises : ∀ next, Settled next → raised () next) :
    (save script release).wp ok raised run := by
  have committed : Settled (run.tick.commit release) := ⟨settled.isBegun, settled.noneLost, rfl⟩
  exact wp_save (fun _ => raises _ settled.tick)
    fun _ _ => ⟨fun _ => returns _ committed, raises _ committed⟩

theorem passOver_settled (paths : List π) (settled : Settled run) :
    (passOver script paths).wp (fun _ => Settled) (fun _ => Settled) run := by
  induction paths generalizing run with
  | nil => exact settled
  | cons path paths ih =>
    unfold passOver
    rw [wp_bind]
    apply wp_await (fun _ => ?_) fun _ => settled.tick
    rw [wp_bind, wp_modify, wp_bind]
    have passed : Settled (run.tick.passTo path) :=
      ⟨settled.isBegun, settled.noneLost, settled.allSaved⟩
    exact wp_save_settled passed (fun _ => ih) fun _ => id

variable (script)

/-- The root is there and is the one the plan knows, so that a batch comes to its opening. -/
def Opens (row : Plan π) : Prop :=
  (script.outcome 0).Returns ∧
    script.identity.any fun identity => row.rootIdentity.all (· = identity)

instance (row : Plan π) : Decidable (Opens script row) := inferInstanceAs (Decidable (_ ∧ _))

variable [LinearOrder π]

/-- The scan of some documents after the call of a given number: no import raises after it took
effect, and if the save after an import has no effect, the last save has one. -/
def ImportsKept : ℕ → List π → List π → ℕ → Prop
  | 0, _, _, _ => True
  | _ + 1, [], _, _ => True
  | remaining + 1, path :: rest, sources, call =>
    ¬ (path ∉ sources ∧ script.maxManagedSources ≤ sources.length) →
    (script.outcome call).Returns →
    script.outcome (call + 1) ≠ .interrupted ∧
    ((script.outcome (call + 1)).Returns →
      (script.outcome (call + 2) = .raised → script.outcome (call + 3) ≠ .raised) ∧
      ((script.outcome (call + 2)).Returns → ImportsKept remaining rest
        (if path ∈ sources then sources else sources ++ [path]) (call + 3)))

instance decidableImportsKept : (remaining : ℕ) → (documents sources : List π) → (call : ℕ) →
    Decidable (ImportsKept script remaining documents sources call)
  | 0, _, _, _ => inferInstanceAs (Decidable True)
  | _ + 1, [], _, _ => inferInstanceAs (Decidable True)
  | remaining + 1, path :: rest, sources, call =>
    have := decidableImportsKept remaining rest
      (if path ∈ sources then sources else sources ++ [path]) (call + 3)
    inferInstanceAs (Decidable (_ → _ → _ ∧ (_ → _ ∧ (_ → _))))

/-- What the outside must answer to a batch on a given row. An idle or completed plan reaches its
opening, or the failure is not stored; the imports of the scan are kept. -/
structure Regular (world : World π) : Prop where
  opened : world.row.IsOver → Opens script world.row ∨ script.outcome 1 = .raised
  kept : ∀ identity ∈ script.identity, (script.outcome 1).Returns →
    let plan := (world.claimed.start identity).plan
    plan.phase = .scan →
    ImportsKept script plan.batchSize (script.documents plan.cursor) plan.sources 2

variable {script} {run : Run π}

theorem scan_recoverable (remaining : ℕ) {left : List π} (settled : Settled run)
    (held : run.released = false) (isLeft : run.iterator = some left)
    (kept : ImportsKept script remaining left run.plan.sources run.calls) :
    (scan script remaining).wp (fun _ => Settled) (fun _ => Recoverable script) run := by
  induction remaining generalizing run left with
  | zero => exact settled
  | succ remaining ih =>
    have isSame : run.tick.iterator = some left := isLeft
    unfold scan
    rw [wp_bind]
    apply wp_await (fun found => ?_) fun _ => settled.tick.recoverable
    rw [wp_bind, wp_get, isSame, Option.getD_some]
    cases left with
    | nil =>
      rw [wp_bind, wp_modify, wp_bind]
      have finished : Settled run.tick.finishScan :=
        ⟨settled.isBegun, settled.noneLost, settled.allSaved⟩
      exact wp_save_settled finished (fun _ => id) fun _ => Settled.recoverable
    | cons path rest =>
      dsimp only
      split
      · exact settled.tick.recoverable
      · rename_i isAdmitted
        obtain ⟨notLost, kept⟩ := kept isAdmitted found
        rw [wp_bind]
        apply wp_importDocument (fun returned isImported => ?_) settled.tick.tick.recoverable
          (fun isLost => absurd isLost notLost)
        obtain ⟨recovers, kept⟩ := kept returned
        rw [wp_bind, wp_modify, wp_bind]
        apply wp_save
        · rintro (isReleased | isRefused)
          · exact absurd (held.symm.trans isReleased) Bool.false_ne_true
          · exact ⟨settled.isBegun, settled.noneLost, .inr ⟨held, recovers isRefused⟩⟩
        · intro _ _
          have saved : Settled ((run.tick.tick.visit path rest isImported).tick.commit false) :=
            ⟨settled.isBegun, settled.noneLost, rfl⟩
          refine ⟨fun stored => ?_, saved.recoverable⟩
          rw [wp_bind]
          exact ih saved rfl rfl (kept stored)

theorem scanPhase_recoverable (batchSize : ℕ) (settled : Settled run)
    (held : run.released = false) (kept : run.plan.phase = .scan →
      ImportsKept script batchSize (script.documents run.plan.cursor) run.plan.sources run.calls) :
    (scanPhase script run.plan.phase batchSize).wp (fun _ => Settled)
      (fun _ => Recoverable script) run := by
  cases isPhase : run.plan.phase with
  | scan =>
    unfold scanPhase
    rw [wp_bind, wp_modify]
    have opened : Settled (run.openIterator script.documents) :=
      ⟨settled.isBegun, settled.noneLost, settled.allSaved⟩
    exact scan_recoverable batchSize opened held rfl (kept isPhase)
  | reconcile => exact settled

theorem reconcilePhase_settled (remaining : ℕ) (settled : Settled run) :
    (reconcilePhase script remaining).wp (fun _ => Settled) (fun _ => Settled) run := by
  unfold reconcilePhase
  rw [wp_bind, wp_get]
  split
  · unfold reconcile
    rw [wp_bind, wp_get, wp_bind]
    apply wp_mono (passOver_settled _ settled)
    · intro _ next isSettled
      split
      · exact ⟨isSettled.isBegun, isSettled.noneLost, isSettled.allSaved⟩
      · exact isSettled
    · exact fun _ _ => id
  · exact settled

/-- A batch that raises has not come to its opening, or its last save stores what there is. -/
theorem batchBody_recoverable {world : World π} (regular : Regular script world) :
    (batchBody script).wp (fun _ => Settled)
      (fun _ next => next = world.claimed.tick ∧ ¬ Opens script world.row ∨
        Recoverable script next) world.claimed := by
  unfold batchBody
  rw [wp_bind]
  apply wp_await (fun returned => ?_) fun raised => .inl ⟨rfl, fun opens => raised opens.1⟩
  cases isIdentity : script.identity with
  | none => exact .inl ⟨rfl, fun opens => by simp [Opens, isIdentity] at opens⟩
  | some identity =>
    dsimp only
    rw [wp_bind, wp_get]
    split
    · rename_i isOther
      refine .inl ⟨rfl, fun opens => ?_⟩
      have isSame := opens.2
      rw [isIdentity, Option.any_some, Option.all_eq_true] at isSame
      obtain ⟨known, isKnown, notSame⟩ := (Option.any_eq_true _ _).mp isOther
      exact (of_decide_eq_true notSame) (of_decide_eq_true (isSame known isKnown))
    · rw [wp_bind, wp_modify, wp_bind]
      have started : Settled (world.claimed.tick.start identity) := ⟨rfl, rfl, rfl⟩
      apply wp_save (fun _ => .inr started.tick.recoverable)
      intro _ _
      have saved : Settled ((world.claimed.tick.start identity).tick.commit false) :=
        ⟨rfl, rfl, rfl⟩
      refine ⟨fun stored => ?_, .inr saved.recoverable⟩
      rw [wp_bind, wp_get, wp_bind]
      have kept := regular.kept identity isIdentity stored
      apply wp_mono (scanPhase_recoverable _ saved rfl kept)
      · intro consumed next isSettled
        rw [wp_bind]
        apply wp_mono (reconcilePhase_settled _ isSettled)
        · intro _ last isSettled
          rw [wp_bind]
          apply wp_await (fun _ => ?_) fun _ => .inr isSettled.tick.recoverable
          exact wp_save_settled isSettled.tick (fun _ => id) fun _ settled =>
            .inr settled.recoverable
        · exact fun _ _ settled => .inr settled.recoverable
      · exact fun _ _ => .inr

theorem Regular.ended {world : World π} (regular : Regular script world) :
    Ended world (runBatch script world).2 := by
  have ends : (batch script).wp (fun _ => Ended world) (fun _ => Ended world) world.claimed := by
    unfold batch
    rw [wp_tryCatch]
    apply wp_mono (batchBody_recoverable regular)
    · exact fun _ next settled =>
        ⟨settled.noneLost, settled.allSaved, fun _ => .inl settled.isBegun⟩
    · intro _ next raised
      rw [wp_bind, wp_modify, wp_bind]
      have ticks (last : Run π) (ended : Ended world last) : (do
          await script
          throw () : Batch π Unit).wp (fun _ => Ended world) (fun _ => Ended world) last := by
        have ticked : Ended world last.tick := ⟨ended.noneLost, ended.allSaved, ended.opened⟩
        rw [wp_bind]
        exact wp_await (fun _ => ticked) fun _ => ticked
      obtain ⟨rfl, notOpened⟩ | recoverable := raised
      · apply wp_save fun _ => ⟨rfl, rfl, fun _ => .inr rfl⟩
        intro _ stored
        have ended : Ended world ((world.claimed.tick.fail).tick.commit true) := by
          refine ⟨rfl, rfl, fun isOver => ?_⟩
          exact absurd ((regular.opened isOver).resolve_left notOpened) stored
        exact ⟨fun _ => ticks _ ended, ended⟩
      · apply wp_save
        · intro refused
          refine ⟨recoverable.noneLost, recoverable.allSaved.resolve_right ?_,
            fun _ => .inl recoverable.isBegun⟩
          rintro ⟨held, stored⟩
          exact refused.elim (fun isReleased => nomatch held.symm.trans isReleased) stored
        · intro _ _
          have ended : Ended world (next.fail.tick.commit true) :=
            ⟨recoverable.noneLost, rfl, fun _ => .inl recoverable.isBegun⟩
          exact ⟨fun _ => ticks _ ended, ended⟩
  unfold Method.wp at ends
  unfold runBatch
  rcases ended : batch script world.claimed with ⟨_ | _, next⟩ <;> rwa [ended] at ends

end

variable [LinearOrder π]

/-- Every batch of a series is regular. -/
def AllRegular : List (ℕ × Script π) → World π → Prop
  | [], _ => True
  | (size, script) :: later, world => Regular script (world.resized size) ∧
    AllRegular later (runBatch script (world.resized size)).2.toWorld

theorem Books.batches {batches : List (ℕ × Script π)} (books : Books world)
    (regular : AllRegular batches world) : Books (runBatches batches world) := by
  induction batches generalizing world with
  | nil => exact books
  | cons first later ih =>
    obtain ⟨size, _⟩ := first
    have resized : Books (world.resized size) := by
      refine ⟨books.accounted, books.closed, fun isOpen => ?_⟩
      have counts := books.running isOpen
      exact ⟨counts.notIdle, counts.cycle, counts.imported, counts.skipped⟩
    exact ih (resized.batch regular.1.ended) regular.2

/-- Over any series of regular batches of a new plan, each completed cycle has the next number
and its counters are what imports returned since the cycle before. -/
theorem completed_cycles_are_accounted (batches : List (ℕ × Script π))
    (regular : AllRegular batches { row := {} }) :
    Accounted (runBatches batches { row := {} }).cycles := by
  have books : Books ({ row := {} } : World π) :=
    ⟨trivial, fun _ => ⟨rfl, rfl, rfl⟩, fun isOpen => absurd (.inl rfl) isOpen⟩
  exact (books.batches regular).accounted

/-- A folder with one document, whose imports end as given. -/
def oneDocument (outcome : Outcome) : Script ℕ where
  identity := some "root"
  documents startAfter := if startAfter = none then [1] else []
  outcome _ := outcome
  maxManagedSources := 10

theorem completed_cycles_are_accounted_twice :
    Accounted (runBatches [(25, oneDocument .done), (25, oneDocument .skipped)]
      ({ row := {} } : World ℕ)).cycles :=
  completed_cycles_are_accounted _ ⟨⟨by decide +kernel, by decide +kernel⟩,
    ⟨by decide +kernel, by decide +kernel⟩, trivial⟩

/-- After a completed cycle the root is unavailable once: the next cycle completes under the
number of the first one and still counts its import. -/
theorem failed_opening_keeps_counters :
    let cycles := (runBatches [(25, oneDocument .done),
      (25, { oneDocument .done with identity := none }), (25, oneDocument .skipped)]
      ({ row := {} } : World ℕ)).cycles
    cycles =
        [{ number := 1, importedCount := 1, skippedCount := 1, imported := 0, skipped := 1 },
          { number := 1, importedCount := 1, skippedCount := 0, imported := 1, skipped := 0 }] ∧
      ¬ Accounted cycles := by
  intro cycles
  have isTwo : cycles =
      [{ number := 1, importedCount := 1, skippedCount := 1, imported := 0, skipped := 1 },
        { number := 1, importedCount := 1, skippedCount := 0, imported := 1, skipped := 0 }] := by
    decide +kernel
  rw [isTwo]
  exact ⟨rfl, fun accounted => absurd accounted.1.1 (by decide)⟩

end AegisRag.Ingestion.FolderSync
