import AegisRag.Semantics.Meter
import AegisRag.Agent.Durable.Fencing

/-!
# Active-time accounting

Store operations on one run under a clock that never goes back. An observer
keeps a `Book` of the run: how long it was leased with its active window open,
how much of that its owner worked, and how many claims found the window
unsettled. Each transaction acts on the row as `MeterEffect` lists.
-/

namespace AegisRag.Agent.Durable

open Semantics RunCell

/-- A snapshot's active budget under a lease, read as a meter. -/
def DurableSnapshot.meter (snapshot : DurableSnapshot) (leaseUntil : Option Seconds)
    (budget : DurableActiveBudget) : Meter Seconds where
  used := budget.secondsUsed
  limit := snapshot.config.timeoutSeconds
  since := budget.activeSinceAt
  observed := snapshot.lastObservedAt
  leaseUntil
  deadline := snapshot.deadlineAt
  expires := snapshot.expiresAt

/-- The meter of a row that has an active budget. -/
def RunRow.meter (row : RunRow) : Option (Meter Seconds) :=
  row.snapshot.activeBudget.map (row.snapshot.meter row.leaseUntil)

namespace Operation

/-- The clock reading an operation passes. -/
def instant : Operation → Option Seconds
  | .create _ | .release .. => none
  | .createKeyed _ _ now _ | .acquire _ _ now .. | .renew _ _ now _ => some now
  | .save _ _ _ now _ | .cancel _ now .. => some now
  | .graphPut _ _ now .. | .graphWrites _ _ now .. | .purge _ now => some now

def leaseSeconds : Operation → Option Seconds
  | .createKeyed _ _ _ leaseSeconds | .acquire _ _ _ leaseSeconds _ => some leaseSeconds
  | .renew _ _ _ leaseSeconds => some leaseSeconds
  | _ => none

/-- The token of the worker that issues an operation, where it presents one. -/
def actor : Operation → Option String
  | .createKeyed _ token .. | .acquire _ token .. | .renew _ token .. => some token
  | .release _ token | .save _ _ token .. => some token
  | .cancel _ _ ownership _ => ownership
  | .graphPut _ token .. | .graphWrites _ token .. => some token
  | .create _ | .purge .. => none

end Operation

/-- What happens to a timed run: a transaction, or its owner's process stops. -/
inductive Occurrence where
  | operate (operation : Operation)
  | halt

/-- A run and what an observer has written down about it. -/
structure Timed where
  chronicle : Chronicle
  book : Book Seconds

namespace Timed

def initial (clock : Seconds) : Timed := ⟨.initial, ⟨clock, 0, 0, 0, true⟩⟩

def meter (timed : Timed) : Option (Meter Seconds) :=
  timed.chronicle.cell.run.bind RunRow.meter

/-- Let the clock reach `now`. -/
def elapse (timed : Timed) (now : Seconds) : Timed :=
  match timed.meter with
  | some meter => { timed with book := timed.book.elapse meter now }
  | none => { timed with book := { timed.book with clock := now } }

/-- Whether a claim would find an active window open. -/
def unsettled (timed : Timed) : Bool := timed.meter.any (·.since.isSome)

/-- What the observer writes down about a committed transaction. -/
def note (timed : Timed) : Operation → Book Seconds
  | .acquire .. => timed.book.claim timed.unsettled
  | _ => timed.book

/-- One occurrence at `now`. -/
def occur (codec : Codec) (timed : Timed) (now : Seconds) (occurrence : Occurrence) : Timed :=
  let timed := timed.elapse now
  match occurrence with
  | .halt => { timed with book := { timed.book with working := false } }
  | .operate operation =>
    match timed.chronicle.perform codec operation with
    | .ok (_, next) => ⟨next, timed.note operation⟩
    | .error _ => timed

/-- A snapshot whose window, if any, opens at its start with nothing used. -/
structure Opens (snapshot : DurableSnapshot) (now : Seconds) : Prop where
  budget : ∀ budget, snapshot.activeBudget = some budget →
    budget.secondsUsed = 0 ∧ 0 ≤ snapshot.config.timeoutSeconds ∧
      (∀ since, budget.activeSinceAt = some since →
        since = snapshot.lastObservedAt ∧ snapshot.status = .running) ∧
      snapshot.deadlineAt =
        min (snapshot.lastObservedAt + snapshot.config.timeoutSeconds) snapshot.expiresAt
  past : snapshot.lastObservedAt ≤ now

/-- The occurrences a run under leases of such lengths and a forward clock can see: a
save passes a copy of its predecessor, and a stopped process issues nothing. -/
structure Legal (lengths : Seconds → Prop) (timed : Timed) (now : Seconds)
    (occurrence : Occurrence) : Prop where
  forward : timed.book.clock ≤ now
  known : ∀ operation, occurrence = .operate operation → timed.chronicle.Knows operation
  instant : ∀ operation, occurrence = .operate operation →
    ∀ reading, operation.instant = some reading → reading = now
  lease : ∀ operation, occurrence = .operate operation →
    ∀ length, operation.leaseSeconds = some length → lengths length
  copied : ∀ previous snapshot token reading entry,
    occurrence = .operate (.save previous snapshot token reading entry) →
    snapshot.config = previous.config ∧ snapshot.expiresAt = previous.expiresAt ∧
      snapshot.activeBudget.isSome = previous.activeBudget.isSome
  opens : ∀ snapshot, occurrence = .operate (.create snapshot) → Opens snapshot now
  opensKeyed : ∀ snapshot token reading length,
    occurrence = .operate (.createKeyed snapshot token reading length) → Opens snapshot now
  stopped : ∀ operation, occurrence = .operate operation → timed.book.working = false →
    ∀ row token, timed.chronicle.cell.run = some row → row.leaseToken = some token →
      operation.actor ≠ some token
  halts : occurrence = .halt → timed.chronicle.committed ≠ []

/-- The timed runs all of whose occurrences are legal and allowed. -/
inductive Reachable (codec : Codec) (lengths : Seconds → Prop)
    (allowed : Timed → Seconds → Occurrence → Prop) : Timed → Prop
  | initial (clock : Seconds) : Reachable codec lengths allowed (.initial clock)
  | occur {timed : Timed} {now : Seconds} {occurrence : Occurrence}
      (reachable : Reachable codec lengths allowed timed)
      (legal : Legal lengths timed now occurrence) (allows : allowed timed now occurrence) :
      Reachable codec lengths allowed (timed.occur codec now occurrence)

end Timed

/-! ## Transactions as charges -/

/-- The charge of an active-budget claim, on the meter's own terms. -/
def crashAmount (meter : Meter Seconds) (now : Seconds) : Seconds :=
  match meter.since with
  | none => 0
  | some since => max (min now (orFallback meter.leaseUntil meter.observed) - since) 0

/-- The charge of a save or a cancel. -/
def settleAmount (meter : Meter Seconds) (now : Seconds) : Seconds :=
  match meter.since with
  | none => 0
  | some since => max (now - since) 0

/-- What a committed transaction at `now` does to the meter of an existing run. -/
inductive MeterEffect (now : Seconds) (row : RunRow) (meter : Meter Seconds) :
    Operation → Meter Seconds → Prop
  | claimed {snapshot token reading length activateBudget} (reopen : Bool)
      (free : ∀ lease, meter.leaseUntil = some lease → lease ≤ now) :
      MeterEffect now row meter (.acquire snapshot token reading length activateBudget)
        (meter.commit (crashAmount meter now) now reopen (some (now + length)))
  | settled {previous snapshot token reading entry} {lease : Seconds} (reopen : Bool)
      (owner : row.leaseToken = some token) (held : meter.leaseUntil = some lease)
      (live : now < lease) :
      MeterEffect now row meter (.save previous snapshot token reading entry)
        (meter.commit (settleAmount meter now) now reopen meter.leaseUntil)
  | cancelled {previous reading ownership allowUnclaimed} :
      MeterEffect now row meter (.cancel previous reading ownership allowUnclaimed)
        (meter.commit (settleAmount meter now) now false none)
  | renewed {snapshot token reading length} {lease : Seconds}
      (owner : row.leaseToken = some token) (held : meter.leaseUntil = some lease)
      (live : now < lease) : MeterEffect now row meter (.renew snapshot token reading length)
        (meter.relet (some (now + length)))
  | released {snapshot token} (owner : row.leaseToken = some token) :
      MeterEffect now row meter (.release snapshot token) (meter.relet none)
  | kept {operation} (idle : ∀ snapshot token reading length activateBudget,
        operation ≠ .acquire snapshot token reading length activateBudget)
      (unsaved : ∀ previous snapshot token reading entry,
        operation ≠ .save previous snapshot token reading entry) :
      MeterEffect now row meter operation meter

/-- An open window belongs to a running row. -/
def RunRow.WindowRuns (row : RunRow) : Prop :=
  ∀ budget since, row.snapshot.activeBudget = some budget →
    budget.activeSinceAt = some since → row.status = .running

variable {snapshot : DurableSnapshot} {token : String} {operation : Operation} {timed : Timed}
  {occurrence : Occurrence} {before after : Meter Seconds}

variable {previous : DurableSnapshot}

theorem RunRow.meter_some {row : RunRow} {meter : Meter Seconds}
    (metered : row.meter = some meter) :
    ∃ budget, row.snapshot.activeBudget = some budget ∧
      row.snapshot.meter row.leaseUntil budget = meter := by
  unfold RunRow.meter at metered
  cases active : row.snapshot.activeBudget with
  | none => simp [active] at metered
  | some budget =>
    simp only [active, Option.map_some, Option.some.injEq] at metered
    exact ⟨budget, rfl, metered⟩

theorem RunRow.meter_of_budget {row : RunRow} (active : row.snapshot.activeBudget = some budget) :
    row.meter = some (row.snapshot.meter row.leaseUntil budget) := by
  simp [RunRow.meter, active]

/-- What one committed transaction does to an active run's row. -/
structure Charged (now : Seconds) (chronicle : Chronicle) (operation : Operation)
    (row : RunRow) (meter : Meter Seconds) : Prop where
  holds : ∃ old before, chronicle.cell.run = some old ∧ old.meter = some before ∧
    MeterEffect now old before operation meter ∧ (old.WindowRuns → row.WindowRuns)

theorem crashCharge_eq (row : RunRow) (budget : DurableActiveBudget) (now : Seconds) :
    budget.crashCharge row.leaseUntil row.snapshot.lastObservedAt now =
      crashAmount (row.snapshot.meter row.leaseUntil budget) now := rfl

section

variable {chronicle : Chronicle} {leaseSeconds now : Seconds} {row : RunRow} {cell : RunCell}
  {meter : Meter Seconds}

theorem acquire_charged {activateBudget : Bool} (fenced : chronicle.Fenced)
    (known : chronicle.Knows (.acquire snapshot token now leaseSeconds activateBudget))
    (acquired : chronicle.cell.acquire codec snapshot token now leaseSeconds activateBudget =
      .ok (saved, cell)) (found : cell.run = some row) (metered : row.meter = some meter) :
    Charged now chronicle (.acquire snapshot token now leaseSeconds activateBudget)
      row meter := by
  obtain ⟨old, oldFound, claimable, cell, outcome⟩ := acquire_ok acquired
  simp only [RunCell.claimable, Bool.and_eq_true, beq_iff_eq, Bool.not_eq_true',
    decide_eq_true_eq] at claimable
  have current : old.snapshot = snapshot :=
    fenced.current oldFound (known snapshot rfl) claimable.1.1.1.2
  have status : old.status = snapshot.status := by
    rw [← current]
    exact (fenced.stored old oldFound).2.2
  obtain rfl : claimRow snapshot saved token (now + leaseSeconds) old = row := by
    rw [cell] at found
    exact Option.some.inj found
  rcases outcome with ⟨wallClock, rfl⟩ | ⟨budget, active, _, rfl⟩
  · obtain ⟨_, impossible, _⟩ := RunRow.meter_some metered
    simp [claimRow, wallClock, current] at impossible
  · have oldActive : old.snapshot.activeBudget = some budget := by rw [current]; exact active
    have oldMeter := RunRow.meter_of_budget oldActive
    refine ⟨old, _, oldFound, oldMeter, ?_, ?_⟩
    · have newMeter : RunRow.meter (claimRow snapshot
          (snapshot.claimed budget old.leaseUntil now activateBudget) token (now + leaseSeconds)
          old) = some (Meter.commit (old.snapshot.meter old.leaseUntil budget)
            (crashAmount (old.snapshot.meter old.leaseUntil budget) now) now
            (activateBudget && snapshot.status == .running) (some (now + leaseSeconds))) := by
        rw [← crashCharge_eq old budget now, current]
        simp [RunRow.meter, claimRow, active, DurableSnapshot.claimed, Meter.commit,
          DurableSnapshot.meter]
      rw [newMeter] at metered
      cases metered
      refine .claimed _ ?_
      intro lease held
      have free := claimable.2
      simp only [RunRow.leaseFree] at free
      simp only [DurableSnapshot.meter] at held
      simpa [held] using free
    · intro _ newBudget since newActive opened
      simp only [claimRow, active, Option.isSome_some, if_true, DurableSnapshot.claimed,
        Option.some.injEq] at newActive
      subst newActive
      simp only [Option.ite_none_right_eq_some, Bool.and_eq_true, beq_iff_eq] at opened
      simp only [claimRow, active, Option.isSome_some, if_true, status]
      exact opened.1.2

/-- A settlement commits the open time and opens a window only for a running row. -/
theorem settled_charged {target saved : DurableSnapshot}
    (settled : settleActive previous target now = .ok saved)
    (oldFound : chronicle.cell.run = some old) (current : old.snapshot = previous)
    (config : target.config = previous.config) (expires : target.expiresAt = previous.expiresAt)
    (wallClock : previous.activeBudget = none → target.activeBudget = none)
    (observed : target.lastObservedAt = now) (stored : row.snapshot = saved)
    (status : row.status = target.status) (metered : row.meter = some meter)
    (effect : ∀ (reopen : Bool) budget, (reopen = true → target.status = .running) →
      MeterEffect now old (old.snapshot.meter old.leaseUntil budget) operation
        ((old.snapshot.meter old.leaseUntil budget).commit
          (settleAmount (old.snapshot.meter old.leaseUntil budget) now) now reopen
          row.leaseUntil)) :
    Charged now chronicle operation row meter := by
  obtain ⟨_, newActive, rfl⟩ := RunRow.meter_some metered
  rw [stored] at newActive
  cases active : previous.activeBudget with
  | none =>
    rw [settleActive_wallClock active settled, wallClock active] at newActive
    contradiction
  | some budget =>
    obtain ⟨reopen, runs, budgetEq, deadlineEq⟩ := settleActive_budget active settled
    cases budgetEq.symm.trans newActive
    have oldMeter := RunRow.meter_of_budget (current ▸ active)
    refine ⟨old, _, oldFound, oldMeter, ?_, ?_⟩
    · have committed := effect reopen budget runs
      simp only [DurableSnapshot.meter, Meter.commit, current] at committed
      rw [stored, settleActive_frame settled]
      simp only [DurableSnapshot.meter, current, deadlineEq, config, expires, observed]
      exact committed
    · intro _ laterBudget since laterActive opened
      cases newActive.symm.trans (stored ▸ laterActive)
      simp only [Option.ite_none_right_eq_some] at opened
      rw [status]
      exact runs opened.1

theorem save_charged (fenced : chronicle.Fenced)
    (known : chronicle.Knows (.save previous snapshot token now entry))
    (copied : snapshot.config = previous.config ∧ snapshot.expiresAt = previous.expiresAt ∧
      snapshot.activeBudget.isSome = previous.activeBudget.isSome)
    (committed : chronicle.cell.save codec previous snapshot token now entry = .ok (saved, cell))
    (found : cell.run = some row) (metered : row.meter = some meter) :
    Charged now chronicle (.save previous snapshot token now entry) row meter := by
  obtain ⟨old, _, oldFound, savable, settled, _, cell⟩ := save_ok committed
  simp only [RunCell.savable, Bool.and_eq_true, beq_iff_eq] at savable
  have current : old.snapshot = previous :=
    fenced.current oldFound (known previous rfl) savable.1.1.2
  cases (congrArg RunCell.run cell).symm.trans found
  have held := savable.1.2
  simp only [RunRow.heldBy, Bool.and_eq_true, beq_iff_eq] at held
  obtain ⟨_, lease, live⟩ := (Option.any_eq_true _ _).mp held.2
  apply settled_charged settled oldFound current copied.1 copied.2.1 _ rfl rfl _ metered
  · intro reopen budget _
    exact .settled reopen held.1 lease (by simpa using live)
  · intro wallClock
    simpa [wallClock] using copied.2.2
  · rw [savedSnapshot_frame settled]

theorem cancel_charged (fenced : chronicle.Fenced)
    (known : chronicle.Knows (.cancel previous now ownership allowUnclaimed))
    (committed : chronicle.cell.cancel codec previous now ownership allowUnclaimed =
      .ok (saved, cell)) (found : cell.run = some row) (metered : row.meter = some meter) :
    Charged now chronicle (.cancel previous now ownership allowUnclaimed) row meter := by
  obtain ⟨old, oldFound, cancellable, settled, cell⟩ := cancel_ok committed
  simp only [RunCell.cancellable, Bool.and_eq_true, beq_iff_eq] at cancellable
  have current : old.snapshot = previous :=
    fenced.current oldFound (known previous rfl) cancellable.1.2
  cases (congrArg RunCell.run cell).symm.trans found
  apply settled_charged settled oldFound current rfl rfl (fun wallClock => wallClock) rfl rfl rfl
    metered
  intro reopen budget runs
  obtain rfl : reopen = false := by
    by_contra reopened
    have running := runs (by simpa using reopened)
    simp at running
  exact .cancelled

theorem renew_charged
    (renewed : chronicle.cell.renew snapshot token now leaseSeconds = .ok cell)
    (found : cell.run = some row) (metered : row.meter = some meter) :
    Charged now chronicle (.renew snapshot token now leaseSeconds) row meter := by
  obtain ⟨old, oldFound, _, held, _, rfl⟩ := renew_ok renewed
  cases found
  obtain ⟨_, active, rfl⟩ := RunRow.meter_some metered
  simp only [RunRow.heldBy, Bool.and_eq_true, beq_iff_eq] at held
  obtain ⟨_, lease, live⟩ := (Option.any_eq_true _ _).mp held.2
  refine ⟨old, _, oldFound, RunRow.meter_of_budget active, ?_, fun windowRuns => windowRuns⟩
  exact .renewed held.1 lease (by simpa using live)

theorem release_charged (found : (chronicle.cell.release snapshot token).run = some row)
    (metered : row.meter = some meter) :
    Charged now chronicle (.release snapshot token) row meter := by
  rcases release_cases snapshot token chronicle.cell with
    unchanged | ⟨old, oldFound, _, owner, changed⟩
  · rw [unchanged] at found
    refine ⟨row, meter, found, metered, ?_, fun windowRuns => windowRuns⟩
    exact .kept (by simp) (by simp)
  · rw [changed] at found
    cases found
    obtain ⟨_, active, rfl⟩ := RunRow.meter_some metered
    refine ⟨old, _, oldFound, RunRow.meter_of_budget active, ?_, fun windowRuns => windowRuns⟩
    exact .released owner

theorem kept_charged (found : chronicle.cell.run = some row) (metered : row.meter = some meter)
    (idle : ∀ snapshot token reading length activateBudget,
      operation ≠ .acquire snapshot token reading length activateBudget)
    (unsaved : ∀ previous snapshot token reading entry,
      operation ≠ .save previous snapshot token reading entry) :
    Charged now chronicle operation row meter :=
  ⟨row, meter, found, metered, .kept idle unsaved, fun windowRuns => windowRuns⟩

end

/-- Every committed transaction charges an existing run or inserts a new one. -/
theorem perform_charged (fenced : timed.chronicle.Fenced)
    (legal : Timed.Legal lengths timed now (.operate operation))
    (performed : timed.chronicle.perform codec operation = .ok (returned, next))
    (found : next.cell.run = some row) (metered : row.meter = some meter) :
    Charged now timed.chronicle operation row meter ∨
      timed.chronicle.committed = [] ∧ returned.isSome ∧
        ∃ snapshot, operation.inserted = some snapshot ∧ row.snapshot = snapshot ∧
          row.status = snapshot.status ∧ row.leaseUntil = operation.insertedLease := by
  have known := legal.known operation rfl
  have instant := legal.instant operation rfl
  cases Chronicle.perform_ok performed with
  | inserted inserts added =>
    obtain ⟨absent, _, _, _, _, run⟩ := addNew_some added
    cases run.symm.trans found
    exact Or.inr ⟨fenced.fresh absent, rfl, _, inserts, rfl, rfl, rfl⟩
  | acquired acquired =>
    obtain rfl := instant _ rfl
    exact Or.inl (acquire_charged fenced known acquired found metered)
  | renewed renewed =>
    obtain rfl := instant _ rfl
    exact Or.inl (renew_charged renewed found metered)
  | released => exact Or.inl (release_charged found metered)
  | saved committed =>
    obtain rfl := instant _ rfl
    have copied := legal.copied _ _ _ _ _ rfl
    exact Or.inl (save_charged fenced known copied committed found metered)
  | cancelled committed =>
    obtain rfl := instant _ rfl
    exact Or.inl (cancel_charged fenced known committed found metered)
  | purged => simp [RunCell.purge] at found
  | kept keeps =>
    refine Or.inl (kept_charged found metered ?_ ?_)
    all_goals
      rintro _ _ _ _ _ rfl
      cases keeps

/-! ## Whole runs -/

namespace Timed

variable {codec : Codec} {lengths : Seconds → Prop} {leaseSeconds now : Seconds} {row : RunRow}
  {meter : Meter Seconds} {returned : Option DurableSnapshot}

/-- What every timed run keeps, whatever it is charged. -/
structure Accounted (timed : Timed) : Prop where
  fenced : timed.chronicle.Fenced
  sound : ∀ row meter, timed.chronicle.cell.run = some row → row.meter = some meter →
    meter.Sound timed.book.clock ∧ row.WindowRuns
  unopened : timed.chronicle.committed = [] →
    timed.book.held = 0 ∧ timed.book.worked = 0 ∧ timed.book.working = true

@[simp] theorem elapse_chronicle (timed : Timed) (now : Seconds) :
    (timed.elapse now).chronicle = timed.chronicle := by
  unfold elapse
  split <;> rfl

@[simp] theorem elapse_clock (timed : Timed) (now : Seconds) :
    (timed.elapse now).book.clock = now := by
  unfold elapse
  split <;> rfl

@[simp] theorem elapse_working (timed : Timed) (now : Seconds) :
    (timed.elapse now).book.working = timed.book.working := by
  unfold elapse
  split <;> rfl

theorem elapse_book (found : timed.chronicle.cell.run = some row) (metered : row.meter = some meter)
    (now : Seconds) :
    (timed.elapse now).book = timed.book.elapse meter now := by
  simp [elapse, Timed.meter, found, metered]

theorem Legal.elapsed (legal : Legal lengths timed now occurrence) :
    Legal lengths (timed.elapse now) now occurrence := by
  refine ⟨by simp, ?_, legal.instant, legal.lease, legal.copied, legal.opens,
    legal.opensKeyed, ?_, ?_⟩
  · simpa using legal.known
  · simpa using legal.stopped
  · simpa using legal.halts

theorem Accounted.elapsed (accounted : timed.Accounted)
    (forward : timed.book.clock ≤ now) : (timed.elapse now).Accounted := by
  refine ⟨by simpa using accounted.fenced, ?_, ?_⟩
  · intro row meter found metered
    simp only [elapse_chronicle] at found
    obtain ⟨sound, runs⟩ := accounted.sound row meter found metered
    simp only [elapse_clock]
    exact ⟨sound.later forward, runs⟩
  · intro unopened
    simp only [elapse_chronicle] at unopened
    have zero := accounted.unopened unopened
    have absent : timed.meter = none := by
      cases found : timed.chronicle.cell.run with
      | none => simp [Timed.meter, found]
      | some row =>
        have head := (accounted.fenced.stored row found).1
        simp [unopened] at head
    simpa [elapse, absent] using zero

theorem Opens.sound (opens : Opens snapshot now) (same : row.snapshot = snapshot)
    (status : row.status = snapshot.status) (metered : row.meter = some meter) :
    meter.used = 0 ∧ meter.Sound now ∧ row.WindowRuns := by
  obtain ⟨budget, active, rfl⟩ := RunRow.meter_some metered
  have opened := opens.budget budget (by rw [← same]; exact active)
  refine ⟨opened.1, ⟨?_, ?_, ?_⟩, ?_⟩
  · simp only [DurableSnapshot.meter, opened.1, same]
    exact opened.2.1
  · intro since window
    have start := (opened.2.2.1 since window).1
    simp only [DurableSnapshot.meter, same]
    exact ⟨start, by rw [start]; exact opens.past⟩
  · intro since window
    simp only [DurableSnapshot.meter, same, opened.1, sub_zero]
    exact opened.2.2.2
  · intro other since otherActive window
    obtain rfl := Option.some.inj (active.symm.trans otherActive)
    rw [status]
    exact (opened.2.2.1 since window).2

theorem Legal.opening (legal : Legal lengths timed now (.operate operation))
    (inserted : operation.inserted = some snapshot) : Opens snapshot now := by
  cases operation with
  | create created =>
    obtain rfl := Option.some.inj inserted
    exact legal.opens created rfl
  | createKeyed created token reading length =>
    obtain rfl := Option.some.inj inserted
    exact legal.opensKeyed created token reading length rfl
  | acquire | renew | release | save | cancel | graphPut | graphWrites | purge =>
    simp [Operation.inserted] at inserted

theorem MeterEffect.sound
    (effect : MeterEffect now row before operation after) (sound : before.Sound now) :
    after.Sound now := by
  cases effect with
  | claimed | settled | cancelled => exact Meter.commit_sound _ _ _ _ _
  | renewed | released => exact sound.relet _
  | kept => exact sound

theorem note_times (timed : Timed) (operation : Operation) :
    (timed.note operation).clock = timed.book.clock ∧
      (timed.note operation).held = timed.book.held ∧
      (timed.note operation).worked = timed.book.worked := by
  unfold note
  split <;> exact ⟨rfl, rfl, rfl⟩

theorem note_of_unclaimed (idle : ∀ snapshot token reading length activateBudget,
      operation ≠ .acquire snapshot token reading length activateBudget) :
    timed.note operation = timed.book := by
  unfold note
  split
  · exact absurd rfl (idle _ _ _ _ _)
  · rfl

theorem note_working (operation : Operation) (working : timed.book.working = true) :
    (timed.note operation).working = true := by
  unfold note
  split
  · rfl
  · exact working

theorem occur_ok (performed : timed.chronicle.perform codec operation = .ok (returned, next)) :
    timed.occur codec now (.operate operation) =
      ⟨next, (timed.elapse now).note operation⟩ := by
  simp [occur, performed]

theorem occur_operate (codec : Codec) (timed : Timed) (now : Seconds) (operation : Operation) :
    timed.occur codec now (.operate operation) = timed.elapse now ∨ ∃ returned next,
      timed.chronicle.perform codec operation = .ok (returned, next) ∧
        (timed.elapse now).chronicle.perform codec operation = .ok (returned, next) ∧
        timed.occur codec now (.operate operation) = ⟨next, (timed.elapse now).note operation⟩ := by
  cases performed : timed.chronicle.perform codec operation with
  | error failure => exact Or.inl (by simp [occur, performed])
  | ok outcome =>
    exact Or.inr ⟨_, _, rfl, by rw [elapse_chronicle, performed], occur_ok performed⟩

theorem Accounted.occur (accounted : timed.Accounted)
    (legal : Legal lengths timed now occurrence) :
    (timed.occur codec now occurrence).Accounted := by
  have elapsed := accounted.elapsed legal.forward
  cases occurrence with
  | halt =>
    refine ⟨elapsed.fenced, elapsed.sound, ?_⟩
    intro unopened
    have empty : (timed.elapse now).chronicle.committed = [] := unopened
    rw [elapse_chronicle] at empty
    exact absurd empty (legal.halts rfl)
  | operate operation =>
    have known := legal.known operation rfl
    rcases occur_operate codec timed now operation with refused | ⟨_, next, performed, _, after⟩
    · rw [refused]
      exact elapsed
    · rw [after]
      have stepped : timed.chronicle.step codec operation = next := by
        simp [Chronicle.step, performed]
      have fenced : next.Fenced := by
        rw [← stepped]
        exact accounted.fenced.step known
      obtain ⟨clock, held, worked⟩ := note_times (timed.elapse now) operation
      refine ⟨fenced, ?_, ?_⟩
      · intro row meter found metered
        simp only [clock, elapse_clock]
        rcases perform_charged accounted.fenced legal performed found metered with
          charged | ⟨_, _, _, inserted, same, status, _⟩
        · obtain ⟨old, before, oldFound, oldMetered, effect, runs⟩ := charged.holds
          obtain ⟨sound, oldRuns⟩ := accounted.sound old before oldFound oldMetered
          exact ⟨MeterEffect.sound effect (sound.later legal.forward), runs oldRuns⟩
        · exact ((legal.opening inserted).sound same status metered).2
      · intro unopened
        have kept := Chronicle.perform_cases accounted.fenced known performed
        split at kept
        · obtain ⟨_, _, _, _, _, _, committed, _⟩ := kept.holds
          simp [committed] at unopened
        · rcases kept with kept | created
          · have zero := elapsed.unopened (by
              simp only [elapse_chronicle]
              rw [← kept.committed]
              exact unopened)
            exact ⟨by simp only [held]; exact zero.1, by simp only [worked]; exact zero.2.1,
              note_working operation zero.2.2⟩
          · obtain ⟨_, _, committed, _⟩ := created.holds
            simp [committed] at unopened

theorem Accounted.initial (clock : Seconds) : (Timed.initial clock).Accounted := by
  refine ⟨Chronicle.Fenced.initial, ?_, fun _ => ⟨rfl, rfl, rfl⟩⟩
  intro row meter found
  simp [Timed.initial, Chronicle.initial, RunCell.empty] at found

theorem Reachable.accounted (reachable : Reachable codec lengths allowed timed) :
    timed.Accounted := by
  induction reachable with
  | initial clock => exact .initial clock
  | occur _ legal _ ih => exact ih.occur legal

/-! ## No refund -/

/-- No lease is released with uncharged time in its window, and no claim finds a
lease that ends at the clock's zero, which the source takes for no lease. -/
structure Retains (timed : Timed) (now : Seconds) (occurrence : Occurrence) : Prop where
  release : ∀ snapshot token row meter, occurrence = .operate (.release snapshot token) →
    timed.chronicle.cell.run = some row → row.leaseToken = some token →
    row.meter = some meter → meter.openTime now = 0
  claim : ∀ snapshot token reading length activateBudget row meter,
    occurrence = .operate (.acquire snapshot token reading length activateBudget) →
    timed.chronicle.cell.run = some row → row.meter = some meter →
    meter.since.isSome → meter.leaseUntil ≠ some 0

/-- A claim charges the whole open time of the lease it finds. -/
theorem openTime_le_crashAmount (now : Seconds)
    (nonzero : meter.since.isSome → meter.leaseUntil ≠ some 0) :
    meter.openTime now ≤ crashAmount meter now := by
  unfold Meter.openTime crashAmount Meter.leased
  cases since : meter.since with
  | none => exact le_refl _
  | some start =>
    cases lease : meter.leaseUntil with
    | none => exact le_max_right _ _
    | some finish =>
      have present : finish ≠ 0 := by
        intro zero
        exact nonzero (by simp [since]) (by rw [lease, zero])
      simp [orFallback, present]

/-- A save under a live lease charges exactly the open time. -/
theorem openTime_eq_settleAmount (held : meter.leaseUntil = some finish) (live : now ≤ finish) :
    meter.openTime now = settleAmount meter now := by
  unfold Meter.openTime settleAmount Meter.leased
  cases since : meter.since with
  | none => rfl
  | some start => simp [held, min_eq_left live]

/-- A settlement never charges less than the open time. -/
theorem openTime_le_settleAmount (meter : Meter Seconds) (now : Seconds) :
    meter.openTime now ≤ settleAmount meter now := by
  unfold Meter.openTime settleAmount Meter.leased
  cases since : meter.since with
  | none => exact le_refl _
  | some start =>
    cases lease : meter.leaseUntil with
    | none => exact le_max_right _ _
    | some finish =>
      have capped : min now finish ≤ now := min_le_left _ _
      exact max_le_max (by linarith) (le_refl _)

/-- Everything leased so far is charged or still open. -/
def Covered (timed : Timed) : Prop :=
  ∀ row meter, timed.chronicle.cell.run = some row → row.meter = some meter →
    timed.book.Covers meter

theorem Covered.elapsed (covered : timed.Covered) (accounted : timed.Accounted)
    (forward : timed.book.clock ≤ now) : (timed.elapse now).Covered := by
  intro row meter found metered
  simp only [elapse_chronicle] at found
  rw [elapse_book found metered]
  exact (covered row meter found metered).elapse (accounted.sound row meter found metered).1 forward

/-- The operations that charge what is open. -/
def Settles (operation : Operation) : Prop :=
  (∃ snapshot token reading length activateBudget,
      operation = .acquire snapshot token reading length activateBudget) ∨
    ∃ previous snapshot token reading entry,
      operation = .save previous snapshot token reading entry

theorem MeterEffect.covers (effect : MeterEffect now row before operation after)
    (positive : ∀ length, operation.leaseSeconds = some length → 0 < length)
    (clock : timed.book.clock = now) (found : timed.chronicle.cell.run = some row)
    (metered : row.meter = some before) (retains : Retains timed now (.operate operation))
    (covers : timed.book.Covers before) :
    timed.book.Covers after ∧
      (Settles operation → min after.limit timed.book.held ≤ after.used) := by
  subst clock
  have commits (amount : Seconds) (reopen : Bool) (leaseUntil : Option Seconds)
      (enough : before.openTime timed.book.clock ≤ amount) :
      timed.book.Covers (before.commit amount timed.book.clock reopen leaseUntil) ∧
        (Settles operation → min before.limit timed.book.held ≤
          (before.commit amount timed.book.clock reopen leaseUntil).used) := by
    have settled : min before.limit timed.book.held ≤
        (before.commit amount timed.book.clock reopen leaseUntil).used := covers.commit enough
    refine ⟨?_, fun _ => settled⟩
    unfold Book.Covers
    rw [Meter.commit_openTime, add_zero]
    exact settled
  cases effect with
  | @claimed snapshot token reading length activateBudget reopen free =>
    exact commits _ _ _ (openTime_le_crashAmount _ (retains.claim snapshot token reading length
      activateBudget row before rfl found metered))
  | settled | cancelled => exact commits _ _ _ (openTime_le_settleAmount before _)
  | @renewed snapshot token reading length lease owner held live =>
    constructor
    · have longer := positive length rfl
      unfold Book.Covers at covers ⊢
      rw [Meter.relet_openTime held (le_of_lt live) (by linarith)]
      exact covers
    · rintro (⟨_, _, _, _, _, impossible⟩ | ⟨_, _, _, _, _, impossible⟩) <;> cases impossible
  | @released snapshot token owner =>
    constructor
    · have nothing := retains.release snapshot token row before rfl found owner metered
      unfold Book.Covers at covers ⊢
      rw [nothing] at covers
      rw [Meter.relet_none_openTime]
      exact covers
    · rintro (⟨_, _, _, _, _, impossible⟩ | ⟨_, _, _, _, _, impossible⟩) <;> cases impossible
  | kept idle unsaved =>
    refine ⟨covers, ?_⟩
    rintro (⟨_, _, _, _, _, acquires⟩ | ⟨_, _, _, _, _, saves⟩)
    · exact absurd acquires (idle _ _ _ _ _)
    · exact absurd saves (unsaved _ _ _ _ _)

theorem note_covers (operation : Operation)
    (covers : timed.book.Covers meter) : (timed.note operation).Covers meter := by
  obtain ⟨clock, held, _⟩ := note_times timed operation
  unfold Book.Covers at covers ⊢
  rw [clock, held]
  exact covers

theorem Retains.elapsed (retains : Retains timed now occurrence) :
    Retains (timed.elapse now) now occurrence :=
  ⟨by simpa using retains.release, by simpa using retains.claim⟩

theorem Covered.perform (covered : timed.Covered) (accounted : timed.Accounted)
    (legal : Legal (0 < ·) timed now (.operate operation))
    (retains : Retains timed now (.operate operation)) (clock : timed.book.clock = now)
    (performed : timed.chronicle.perform codec operation = .ok (returned, next))
    (found : next.cell.run = some row) (metered : row.meter = some meter) :
    timed.book.Covers meter ∧
      (Settles operation → min meter.limit timed.book.held ≤ meter.used) := by
  rcases perform_charged accounted.fenced legal performed found metered with
    charged | ⟨unopened, _, snapshot, inserted, same, status, _⟩
  · obtain ⟨old, before, oldFound, oldMetered, effect, _⟩ := charged.holds
    exact MeterEffect.covers effect (legal.lease operation rfl) clock oldFound oldMetered retains
      (covered old before oldFound oldMetered)
  · obtain ⟨used, sound, _⟩ := (legal.opening inserted).sound same status metered
    have held := (accounted.unopened unopened).1
    have nothing : min meter.limit timed.book.held ≤ meter.used := by
      rw [held, used]
      exact min_le_right _ _
    have nonneg := meter.openTime_nonneg timed.book.clock
    refine ⟨?_, fun _ => nothing⟩
    unfold Book.Covers
    linarith

theorem Covered.occur (covered : timed.Covered) (accounted : timed.Accounted)
    (legal : Legal (0 < ·) timed now occurrence) (retains : Retains timed now occurrence) :
    (timed.occur codec now occurrence).Covered := by
  have elapsed := covered.elapsed accounted legal.forward
  cases occurrence with
  | halt => exact elapsed
  | operate operation =>
    rcases occur_operate codec timed now operation with refused | ⟨_, _, _, performed, after⟩
    · rw [refused]
      exact elapsed
    · rw [after]
      intro row meter found metered
      have covers := (elapsed.perform (accounted.elapsed legal.forward) legal.elapsed
        retains.elapsed (elapse_clock timed now) performed found metered).1
      exact note_covers operation covers

theorem Reachable.covered (reachable : Reachable codec (0 < ·) Retains timed) :
    timed.Covered := by
  induction reachable with
  | initial clock =>
    intro row meter found
    simp [Timed.initial, Chronicle.initial, RunCell.empty] at found
  | occur reachable legal retains ih =>
    exact ih.occur reachable.accounted legal retains

/-- In every run whose steps all retain uncharged time, a committed claim or save
has charged all leased running time so far, up to the budget. -/
theorem active_time_never_refunded (codec : Codec) {now : Seconds} {timed : Timed}
    {operation : Operation} (reachable : Reachable codec (0 < ·) Retains timed)
    (legal : Legal (0 < ·) timed now (.operate operation))
    (retains : Retains timed now (.operate operation))
    (commits : (∃ snapshot token reading length activateBudget,
        operation = .acquire snapshot token reading length activateBudget) ∨
      ∃ previous snapshot token reading entry,
        operation = .save previous snapshot token reading entry)
    {returned : Option DurableSnapshot} {next : Chronicle}
    (performed : timed.chronicle.perform codec operation = .ok (returned, next))
    {row : RunRow} {budget : DurableActiveBudget} (found : next.cell.run = some row)
    (active : row.snapshot.activeBudget = some budget) :
    min row.snapshot.config.timeoutSeconds (timed.occur codec now (.operate operation)).book.held ≤
      budget.secondsUsed := by
  have accounted := reachable.accounted
  have elapsed := reachable.covered.elapsed accounted legal.forward
  have performedLater : (timed.elapse now).chronicle.perform codec operation =
      .ok (returned, next) := by
    rw [elapse_chronicle]
    exact performed
  have charged := (elapsed.perform (accounted.elapsed legal.forward) legal.elapsed
    retains.elapsed (elapse_clock timed now) performedLater found
    (RunRow.meter_of_budget active)).2 commits
  rw [occur_ok performed, (note_times _ _).2.1]
  exact charged

/-! ### A release that refunds -/

/-- A run that `start` builds with room for its budget opens where it is built. -/
theorem newSnapshot_opens (service : DurableAgentService) (context : RequestContext)
    (command : DurableStartCommand) (runId : String) (startup : Option DurableStartup)
    (now : Seconds) (positive : 0 < (service.runConfig command).timeoutSeconds)
    (room : (service.runConfig command).timeoutSeconds ≤ service.retentionSeconds) :
    Opens (service.newSnapshot context command runId startup now) now := by
  refine ⟨?_, le_refl _⟩
  intro budget active
  have deadline : now + (service.runConfig command).timeoutSeconds =
      min (now + (service.runConfig command).timeoutSeconds) (now + service.retentionSeconds) :=
    (min_eq_left (by linarith)).symm
  by_cases mode : command.budgetMode = .active
  · simp only [DurableAgentService.newSnapshot, mode, if_true, Option.some.injEq] at active
    subst active
    refine ⟨rfl, le_of_lt positive, ?_, deadline⟩
    intro since opened
    simp only [Option.ite_none_right_eq_some, Option.some.injEq] at opened
    exact ⟨opened.2.symm, rfl⟩
  · simp [DurableAgentService.newSnapshot, mode] at active

/-- The newest snapshot the store has handed out. -/
abbrev latest (timed : Timed) : DurableSnapshot := timed.chronicle.latest

/-- Legality of an operation of a live worker that neither inserts nor saves. -/
theorem Legal.of_working (forward : timed.book.clock ≤ now)
    (subject : operation.subject = some snapshot) (known : snapshot ∈ timed.chronicle.committed)
    (instant : operation.instant.getD now = now)
    (lease : ∀ length ∈ operation.leaseSeconds, lengths length)
    (existing : operation.inserted = none) (unsaved : ∀ previous snapshot token reading entry,
      operation ≠ .save previous snapshot token reading entry)
    (working : timed.book.working = true) :
    Legal lengths timed now (.operate operation) := by
  refine ⟨forward, ?_, ?_, ?_, ?_, ?_, ?_, ?_, by simp⟩
  · rintro _ ⟨⟩ other isSubject
    cases subject.symm.trans isSubject
    exact known
  · rintro _ ⟨⟩ reading read
    rwa [read] at instant
  · rintro _ ⟨⟩
    exact lease
  · rintro previous snapshot token reading entry ⟨⟩
    exact absurd rfl (unsaved previous snapshot token reading entry)
  · rintro snapshot ⟨⟩
    simp [Operation.inserted] at existing
  · rintro snapshot token reading length ⟨⟩
    simp [Operation.inserted] at existing
  · rintro _ ⟨⟩ stopped
    simp [working] at stopped

open Chronicle (plainCodec activeRun)

/-- The active run after its insert and a first claim, both at time 0. -/
def firstClaim : Timed :=
  ((Timed.initial 0).occur plainCodec 0 (.operate (.create activeRun))).occur
    plainCodec 0 (.operate (.acquire activeRun "first" 0 30 true))

theorem firstClaim_reachable (thirty : lengths 30)
    (creates : allowed (.initial 0) 0 (.operate (.create activeRun)))
    (claims : allowed ((Timed.initial 0).occur plainCodec 0
      (.operate (.create activeRun))) 0
      (.operate (.acquire activeRun "first" 0 30 true))) :
    Reachable plainCodec lengths allowed firstClaim := by
  have opens : Opens activeRun 0 :=
    newSnapshot_opens _ _ _ _ _ _ (by decide +kernel) (by decide +kernel)
  have created : Reachable plainCodec lengths allowed ((Timed.initial 0).occur
      plainCodec 0 (.operate (.create activeRun))) := by
    refine .occur (.initial 0) ⟨le_refl _, ?_, ?_, ?_, ?_, ?_, ?_, ?_, by simp⟩ creates
    · rintro _ ⟨⟩ snapshot issued
      cases issued
    · rintro _ ⟨⟩ reading read
      cases read
    · rintro _ ⟨⟩ length asked
      cases asked
    · rintro previous snapshot token reading entry ⟨⟩
    · rintro _ ⟨⟩
      exact opens
    · rintro snapshot token reading length ⟨⟩
    · rintro _ _ stopped
      cases stopped
  exact .occur created (.of_working (by decide +kernel) rfl (List.mem_singleton.mpr rfl) rfl
    (by simpa [Operation.leaseSeconds] using thirty) rfl (by simp) (by decide +kernel)) claims

/-- The first owner releases at 10 without a save, and a second claims at 20. -/
def reclaimed : Timed :=
  (firstClaim.occur plainCodec 10 (.operate (.release firstClaim.latest "first"))).occur
    plainCodec 20 (.operate (.acquire firstClaim.latest "second" 20 30 true))

/-- Ten leased seconds of the active window are given back by the release. -/
theorem release_refunds_active_time :
    Reachable plainCodec (· = 30) (fun _ _ _ => True) reclaimed ∧
      reclaimed.book.held = 10 ∧ reclaimed.meter.map (·.limit) = some 120 ∧
      reclaimed.meter.map (·.used) = some 0 := by
  refine ⟨?_, by decide +kernel, by decide +kernel, by decide +kernel⟩
  have latest : firstClaim.latest ∈ firstClaim.chronicle.committed :=
    Chronicle.latest_mem (by decide +kernel)
  have released : Reachable plainCodec (· = 30) (fun _ _ _ => True)
      (firstClaim.occur plainCodec 10
        (.operate (.release firstClaim.latest "first"))) := by
    exact .occur (firstClaim_reachable rfl trivial trivial) (Legal.of_working (by decide +kernel)
      rfl latest rfl (by simp [Operation.leaseSeconds]) rfl (by simp) (by decide +kernel)) trivial
  exact .occur released (.of_working (by decide +kernel) rfl
    (by simpa [occur, Chronicle.perform] using latest) rfl (by simp [Operation.leaseSeconds]) rfl
    (by simp) (by decide +kernel)) trivial

/-- The first owner's lease runs out at 30 and a second worker claims at 40. -/
def takenOver : Timed :=
  firstClaim.occur plainCodec 40
    (.operate (.acquire firstClaim.latest "second" 40 30 true))

theorem takenOver_legal (thirty : lengths 30) :
    Legal lengths firstClaim 40 (.operate (.acquire firstClaim.latest "second" 40 30 true)) :=
  .of_working (by decide +kernel) rfl (Chronicle.latest_mem (by decide +kernel)) rfl
    (by simpa [Operation.leaseSeconds] using thirty) rfl (by simp) (by decide +kernel)

theorem active_time_never_refunded_takenOver :
    takenOver.book.held = 30 ∧ ∃ row budget, takenOver.chronicle.cell.run = some row ∧
      row.snapshot.activeBudget = some budget ∧
      min row.snapshot.config.timeoutSeconds takenOver.book.held ≤ budget.secondsUsed := by
  have unclaimed : (((Timed.initial 0).occur plainCodec 0
      (.operate (.create activeRun))).meter.bind (·.leaseUntil)) = none := by
    decide +kernel
  have reachable : Reachable plainCodec (0 < ·) Retains firstClaim := by
    refine firstClaim_reachable (by norm_num) ⟨?_, ?_⟩ ⟨?_, ?_⟩
    · rintro _ _ _ _ ⟨⟩
    · rintro _ _ _ _ _ _ _ ⟨⟩
    · rintro _ _ _ _ ⟨⟩
    · rintro _ _ _ _ _ row meter ⟨⟩ found metered _
      simp [Timed.meter, found, metered] at unclaimed
      simp [unclaimed]
  have leased : (firstClaim.meter.bind (·.leaseUntil)) = some 30 := by decide +kernel
  have retains : Retains firstClaim 40
      (.operate (.acquire firstClaim.latest "second" 40 30 true)) := by
    constructor
    · rintro _ _ _ _ ⟨⟩
    · rintro _ _ _ _ _ row meter ⟨⟩ found metered _ zero
      simp [Timed.meter, found, metered, zero] at leased
  have stored : (takenOver.chronicle.cell.run.bind (·.snapshot.activeBudget)).isSome := by
    decide +kernel
  refine ⟨by decide +kernel, ?_⟩
  obtain ⟨budget, hasBudget⟩ := Option.isSome_iff_exists.mp stored
  obtain ⟨row, found, active⟩ := Option.bind_eq_some_iff.mp hasBudget
  refine ⟨row, budget, found, active, ?_⟩
  cases performed : firstClaim.chronicle.perform plainCodec
      (.acquire firstClaim.latest "second" 40 30 true) with
  | error failure =>
    have committed : (firstClaim.chronicle.perform plainCodec
      (.acquire firstClaim.latest "second" 40 30 true)).isOk = true := by decide +kernel
    simp [performed, Except.isOk, Except.toBool] at committed
  | ok outcome =>
    obtain ⟨returned, next⟩ := outcome
    have stepped : takenOver.chronicle = next := by rw [takenOver, occur_ok performed]
    rw [stepped] at found
    exact active_time_never_refunded plainCodec reachable (takenOver_legal (by norm_num))
      retains (Or.inl ⟨_, _, _, _, _, rfl⟩) performed found active

/-! ## No overcharge -/

/-- A cancel that finds an open window is issued while its owner is at work under
a live lease, and a keyed insert happens at the reading its window starts. -/
structure Attended (timed : Timed) (now : Seconds) (occurrence : Occurrence) : Prop where
  cancel : ∀ previous reading ownership allowUnclaimed row meter since,
    occurrence = .operate (.cancel previous reading ownership allowUnclaimed) →
    timed.chronicle.cell.run = some row → row.meter = some meter → meter.since = some since →
    timed.book.working = true ∧ ∃ lease, meter.leaseUntil = some lease ∧ now ≤ lease
  insert : ∀ snapshot token reading length budget since,
    occurrence = .operate (.createKeyed snapshot token reading length) →
    snapshot.activeBudget = some budget → budget.activeSinceAt = some since → since = now

/-- A claim charges no more than the open time of the lease it finds. -/
theorem crashAmount_le_openTime
    (sound : meter.Sound now) : crashAmount meter now ≤ meter.openTime now := by
  unfold crashAmount
  cases since : meter.since with
  | none => exact meter.openTime_nonneg now
  | some start =>
    have observed := (sound.window start since).1
    have fallback : max (min now meter.observed - start) 0 = 0 := by
      have capped : min now meter.observed ≤ meter.observed := min_le_right _ _
      exact max_eq_right (by linarith)
    cases lease : meter.leaseUntil with
    | none =>
      simp only [orFallback, fallback]
      exact meter.openTime_nonneg now
    | some finish =>
      by_cases zero : finish = 0
      · simp only [orFallback, zero, if_true, fallback]
        exact meter.openTime_nonneg now
      · simp [orFallback, zero, Meter.openTime, Meter.leased, since, lease]

theorem crashAmount_nonneg (meter : Meter Seconds) (now : Seconds) : 0 ≤ crashAmount meter now := by
  unfold crashAmount
  split
  · exact le_refl _
  · exact le_max_right _ _

theorem settleAmount_nonneg (meter : Meter Seconds) (now : Seconds) :
    0 ≤ settleAmount meter now := by
  unfold settleAmount
  split
  · exact le_refl _
  · exact le_max_right _ _

/-- No transaction lowers the charge. -/
theorem MeterEffect.le_used
    (effect : MeterEffect now row before operation after) (sound : before.Sound now) :
    before.used ≤ after.used := by
  cases effect with
  | claimed reopen => exact Meter.le_commit_used sound (crashAmount_nonneg _ _) _ _ _
  | settled | cancelled => exact Meter.le_commit_used sound (settleAmount_nonneg _ _) _ _ _
  | renewed | released | kept => exact le_refl _

/-- Charges are leased time, within one lease for each interruption of the time
the owners worked. -/
structure Fair (leaseSeconds : Seconds) (book : Book Seconds) (meter : Meter Seconds) : Prop where
  justified : book.Justified meter
  tolerated : book.Tolerated meter leaseSeconds

/-- While the owner is at work, charged leased time is tolerated. -/
theorem Fair.of_working {book : Book Seconds}
    (fair : Fair leaseSeconds book before) (working : book.working = true)
    (justified : book.Justified after)
    (ends : ∀ finish, after.leaseUntil = some finish → finish ≤ book.clock + leaseSeconds) :
    Fair leaseSeconds book after := by
  have held := fair.tolerated.working working
  have nonneg := after.openTime_nonneg book.clock
  refine ⟨justified, ?_, fun _ => held, ?_, ends⟩
  · unfold Book.Justified at justified
    linarith
  · intro stopped
    simp [working] at stopped

theorem MeterEffect.fair (positive : 0 < leaseSeconds)
    (effect : MeterEffect now row before operation after)
    (legal : Legal (· = leaseSeconds) timed now (.operate operation))
    (attended : Attended timed now (.operate operation)) (clock : timed.book.clock = now)
    (found : timed.chronicle.cell.run = some row) (metered : row.meter = some before)
    (sound : before.Sound now) (fair : Fair leaseSeconds timed.book before) :
    Fair leaseSeconds (timed.note operation) after := by
  have acts {token : String} (owner : row.leaseToken = some token)
      (actor : operation.actor = some token) : timed.book.working = true := by
    by_contra stopped
    have working : timed.book.working = false := by simpa using stopped
    exact legal.stopped operation rfl working row token found owner actor
  subst clock
  have commits {amount : Seconds} (reopen : Bool) (leaseUntil : Option Seconds)
      (atMost : amount ≤ before.openTime timed.book.clock) :
      timed.book.Justified (before.commit amount timed.book.clock reopen leaseUntil) :=
    fair.justified.commit atMost
  cases effect with
  | @claimed snapshot token reading length activateBudget reopen free =>
    obtain rfl := legal.lease _ rfl length rfl
    have justified := commits reopen (some (timed.book.clock + length))
      (crashAmount_le_openTime sound)
    have found : timed.unsettled = before.since.isSome := by
      simp [Timed.unsettled, Timed.meter, found, metered]
    have held := fair.tolerated.claim_held positive
    simp only [note, found]
    refine ⟨justified, ?_, fun _ => held, ?_, ?_⟩
    · unfold Book.Justified at justified
      rw [Meter.commit_openTime] at justified
      linarith
    · intro stopped
      simp [Book.claim] at stopped
    · intro finish lease
      cases lease
      exact le_rfl
  | @settled previous snapshot token reading entry lease reopen owner held live =>
    have working := acts owner rfl
    have justified := commits reopen before.leaseUntil
      (le_of_eq (openTime_eq_settleAmount held (le_of_lt live)).symm)
    exact fair.of_working working justified fair.tolerated.ends
  | @cancelled previous reading ownership allowUnclaimed =>
    cases since : before.since with
    | some start =>
      obtain ⟨working, lease, held, live⟩ := attended.cancel previous reading ownership
        allowUnclaimed row before start rfl found metered since
      have justified := commits false none (le_of_eq (openTime_eq_settleAmount held live).symm)
      refine fair.of_working working justified ?_
      intro finish impossible
      cases impossible
    | none =>
      have nothing : settleAmount before timed.book.clock = 0 := by simp [settleAmount, since]
      rw [nothing]
      have charged := fair.tolerated.charged
      have capped : (before.commit 0 timed.book.clock false none).used ≤ before.used + 0 :=
        min_le_left _ _
      refine ⟨commits false none (before.openTime_nonneg _), ?_, fair.tolerated.working, ?_, ?_⟩
      · simp only [note]
        linarith
      · intro stopped
        have held := fair.tolerated.stopped stopped
        simpa [Meter.leaseLeft, since, Meter.commit, note] using held
      · intro finish impossible
        cases impossible
  | @renewed snapshot token reading length lease owner held live =>
    obtain rfl := legal.lease _ rfl length rfl
    have working := acts owner rfl
    have justified : timed.book.Justified
        (before.relet (some (timed.book.clock + length))) := by
      have charged := fair.justified
      unfold Book.Justified at charged ⊢
      rw [Meter.relet_openTime held (le_of_lt live) (by linarith)]
      exact charged
    refine fair.of_working working justified ?_
    intro finish lease
    cases lease
    exact le_rfl
  | @released snapshot token owner =>
    have working := acts owner rfl
    have justified : timed.book.Justified (before.relet none) := by
      have charged := fair.justified
      have nonneg := before.openTime_nonneg timed.book.clock
      unfold Book.Justified at charged ⊢
      rw [Meter.relet_none_openTime]
      simp only [Meter.relet]
      linarith
    refine fair.of_working working justified ?_
    intro finish impossible
    cases impossible
  | kept idle unsaved =>
    rw [note_of_unclaimed idle]
    exact fair

/-- Every metered row is charged fairly. -/
def Charges (leaseSeconds : Seconds) (timed : Timed) : Prop :=
  ∀ row meter, timed.chronicle.cell.run = some row → row.meter = some meter →
    Fair leaseSeconds timed.book meter

theorem Charges.elapsed (charges : Charges leaseSeconds timed)
    (accounted : timed.Accounted) (forward : timed.book.clock ≤ now) :
    Charges leaseSeconds (timed.elapse now) := by
  intro row meter found metered
  simp only [elapse_chronicle] at found
  have fair := charges row meter found metered
  have sound := (accounted.sound row meter found metered).1
  rw [elapse_book found metered]
  exact ⟨fair.justified.elapse sound forward, fair.tolerated.elapse forward⟩

theorem Charges.inserted (positive : 0 < leaseSeconds) (accounted : timed.Accounted)
    (legal : Legal (· = leaseSeconds) timed now (.operate operation))
    (attended : Attended timed now (.operate operation)) (clock : timed.book.clock = now)
    (unopened : timed.chronicle.committed = []) (inserted : operation.inserted = some snapshot)
    (same : row.snapshot = snapshot) (status : row.status = snapshot.status)
    (lease : row.leaseUntil = operation.insertedLease) (metered : row.meter = some meter) :
    Fair leaseSeconds (timed.note operation) meter := by
  obtain ⟨used, sound, _⟩ := (legal.opening inserted).sound same status metered
  obtain ⟨held, worked, working⟩ := accounted.unopened unopened
  obtain ⟨budget, active, rfl⟩ := RunRow.meter_some metered
  have unclaimed : timed.note operation = timed.book := by
    refine note_of_unclaimed ?_
    rintro _ _ _ _ _ rfl
    simp [Operation.inserted] at inserted
  have unleased : (row.snapshot.meter row.leaseUntil budget).openTime now = 0 := by
    unfold Meter.openTime Meter.leased
    cases since : budget.activeSinceAt with
    | none => simp [DurableSnapshot.meter, since]
    | some start =>
      cases operation with
      | create created => simp [DurableSnapshot.meter, since, lease, Operation.insertedLease]
      | createKeyed created token reading length =>
        obtain rfl := Option.some.inj inserted
        obtain rfl := attended.insert created token reading length budget start rfl
          (by rw [← same]; exact active) since
        have capped : min start (reading + length) ≤ start := min_le_left _ _
        simp only [DurableSnapshot.meter, since, lease, Operation.insertedLease]
        exact max_eq_right (by linarith)
      | acquire | renew | release | save | cancel | graphPut | graphWrites | purge =>
        simp [Operation.inserted] at inserted
  have tolerance : 0 ≤ leaseSeconds * (timed.book.interrupted : Seconds) :=
    mul_nonneg (le_of_lt positive) (Nat.cast_nonneg _)
  rw [unclaimed]
  refine ⟨?_, ?_, ?_, ?_, ?_⟩
  · unfold Book.Justified
    rw [clock, unleased, used, held]
    linarith
  · rw [used, worked]
    linarith
  · intro _
    rw [held, worked]
    linarith
  · intro stopped
    simp [working] at stopped
  · intro finish leased
    have fixed := legal.lease operation rfl
    have instant := legal.instant operation rfl
    cases operation with
    | createKeyed created token reading length =>
      obtain rfl := instant reading rfl
      obtain rfl := fixed length rfl
      have ends : some (reading + length) = some finish := by
        rw [← leased]
        exact lease.symm
      cases ends
      rw [clock]
    | create created =>
      have none_ : row.leaseUntil = none := lease
      simp [DurableSnapshot.meter, none_] at leased
    | acquire | renew | release | save | cancel | graphPut | graphWrites | purge =>
      simp [Operation.inserted] at inserted

theorem Charges.occur (positive : 0 < leaseSeconds)
    (charges : Charges leaseSeconds timed) (accounted : timed.Accounted)
    (legal : Legal (· = leaseSeconds) timed now occurrence)
    (attended : Attended timed now occurrence) :
    Charges leaseSeconds (timed.occur codec now occurrence) := by
  have elapsed := charges.elapsed accounted legal.forward
  have accountedLater := accounted.elapsed legal.forward
  cases occurrence with
  | halt =>
    intro row meter found metered
    have fair := elapsed row meter found metered
    exact ⟨fair.justified, fair.tolerated.halt positive⟩
  | operate operation =>
    rcases occur_operate codec timed now operation with refused | ⟨_, _, _, performed, after⟩
    · rw [refused]
      exact elapsed
    · rw [after]
      intro row meter found metered
      have attendedLater : Attended (timed.elapse now) now (.operate operation) :=
        ⟨by simpa using attended.cancel, attended.insert⟩
      rcases perform_charged accountedLater.fenced legal.elapsed performed found metered
        with charged | ⟨unopened, _, snapshot, inserted, same, status, lease⟩
      · obtain ⟨old, before, oldFound, oldMetered, effect, _⟩ := charged.holds
        have sound := (accountedLater.sound old before oldFound oldMetered).1
        rw [elapse_clock] at sound
        exact MeterEffect.fair positive effect legal.elapsed attendedLater
          (elapse_clock timed now) oldFound oldMetered sound
          (elapsed old before oldFound oldMetered)
      · exact Charges.inserted positive accountedLater legal.elapsed attendedLater
          (elapse_clock timed now) unopened inserted same status lease metered

theorem Reachable.charges (positive : 0 < leaseSeconds)
    (reachable : Reachable codec (· = leaseSeconds) Attended timed) :
    Charges leaseSeconds timed := by
  induction reachable with
  | initial clock =>
    intro row meter found
    simp [Timed.initial, Chronicle.initial, RunCell.empty] at found
  | occur reachable legal attended ih =>
    exact ih.occur positive reachable.accounted legal attended

/-- The service's remaining time is the meter's. -/
theorem remaining_eq_meter (active : row.snapshot.activeBudget = some budget) (t : Seconds) :
    row.snapshot.remaining t = (row.snapshot.meter row.leaseUntil budget).remaining t := by
  simp only [DurableSnapshot.remaining, active, Meter.remaining, DurableSnapshot.meter]
  cases budget.activeSinceAt <;> rfl

/-- In every attended run the charge never falls and stays within the budget, the
leased running time, and one lease for each unsettled claim of the time worked. -/
theorem active_time_never_overcharged (codec : Codec) {leaseSeconds : Seconds}
    (positive : 0 < leaseSeconds) {timed : Timed}
    (reachable : Reachable codec (· = leaseSeconds) Attended timed) {row : RunRow}
    {budget : DurableActiveBudget} (found : timed.chronicle.cell.run = some row)
    (active : row.snapshot.activeBudget = some budget) :
    budget.secondsUsed ≤ row.snapshot.config.timeoutSeconds ∧
    budget.secondsUsed ≤ timed.book.held ∧
    budget.secondsUsed ≤ timed.book.worked + leaseSeconds * timed.book.interrupted ∧
    (∀ since, budget.activeSinceAt = some since → row.status = .running ∧
      ∀ t, row.snapshot.lastObservedAt ≤ t →
        row.snapshot.remaining t = max (row.snapshot.deadlineAt - t) 0) ∧
    ∀ now occurrence, Legal (· = leaseSeconds) timed now occurrence →
      ∀ later laterBudget,
        (timed.occur codec now occurrence).chronicle.cell.run = some later →
        later.snapshot.activeBudget = some laterBudget →
        budget.secondsUsed ≤ laterBudget.secondsUsed := by
  have metered := RunRow.meter_of_budget active
  have accounted := reachable.accounted
  obtain ⟨sound, runs⟩ := accounted.sound row _ found metered
  have fair := reachable.charges positive row _ found metered
  have nonneg := (row.snapshot.meter row.leaseUntil budget).openTime_nonneg timed.book.clock
  refine ⟨sound.within, ?_, fair.tolerated.charged, ?_, ?_⟩
  · have justified := fair.justified
    unfold Book.Justified at justified
    have used : (row.snapshot.meter row.leaseUntil budget).used = budget.secondsUsed := rfl
    linarith
  · intro since opened
    refine ⟨runs budget since active opened, ?_⟩
    intro t later
    rw [remaining_eq_meter active]
    exact sound.remaining_eq opened later
  · intro now occurrence legal later laterBudget laterFound laterActive
    have laterMetered := RunRow.meter_of_budget laterActive
    have unchanged (same : (timed.occur codec now occurrence).chronicle = timed.chronicle) :
        budget.secondsUsed ≤ laterBudget.secondsUsed := by
      rw [same, found] at laterFound
      cases laterFound
      cases active.symm.trans laterActive
      exact le_refl _
    cases occurrence with
    | halt => exact unchanged (elapse_chronicle timed now)
    | operate operation =>
      rcases occur_operate codec timed now operation with refused | ⟨_, _, performed, _, after⟩
      · exact unchanged (by rw [refused, elapse_chronicle])
      · rw [after] at laterFound
        rcases perform_charged accounted.fenced legal performed laterFound laterMetered with
          charged | ⟨unopened, _⟩
        · obtain ⟨old, before, oldFound, oldMetered, effect, _⟩ := charged.holds
          cases found.symm.trans oldFound
          cases metered.symm.trans oldMetered
          exact MeterEffect.le_used effect (sound.later legal.forward)
        · have head := (accounted.fenced.stored row found).1
          simp [unopened] at head

/-- The second owner, who was charged the first lease, is cancelled at work at 50. -/
def cancelledAtWork : Timed :=
  takenOver.occur plainCodec 50 (.operate (.cancel takenOver.latest 50 none true))

theorem active_time_never_overcharged_cancelledAtWork :
    takenOver.meter.map (·.used) = some 30 ∧ cancelledAtWork.meter.map (·.used) = some 40 ∧
      ∃ row budget, cancelledAtWork.chronicle.cell.run = some row ∧
        row.snapshot.activeBudget = some budget ∧
        budget.secondsUsed ≤ cancelledAtWork.book.held ∧ cancelledAtWork.book.held = 40 := by
  have claimed : Reachable plainCodec (· = 30) Attended takenOver := by
    refine .occur (firstClaim_reachable rfl ⟨?_, ?_⟩ ⟨?_, ?_⟩) (takenOver_legal rfl) ⟨?_, ?_⟩
    all_goals first | rintro _ _ _ _ _ _ _ ⟨⟩ | rintro _ _ _ _ _ _ ⟨⟩
  have leased : (takenOver.meter.bind (·.leaseUntil)) = some 70 := by decide +kernel
  have attended : Attended takenOver 50 (.operate (.cancel takenOver.latest 50 none true)) := by
    constructor
    · rintro _ _ _ _ row meter _ ⟨⟩ found metered _
      simp only [Timed.meter, found, metered, Option.bind_some] at leased
      exact ⟨by decide +kernel, 70, leased, by norm_num⟩
    · rintro _ _ _ _ _ _ ⟨⟩
  have reachable : Reachable plainCodec (· = 30) Attended cancelledAtWork :=
    .occur claimed (.of_working (by decide +kernel) rfl
      (Chronicle.latest_mem (by decide +kernel)) rfl (by simp [Operation.leaseSeconds]) rfl
      (by simp) (by decide +kernel)) attended
  have stored : (cancelledAtWork.chronicle.cell.run.bind (·.snapshot.activeBudget)).isSome := by
    decide +kernel
  obtain ⟨budget, hasBudget⟩ := Option.isSome_iff_exists.mp stored
  obtain ⟨row, found, active⟩ := Option.bind_eq_some_iff.mp hasBudget
  exact ⟨by decide +kernel, by decide +kernel, row, budget, found, active,
    (active_time_never_overcharged plainCodec (by norm_num) reachable found active).2.1,
    by decide +kernel⟩

/-- The owner's lease runs out at 30 and the run is cancelled at 100. -/
def cancelledLate : Timed :=
  firstClaim.occur plainCodec 100 (.operate (.cancel firstClaim.latest 100 none false))

/-- A cancel charges the seventy seconds after the lease it finds had ended. -/
theorem cancel_charges_unleased_time :
    Reachable plainCodec (· = 30) (fun _ _ _ => True) cancelledLate ∧
      cancelledLate.book.held = 30 ∧
      cancelledLate.book.worked + 30 * cancelledLate.book.interrupted = 60 ∧
      cancelledLate.meter.map (·.used) = some 100 := by
  refine ⟨?_, by decide +kernel, by decide +kernel, by decide +kernel⟩
  exact .occur (firstClaim_reachable rfl trivial trivial) (Legal.of_working (by decide +kernel) rfl
    (Chronicle.latest_mem (by decide +kernel)) rfl (by simp [Operation.leaseSeconds]) rfl (by simp)
    (by decide +kernel)) trivial

end Timed

end AegisRag.Agent.Durable
