import AegisRag.Agent.Durable.Invariants
import AegisRag.Semantics.History

/-!
# The log of a run

Every step of a worker adds one event to the log. A fact that each event meets
when it is added therefore holds along the log, and is read back at any later
time. Where a worker may note a value only after it was granted that value, and
grants are distinct, no value is noted twice.
-/

namespace AegisRag.Agent.Durable

open Semantics

def Event.task : Event → Nat
  | .created task .. | .saved task .. | .cancelled task .. | .leased task .. | .purged task
  | .approvalChecked task .. | .modelCalled task .. | .handlerStarted task .. | .raised task ..
  | .driving task .. => task

variable {codec : Codec} {Origin : DurableSnapshot → Prop} {task : Nat} {state next : RunState}
  {event : Event}

theorem Effect.logs (effect : Effect codec Origin task state next) :
    ∃ event, next.log = event :: state.log := by
  cases effect with
  | created _ _ leaves | claimed _ _ _ _ leaves | leased leaves | cancelled _ _ _ leaves
  | purged leaves | saved _ _ _ _ _ _ leaves | noted _ leaves => exact ⟨_, leaves.log⟩

/-- Every step is written down under the worker that takes it. -/
theorem RunStep.logs (step : RunStep codec Origin task state next) :
    ∃ event, next.log = event :: state.log ∧ event.task = task := by
  cases step with
  | insert | lease | cancel | purge | save => exact ⟨_, rfl, rfl⟩
  | note noted =>
    refine ⟨_, rfl, ?_⟩
    cases noted <;> rfl

theorem Effect.committed_kept (effect : Effect codec Origin task state next)
    (isIn : snapshot ∈ state.committed) :
    snapshot ∈ next.committed := by
  cases effect with
  | created _ unborn _ => simp [unborn] at isIn
  | claimed _ _ _ _ leaves | cancelled _ _ _ leaves | saved _ _ _ _ _ _ leaves =>
    rw [leaves.committed]
    exact List.mem_cons_of_mem _ isIn
  | leased leaves | purged leaves | noted _ leaves =>
    rw [leaves.committed]
    exact isIn

/-- A newly committed snapshot is none of the older ones. -/
theorem Chronicle.Fenced.newest_absent {chronicle : Chronicle} (fenced : chronicle.Fenced)
    (extended : chronicle.committed = saved :: older) : saved ∉ older := by
  intro isIn
  have descend := Chronicle.revisions_descend fenced.chain
  rw [extended, List.pairwise_cons] at descend
  exact Nat.lt_irrefl _ (descend.1 saved isIn)

/-- An entry read for a committed snapshot stays its entry while it is stored: a
snapshot that was replaced never comes back. -/
theorem Effect.seen_kept (effect : Effect codec Origin task state next)
    (fenced : next.chronicle.Fenced) {snapshot : DurableSnapshot}
    (known : snapshot ∈ state.committed) (seen : state.LedgerSeen snapshot callId entry) :
    next.LedgerSeen snapshot callId entry := by
  intro current
  have isStored := RunState.current_iff.mp current
  have unchanged : next.stored = state.stored → next.ledger = state.ledger →
      next.chronicle.cell.ledgerEntry snapshot callId = .ok entry := by
    intro stored ledger
    have before := seen (RunState.current_iff.mpr (by rw [← stored]; exact isStored))
    simp only [RunState.ledger] at ledger
    rw [RunCell.ledgerEntry, ledger]
    exact before
  have replaced : ∀ {saved}, next.stored = some saved →
      next.committed = saved :: state.committed → False := by
    intro saved stored committed
    cases isStored.symm.trans stored
    exact fenced.newest_absent committed known
  cases effect with
  | created _ unborn _ => simp [unborn] at known
  | claimed _ _ _ _ leaves | cancelled _ _ _ leaves | saved _ _ _ _ _ _ leaves =>
    exact absurd leaves.committed (replaced leaves.stored)
  | purged leaves => simp [leaves.stored] at isStored
  | leased leaves | noted _ leaves => exact unchanged leaves.stored leaves.ledger

/-- A fact that each event meets when it is written down holds along the log. -/
theorem RunReachable.along (fact : Event → List Event → Prop)
    (holds : ∀ task state next event, RunReachable codec Origin state →
      Effect codec Origin task state next → next.log = event :: state.log → fact event state.log)
    (reachable : RunReachable codec Origin state) : Along fact state.log := by
  refine reachable.invariant (fun state => Along fact state.log) trivial ?_
  intro task state next reached along effect
  obtain ⟨event, logged⟩ := effect.logs
  rw [logged]
  exact ⟨holds task state next event reached effect logged, along⟩

theorem Effect.saved_of_log {previous saved : DurableSnapshot}
    (effect : Effect codec Origin task state next)
    (logged : next.log = .saved owner site previous saved :: state.log) :
    owner = task ∧ state.stored = some previous ∧ previous.status.terminal = false ∧
      ∃ snapshot entry now, Admissible codec task state site previous snapshot entry ∧
        RunCell.savedSnapshot previous snapshot now = .ok saved := by
  cases effect with
  | saved stored live admissible _ settled _ leaves =>
    cases leaves.event_eq logged
    exact ⟨rfl, stored, live, _, _, _, admissible, settled⟩
  | noted noted leaves =>
    cases leaves.event_eq logged
    cases noted
  | created _ _ leaves | claimed _ _ _ _ leaves | leased leaves | cancelled _ _ _ leaves
  | purged leaves =>
    cases leaves.event_eq logged

/-- The event writes nothing to the store. -/
def Event.isNote : Event → Bool
  | .approvalChecked .. | .modelCalled .. | .handlerStarted .. | .raised .. | .driving .. => true
  | _ => false

/-- An event that writes nothing to the store is one a worker may note. -/
theorem Effect.noted_of_log (effect : Effect codec Origin task state next)
    (logged : next.log = event :: state.log) (isNote : event.isNote = true) :
    Noted codec task state event := by
  cases effect with
  | noted noted leaves =>
    rw [← leaves.event_eq logged]
    exact noted
  | created _ _ leaves | claimed _ _ _ _ leaves | leased leaves | cancelled _ _ _ leaves
  | purged leaves | saved _ _ _ _ _ _ leaves =>
    rw [← leaves.event_eq logged] at isNote
    cases isNote

/-! ## Runs are inserted once -/

/-- The event inserts a run or removes it. -/
def Event.places : Event → Bool
  | .created .. | .purged _ => true
  | _ => false

/-- Where nothing was ever committed, nothing was inserted or removed. -/
theorem RunReachable.unplaced (reachable : RunReachable codec Origin state)
    (unborn : state.committed = []) : ∀ event ∈ state.log, event.places = false := by
  induction reachable with
  | initial => simp [RunState.initial]
  | @step task before after reached step ih =>
    have effect := step.effect reached.fenced
    have wasUnborn : before.committed = [] := by
      by_contra born
      obtain ⟨snapshot, isIn⟩ := List.exists_mem_of_ne_nil _ born
      rw [List.eq_nil_iff_forall_not_mem] at unborn
      exact unborn snapshot (effect.committed_kept isIn)
    have earlier := ih wasUnborn
    have extended : ∀ event : Event, event.places = false → ∀ other ∈ event :: before.log,
        other.places = false := by
      intro event placed other isIn
      rcases List.mem_cons.mp isIn with rfl | older
      · exact placed
      · exact earlier other older
    cases step with
    | lease | cancel | save => exact extended _ rfl
    | note noted =>
      refine extended _ ?_
      cases noted <;> rfl
    | insert inserts _ performed =>
      cases Chronicle.perform_ok performed with
      | inserted => cases unborn
      | acquired | saved | cancelled => cases inserts
    | purge expired =>
      cases found : before.chronicle.cell.run with
      | none => simp [RunCell.purgeable, found] at expired
      | some row =>
        have isHead := (reached.fenced.stored row found).1
        rw [← RunState.committed, wasUnborn] at isHead
        cases isHead

/-- A run is inserted only where none was inserted or removed before. -/
theorem RunReachable.insertions (reachable : RunReachable codec Origin state) :
    Along (fun event older => ∀ task token snapshot, event = .created task token snapshot →
      ∀ other ∈ older, other.places = false) state.log := by
  refine reachable.along _ ?_
  rintro worker state next event reached effect logged task token snapshot rfl
  cases effect with
  | created _ unborn _ => exact reached.unplaced unborn
  | noted noted leaves =>
    cases leaves.event_eq logged
    cases noted
  | claimed _ _ _ _ leaves | leased leaves | cancelled _ _ _ leaves | purged leaves
  | saved _ _ _ _ _ _ leaves =>
    cases leaves.event_eq logged

/-! ## Values that appear once in a log -/

section

variable {β : Type} {grant use : Event → Option β}

/-- Values that are new when they are written down are all distinct. -/
theorem RunReachable.distinct (read : Event → Option β)
    (new : ∀ task state next event value, RunReachable codec Origin state →
      Effect codec Origin task state next → next.log = event :: state.log →
      read event = some value → value ∉ state.log.filterMap read)
    (reachable : RunReachable codec Origin state) :
    (state.log.filterMap read).Nodup := by
  refine reachable.invariant (fun state => (state.log.filterMap read).Nodup) List.nodup_nil ?_
  intro task state next reached distinct effect
  obtain ⟨event, logged⟩ := effect.logs
  rw [logged]
  cases reads : read event with
  | none =>
    rw [List.filterMap_cons_none reads]
    exact distinct
  | some value =>
    rw [List.filterMap_cons_some reads, List.nodup_cons]
    exact ⟨new task state next event value reached effect logged reads, distinct⟩

/-- A value noted only by the worker that was granted it, and by no worker twice. -/
structure Backed (codec : Codec) (grant use : Event → Option β) : Prop where
  notes : ∀ event value, use event = some value → event.isNote = true
  granted : ∀ task state event value, Noted codec task state event → use event = some value →
    ∃ source ∈ state.log, grant source = some value ∧ source.task = event.task
  unused : ∀ task state event value, Noted codec task state event → use event = some value →
    ∀ other ∈ state.log, use other = some value → other.task ≠ event.task

/-- Every use stands after its grant. -/
theorem RunReachable.granted (backed : Backed codec grant use)
    (reachable : RunReachable codec Origin state) :
    Along (fun event older => ∀ value, use event = some value →
      ∃ source ∈ older, grant source = some value ∧ source.task = event.task) state.log := by
  refine reachable.along _ ?_
  intro task state next event reached effect logged value uses
  exact backed.granted task state event value
    (effect.noted_of_log logged (backed.notes event value uses)) uses

/-- Distinct grants have distinct uses. -/
theorem RunReachable.uses_distinct (backed : Backed codec grant use)
    (grants : ∀ state, RunReachable codec Origin state → (state.log.filterMap grant).Nodup)
    (reachable : RunReachable codec Origin state) :
    (state.log.filterMap use).Nodup := by
  refine reachable.distinct use ?_
  intro task state next event value reached effect logged uses earlier
  have noted := effect.noted_of_log logged (backed.notes event value uses)
  obtain ⟨other, isIn, usedBefore⟩ := List.mem_filterMap.mp earlier
  obtain ⟨_, hasSource, grantsNow, mine⟩ :=
    backed.granted task state event value noted uses
  obtain ⟨_, _, splits, fact⟩ := (reached.granted backed).of_mem isIn
  obtain ⟨origin, inOlder, grantedThen, theirs⟩ := fact value usedBefore
  have hasOrigin : origin ∈ state.log := by
    rw [splits]
    exact List.mem_append_right _ (List.mem_cons_of_mem _ inOlder)
  -- The value was granted once, so both uses belong to one worker.
  have same := eq_of_nodup_filterMap (grants state reached) hasSource hasOrigin grantsNow
    grantedThen
  refine backed.unused task state event value noted uses other isIn usedBefore ?_
  rw [← theirs, ← same, mine]

/-- A worker that did nothing since it was granted a value has not used it yet. -/
theorem RunReachable.unused_since (backed : Backed codec grant use)
    (reachable : RunReachable codec Origin state) (distinct : (state.log.filterMap grant).Nodup)
    (log : state.log = newer ++ event :: older) (grants : grant event = some value)
    (idle : ∀ other ∈ newer, other.task ≠ event.task) (isIn : other ∈ state.log)
    (uses : use other = some value) :
    other.task ≠ event.task := by
  have along := reachable.granted backed
  rw [log] at isIn distinct along
  rcases List.mem_append.mp isIn with later | earlier
  · exact idle other later
  · obtain ⟨between, _, splits, fact⟩ := along.past.of_mem earlier
    obtain ⟨source, hasSource, granted, _⟩ := fact value uses
    have inOlder : source ∈ older := by
      cases between with
      | nil =>
        rw [List.nil_append, List.cons.injEq] at splits
        rw [splits.2]
        exact hasSource
      | cons first rest =>
        rw [List.cons_append, List.cons.injEq] at splits
        rw [splits.2]
        exact List.mem_append_right _ (List.mem_cons_of_mem _ hasSource)
    rw [List.filterMap_append, List.filterMap_cons_some grants] at distinct
    have fresh := (List.nodup_cons.mp (List.nodup_append.mp distinct).2.1).1
    exact absurd (List.mem_filterMap.mpr ⟨source, inOlder, granted⟩) fresh

end

end AegisRag.Agent.Durable
