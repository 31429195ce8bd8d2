import AegisRag.Agent.Durable.Dispatch

/-!
# Step and tool budgets of a run

A model call is made under a save that reserved it, and a dispatch under a save
that counted it. The newest snapshot counts every reservation and dispatch of
the whole run, and no commit lowers a counter, so a takeover refunds nothing.
-/

namespace AegisRag.Agent.Durable

open Semantics RunCell

/-- The revision at which an event reserves a model call. -/
def Event.reserved : Event → Option Nat
  | .saved _ .reserve _ after => some after.revision
  | _ => none

/-- The reservation under which an event calls the model. -/
def Event.modelCall : Event → Option Nat
  | .modelCalled _ revision => some revision
  | _ => none

variable {event : Event} {previous snapshot : DurableSnapshot} {log : List Event}

theorem Event.reserved_some (reserves : event.reserved = some revision) :
    ∃ task previous saved, event = .saved task .reserve previous saved ∧
      saved.revision = revision := by
  cases event with
  | saved task site previous saved =>
    cases site with
    | reserve => exact ⟨task, previous, saved, rfl, Option.some.inj reserves⟩
    | _ => simp [Event.reserved] at reserves
  | _ => simp [Event.reserved] at reserves

theorem Event.modelCall_some (calls : event.modelCall = some revision) :
    ∃ task, event = .modelCalled task revision := by
  cases event with
  | modelCalled task other =>
    cases calls
    exact ⟨task, rfl⟩
  | _ => simp [Event.modelCall] at calls

/-! ## Counters never fall -/

/-- The counters of a later snapshot of a run against those of an earlier one. -/
structure Grows (later earlier : DurableSnapshot) : Prop where
  steps : earlier.stepsUsed ≤ later.stepsUsed
  toolCalls : earlier.toolCallsUsed ≤ later.toolCallsUsed
  repeated : ∀ action, earlier.repeatedCounts.count action ≤ later.repeatedCounts.count action

theorem Grows.refl (snapshot : DurableSnapshot) : Grows snapshot snapshot :=
  ⟨Nat.le_refl _, Nat.le_refl _, fun _ => Nat.le_refl _⟩

theorem Grows.trans (later : Grows third second) (earlier : Grows second first) :
    Grows third first :=
  ⟨earlier.steps.trans later.steps, earlier.toolCalls.trans later.toolCalls,
    fun action => (earlier.repeated action).trans (later.repeated action)⟩

theorem Admissible.grows (admissible : Admissible codec task state site previous snapshot entry) :
    Grows snapshot previous := by
  cases admissible with
  | finishDecision | finishValidation | finishToolLimit | finishRejected | finishTool =>
    exact ⟨Nat.le_max_right _ _, Nat.le_max_right _ _, fun _ => Nat.le_refl _⟩
  | reserve => exact ⟨Nat.le_succ _, Nat.le_refl _, fun _ => Nat.le_refl _⟩
  | beforeDispatch =>
    exact ⟨Nat.le_refl _, Nat.le_succ _, fun action => RepeatedCounts.count_le_bump _ _ action⟩
  | _ => exact ⟨Nat.le_refl _, Nat.le_refl _, fun _ => Nat.le_refl _⟩

theorem Successor.grows {saved : DurableSnapshot}
    (successor : Successor codec state previous saved) :
    Grows saved previous := by
  cases successor with
  | claimed _ _ => exact ⟨Nat.le_refl _, Nat.le_refl _, fun _ => Nat.le_refl _⟩
  | cancelled settled =>
    rw [cancelledSnapshot_frame settled]
    exact ⟨Nat.le_refl _, Nat.le_refl _, fun _ => Nat.le_refl _⟩
  | saved admissible _ settled =>
    obtain ⟨_, _, rfl⟩ := savedSnapshot_eq settled
    exact ⟨admissible.grows.steps, admissible.grows.toolCalls, admissible.grows.repeated⟩

theorem RunReachable.counters_grow (reachable : RunReachable codec Origin state) :
    state.committed.Pairwise Grows :=
  reachable.committedPairwise ⟨fun _ _ _ later earlier => later.trans earlier⟩ Successor.grows

theorem RunReachable.sameRun (reachable : RunReachable codec Origin state) :
    state.committed.Pairwise SameRun :=
  reachable.committedPairwise ⟨fun _ _ _ left right => left.trans right⟩ Successor.sameRun

/-! ## Counters stay within the budget -/

/-- The counters of a snapshot respect its budgets. -/
structure WithinBudget (snapshot : DurableSnapshot) : Prop where
  steps : snapshot.stepsUsed ≤ snapshot.config.maxSteps
  toolCalls : snapshot.toolCallsUsed ≤ snapshot.config.maxToolCalls

theorem WithinBudget.finished (within : WithinBudget previous)
    (finishes : Finishes previous result) :
    WithinBudget (previous.finished result) := by
  have steps := finishes.steps
  have toolCalls := finishes.toolCalls
  obtain ⟨stepsBound, toolBound⟩ := within
  constructor
  · simp only [DurableSnapshot.finished, AgentRunResult.atLeast]
    omega
  · simp only [DurableSnapshot.finished, AgentRunResult.atLeast]
    omega

theorem Admissible.withinBudget
    (admissible : Admissible codec task state site previous snapshot entry)
    (within : WithinBudget previous) : WithinBudget snapshot := by
  cases admissible with
  | reserve _ _ room => exact ⟨room, within.toolCalls⟩
  | beforeDispatch _ _ _ _ _ _ room _ => exact ⟨within.steps, room⟩
  | finishDecision _ _ finishes | finishValidation _ _ finishes | finishToolLimit _ _ _ finishes
  | finishRejected _ _ _ _ finishes | finishTool _ finishes _ => exact within.finished finishes
  | _ => exact ⟨within.steps, within.toolCalls⟩

theorem RunReachable.withinBudget (fresh : Origin ≤ Fresh)
    (reachable : RunReachable codec Origin state) :
    ∀ snapshot ∈ state.committed, WithinBudget snapshot := by
  refine reachable.everyCommitted WithinBudget ?_ ?_
  · intro snapshot origin
    have isNew := fresh snapshot origin
    constructor
    · rw [isNew.steps]
      omega
    · rw [isNew.toolCalls]
      omega
  · intro state previous saved _ _ _ within successor
    cases successor with
    | claimed _ _ => exact ⟨within.steps, within.toolCalls⟩
    | cancelled settled =>
      rw [cancelledSnapshot_frame settled]
      exact ⟨within.steps, within.toolCalls⟩
    | saved admissible _ settled =>
      have bounded := admissible.withinBudget within
      obtain ⟨deadlineAt, activeBudget, rfl⟩ := savedSnapshot_eq settled
      exact ⟨bounded.steps, bounded.toolCalls⟩

/-! ## The newest snapshot counts the whole log -/

/-- The newest snapshot has counted every reservation and dispatch of the log. -/
structure Counted (log : List Event) (newest : DurableSnapshot) : Prop where
  steps : (log.filterMap Event.reserved).length ≤ newest.stepsUsed
  toolCalls : (log.filterMap Event.dispatched).length ≤ newest.toolCallsUsed
  revisions : ∀ revision ∈ log.filterMap Event.reserved, revision ≤ newest.revision

/-- Before the first commit a log reserves and dispatches nothing. -/
structure Idle (log : List Event) : Prop where
  steps : log.filterMap Event.reserved = []
  toolCalls : log.filterMap Event.dispatched = []

/-- The event neither reserves a model call nor dispatches a tool. -/
structure Uncounted (event : Event) : Prop where
  steps : event.reserved = none
  toolCalls : event.dispatched = none

theorem Idle.cons (idle : Idle log) (uncounted : Uncounted event) : Idle (event :: log) := by
  constructor
  · rw [List.filterMap_cons_none uncounted.steps]
    exact idle.steps
  · rw [List.filterMap_cons_none uncounted.toolCalls]
    exact idle.toolCalls

theorem Counted.cons (counted : Counted log previous) (uncounted : Uncounted event)
    (grows : Grows newest previous) (revision : previous.revision ≤ newest.revision) :
    Counted (event :: log) newest := by
  have steps := counted.steps
  have toolCalls := counted.toolCalls
  have moreSteps := grows.steps
  have moreCalls := grows.toolCalls
  constructor
  · rw [List.filterMap_cons_none uncounted.steps]
    omega
  · rw [List.filterMap_cons_none uncounted.toolCalls]
    omega
  · intro reserved isIn
    rw [List.filterMap_cons_none uncounted.steps] at isIn
    have bound := counted.revisions reserved isIn
    omega

theorem Noted.uncounted (noted : Noted codec task state event) : Uncounted event := by
  cases noted <;> exact ⟨rfl, rfl⟩

theorem Counted.save (counted : Counted log previous)
    (admissible : Admissible codec task state site previous snapshot entry)
    (settled : savedSnapshot previous snapshot now = .ok saved) :
    Counted (.saved task site previous saved :: log) saved := by
  have revision : saved.revision = previous.revision + 1 := by
    rw [savedSnapshot_frame settled]
  have steps : saved.stepsUsed = snapshot.stepsUsed := by
    rw [savedSnapshot_frame settled]
  have toolCalls : saved.toolCallsUsed = snapshot.toolCallsUsed := by
    rw [savedSnapshot_frame settled]
  have countedSteps := counted.steps
  have countedCalls := counted.toolCalls
  by_cases quiet : Uncounted (.saved task site previous saved)
  · have grows : Grows saved previous := by
      have frame := savedSnapshot_frame settled
      obtain ⟨growsSteps, growsCalls, growsCounts⟩ := admissible.grows
      exact ⟨by rw [frame]; exact growsSteps, by rw [frame]; exact growsCalls,
        by rw [frame]; exact growsCounts⟩
    exact counted.cons quiet grows (by omega)
  · cases admissible with
    | reserve =>
      have reserves : Event.reserved (.saved task .reserve previous saved) =
          some saved.revision := rfl
      have older : ∀ reserved ∈ log.filterMap Event.reserved, reserved ≤ saved.revision := by
        intro reserved isIn
        have bound := counted.revisions reserved isIn
        omega
      refine ⟨?_, ?_, ?_⟩
      · rw [List.filterMap_cons_some reserves, List.length_cons, steps]
        exact Nat.succ_le_succ countedSteps
      · rw [List.filterMap_cons_none rfl, toolCalls]
        exact countedCalls
      · intro reserved isIn
        rw [List.filterMap_cons_some reserves] at isIn
        rcases List.mem_cons.mp isIn with rfl | earlier
        · exact Nat.le_refl _
        · exact older reserved earlier
    | @beforeDispatch _ _ definition =>
      have dispatches : Event.dispatched (.saved task (.beforeDispatch definition) previous saved) =
          some (toolCallEventId previous.runId previous.stepsUsed
            (previous.toolCallsUsed + 1)) := by
        rw [Event.dispatched, savedSnapshot_frame settled]
      refine ⟨?_, ?_, ?_⟩
      · rw [List.filterMap_cons_none rfl, steps]
        exact countedSteps
      · rw [List.filterMap_cons_some dispatches, List.length_cons, toolCalls]
        exact Nat.succ_le_succ countedCalls
      · intro reserved isIn
        rw [List.filterMap_cons_none rfl] at isIn
        have bound := counted.revisions reserved isIn
        omega
    | _ => exact absurd ⟨rfl, rfl⟩ quiet

/-- In every reachable run the newest snapshot counts the whole log. -/
theorem RunReachable.counted (reachable : RunReachable codec Origin state) :
    (state.committed = [] → Idle state.log) ∧
      ∀ newest, state.committed.head? = some newest → Counted state.log newest := by
  refine reachable.invariant (fun state => (state.committed = [] → Idle state.log) ∧
    ∀ newest, state.committed.head? = some newest → Counted state.log newest) ?_ ?_
  · exact ⟨fun _ => ⟨rfl, rfl⟩, by simp [RunState.initial, RunState.committed, Chronicle.initial]⟩
  · rintro task state next reached ⟨unborn, counts⟩ effect
    have atHead : ∀ {previous}, state.stored = some previous →
        state.committed.head? = some previous := by
      intro previous stored
      obtain ⟨row, found, rfl⟩ := RunState.current_iff.mpr stored
      exact (reached.fenced.stored row found).1
    -- A step that commits nothing only adds an event that is not counted.
    have kept : ∀ {event}, Uncounted event → next.committed = state.committed →
        next.log = event :: state.log → (next.committed = [] → Idle next.log) ∧
          ∀ newest, next.committed.head? = some newest → Counted next.log newest := by
      intro event uncounted committed logged
      rw [committed, logged]
      refine ⟨fun empty => (unborn empty).cons uncounted, ?_⟩
      intro newest isHead
      exact (counts newest isHead).cons uncounted (.refl newest) (Nat.le_refl _)
    cases effect with
    | @created token snapshot origin empty leaves =>
      rw [leaves.committed, leaves.log]
      refine ⟨by simp, ?_⟩
      rintro _ ⟨⟩
      have idle : Idle (.created task token snapshot :: state.log) := (unborn empty).cons ⟨rfl, rfl⟩
      exact ⟨by simp [idle.steps], by simp [idle.toolCalls], by simp [idle.steps]⟩
    | claimed stored _ _ _ leaves =>
      rw [leaves.committed, leaves.log]
      refine ⟨by simp, ?_⟩
      rintro _ ⟨⟩
      refine (counts _ (atHead stored)).cons ⟨rfl, rfl⟩ ?_ (Nat.le_succ _)
      exact ⟨Nat.le_refl _, Nat.le_refl _, fun _ => Nat.le_refl _⟩
    | cancelled stored _ settled leaves =>
      rw [leaves.committed, leaves.log]
      refine ⟨by simp, ?_⟩
      rintro _ ⟨⟩
      have successor : Successor codec state _ _ := .cancelled settled
      refine (counts _ (atHead stored)).cons ⟨rfl, rfl⟩ successor.grows ?_
      rw [cancelledSnapshot_frame settled]
      exact Nat.le_succ _
    | saved stored _ admissible _ settled _ leaves =>
      rw [leaves.committed, leaves.log]
      refine ⟨by simp, ?_⟩
      rintro _ ⟨⟩
      exact (counts _ (atHead stored)).save admissible settled
    | leased leaves | purged leaves => exact kept ⟨rfl, rfl⟩ leaves.committed leaves.log
    | noted noted leaves => exact kept noted.uncounted leaves.committed leaves.log

/-! ## Model calls -/

theorem RunReachable.reserved_nodup (reachable : RunReachable codec Origin state) :
    (state.log.filterMap Event.reserved).Nodup := by
  refine reachable.distinct Event.reserved ?_
  intro task state next event revision reached effect logged reserves earlier
  obtain ⟨owner, previous, saved, rfl, rfl⟩ := Event.reserved_some reserves
  obtain ⟨_, stored, _, snapshot, entry, now, _, settled⟩ := effect.saved_of_log logged
  obtain ⟨row, found, rfl⟩ := RunState.current_iff.mpr stored
  have newest := (reached.fenced.stored row found).1
  have bound := (reached.counted.2 _ newest).revisions _ earlier
  have next : saved.revision = row.snapshot.revision + 1 := by
    rw [savedSnapshot_frame settled]
  omega

/-- The model is called under a reservation of the calling worker. -/
theorem modelCall_backed (codec : Codec) : Backed codec Event.reserved Event.modelCall := by
  refine ⟨?_, ?_, ?_⟩
  · intro event revision calls
    obtain ⟨owner, rfl⟩ := Event.modelCall_some calls
    rfl
  · intro task state event revision noted calls
    obtain ⟨owner, rfl⟩ := Event.modelCall_some calls
    cases noted with
    | modelCalled reserved _ =>
      obtain ⟨_, _, isIn, rfl⟩ := reserved
      exact ⟨_, isIn, rfl, rfl⟩
  · intro task state event revision noted calls other isIn callsOther
    obtain ⟨owner, rfl⟩ := Event.modelCall_some calls
    obtain ⟨_, rfl⟩ := Event.modelCall_some callsOther
    cases noted with
    | modelCalled _ unused =>
      rintro rfl
      exact unused isIn

/-- Every model call of the run used a reservation of its own. -/
theorem RunReachable.modelCalls_le_reserved (reachable : RunReachable codec Origin state) :
    (state.log.filterMap Event.modelCall).length ≤ (state.log.filterMap Event.reserved).length := by
  have distinct : (state.log.filterMap Event.modelCall).Nodup :=
    reachable.uses_distinct (modelCall_backed codec) fun _ reached => reached.reserved_nodup
  refine (distinct.subperm ?_).length_le
  intro revision isIn
  obtain ⟨_, hasEvent, calls⟩ := List.mem_filterMap.mp isIn
  obtain ⟨_, _, splits, fact⟩ :=
    (reachable.granted (modelCall_backed codec)).of_mem hasEvent
  obtain ⟨source, inOlder, grants, _⟩ := fact revision calls
  refine List.mem_filterMap.mpr ⟨source, ?_, grants⟩
  rw [splits]
  exact List.mem_append_right _ (List.mem_cons_of_mem _ inOlder)

theorem RunReachable.budgets (fresh : Origin ≤ Fresh)
    (reachable : RunReachable codec Origin state) (known : snapshot ∈ state.committed) :
    (state.log.filterMap Event.modelCall).length ≤ snapshot.config.maxSteps ∧
      (state.log.filterMap Event.dispatched).length ≤ snapshot.config.maxToolCalls := by
  obtain ⟨newest, older, committed⟩ := List.exists_cons_of_ne_nil (List.ne_nil_of_mem known)
  have isHead : state.committed.head? = some newest := by rw [committed]; rfl
  have within := reachable.withinBudget fresh newest (List.mem_of_head? isHead)
  have counted := reachable.counted.2 newest isHead
  have calls := reachable.modelCalls_le_reserved
  have config : newest.config = snapshot.config := by
    rw [committed] at known
    rcases List.mem_cons.mp known with rfl | earlier
    · rfl
    · have linked := reachable.sameRun
      rw [committed, List.pairwise_cons] at linked
      exact (linked.1 snapshot earlier).config
  have steps := within.steps
  have toolCalls := within.toolCalls
  have countedSteps := counted.steps
  have countedCalls := counted.toolCalls
  rw [← config]
  constructor
  · omega
  · omega

end AegisRag.Agent.Durable
