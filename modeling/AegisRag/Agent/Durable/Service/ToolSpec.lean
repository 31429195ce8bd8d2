import AegisRag.Agent.Durable.Service.ExecutionSpec

/-!
# A tool call keeps the discipline

The tool phase of an execution, from its settled pending call to the checkpoint
that follows a result. What a snapshot must look like at each point is named
once: `Turn` where the phase begins, `Dispatchable` where a dispatch is
committed, `Armed` while the call is out, `TurnedOut` where it has come back.
-/

namespace AegisRag.Agent.Durable.Service

open Semantics Semantics.Task

variable {codec : Codec} {actor : Actor (machine codec)} {world : World}
variable {origin snapshot : DurableSnapshot}

/-! ## Stages of a call -/

/-- The live execution was rebuilt from the snapshot, under the run's own configuration. -/
structure Turn (live : AgentExecution) (origin snapshot : DurableSnapshot) : Prop where
  config : snapshot.config = origin.config
  steps : live.stepsUsed = snapshot.stepsUsed
  toolCalls : live.toolCallsUsed = snapshot.toolCallsUsed
  counts : live.repeatedCounts = snapshot.repeatedCounts
  observations : live.observations = snapshot.observations
  decision : live.decision = snapshot.decision
  observed : ∀ observation ∈ snapshot.observations, observation.accepted = true

variable {live : AgentExecution} {definition : ToolDefinition} {callId runId : String}

theorem Turn.bounded (turn : Turn live origin snapshot) : Bounded live snapshot :=
  ⟨turn.observations, turn.steps.le, turn.toolCalls.le.trans (Nat.le_max_left _ _), turn.observed⟩

/-- What a dispatch needs of the snapshot it is committed against. -/
structure Dispatchable (codec : Codec) (definition : ToolDefinition) (live : AgentExecution)
    (callId : String) (snapshot : DurableSnapshot) : Prop where
  running : snapshot.status = .running
  phase : snapshot.phase = .tool
  idle : snapshot.pendingCallId = none
  room : snapshot.toolCallsUsed < snapshot.config.maxToolCalls
  steps : live.stepsUsed = snapshot.stepsUsed
  toolCalls : live.toolCallsUsed = snapshot.toolCallsUsed + 1
  callId : callId =
    toolCallEventId snapshot.runId snapshot.stepsUsed (snapshot.toolCallsUsed + 1)
  observations : live.observations = snapshot.observations
  observed : ∀ observation ∈ snapshot.observations, observation.accepted = true
  decided : ∃ decision toolName, live.decision = some decision ∧
    snapshot.decision = some decision ∧ decision.toolName = some toolName ∧
    live.repeatedCounts =
      snapshot.repeatedCounts.bump (codec.actionHash toolName decision.arguments) ∧
    (definition.needsApproval snapshot = true →
      snapshot.approvedActionDigest = some (codec.decisionDigest decision) ∧
        snapshot.approvedDefinitionDigest = some (codec.definitionDigest definition))

theorem Dispatchable.bounded (dispatchable : Dispatchable codec definition live callId snapshot) :
    Bounded live snapshot := by
  have room := dispatchable.room
  have toolCalls := dispatchable.toolCalls
  exact ⟨dispatchable.observations, dispatchable.steps.le, by omega, dispatchable.observed⟩

/-- The snapshot a dispatch has left, as long as no later save follows. -/
structure Armed (live : AgentExecution) (callId : String) (snapshot : DurableSnapshot) :
    Prop where
  running : snapshot.status = .running
  phase : snapshot.phase = .tool
  pending : snapshot.pendingCallId = some callId
  bounded : Bounded live snapshot

/-- The task committed the dispatch of a call. -/
def OwnCall (world : World) (runId : String) (task : Nat) (callId : String) : Prop :=
  ∃ definition previous saved,
    .saved task (.beforeDispatch definition) previous saved ∈ (world.runs runId).log ∧
      saved.pendingCallId = some callId

theorem ownCall_persistent :
    (discipline codec).Persistent fun world => OwnCall world runId task callId := by
  rintro other world next safe step ⟨definition, previous, saved, isIn, pending⟩
  exact ⟨definition, previous, saved, (step.extends safe).1 _ isIn, pending⟩

/-- The dispatch of a call is the task's newest event of the run. -/
def Dispatching (world : World) (runId : String) (task : Nat) (callId : String)
    (definition : ToolDefinition) : Prop :=
  ∃ previous saved, saved.pendingCallId = some callId ∧
    LatestBy (world.runs runId) task (.saved task (.beforeDispatch definition) previous saved)

theorem dispatching_stable : Stable actor fun world =>
      Dispatching world runId actor.index callId definition := by
  rintro other world next differs safe step ⟨previous, saved, pending, latest⟩
  exact ⟨previous, saved, pending, latestBy_stable other world next differs safe step latest⟩

theorem Dispatching.ownCall (dispatching : Dispatching world runId task callId definition) :
    OwnCall world runId task callId := by
  obtain ⟨previous, saved, pending, _, _, log, _⟩ := dispatching
  refine ⟨definition, previous, saved, ?_, pending⟩
  rw [log]
  exact List.mem_append_right _ List.mem_cons_self

/-- What follows a tool call for the snapshot it leaves: a result to finish with, or
a run that is back in its decision phase. -/
def TurnedOut (snapshot : DurableSnapshot) : Option AgentRunResult → Prop
  | some result => snapshot.status = .running ∧ Finishes snapshot result ∧
      (snapshot.pendingCallId.isSome → snapshot.phase = .tool)
  | none => snapshot.status = .running ∧ snapshot.phase = .decision ∧
      snapshot.pendingCallId = none

theorem Armed.turnedOut (armed : Armed live callId snapshot) (isResult : ResultOf live result) :
    TurnedOut snapshot (some result) :=
  ⟨armed.running, armed.bounded.finishes isResult, fun _ => armed.phase⟩

/-- Until the execution is revoked, what was read is the snapshot the task owns. -/
theorem Seen.unless_revoked (isSeen : Seen world handle origin snapshot seen)
    (ready : Revoked world handle ∨ fact) (known : seen = snapshot → fact → other) :
    Revoked world handle ∨ other := by
  rcases isSeen.same with same | revoked
  · exact ready.imp id (known same)
  · exact Or.inl revoked

/-! ## The call -/

section

variable (free : ∀ world runId, Licensed codec actor world runId)
variable {fail : Failure → σ → World → Prop} (worker : Worker actor handle origin fail state)

include worker in
/-- `before_dispatch` commits the dispatch as the task's newest event. -/
theorem beforeDispatch_wp (owns : Owns actor handle origin snapshot world)
    (ready : Revoked world handle ∨ Dispatchable codec definition live callId snapshot)
    (rest : ∀ saved current, Owns actor handle origin saved current → Armed live callId saved →
      Dispatching current origin.runId actor.index callId definition → ok () state current) :
    Ensures actor (beforeDispatch codec handle definition live callId) ok fail state world := by
  unfold beforeDispatch
  split
  · rename_i decision policy isDecision recorded
    refine wp_bind (save_wp worker (Discipline.Stable.const
      (Dispatchable codec definition live callId snapshot)) owns ready ?_ ?_)
    · intro current _ _ dispatchable
      obtain ⟨_, _, isOther, decided, named, counts, approved⟩ := dispatchable.decided
      cases isDecision.symm.trans isOther
      have admissible : Admissible codec actor.index (current.runs snapshot.runId)
          (.beforeDispatch definition) snapshot _ _ :=
        .beforeDispatch dispatchable.running dispatchable.phase dispatchable.idle decided named
          recorded dispatchable.room approved
      rw [dispatchable.steps, dispatchable.toolCalls, dispatchable.callId, counts]
      exact admissible
    · intro saved current _ dispatchable owns isSaved
      obtain ⟨now, settled⟩ := isSaved.settled
      have armed : Armed live callId saved := by
        obtain ⟨_, _, rfl⟩ := savedSnapshot_eq settled
        exact ⟨dispatchable.running, dispatchable.phase, rfl, dispatchable.observations,
          Nat.le_refl _, Nat.le_max_left _ _, dispatchable.observed⟩
      have dispatching : Dispatching current origin.runId actor.index callId definition := by
        refine ⟨snapshot, saved, armed.pending, ?_⟩
        rw [← owns.runId, isSaved.runId]
        exact isSaved.latest
      have stable : Stable actor fun current =>
          Owns actor handle origin saved current ∧
            Dispatching current origin.runId actor.index callId definition :=
        Owns.framed.stable.and dispatching_stable
      refine wp_bind (checkActive_wp stable (fun _ both => both.1) ⟨owns, dispatching⟩ ?_ ?_)
      · intro self current safe both _ _
        refine clock_neutral.seq stable both ?_ fun failure current both =>
          worker.raises failure current saved both.1
        intro now current _ both
        refine (remaining_neutral _).seq stable both ?_ fun failure current both =>
          worker.raises failure current saved both.1
        intro left current _ both
        refine wp_guard (fun _ => worker.raises _ current saved both.1) fun _ => ?_
        refine wp_guard (fun _ => worker.raises _ current saved both.1) fun _ => ?_
        exact wp_guard (fun _ => worker.raises _ current saved both.1) fun _ =>
          rest saved current both.1 armed both.2
      · intro failure current both
        exact worker.raises failure current saved both.1
  · exact worker.raises _ world snapshot owns

/-- A handler is started only under the dispatch the task has just committed. -/
theorem Dispatching.noted (safe : Safe codec world)
    (dispatching : Dispatching world origin.runId actor.index callId definition) :
    Noted codec actor.index (world.runs origin.runId)
      (.handlerStarted actor.index callId definition) := by
  obtain ⟨previous, saved, pending, newer, older, log, idle⟩ := dispatching
  have reachable := safe.runs origin.runId
  refine .handlerStarted ⟨newer, older, previous, saved, log, pending, ?_⟩ ?_
  · intro site before after isIn
    exact idle _ isIn rfl
  · intro other isIn
    exact reachable.unused_since (handler_backed codec) reachable.dispatched_nodup log pending idle
      isIn rfl rfl

include free in
/-- The registry starts the handler of the task's own dispatch, at most once. -/
theorem registryExecute_wp {kept : World → Prop}
    {ok : Except Failure ToolExecutionResult × AgentExecution → σ → World → Prop}
    (framed : Framed codec actor kept)
    (owns : ∀ current, kept current → Owns actor handle origin snapshot current)
    (holds : kept world) (ready : Revoked world handle ∨
      Dispatching world origin.runId actor.index callId definition)
    (rest : ∀ outcome entered started current, kept current →
      (∀ result, outcome = .ok result →
        result.summary.all AgentObservationSummary.accepted = true) →
      ok (outcome, { live with registryEntered := entered, handlerStarted := started }) state
        current) (raises : ∀ failure current, kept current → fail failure state current) :
    Ensures actor (registryExecute handle callId definition live) ok fail state world := by
  have stable : Stable actor fun current => kept current ∧
      (Revoked current handle ∨ Dispatching current origin.runId actor.index callId definition) :=
    framed.stable.and ((revoked_persistent handle).stable.or dispatching_stable)
  refine perfCounter_neutral.seq stable ⟨holds, ready⟩ ?_ fun failure current both =>
    raises failure current both.1
  intro now current _ both
  apply wp_ite
  · intro late
    exact rest _ live.registryEntered live.handlerStarted current both.1 (by simp)
  intro late
  refine registryGate_neutral.seq stable both ?_ fun failure current both =>
    raises failure current both.1
  intro gate current _ both
  cases gate with
  | error failure => exact rest _ true live.handlerStarted current both.1 (by simp)
  | ok passed =>
    refine wp_bind (startHandler_wp stable framed (fun _ both => both.1) both ?_ ?_)
    · intro current execution safe both found unrevoked
      obtain ⟨_, foundOther, _, isRun, _⟩ := (owns current both.1).shared
      cases found.symm.trans foundOther
      rw [isRun]
      exact ⟨free _ _, (both.2.resolve_left (not_revoked found unrevoked)).noted safe⟩
    · intro reply current kept
      cases reply with
      | error failure => exact rest _ true live.handlerStarted current kept (by simp)
      | ok started =>
        refine handlerResult_neutral.seq framed.stable kept ?_ fun failure current kept =>
          raises failure current kept
        intro result current accepted kept
        exact rest result true true current kept accepted

/-- The entry read for the snapshot a task owns. -/
def EntryRead (snapshot : DurableSnapshot) (callId : String) (entry : ToolLedgerEntry)
    (world : World) : Prop :=
  Held world snapshot ∧ (world.runs snapshot.runId).LedgerSeen snapshot callId entry

theorem entryRead_stable : Stable actor (EntryRead snapshot callId entry) :=
  (seen_persistent snapshot callId entry).stable

include free in
/-- The ledger is read for the pending call or for one the task dispatched. -/
theorem entry_wp {kept : World → Prop} {ok : ToolLedgerEntry → σ → World → Prop}
    (framed : Framed codec actor kept) (holds : kept world)
    (isSeen : Seen world handle origin snapshot seen)
    (recorded : seen.pendingCallId = some callId ∨ OwnCall world origin.runId actor.index callId)
    (rest : ∀ entry current, kept current → Seen current handle origin snapshot seen →
      EntryRead seen callId entry current → ok entry state current)
    (raises : ∀ failure current, kept current → fail failure state current) :
    Ensures actor (ledgerRow seen callId) ok fail state world := by
  have framedAll : Framed codec actor fun current => kept current ∧
      Seen current handle origin snapshot seen ∧
      (seen.pendingCallId = some callId ∨ OwnCall current origin.runId actor.index callId) :=
    framed.and (seen_framed.and ((Framed.const _).or (.of_persistent ownCall_persistent)))
  refine ledgerRow_wp framedAll ⟨holds, isSeen, recorded⟩ ?_ ?_ fun failure current all =>
    raises failure current all.1
  · rintro current safe ⟨_, isSeen, recorded⟩
    refine ⟨isSeen.held, ?_, free _ _⟩
    rw [isSeen.runId]
    exact recorded
  · rintro entry current safe ⟨established, isSeen, _⟩ read
    exact rest entry current established isSeen ⟨isSeen.held, read⟩

include worker in
/-- `after_dispatch` completes the pending call with its observation. -/
theorem afterDispatch_wp {result : ToolExecutionResult}
    (owns : Owns actor handle origin snapshot world)
    (own : OwnCall world origin.runId actor.index callId)
    (ready : Revoked world handle ∨ Armed live callId snapshot)
    (accepted : result.summary.all AgentObservationSummary.accepted = true)
    (rest : ∀ saved current, Owns actor handle origin saved current →
      saved.status = .running ∧ saved.phase = .decision ∧ saved.pendingCallId = none →
      (∀ observation, result.summary = some observation →
        Bounded { live with observations := live.observations ++ [observation] } saved) →
      ok () state current) :
    Ensures actor (afterDispatch handle live callId result) ok fail state world := by
  unfold afterDispatch
  split
  · exact worker.raises _ world snapshot owns
  rename_i observation isObservation
  have isAccepted : observation.accepted = true := by
    rw [isObservation] at accepted
    exact accepted
  have framed : Framed codec actor fun current => Owns actor handle origin snapshot current ∧
      OwnCall current origin.runId actor.index callId ∧
      (Revoked current handle ∨ Armed live callId snapshot) :=
    Owns.framed.and ((Framed.of_persistent ownCall_persistent).and
      ((Framed.of_persistent (revoked_persistent handle)).or (.const _)))
  refine wp_bind (read_wp framed.stable (fun _ all => all.1) ⟨owns, own, ready⟩ ?_)
  intro self current safe all isSeen
  refine wp_bind (entry_wp worker.free framed all isSeen (Or.inr all.2.1) ?_
    fun failure current all => worker.raises failure current snapshot all.1)
  intro entry current all isSeen read
  have stable : Stable actor fun current =>
      Owns actor handle origin snapshot current ∧ (Revoked current handle ∨
        EntryRead snapshot callId entry current ∧ Armed live callId snapshot) :=
    Owns.framed.stable.and ((revoked_persistent handle).stable.or
      (entryRead_stable.and (Discipline.Stable.const _)))
  have established : Revoked current handle ∨
      EntryRead snapshot callId entry current ∧ Armed live callId snapshot :=
    isSeen.unless_revoked all.2.2 fun same armed => ⟨same ▸ read, armed⟩
  refine rehydrate_neutral.seq stable ⟨all.1, established⟩ ?_ fun failure current both =>
    worker.raises failure current snapshot both.1
  intro fingerprints current _ both
  refine wp_bind (save_wp worker (entryRead_stable.and (Discipline.Stable.const _)) both.1
    both.2 ?_ ?_)
  · rintro current _ _ ⟨read, armed⟩
    rw [armed.bounded.observations]
    exact .afterDispatch armed.running armed.phase armed.pending read.2 isAccepted
  · rintro saved current _ ⟨_, armed⟩ owns isSaved
    obtain ⟨_, settled⟩ := isSaved.settled
    obtain ⟨_, _, rfl⟩ := savedSnapshot_eq settled
    refine rest _ current owns ⟨armed.running, rfl, rfl⟩ ?_
    intro other isOther
    cases isObservation.symm.trans isOther
    refine ⟨rfl, armed.bounded.steps, armed.bounded.toolCalls, ?_⟩
    intro known isIn
    rcases List.mem_append.mp isIn with earlier | newest
    · rw [armed.bounded.observations] at earlier
      exact armed.bounded.observed known earlier
    · rw [List.mem_singleton.mp newest]
      exact isAccepted

include worker in
/-- What `_execute_tool` makes of the registry's answer. -/
theorem toolOutcome_wp {outcome : Except Failure ToolExecutionResult}
    {ok : Option AgentRunResult × AgentExecution → σ → World → Prop}
    (owns : Owns actor handle origin snapshot world)
    (ready : Revoked world handle ∨ journal = true ∧ Armed live callId snapshot)
    (own : journal = true → OwnCall world origin.runId actor.index callId)
    (accepted : ∀ result, outcome = .ok result →
      result.summary.all AgentObservationSummary.accepted = true)
    (rest : ∀ result live last current, Owns actor handle origin last current →
      (Revoked current handle ∨ journal = true ∧ TurnedOut last result) →
      ok (result, live) state current) :
    Ensures actor (toolOutcome handle journal live callId outcome) ok fail state world := by
  have finishes : ∀ result (isResult : ResultOf live result) current,
      Owns actor handle origin snapshot current ∧
        (Revoked current handle ∨ journal = true ∧ Armed live callId snapshot) →
      ok (some result, live) state current := by
    intro result isResult current both
    exact rest _ live snapshot current both.1
      (both.2.imp id fun known => ⟨known.1, known.2.turnedOut isResult⟩)
  unfold toolOutcome
  split
  · refine auxiliaryIo_neutral.owned worker ⟨owns, ready⟩ ?_
    intro _ current _ both
    exact (timeoutResult_neutral live live.deadline).owned worker both
      (fun result current isResult both => finishes result isResult current both)
  · exact worker.raises _ world snapshot owns
  · refine auxiliaryIo_neutral.owned worker ⟨owns, ready⟩ ?_
    intro _ current _ both
    refine perfCounter_neutral.owned worker both ?_
    intro now current _ both
    exact (finishRun_neutral live now .failed .agentToolFailed).owned worker both
      (fun result current isResult both => finishes result isResult current both)
  · rename_i result
    -- What holds after the checkpoint of the result, whether or not there was one to write.
    rw [bind_when]
    refine wp_seq (?_ : Ensures actor _ (fun _ next current => next = state ∧ ∃ last,
      Owns actor handle origin last current ∧ (Revoked current handle ∨
        journal = true ∧ (last.status = .running ∧ last.phase = .decision ∧
          last.pendingCallId = none) ∧
        ∀ observation, result.summary = some observation →
          Bounded { live with observations := live.observations ++ [observation] } last)) _ _ _) ?_
    · apply wp_ite
      · intro journals
        refine afterDispatch_wp worker owns (own journals)
          (ready.imp id fun known => known.2) (accepted result rfl) ?_
        intro saved current owns settled bounded
        exact ⟨rfl, saved, owns, Or.inr ⟨journals, settled, bounded⟩⟩
      · intro skips
        exact ⟨rfl, snapshot, owns, Or.inl (ready.resolve_right fun known => skips known.1)⟩
    rintro _ _ current ⟨rfl, last, both⟩
    split
    · exact worker.raises _ current last both.1
    rename_i observation isObservation
    refine auxiliaryIo_neutral.owned worker both ?_
    intro _ current _ both
    apply wp_ite
    · intro failed
      refine perfCounter_neutral.owned worker both ?_
      intro now current _ both
      refine (finishRun_neutral _ now .failed .agentToolFailed).owned worker both ?_
      intro finished current isResult both
      refine rest _ _ last current both.1 (both.2.imp id fun known => ⟨known.1, ?_⟩)
      obtain ⟨_, ⟨running, _, idle⟩, bounded⟩ := known
      exact ⟨running, (bounded observation isObservation).finishes isResult, by simp [idle]⟩
    · intro failed
      exact rest _ _ last current both.1 (both.2.imp id fun known => ⟨known.1, known.2.1⟩)

include worker in
/-- `_execute_tool` once the call is counted. -/
theorem dispatchTool_wp {ok : Option AgentRunResult × AgentExecution → σ → World → Prop}
    (owns : Owns actor handle origin snapshot world)
    (ready : Revoked world handle ∨ journal = true ∧ Dispatchable codec definition live
      (toolCallEventId origin.runId live.stepsUsed live.toolCallsUsed) snapshot)
    (rest : ∀ result live last current, Owns actor handle origin last current →
      (Revoked current handle ∨ journal = true ∧ TurnedOut last result) →
      ok (result, live) state current) :
    Ensures actor (dispatchTool codec handle (runtimeFactory origin) definition journal live) ok
      fail state world := by
  refine auxiliaryIo_neutral.owned worker ⟨owns, ready⟩ ?_
  intro _ current _ both
  refine perfCounter_neutral.owned worker both ?_
  intro now current _ both
  apply wp_ite
  · intro late
    refine (timeoutResult_neutral live now).owned worker both ?_
    intro result current isResult both
    refine rest _ live snapshot current both.1 (both.2.imp id fun known => ⟨known.1, ?_⟩)
    exact ⟨known.2.running, known.2.bounded.finishes isResult, by simp [known.2.idle]⟩
  intro late
  cases journal with
  | false =>
    have revoked : Revoked current handle := both.2.resolve_right (by simp)
    have framed : Framed codec actor fun current =>
        Owns actor handle origin snapshot current ∧ Revoked current handle :=
      Owns.framed.and (Framed.of_persistent (revoked_persistent handle))
    refine wp_bind (registryExecute_wp worker.free framed (fun _ both => both.1)
      ⟨both.1, revoked⟩ (Or.inl revoked) ?_ fun failure current both =>
        worker.raises failure current snapshot both.1)
    intro outcome entered started current both accepted
    exact toolOutcome_wp worker both.1 (Or.inl both.2) (by simp) accepted rest
  | true =>
    refine wp_bind (beforeDispatch_wp worker both.1 (both.2.imp id fun known => known.2) ?_)
    intro saved current owns armed dispatching
    have framed : Framed codec actor fun current => Owns actor handle origin saved current ∧
        OwnCall current origin.runId actor.index
          (toolCallEventId origin.runId live.stepsUsed live.toolCallsUsed) :=
      Owns.framed.and (Framed.of_persistent ownCall_persistent)
    refine wp_bind (registryExecute_wp worker.free framed (fun _ both => both.1)
      ⟨owns, dispatching.ownCall⟩ (Or.inr dispatching) ?_ fun failure current both =>
        worker.raises failure current saved both.1)
    intro outcome entered started current both accepted
    have armedNow : Armed { live with registryEntered := entered, handlerStarted := started }
        (toolCallEventId origin.runId live.stepsUsed live.toolCallsUsed) saved :=
      ⟨armed.running, armed.phase, armed.pending, armed.bounded.observations,
        armed.bounded.steps, armed.bounded.toolCalls, armed.bounded.observed⟩
    exact toolOutcome_wp worker both.1 (Or.inr ⟨rfl, armedNow⟩) (fun _ => both.2) accepted rest

/-- The tool phase of a snapshot whose last call is settled. -/
structure Idle (live : AgentExecution) (origin snapshot : DurableSnapshot) : Prop where
  turn : Turn live origin snapshot
  running : snapshot.status = .running
  phase : snapshot.phase = .tool
  idle : snapshot.pendingCallId = none

/-- A tool that needs an approval has the grant of the decision and of its own definition. -/
def Granting (codec : Codec) (definition : ToolDefinition) (snapshot : DurableSnapshot) : Prop :=
  ∀ decision, snapshot.decision = some decision → definition.needsApproval snapshot = true →
    snapshot.approvedActionDigest = some (codec.decisionDigest decision) ∧
      snapshot.approvedDefinitionDigest = some (codec.definitionDigest definition)

theorem Idle.turnedOut (idle : Idle live origin snapshot) (bounded : Bounded counted snapshot)
    (isResult : ResultOf counted result) : TurnedOut snapshot (some result) :=
  ⟨idle.running, bounded.finishes isResult, by simp [idle.idle]⟩

include worker in
/-- `_execute_tool`. Without the journal it only reports the limit of calls. -/
theorem runtimeExecuteTool_wp {ok : Option AgentRunResult × AgentExecution → σ → World → Prop}
    (owns : Owns actor handle origin snapshot world)
    (ready : Revoked world handle ∨ Idle live origin snapshot ∧
      (journal = false → snapshot.config.maxToolCalls ≤ snapshot.toolCallsUsed) ∧
      (journal = true → Granting codec definition snapshot))
    (rest : ∀ result live last current, Owns actor handle origin last current →
      (Revoked current handle ∨ TurnedOut last result ∧
        (journal = false → last.phase = .tool ∧ last.pendingCallId = none)) →
      ok (result, live) state current) :
    Ensures actor (runtimeExecuteTool codec handle (runtimeFactory origin) definition journal live)
      ok fail state world := by
  -- A result that ends the call before it is counted.
  have ends : ∀ {fact : Prop} (counted : AgentExecution) now status reason current,
      Owns actor handle origin snapshot current ∧ (Revoked current handle ∨ fact) →
      (fact → Idle live origin snapshot ∧ Bounded counted snapshot) →
      Ensures actor (do
        return (some (← finishRun counted now status reason), counted)) ok fail state current := by
    intro fact counted now status reason current both known
    refine (finishRun_neutral counted now status reason).owned worker both ?_
    intro result current isResult both
    refine rest _ counted snapshot current both.1 (both.2.imp id fun holds => ?_)
    obtain ⟨idle, bounded⟩ := known holds
    exact ⟨idle.turnedOut bounded isResult, fun _ => ⟨idle.phase, idle.idle⟩⟩
  unfold runtimeExecuteTool
  apply wp_ite
  · intro limited
    refine auxiliaryIo_neutral.owned worker ⟨owns, ready⟩ ?_
    intro _ current _ both
    refine perfCounter_neutral.owned worker both ?_
    intro now current _ both
    exact ends live now .stopped .maxToolCallsReached current both
      fun known => ⟨known.1, known.1.turn.bounded⟩
  intro limited
  have journaled : Revoked world handle ∨ journal = true ∧ Idle live origin snapshot ∧
      snapshot.toolCallsUsed < snapshot.config.maxToolCalls ∧
      Granting codec definition snapshot := by
    refine ready.imp id ?_
    rintro ⟨idle, reached, approved⟩
    have room : snapshot.toolCallsUsed < snapshot.config.maxToolCalls := by
      rw [idle.turn.config, ← idle.turn.toolCalls]
      exact not_le.mp limited
    cases journal with
    | true => exact ⟨rfl, idle, room, approved rfl⟩
    | false => exact absurd (reached rfl) (not_le.mpr room)
  refine perfCounter_neutral.owned worker ⟨owns, journaled⟩ ?_
  intro now current _ both
  apply wp_ite
  · intro late
    exact ends live now .stopped .agentTimeout current both
      fun known => ⟨known.2.1, known.2.1.turn.bounded⟩
  intro late
  split
  · exact worker.raises _ current snapshot both.1
  rename_i toolName arguments named
  apply wp_ite
  · intro repeated
    refine auxiliaryIo_neutral.owned worker both ?_
    intro _ current _ both
    refine perfCounter_neutral.owned worker both ?_
    intro now current _ both
    refine ends _ now .stopped .repeatedActionDetected current both fun known => ⟨known.2.1, ?_⟩
    have bounded := known.2.1.turn.bounded
    exact ⟨bounded.observations, bounded.steps, bounded.toolCalls, bounded.observed⟩
  intro repeated
  refine dispatchTool_wp worker both.1 (both.2.imp id ?_) ?_
  · rintro ⟨isJournal, idle, room, approved⟩
    have turn := idle.turn
    obtain ⟨decision, isDecision, isNamed⟩ := Option.bind_eq_some_iff.mp named
    obtain ⟨name, isName, isPair⟩ := Option.map_eq_some_iff.mp isNamed
    obtain ⟨rfl, rfl⟩ := Prod.mk.inj isPair
    have decided : snapshot.decision = some decision := turn.decision.symm.trans isDecision
    refine ⟨isJournal, idle.running, idle.phase, idle.idle, room, turn.steps, ?_, ?_,
      turn.observations, turn.observed, decision, name, isDecision, decided, isName, ?_,
      approved decision decided⟩
    · exact congrArg (· + 1) turn.toolCalls
    · rw [turn.steps, turn.toolCalls, both.1.runId]
    · exact congrArg (RepeatedCounts.bump · (codec.actionHash name decision.arguments)) turn.counts
  · intro result live last current owns known
    refine rest result live last current owns (known.imp id fun known => ⟨known.2, ?_⟩)
    simp [known.1]

/-! ## Around the call -/

/-- The tool phase of a snapshot that may still have a call to settle. -/
structure Tooling (live : AgentExecution) (origin snapshot : DurableSnapshot) : Prop where
  turn : Turn live origin snapshot
  running : snapshot.status = .running
  phase : snapshot.phase = .tool

include worker in
/-- A pending call of an interrupted execution is given up, or the run is stopped. -/
theorem settlePending_wp {decision : AgentStepDecision} {ok : Bool → σ → World → Prop}
    (owns : Owns actor handle origin snapshot world)
    (isSeen : Seen world handle origin snapshot seen) (decided : seen.decision = some decision)
    (ready : Revoked world handle ∨ Tooling live origin snapshot)
    (rest : ∀ goesOn last current, Owns actor handle origin last current →
      (goesOn = true → Revoked current handle ∨ Idle live origin last ∧
        last.decision = some decision) → ok goesOn state current) :
    Ensures actor (settlePending codec handle definition seen decision) ok fail state world := by
  unfold settlePending
  split
  · rename_i idle
    refine rest true snapshot world owns fun _ => isSeen.unless_revoked ready ?_
    rintro rfl tooling
    exact ⟨⟨tooling.turn, tooling.running, tooling.phase, idle⟩, decided⟩
  rename_i callId pending
  refine wp_bind (entry_wp worker.free (Owns.unless_revoked _) ⟨owns, ready⟩ isSeen
    (Or.inl pending) ?_
    fun failure current both => worker.raises failure current snapshot both.1)
  intro entry current both isSeen read
  -- An entry that is not the decision's, or one that is over, cannot be this call's.
  have refused : (entry.actionDigest ≠ codec.decisionDigest decision ∨ entry.status = .completed) →
      Ensures actor (raiseRecorded "DURABLE_LEDGER_INVALID" seen : Act σ Bool)
        ok fail state current := by
    intro differs
    have stable : Stable actor fun current =>
        Owns actor handle origin snapshot current ∧ EntryRead seen callId entry current :=
      Owns.framed.stable.and entryRead_stable
    refine raiseRecorded_wp stable Owns.framed (fun _ both => both.1) ⟨both.1, read⟩ ?_
      fun current owns => worker.raises _ current snapshot owns
    intro current safe both
    exact ⟨worker.free _ _, .mismatch both.2.1 pending decided both.2.2 differs⟩
  apply wp_ite
  · intro differs
    exact refused (Or.inl differs)
  intro differs
  apply wp_ite
  · intro completed
    exact refused (Or.inr completed)
  intro completed
  apply wp_ite
  · intro effects
    refine wp_bind (wp_bind (save_wp worker (Discipline.Stable.const True) both.1
      (Or.inr trivial) (fun _ _ _ _ => .unknownReplay) ?_))
    intro saved current _ _ owns _
    exact rest false saved current owns (by simp)
  intro effects
  have replayable : entry.replayPolicy = .readOnly := not_not.mp (not_or.mp effects).1
  have established : Revoked current handle ∨ EntryRead snapshot callId entry current ∧
      Tooling live origin snapshot ∧ snapshot.pendingCallId = some callId ∧
      snapshot.decision = some decision := by
    refine isSeen.unless_revoked both.2 ?_
    rintro rfl tooling
    exact ⟨read, tooling, pending, decided⟩
  refine wp_bind (save_wp worker (entryRead_stable.and (Discipline.Stable.const _)) both.1
    established ?_ ?_)
  · rintro current _ _ ⟨read, tooling, pending, _⟩
    exact .markUnknown tooling.running tooling.phase pending read.2 replayable
  · rintro saved current _ ⟨_, tooling, _, decided⟩ owns isSaved
    obtain ⟨_, settled⟩ := isSaved.settled
    obtain ⟨_, _, rfl⟩ := savedSnapshot_eq settled
    have turn := tooling.turn
    refine rest true _ current owns fun _ => Or.inr
      ⟨⟨?_, tooling.running, tooling.phase, rfl⟩, decided⟩
    exact ⟨turn.config, turn.steps, turn.toolCalls, turn.counts, turn.observations, turn.decision,
      turn.observed⟩

end

section

variable (free : ∀ world runId, Licensed codec actor world runId)

include free in
/-- What is written after a tool call. -/
theorem settleTool_brings {result : Option AgentRunResult} :
    Brings actor (fun current => Owns actor handle origin snapshot current ∧
        (Revoked current handle ∨ TurnedOut snapshot result))
      (settleTool handle live result : Act σ Unit) (Owning actor handle origin) := by
  intro state world both
  unfold settleTool
  split
  · refine wp_bind (save_wp (.owning free) (Discipline.Stable.const _) both.1 both.2 ?_ ?_)
    · rintro current _ _ ⟨running, phase, idle⟩
      exact .clearGrant running phase idle
    · intro saved current _ _ owns _
      exact ⟨saved, owns⟩
  rename_i result
  refine wp_bind (read_wp (Owns.unless_revoked _).stable (fun _ both => both.1) both ?_)
  intro self current safe both isSeen
  split
  · rename_i idle
    have established : Revoked current handle ∨
        TurnedOut snapshot (some result) ∧ snapshot.pendingCallId = none :=
      isSeen.unless_revoked both.2 fun same turned => ⟨turned, same ▸ idle⟩
    refine finish_brings free (Discipline.Stable.const _) ?_ state current ⟨both.1, established⟩
    rintro current ⟨⟨running, finishes, _⟩, idle⟩
    exact .finishTool running finishes (Or.inl idle)
  rename_i callId pending
  refine wp_bind (entry_wp free (Owns.unless_revoked _) both isSeen (Or.inl pending) ?_
    fun _ _ both => ⟨snapshot, both.1⟩)
  intro entry current both isSeen read
  have established : Revoked current handle ∨ EntryRead snapshot callId entry current ∧
      TurnedOut snapshot (some result) ∧ snapshot.pendingCallId = some callId :=
    isSeen.unless_revoked both.2 fun same turned => ⟨same ▸ read, turned, same ▸ pending⟩
  have stable : Stable actor fun current =>
      EntryRead snapshot callId entry current ∧ TurnedOut snapshot (some result) ∧
        snapshot.pendingCallId = some callId :=
    entryRead_stable.and (Discipline.Stable.const _)
  apply wp_ite
  · intro rejected
    refine finish_brings free stable ?_ state current ⟨both.1, established⟩
    rintro current ⟨read, ⟨running, finishes, phase⟩, pending⟩
    exact .finishRejected running (phase (by simp [pending])) pending read.2 finishes
  intro rejected
  apply wp_ite
  · intro inDoubt
    exact stop_brings free (fun _ => .outcomeUnknown) state current both.1
  · intro inDoubt
    refine finish_brings free stable ?_ state current ⟨both.1, established⟩
    rintro current ⟨read, ⟨running, finishes, _⟩, pending⟩
    exact .finishTool running finishes (Or.inr ⟨callId, entry, pending, read.2, inDoubt⟩)

include free in
/-- The approval gate: a tool that needs one is dispatched only under its own grant. -/
theorem approvedTool_wp {decision : AgentStepDecision} {state : σ}
    (owns : Owns actor handle origin snapshot world)
    (isSeen : Seen world handle origin snapshot seen)
    (ready : Revoked world handle ∨ Idle live origin snapshot ∧ snapshot.decision = some decision) :
    Ensures actor
      (approvedTool codec handle (runtimeFactory origin) definition live seen decision)
      (fun _ _ => Owning actor handle origin) (fun _ _ => Owning actor handle origin) state
      world := by
  unfold approvedTool
  apply wp_ite
  · intro ungranted
    refine wp_bind (uuid4_wp (Owns.unless_revoked _) ⟨owns, ready⟩ ?_)
    intro approvalId current _ both _ _
    refine clock_neutral.owned (.owning free) both ?_
    intro now current _ both
    refine wp_bind (save_wp (.owning free) (Discipline.Stable.const _) both.1 both.2 ?_ ?_)
    · rintro current _ _ ⟨idle, _⟩
      exact .requestApproval idle.running idle.phase idle.idle
    · intro saved current _ _ owns _
      exact ⟨saved, owns⟩
  intro ungranted
  apply wp_ite
  · intro stale
    exact ⟨snapshot, owns⟩
  intro stale
  refine wp_bind (runtimeExecuteTool_wp (.owning free) owns ?_ ?_)
  · refine isSeen.unless_revoked ready ?_
    rintro rfl ⟨idle, decided⟩
    refine ⟨idle, by simp, fun _ => ?_⟩
    intro other isOther needs
    cases decided.symm.trans isOther
    exact ⟨not_not.mp fun differs => ungranted ⟨needs, differs⟩,
      not_not.mp fun differs => stale ⟨needs, differs⟩⟩
  · intro result live last current owns known
    exact settleTool_brings free state current ⟨owns, known.imp id fun known => known.1⟩

include free in
/-- `execute_tool`. -/
theorem executeTool_brings :
    Brings actor (fun current => Owns actor handle origin snapshot current ∧
        (Revoked current handle ∨ Tooling live origin snapshot))
      (executeTool codec handle (runtimeFactory origin) live) (Owning actor handle origin) := by
  intro state world both
  refine wp_bind (checkActive_wp (Owns.unless_revoked _).stable (fun _ both => both.1) both ?_
    fun _ _ both => ⟨snapshot, both.1⟩)
  intro self current _ both _ _
  refine wp_bind (wp_get ?_)
  refine (toolDefinition_neutral self.snapshot state).owned (.owning free) both ?_
  intro definition current _ both
  refine wp_bind (read_wp (Owns.unless_revoked _).stable (fun _ both => both.1) both ?_)
  intro self current safe both isSeen
  split
  · exact ⟨snapshot, both.1⟩
  rename_i decision decided
  refine wp_bind (settlePending_wp (.owning free) both.1 isSeen decided both.2 ?_)
  intro goesOn last current owns settled
  cases goesOn with
  | false => exact ⟨last, owns⟩
  | true =>
    refine wp_bind (read_wp (Owns.unless_revoked _).stable (fun _ both => both.1)
      ⟨owns, settled rfl⟩ ?_)
    intro self current safe both isSeen
    apply wp_ite
    · intro limited
      refine wp_bind (runtimeExecuteTool_wp (.owning free) both.1 ?_ ?_)
      · exact isSeen.unless_revoked both.2 fun same known =>
          ⟨known.1, fun _ => same ▸ limited, by simp⟩
      · intro result live last current owns known
        cases result with
        | none => exact ⟨last, owns⟩
        | some result =>
          refine finish_brings free (Discipline.Stable.const _) ?_ state current ⟨owns, known⟩
          rintro current ⟨⟨running, finishes, _⟩, limit⟩
          exact .finishToolLimit running (limit rfl).1 (limit rfl).2 finishes
    · intro limited
      exact approvedTool_wp free both.1 isSeen both.2

end

end AegisRag.Agent.Durable.Service
