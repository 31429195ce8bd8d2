import AegisRag.Agent.Durable.Service.Rules

/-!
# The business task keeps the discipline

`Owns` is what a business task knows between two operations: the shared
execution is its own and, until somebody revokes it, holds the snapshot the task
last loaded or saved. Once it is revoked, every save of the task is refused
before it is issued.
-/

namespace AegisRag.Agent.Durable.Service

open Semantics Semantics.Task

variable {codec : Codec} {actor : Actor (machine codec)} {world : World} {σ α : Type}

/-! ## Results of a live execution -/

/-- The result was computed from the live execution's own counters. -/
def ResultOf (live : AgentExecution) (result : AgentRunResult) : Prop :=
  ∃ now status reason finalAnswer citations errorCode,
    result = live.result now status reason finalAnswer citations errorCode ∧
      citations.all AgentCitationRef.accepted = true

/-- A live execution that has counted no more than its snapshot allows. -/
structure Bounded (live : AgentExecution) (snapshot : DurableSnapshot) : Prop where
  observations : live.observations = snapshot.observations
  steps : live.stepsUsed ≤ snapshot.stepsUsed
  toolCalls : live.toolCallsUsed ≤ max snapshot.toolCallsUsed snapshot.config.maxToolCalls
  observed : ∀ observation ∈ snapshot.observations, observation.accepted = true

variable {self : SharedExecution}

theorem Bounded.finishes (bounded : Bounded live snapshot) (isResult : ResultOf live result) :
    Finishes snapshot result := by
  obtain ⟨now, status, reason, finalAnswer, citations, errorCode, rfl, accepted⟩ := isResult
  refine ⟨bounded.observations, bounded.steps, bounded.toolCalls, ?_⟩
  simp only [AgentRunResult.accepted, AgentExecution.result, accepted, Bool.and_true,
    Bool.and_eq_true, List.all_eq_true]
  constructor
  · unfold elapsedMs
    have elapsed : (0 : Seconds) ≤ max (now - live.started) 0 := le_max_right _ _
    exact decide_eq_true (mul_nonneg elapsed (by norm_num))
  · rw [bounded.observations]
    exact bounded.observed

theorem finishRun_neutral (live : AgentExecution) (now : Seconds) (status : AgentRunStatus)
    (reason : AgentTerminationReason) :
    Neutral codec (finishRun live now status reason : Act σ AgentRunResult) (ResultOf live) :=
  .bind auxiliaryIo_neutral fun _ _ =>
    .pure ⟨now, status, reason, none, [], none, rfl, rfl⟩

theorem timeoutResult_neutral (live : AgentExecution) (now : Seconds) :
    Neutral codec (timeoutResult live now : Act σ AgentRunResult) (ResultOf live) :=
  finishRun_neutral live now .stopped .agentTimeout

/-! ## Checks that leave the world alone -/

theorem remaining_neutral (snapshot : DurableSnapshot) :
    Neutral codec (remaining snapshot : Act σ Seconds) fun _ => True :=
  .bind clock_neutral fun _ _ => .pure trivial

theorem authorize_neutral (context : RequestContext) :
    Neutral codec (Task.ofExcept (authorize context) : Act σ Unit) fun _ => True :=
  .ofExcept fun _ _ => trivial

theorem privateArguments_neutral (arguments : List (String × Json)) :
    Neutral codec (Task.ofExcept (codec.validatePrivateArguments arguments) : Act σ Unit)
      fun _ => True :=
  .ofExcept fun _ _ => trivial

/-- A tool that may be dispatched has a policy to record. -/
theorem toolDefinition_neutral (snapshot : DurableSnapshot) (context : RequestContext) :
    Neutral codec (toolDefinition codec snapshot context : Act σ ToolDefinition)
      fun definition => ∃ policy, definition.durableReplayPolicy.recorded = some policy := by
  unfold toolDefinition
  split
  · exact .throw
  split
  · exact .throw
  refine .bind (getDefinition_neutral _) fun definition _ => ?_
  refine guard_neutral fun _ => ?_
  refine guard_neutral fun supported => ?_
  refine .bind (privateArguments_neutral _) fun _ _ => .pure ?_
  cases policy : definition.durableReplayPolicy with
  | unsupported => exact absurd policy supported
  | readOnly => exact ⟨.readOnly, rfl⟩
  | never => exact ⟨.never, rfl⟩

theorem requireObservedTools_neutral (context : RequestContext)
    (observations : List AgentObservationSummary) :
    Neutral codec (requireObservedTools context observations : Act σ Unit) fun _ => True := by
  induction observations with
  | nil => exact .pure trivial
  | cons observation rest ih =>
    refine .bind (getDefinition_neutral _) fun definition _ => ?_
    exact guard_neutral fun _ => ih

theorem usedSeconds_neutral (snapshot : DurableSnapshot) (now : Seconds) :
    Neutral codec (usedSeconds snapshot now : Act σ Seconds) fun _ => True :=
  .ite
    (fun _ => .bind (remaining_neutral snapshot) fun _ _ => .pure trivial)
    fun _ => .pure trivial

/-- Revalidation rebuilds the live execution from the snapshot. -/
theorem revalidate_neutral (service : DurableAgentService) (context : RequestContext)
    (snapshot : DurableSnapshot) :
    Neutral codec (revalidate service context snapshot :
      Act σ (RequestContext × AgentExecution × List (String × String)))
      fun result => ∃ started deadline, result.2.1 = restoredExecution snapshot started
        deadline := by
  unfold revalidate
  rw [bind_ite]
  refine .bind (.ite (fun _ => revalidateContext_neutral context)
    fun _ => .pure trivial) fun context _ => ?_
  refine .bind (authorize_neutral context) fun _ _ => ?_
  refine guard_neutral fun _ => ?_
  refine .bind (requireObservedTools_neutral context _) fun _ _ => ?_
  refine .bind rehydrate_neutral fun fingerprints _ => ?_
  refine .bind perfCounter_neutral fun started _ => ?_
  refine .bind clock_neutral fun now _ => ?_
  refine guard_neutral fun _ => ?_
  refine .bind (usedSeconds_neutral snapshot now) fun used _ => ?_
  refine .bind perfCounter_neutral fun counter _ => ?_
  refine .bind (remaining_neutral snapshot) fun left _ => ?_
  exact guard_neutral fun _ => .pure ⟨_, _, rfl⟩

theorem validateFinalAnswer_neutral (deadline : Seconds) :
    Neutral codec (validateFinalAnswer deadline : Act σ FinalAnswerValidationResult)
      fun validation => validation.citations.all AgentCitationRef.accepted = true := by
  unfold validateFinalAnswer
  refine .bind perfCounter_neutral fun now _ => .ite (fun _ => .pure rfl) fun _ => ?_
  refine .bind validateAnswer_neutral fun result answered => ?_
  split
  · exact .pure (answered _ rfl)
  · exact .pure rfl
  · exact .throw
  · exact .pure rfl

theorem validateResult_neutral (live : AgentExecution) :
    Neutral codec (validateResult live : Act σ AgentRunResult) (ResultOf live) := by
  unfold validateResult
  refine .bind (validateFinalAnswer_neutral live.deadline) fun validation accepted => ?_
  refine .bind perfCounter_neutral fun now _ => ?_
  refine .ite (fun _ => timeoutResult_neutral live now) fun _ => ?_
  refine .bind auxiliaryIo_neutral fun _ _ => .ite (fun _ => ?_) fun _ => ?_
  · exact .pure ⟨now, _, _, _, _, _, rfl, accepted⟩
  · exact .pure ⟨now, _, _, _, _, _, rfl, rfl⟩

/-! ## Owning a shared execution -/

/-- The task owns the shared execution of a run it was started with at `origin`,
and unless it was revoked, the execution holds `snapshot`. -/
structure Owns (actor : Actor (machine codec)) (handle : Nat) (origin snapshot : DurableSnapshot)
    (world : World) : Prop where
  started : Held world origin
  held : Held world snapshot
  runId : snapshot.runId = origin.runId
  shared : ∃ self, world.executions[handle]? = some self ∧
    self.owner = .business actor.index ∧ self.snapshot.runId = origin.runId ∧
    (self.snapshot = snapshot ∨ self.revocationError.isSome)

variable {handle : Nat} {origin snapshot : DurableSnapshot}

theorem Owns.framed : Framed codec actor (Owns actor handle origin snapshot) := by
  constructor
  · rintro other world next differs safe step
      ⟨isOrigin, held, isRun, self, found, owner, runId, same⟩
    obtain ⟨after, foundAfter, passes⟩ := step.executions handle self found
    refine ⟨held_persistent origin other world next safe step isOrigin,
      held_persistent snapshot other world next safe step held, isRun, after, foundAfter, ?_,
      passes.runId.trans runId, ?_⟩
    · rcases passes.owner with kept | ⟨isRequest, _⟩ | ⟨isWaiting, _⟩
      · exact kept.trans owner
      · rw [owner] at isRequest
        cases isRequest
      · rw [owner] at isWaiting
        cases isWaiting
    · rcases same with isSnapshot | revoked
      · rcases passes.snapshot with kept | revoked | isRequest | isBusiness
        · exact Or.inl (kept.trans isSnapshot)
        · exact Or.inr (passes.revoked revoked)
        · rw [owner] at isRequest
          cases isRequest
        · rw [owner, Owner.business.injEq] at isBusiness
          exact absurd isBusiness.symm differs
      · exact Or.inr (passes.revoked revoked)
  · rintro world next safe step same ⟨isOrigin, held, isRun, shared⟩
    refine ⟨held_persistent origin actor world next safe step isOrigin,
      held_persistent snapshot actor world next safe step held, isRun, ?_⟩
    rw [same]
    exact shared

/-- The task owns its execution, with whatever snapshot. -/
def Owning (actor : Actor (machine codec)) (handle : Nat) (origin : DurableSnapshot)
    (world : World) : Prop :=
  ∃ last, Owns actor handle origin last world

/-- What may follow wherever the task is, as long as it owns its execution. -/
def EndsOwning (actor : Actor (machine codec)) (handle : Nat) (origin : DurableSnapshot)
    (post : World → Prop) : Prop :=
  ∀ current last, Owns actor handle origin last current → post current

/-- What a task knows of its snapshot until somebody revokes its execution. -/
theorem Owns.unless_revoked (fact : Prop) : Framed codec actor fun current =>
    Owns actor handle origin snapshot current ∧ (Revoked current handle ∨ fact) :=
  Owns.framed.and ((Framed.of_persistent (revoked_persistent handle)).or (Framed.const fact))

/-- A task that needs no license, and whose caller accounts for whatever it raises as the owner
of its execution. -/
structure Worker (actor : Actor (machine codec)) (handle : Nat) (origin : DurableSnapshot)
    (fail : Failure → σ → World → Prop) (state : σ) : Prop where
  free : ∀ world runId, Licensed codec actor world runId
  raises : ∀ failure, EndsOwning actor handle origin (fail failure state)

theorem Worker.owning (free : ∀ world runId, Licensed codec actor world runId) :
    Worker actor handle origin (fun _ (_ : σ) => Owning actor handle origin) state :=
  ⟨free, fun _ _ last owns => ⟨last, owns⟩⟩

section

/-- A neutral program of the owner. -/
theorem Neutral.own (neutral : Neutral codec task returns)
    (worker : Worker actor handle origin fail state)
    (owns : Owns actor handle origin snapshot world)
    (rest : ∀ value current, returns value → Owns actor handle origin snapshot current →
      Ensures actor (after value) ok fail state current) :
    Ensures actor (task >>= after) ok fail state world :=
  neutral.seq Owns.framed.stable owns rest fun failure current owns =>
    worker.raises failure current snapshot owns

/-- A neutral program of the owner, with a fact about its snapshot. -/
theorem Neutral.owned (neutral : Neutral codec task returns)
    (worker : Worker actor handle origin fail state)
    (holds : Owns actor handle origin snapshot world ∧ (Revoked world handle ∨ fact))
    (rest : ∀ value current, returns value →
      Owns actor handle origin snapshot current ∧ (Revoked current handle ∨ fact) →
      Ensures actor (after value) ok fail state current) :
    Ensures actor (task >>= after) ok fail state world :=
  neutral.seq (Owns.unless_revoked fact).stable holds rest fun failure current both =>
    worker.raises failure current snapshot both.1

end

/-- A snapshot the task read from its execution, perhaps after a revocation. -/
structure Seen (world : World) (handle : Nat) (origin snapshot seen : DurableSnapshot) : Prop where
  held : Held world seen
  runId : seen.runId = origin.runId
  same : seen = snapshot ∨ Revoked world handle

theorem seen_framed : Framed codec actor fun world => Seen world handle origin snapshot seen := by
  refine Framed.of_persistent ?_
  rintro other world next safe step ⟨held, isRun, same⟩
  exact ⟨held_persistent seen other world next safe step held, isRun,
    same.imp id (revoked_persistent handle other world next safe step)⟩

theorem Owns.seen (safe : Safe codec world) (owns : Owns actor handle origin snapshot world)
    (found : world.executions[handle]? = some self) :
    Seen world handle origin snapshot self.snapshot := by
  obtain ⟨_, foundOther, owner, isRun, same⟩ := owns.shared
  cases found.symm.trans foundOther
  refine ⟨safe.executions handle self found ?_, isRun, ?_⟩
  · intro task
    rw [owner]
    simp
  · rcases same with isSnapshot | revoked
    · exact Or.inl isSnapshot
    · exact Or.inr ⟨self, found, revoked⟩

/-- While nothing is revoked the execution holds the task's snapshot. -/
theorem Owns.current (owns : Owns actor handle origin snapshot world)
    (found : world.executions[handle]? = some self) (unrevoked : self.revocationError = none) :
    self.snapshot = snapshot := by
  obtain ⟨_, foundOther, _, _, same⟩ := owns.shared
  cases found.symm.trans foundOther
  simpa [unrevoked] using same

theorem not_revoked (found : world.executions[handle]? = some self)
    (unrevoked : self.revocationError = none) : ¬ Revoked world handle := by
  rintro ⟨_, foundOther, revoked⟩
  cases found.symm.trans foundOther
  simp [unrevoked] at revoked

/-- Loaded or saved, a snapshot the task assigns becomes its own. -/
theorem Owns.assign (owns : Owns actor handle origin snapshot world)
    (found : world.executions[handle]? = some self) (held : Held world saved)
    (runId : saved.runId = origin.runId) :
    Owns actor handle origin saved (world.setExecution handle { self with snapshot := saved }) := by
  obtain ⟨_, foundOther, owner, _, _⟩ := owns.shared
  cases found.symm.trans foundOther
  exact ⟨owns.started, held, runId, _, World.setExecution_found found, owner, runId, Or.inl rfl⟩

theorem Saved.stable : Stable actor fun world => Saved actor site previous given saved world := by
  rintro other world next differs safe step ⟨held, isRun, latest, settled⟩
  exact ⟨held_persistent saved other world next safe step held, isRun,
    latestBy_stable other world next differs safe step latest, settled⟩

section

variable {state : σ} {fail : Failure → σ → World → Prop}
  (worker : Worker actor handle origin fail state)

section

variable (stable : Stable actor pre)
  (owns : ∀ current, pre current → Owns actor handle origin snapshot current) (holds : pre world)

include stable owns holds

theorem read_wp (rest : ∀ self current, Safe codec current → pre current →
      Seen current handle origin snapshot self.snapshot → ok self state current) :
    Ensures actor (execution handle) ok fail state world :=
  execution_wp stable holds fun self current safe established found =>
    rest self current safe established ((owns current established).seen safe found)

/-- `check_active` hands the task's own snapshot back, or raises. -/
theorem checkActive_wp
    (rest : ∀ self current, Safe codec current → pre current → ¬ Revoked current handle →
      self.snapshot = snapshot → ok self state current)
    (raises : ∀ failure current, pre current → fail failure state current) :
    Ensures actor (checkActive handle) ok fail state world := by
  refine wp_bind (execution_wp stable holds ?_)
  intro self current safe established found
  cases isRevoked : self.revocationError with
  | some error =>
    simp only [SharedExecution.requireActive, isRevoked]
    exact raises _ current established
  | none =>
    simp only [SharedExecution.requireActive, isRevoked]
    exact rest self current safe established (not_revoked found isRevoked)
      ((owns current established).current found isRevoked)

end

theorem saveInstant_forward (passed : saveInstant previous given now = .ok instant) :
    previous.lastObservedAt ≤ instant := by
  unfold saveInstant at passed
  split at passed
  · split at passed
    · cases passed
      exact le_refl _
    · cases passed
  · rename_i forward
    cases passed
    exact not_lt.mp forward

include worker in
/-- `save` by the owner: refused after a revocation, and otherwise issued against
the task's own snapshot. -/
theorem save_wp (stable : Stable actor facts) (owns : Owns actor handle origin snapshot world)
    (ready : Revoked world handle ∨ facts world)
    (admissible : ∀ current, Safe codec current → Held current snapshot → facts current →
      Admissible codec actor.index (current.runs snapshot.runId) (site snapshot) snapshot
        (update snapshot) entry) (rest : ∀ saved current earlier, facts earlier →
      Owns actor handle origin saved current →
      Saved actor (site snapshot) snapshot (update snapshot) saved current →
      ok saved state current) :
    Ensures actor (save handle site update entry false) ok fail state world := by
  have stableReady : Stable actor fun current =>
      Owns actor handle origin snapshot current ∧ (Revoked current handle ∨ facts current) :=
    Owns.framed.stable.and ((revoked_persistent handle).stable.or stable)
  refine wp_bind (execution_wp stableReady ⟨owns, ready⟩ ?_)
  rintro self current safe ⟨owns, ready⟩ found
  cases isRevoked : self.revocationError with
  | some error =>
    simp only [SharedExecution.requireActive, isRevoked, Bool.false_eq_true, if_false]
    exact worker.raises _ current snapshot owns
  | none =>
    simp only [SharedExecution.requireActive, isRevoked, Bool.false_eq_true, if_false]
    have holds : facts current := ready.resolve_left (not_revoked found isRevoked)
    rw [owns.current found isRevoked]
    have stableHolds : Stable actor fun current =>
        Owns actor handle origin snapshot current ∧ facts current :=
      Owns.framed.stable.and stable
    refine clock_neutral.seq stableHolds ⟨owns, holds⟩ ?_ ?_
    · rintro now current _ ⟨owns, holds⟩
      refine wp_bind (wp_ofExcept ?_ ?_)
      · intro instant passed
        refine wp_bind (saveRow_wp stableHolds Owns.framed (fun _ both => both.1)
          ⟨owns, holds⟩ (saveInstant_forward passed) ?_ ?_ ?_)
        · rintro current safe ⟨owns, holds⟩
          exact ⟨owns.held, worker.free _ _, admissible current safe owns.held holds⟩
        · intro saved current safe owns isSaved
          have isRun : saved.runId = origin.runId := isSaved.runId.trans owns.runId
          have stableSaved : Stable actor fun current =>
              Owns actor handle origin snapshot current ∧
                Saved actor (site snapshot) snapshot (update snapshot) saved current :=
            Owns.framed.stable.and Saved.stable
          refine wp_bind (assignSnapshot_wp stableSaved ⟨owns, isSaved⟩ ?_ ?_)
          · rintro current other safe ⟨owns, isSaved⟩ found
            obtain ⟨shared, foundShared, owner, runId, _⟩ := owns.shared
            cases found.symm.trans foundShared
            exact ⟨isSaved.held, isRun.trans runId.symm, Or.inr (Or.inr owner)⟩
          · rintro current other safe ⟨owns, isSaved⟩ found step
            have assigned := owns.assign found isSaved.held isRun
            have stays : Saved actor (site snapshot) snapshot (update snapshot) saved
                (current.setExecution handle { other with snapshot := saved }) :=
              ⟨isSaved.held, isSaved.runId, isSaved.latest, isSaved.settled⟩
            have stableOwn : Stable actor fun current =>
                Owns actor handle origin saved current ∧
                  Saved actor (site snapshot) snapshot (update snapshot) saved current :=
              Owns.framed.stable.and Saved.stable
            refine wp_bind (execution_wp stableOwn ⟨assigned, stays⟩ ?_)
            rintro last current safe ⟨owns, isSaved⟩ found
            cases stillActive : last.revocationError with
            | some error => exact worker.raises _ current saved owns
            | none =>
              refine wp_bind (wp_pure ?_)
              apply wp_ite
              · intro changed
                refine auxiliaryIo_neutral.seq stableOwn ⟨owns, isSaved⟩ ?_ ?_
                · rintro _ current _ ⟨owns, isSaved⟩
                  exact rest saved current _ holds owns isSaved
                · rintro failure current ⟨owns, _⟩
                  exact worker.raises failure current saved owns
              · intro changed
                exact rest saved current _ holds owns isSaved
        · intro failure current owns
          exact worker.raises failure current snapshot owns
      · intro failure refused
        exact worker.raises failure current snapshot owns
    · rintro failure current ⟨owns, _⟩
      exact worker.raises failure current snapshot owns

end

section

variable (free : ∀ world runId, Licensed codec actor world runId)

include free in
/-- `stop`, at a site where it is admissible. -/
theorem stop_brings (admissible : ∀ current : World, Admissible codec actor.index
      (current.runs snapshot.runId) (site snapshot) snapshot (snapshot.stopped code status) none) :
    Brings actor (Owns actor handle origin snapshot)
      (stop handle site code status false : Act σ Unit) (Owning actor handle origin) :=
  fun _ _ owns => wp_bind (save_wp (.owning free) (Discipline.Stable.const True) owns
    (Or.inr trivial) (fun current _ _ _ => admissible current)
    (fun saved _ _ _ owns _ => ⟨saved, owns⟩))

include free in
/-- `finish`, at a site where it is admissible. -/
theorem finish_brings (stable : Stable actor facts)
    (admissible : ∀ current, facts current → Admissible codec actor.index
      (current.runs snapshot.runId) site snapshot (snapshot.finished result) entry) :
    Brings actor (fun current => Owns actor handle origin snapshot current ∧
        (Revoked current handle ∨ facts current))
      (finish handle site result entry : Act σ Unit) (Owning actor handle origin) :=
  fun _ _ both => wp_bind (save_wp (.owning free) stable both.1 both.2
    (fun current _ _ holds => admissible current holds)
    (fun saved _ _ _ owns _ => ⟨saved, owns⟩))

end

end AegisRag.Agent.Durable.Service
