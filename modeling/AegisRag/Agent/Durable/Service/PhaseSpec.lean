import AegisRag.Agent.Durable.Service.ToolSpec

/-!
# The phases and the children of a request keep the discipline

`advance` loads the run, revalidates it and performs one phase; the loop of the
custom backend and the graph of the other one repeat it. The heartbeat and the
checkpoint writes only use the lease, with whatever snapshot is shared.
-/

namespace AegisRag.Agent.Durable.Service

open Semantics Semantics.Task

variable {world : World}
variable {handle : Nat} {origin snapshot : DurableSnapshot}

variable {attempt : Nat} {live : AgentExecution} {approval : Option DurableResumeCommand}

theorem Held.sameRun (safe : Safe codec world) (isFirst : Held world first)
    (isSecond : Held world second) (runId : first.runId = second.runId) : SameRun first second := by
  have pairwise := (safe.runs first.runId).sameRun
  rw [Held, ← runId] at isSecond
  exact List.Pairwise.forall_of_forall (fun _ _ => .refl _) pairwise isFirst isSecond

theorem observations_accepted (accepted : snapshot.accepted = true) :
    ∀ observation ∈ snapshot.observations, observation.accepted = true := by
  simp only [DurableSnapshot.accepted, DurableSnapshot.fieldsAccepted, Bool.and_eq_true,
    List.all_eq_true] at accepted
  exact accepted.1.1.1.2

/-- A revalidated execution starts with the counters of its snapshot. -/
theorem Turn.restored (config : snapshot.config = origin.config)
    (accepted : snapshot.accepted = true) :
    Turn (restoredExecution snapshot started deadline) origin snapshot :=
  ⟨config, rfl, rfl, rfl, rfl, rfl, observations_accepted accepted⟩

section

variable (free : ∀ world runId, Licensed codec actor world runId)

section

/-- The reservation is the task's newest event of the run. -/
def Reserving (world : World) (runId : String) (task attempt : Nat) : Prop :=
  ∃ previous saved, saved.revision = attempt ∧
    LatestBy (world.runs runId) task (.saved task .reserve previous saved)

theorem reserving_stable : Stable actor fun world => Reserving world runId actor.index attempt := by
  rintro other world next differs safe step ⟨previous, saved, revision, latest⟩
  exact ⟨previous, saved, revision, latestBy_stable other world next differs safe step latest⟩

/-- The model is called only under the reservation the task has just committed. -/
theorem Reserving.noted (safe : Safe codec world)
    (reserving : Reserving world runId actor.index attempt) :
    Noted codec actor.index (world.runs runId) (.modelCalled actor.index attempt) := by
  obtain ⟨previous, saved, rfl, _, _, log, idle⟩ := reserving
  have reachable := safe.runs runId
  refine .modelCalled ⟨previous, saved, ?_, rfl⟩ fun isIn => ?_
  · rw [log]
    exact List.mem_append_right _ List.mem_cons_self
  · exact reachable.unused_since (modelCall_backed codec) reachable.reserved_nodup log rfl idle isIn
      rfl rfl

/-- What `_decide` returns for a live execution. -/
def Decides (live : AgentExecution) : Option AgentRunResult × AgentExecution → Prop
  | (some result, _) => ResultOf live result
  | (none, after) => ∃ decision, decision.accepted = true ∧
      after = { live with decision := some decision, stepsUsed := live.stepsUsed + 1 }

include free in
theorem runtimeDecide_wp {ok : Option AgentRunResult × AgentExecution → σ → World → Prop}
    (owns : Owns actor handle origin snapshot world)
    (ready : origin.config.maxSteps ≤ live.stepsUsed ∨
      Reserving world origin.runId actor.index attempt)
    (rest : ∀ result current, Owns actor handle origin snapshot current → Decides live result →
      (result.1 = none → live.stepsUsed < origin.config.maxSteps) → ok result state current)
    (raises : ∀ failure current, Owns actor handle origin snapshot current →
      fail failure state current) :
    Ensures actor (runtimeDecide (runtimeFactory origin) attempt live) ok fail state world := by
  have stable : Stable actor fun current =>
      Owns actor handle origin snapshot current ∧ (origin.config.maxSteps ≤ live.stepsUsed ∨
        Reserving current origin.runId actor.index attempt) :=
    Owns.framed.stable.and ((Discipline.Stable.const _).or reserving_stable)
  -- Every way to end without a decision.
  have ends : ∀ now status reason current, Owns actor handle origin snapshot current →
      Ensures actor (do
        return (some (← finishRun live now status reason), live)) ok fail state current := by
    intro now status reason current owns
    refine (finishRun_neutral live now status reason).seq Owns.framed.stable owns ?_
      fun failure current owns => raises failure current owns
    intro result current isResult owns
    exact rest _ current owns isResult (by simp)
  unfold runtimeDecide
  refine perfCounter_neutral.seq stable ⟨owns, ready⟩ ?_ fun failure current both =>
    raises failure current both.1
  intro now current _ both
  apply wp_ite
  · intro limited
    exact ends now .stopped .maxStepsReached current both.1
  intro limited
  apply wp_ite
  · intro late
    exact ends now .stopped .agentTimeout current both.1
  intro late
  have stableReserving : Stable actor fun current =>
      Owns actor handle origin snapshot current ∧
        Reserving current origin.runId actor.index attempt :=
    Owns.framed.stable.and reserving_stable
  refine wp_bind (nextStep_wp stableReserving Owns.framed (fun _ both => both.1)
    ⟨both.1, both.2.resolve_left limited⟩ ?_ ?_)
  · intro current safe both
    exact ⟨free _ _, both.2.noted safe⟩
  · intro reply current owns accepted
    split
    · rename_i decision
      exact rest _ current owns ⟨decision, accepted decision rfl, rfl⟩ fun _ => not_le.mp limited
    · exact ends live.deadline .stopped .agentTimeout current owns
    · exact raises _ current owns
    · refine perfCounter_neutral.seq Owns.framed.stable owns ?_ fun failure current owns =>
        raises failure current owns
      intro now current _ owns
      exact ends now .failed .agentStepperFailed current owns

include free in
/-- The decision phase reserves an attempt, calls the model and records its decision. -/
theorem decisionPhase_wp {fingerprints : List (String × String)}
    (owns : Owns actor handle origin snapshot world) (turn : Turn live origin snapshot)
    (running : snapshot.status = .running) (phase : snapshot.phase = .decision) :
    Ensures actor (decisionPhase codec handle (runtimeFactory origin) live fingerprints snapshot)
      (fun _ _ => Owning actor handle origin) (fun _ _ => Owning actor handle origin) state
      world := by
  unfold decisionPhase
  apply wp_ite
  · intro failed
    exact stop_brings free (fun _ => .toolFailed running phase) state world owns
  intro failed
  rw [bind_ite]
  -- The snapshot the model is called with, which holds a reservation while there are steps left.
  refine wp_seq (?_ : Ensures actor _ (fun reserved next current => next = state ∧
    Owns actor handle origin reserved current ∧ reserved.status = .running ∧
    reserved.phase = .decision ∧ Bounded live reserved ∧
    (origin.config.maxSteps ≤ live.stepsUsed ∨
      Reserving current origin.runId actor.index reserved.revision ∧
        reserved.stepsUsed = live.stepsUsed + 1)) _ _ _) ?_
  · have bounded := turn.bounded
    apply wp_ite
    · intro room
      refine save_wp (.owning free) (Discipline.Stable.const True) owns
        (Or.inr trivial) (fun current _ _ _ => .reserve running phase room) ?_
      intro saved current _ _ owns isSaved
      obtain ⟨_, settled⟩ := isSaved.settled
      have reserving : Reserving current origin.runId actor.index saved.revision := by
        refine ⟨snapshot, saved, rfl, ?_⟩
        rw [← owns.runId, isSaved.runId]
        exact isSaved.latest
      obtain ⟨_, _, rfl⟩ := savedSnapshot_eq settled
      exact ⟨rfl, owns, running, phase, ⟨bounded.observations, Nat.le_succ_of_le bounded.steps,
        bounded.toolCalls, bounded.observed⟩,
        Or.inr ⟨reserving, congrArg (· + 1) turn.steps.symm⟩⟩
    · intro room
      refine wp_pure ⟨rfl, owns, running, phase, bounded, Or.inl ?_⟩
      rw [turn.steps, ← turn.config]
      exact not_lt.mp room
  rintro reserved _ current ⟨rfl, owns, running, phase, bounded, ready⟩
  refine wp_bind (runtimeDecide_wp free owns (ready.imp id fun known => known.1) ?_
    fun _ _ owns => ⟨_, owns⟩)
  rintro ⟨result, _⟩ current owns decides within
  cases result with
  | some result =>
    refine finish_brings free (Discipline.Stable.const True) ?_ _ current ⟨owns, Or.inr trivial⟩
    exact fun _ _ => .finishDecision running phase (bounded.finishes decides)
  | none =>
    obtain ⟨decision, accepted, rfl⟩ := decides
    have steps := (ready.resolve_left (not_le.mpr (within rfl))).2
    refine (privateArguments_neutral decision.arguments).own (.owning free) owns ?_
    intro _ current _ owns
    refine wp_bind (save_wp (.owning free) (Discipline.Stable.const True) owns
      (Or.inr trivial) ?_ fun saved _ _ _ owns _ => ⟨saved, owns⟩)
    intro current _ _ _
    dsimp only
    rw [← steps]
    exact .decided running phase accepted

end

variable {context : RequestContext}

include free in
/-- The validation phase ends the run with the validated answer. -/
theorem validationPhase_wp (owns : Owns actor handle origin snapshot world)
    (turn : Turn live origin snapshot) (running : snapshot.status = .running)
    (phase : snapshot.phase = .validation) :
    Ensures actor (validationPhase service handle live) (fun _ _ => Owning actor handle origin)
      (fun _ _ => Owning actor handle origin) context world := by
  have stable : Stable actor (Owns actor handle origin snapshot) := Owns.framed.stable
  refine (validateResult_neutral live).own (.owning free) owns ?_
  intro result current isResult owns
  refine wp_bind (read_wp stable (fun _ owns => owns) owns ?_)
  intro self current _ owns _
  refine wp_bind (wp_get ?_)
  refine (revalidate_neutral service context self.snapshot).own (.owning free) owns ?_
  intro _ current _ owns
  refine wp_bind (read_wp stable (fun _ owns => owns) owns ?_)
  intro self current _ owns _
  refine (remaining_neutral self.snapshot).own (.owning free) owns ?_
  intro left current _ owns
  split
  · exact stop_brings free (fun _ => .deadline) context current owns
  · refine finish_brings free (Discipline.Stable.const True) ?_ context current
      ⟨owns, Or.inr trivial⟩
    exact fun _ _ => .finishValidation running phase (turn.bounded.finishes isResult)

include free in
/-- The phase a loaded run is in. -/
theorem advancePhase_brings (running : snapshot.status = .running)
    (accepted : snapshot.accepted = true) :
    Brings actor (Owns actor handle origin snapshot)
      (advancePhase codec service handle (runtimeFactory origin) snapshot)
      (Owning actor handle origin) := by
  have stable : Stable actor (Owns actor handle origin snapshot) := Owns.framed.stable
  intro context world owns
  refine wp_bind (wp_get ?_)
  refine (revalidate_neutral service context snapshot).own (.owning free) owns ?_
  rintro ⟨revalidated, _, _⟩ current ⟨started, deadline, isLive⟩ owns
  dsimp only at isLive
  subst isLive
  refine wp_bind (wp_set ?_)
  refine wp_bind (checkActive_wp stable (fun _ owns => owns) owns ?_
    fun _ _ owns => ⟨snapshot, owns⟩)
  intro self current safe owns _ same
  have config : snapshot.config = origin.config :=
    (owns.held.sameRun safe owns.started owns.runId).config
  have turn : Turn (restoredExecution snapshot started deadline) origin snapshot :=
    Turn.restored config accepted
  rw [same]
  split
  · rename_i phase
    exact decisionPhase_wp free owns turn running phase
  · rename_i phase
    exact validationPhase_wp free owns turn running phase
  · rename_i phase
    exact executeTool_brings free revalidated current ⟨owns, Or.inr ⟨turn, running, phase⟩⟩
  · rename_i phase
    refine raiseRecorded_wp stable Owns.framed (fun _ owns => owns) owns ?_
      fun _ owns => ⟨snapshot, owns⟩
    intro current safe owns
    exact ⟨free _ _, .phaseInvalid owns.held running phase⟩

include free in
/-- A phase that raised stops the run, unless the lease was lost. -/
theorem stopAfter_brings {failure : Failure} :
    Brings actor (Owning actor handle origin) (stopAfter handle failure : Act σ Unit)
      (Owning actor handle origin) := by
  rintro state world ⟨last, owns⟩
  unfold stopAfter
  split
  · rename_i error
    split
    · exact ⟨last, owns⟩
    · exact stop_brings free (fun _ => .failure error.code) state world owns
  · exact ⟨last, owns⟩

omit free in
theorem adopt_wp (owns : Owns actor handle origin snapshot world) (held : Held world loaded)
    (runId : loaded.runId = origin.runId)
    (rest : ∀ current, Owns actor handle origin loaded current → ok () context current) :
    Ensures actor (assignSnapshot handle loaded) ok fail context world := by
  have stable : Stable actor fun current =>
      Owns actor handle origin snapshot current ∧ Held current loaded :=
    Owns.framed.stable.and (held_persistent loaded).stable
  refine assignSnapshot_wp stable ⟨owns, held⟩ ?_ ?_
  · rintro current self safe ⟨owns, held⟩ found
    obtain ⟨_, foundOther, owner, isRun, _⟩ := owns.shared
    cases found.symm.trans foundOther
    exact ⟨held, runId.trans isRun.symm, Or.inr (Or.inr owner)⟩
  · rintro current self safe ⟨owns, held⟩ found step
    exact rest _ (owns.assign found held runId)

include free in
/-- `advance`. -/
theorem advance_brings :
    Brings actor (Owning actor handle origin)
      (advance codec service handle (runtimeFactory origin)) (Owning actor handle origin) := by
  have stable : ∀ last, Stable actor (Owns actor handle origin last) :=
    fun _ => Owns.framed.stable
  rintro context world ⟨snapshot, owns⟩
  refine wp_bind (checkActive_wp (stable _) (fun _ owns => owns) owns ?_
    fun _ _ owns => ⟨snapshot, owns⟩)
  intro self current _ owns _ same
  refine wp_bind (wp_get ?_)
  rw [same]
  refine wp_bind (loadRow_wp Owns.framed owns ?_ fun _ _ owns => ⟨snapshot, owns⟩)
  intro loaded current _ owns isLoaded
  refine wp_bind (adopt_wp owns isLoaded.held (isLoaded.runId.trans owns.runId) ?_)
  intro current owns
  refine wp_bind (checkActive_wp (stable _) (fun _ owns => owns) owns ?_
    fun _ _ owns => ⟨loaded, owns⟩)
  intro _ current _ owns _ _
  apply wp_ite
  swap
  · intro running
    exact ⟨loaded, owns⟩
  intro running
  refine clock_neutral.own (.owning free) owns ?_
  intro now current _ owns
  split
  · exact stop_brings free (fun _ => .regression) context current owns
  refine (remaining_neutral loaded).own (.owning free) owns ?_
  intro left current _ owns
  split
  · exact stop_brings free (fun _ => .deadline) context current owns
  refine wp_tryCatch ((advancePhase_brings free running isLoaded.accepted).wp owns
    (fun _ _ _ owning => owning) ?_)
  exact fun failure context current owning => stopAfter_brings free context current owning

omit free in
theorem owning_stable : Stable actor (Owning actor handle origin) := by
  rintro other world next differs safe step ⟨last, owns⟩
  exact ⟨last, Owns.framed.stable other world next differs safe step owns⟩

/-! ## The graph backend -/

theorem scheduleCheckpoints_wp (owns : Owns actor handle origin snapshot world)
    (rest : ∀ current, Owns actor handle origin snapshot current → ok () context current) :
    Ensures actor (scheduleCheckpoints handle scheduled) ok fail context world := by
  induction scheduled generalizing world with
  | nil => exact rest world owns
  | cons write writes ih =>
    refine wp_bind (start_wp Owns.framed.stable owns ?_ fun current owns => ih owns)
    intro current _ owns
    obtain ⟨self, found, owner, _⟩ := owns.shared
    refine ⟨self, found, fun task => ?_⟩
    rw [owner]
    simp

include free in
theorem graphNode_brings :
    Brings actor (Owning actor handle origin)
      (graphNode codec service handle (runtimeFactory origin) node)
      (Owning actor handle origin) := by
  -- The route that follows a node.
  have route : Brings actor (Owning actor handle origin) (do
      let self ← execution handle
      scheduleCheckpoints handle (← scheduledCheckpoints)
      return decide (self.snapshot.status = .running) : Act RequestContext Bool)
      (Owning actor handle origin) := by
    rintro context current ⟨last, owns⟩
    refine wp_bind (read_wp Owns.framed.stable (fun _ owns => owns) owns ?_)
    intro self current _ owns _
    refine scheduledCheckpoints_neutral.own (.owning free) owns ?_
    intro scheduled current _ owns
    exact wp_bind (scheduleCheckpoints_wp owns fun _ owns => wp_pure ⟨last, owns⟩)
  cases node with
  | advance => exact (advance_brings free).bind (fun _ => route) fun _ owning => owning
  | approval =>
    rintro context world ⟨snapshot, owns⟩
    refine wp_bind (read_wp Owns.framed.stable (fun _ owns => owns) owns ?_)
    intro self current _ owns isSeen
    refine wp_bind (wp_get ?_)
    refine wp_bind (loadRow_wp Owns.framed owns ?_ fun _ _ owns => ⟨snapshot, owns⟩)
    intro loaded current _ owns isLoaded
    refine wp_bind (adopt_wp owns isLoaded.held (isLoaded.runId.trans isSeen.runId) ?_)
    intro current owns
    exact wp_guard (fun _ => ⟨loaded, owns⟩) fun _ => route context current ⟨loaded, owns⟩

include free in
theorem runDurableGraph_brings :
    Brings actor (Owning actor handle origin)
      (runDurableGraph codec service handle (runtimeFactory origin))
      (Owning actor handle origin) := by
  rintro context world ⟨snapshot, owns⟩
  refine wp_bind (read_wp Owns.framed.stable (fun _ owns => owns) owns ?_)
  intro self current _ owns _
  refine scheduledCheckpoints_neutral.own (.owning free) owns ?_
  intro scheduled current _ owns
  refine wp_bind (scheduleCheckpoints_wp owns fun current owns => ?_)
  refine choose_neutral.own (.owning free) owns ?_
  intro resumed current _ owns
  refine (graphNode_brings free).bind (fun again context current owning => ?_)
    (fun _ owning => owning) context current ⟨snapshot, owns⟩
  cases again with
  | false => exact owning
  | true =>
    have holds : (fun (_ : RequestContext) => Owning actor handle origin) context current := owning
    refine wp_iterate ?_ (fun _ _ owning => owning) _ holds
    intro context current owning
    refine wp_bind ((graphNode_brings free).wp owning ?_ fun _ _ _ owning => owning)
    intro again context current owning
    cases again <;> exact owning

/-! ## The business task -/

/-- The decision a request was resumed with is one it has checked. -/
def Reviewed (world : World) (snapshot : DurableSnapshot) (approval : Option DurableResumeCommand) :
    Prop :=
  ∀ command requested, approval = some command → snapshot.status = .awaitingApproval →
    snapshot.approval = some requested →
    ∃ checker checked now, .approvalChecked checker checked requested command now ∈
      (world.runs snapshot.runId).log ∧ Reclaimed checked snapshot

theorem reviewed_persistent :
    (discipline codec).Persistent fun world => Reviewed world snapshot approval := by
  intro other world next safe step reviewed command requested isCommand awaiting isRequested
  obtain ⟨checker, checked, now, isIn, reclaimed⟩ :=
    reviewed command requested isCommand awaiting isRequested
  exact ⟨checker, checked, now, (step.extends safe).1 _ isIn, reclaimed⟩

include free in
theorem approveRun_wp (owns : Owns actor handle origin origin world)
    (reviewed : Reviewed world origin (some command)) (awaiting : origin.status = .awaitingApproval)
    (isRequested : origin.approval = some requested) (approves : command.approve = some true) :
    Ensures actor (approveRun handle origin requested queueOnly)
      (fun _ _ => Owning actor handle origin) (fun _ _ => Owning actor handle origin) context
      world := by
  have stable : Stable actor fun current =>
      Owns actor handle origin origin current ∧ Reviewed current origin (some command) :=
    Owns.framed.stable.and reviewed_persistent.stable
  have now : Neutral codec (some <$> clock : Act RequestContext (Option Seconds)) fun _ => True :=
    .bind clock_neutral fun _ _ => .pure trivial
  unfold approveRun
  -- The new active window starts now, or stays closed for a worker to open.
  rw [bind_ite]
  refine (Neutral.ite (fun _ => now) fun _ => Neutral.pure trivial).seq stable ⟨owns, reviewed⟩ ?_
    fun _ _ both => ⟨origin, both.1⟩
  rintro since current _ ⟨owns, reviewed⟩
  refine wp_bind (save_wp (.owning free) reviewed_persistent.stable owns
    (Or.inr reviewed) ?_ fun saved _ _ _ owns _ => ⟨saved, owns⟩)
  intro current _ _ reviewed
  obtain ⟨checker, checked, now, isIn, reclaimed⟩ :=
    reviewed command requested rfl awaiting isRequested
  exact .approve awaiting isRequested ⟨checker, checked, command, now, isIn, approves, reclaimed⟩

include free in
theorem openRun_brings :
    Brings actor (fun current => Owns actor handle origin origin current ∧
        Reviewed current origin approval)
      (openRun handle origin approval queueOnly : Act RequestContext Unit)
      (Owning actor handle origin) := by
  intro context world both
  refine clock_neutral.seq (Owns.framed.stable.and reviewed_persistent.stable) both ?_
    fun _ _ both => ⟨origin, both.1⟩
  rintro now current _ ⟨owns, reviewed⟩
  split
  · exact stop_brings free (fun _ => .regression) context current owns
  apply wp_ite
  swap
  · intro awaiting
    exact ⟨origin, owns⟩
  intro awaiting
  split
  · exact ⟨origin, owns⟩
  · exact ⟨origin, owns⟩
  · rename_i command requested isRequested
    apply wp_ite
    · intro approves
      exact approveRun_wp free owns reviewed awaiting isRequested approves
    · intro approves
      exact stop_brings free (fun _ => .rejected awaiting) context current owns

include free in
/-- `run_body`. -/
theorem runBody_brings :
    Brings actor (fun current => Owns actor handle origin origin current ∧
        Reviewed current origin approval)
      (runBody codec service handle origin approval queueOnly) (Owning actor handle origin) := by
  refine (openRun_brings free).bind ?_ fun _ owning => owning
  rintro _ context current ⟨last, owns⟩
  cases queueOnly with
  | true => exact ⟨last, owns⟩
  | false =>
    refine wp_bind (read_wp Owns.framed.stable (fun _ owns => owns) owns ?_)
    intro self current _ owns _
    apply wp_ite
    swap
    · intro running
      exact ⟨last, owns⟩
    intro running
    apply wp_ite
    · intro isGraph
      exact runDurableGraph_brings free context current ⟨last, owns⟩
    intro isGraph
    refine Brings.repeatUntil ?_ owning_stable context current ⟨last, owns⟩
    rintro context current ⟨last, owns⟩
    refine wp_bind (read_wp Owns.framed.stable (fun _ owns => owns) owns ?_)
    intro self current _ owns _
    split
    · exact wp_bind ((advance_brings free).wp ⟨last, owns⟩ (fun _ _ _ owning => owning)
        fun _ _ _ owning => owning)
    · exact ⟨last, owns⟩

end

/-! ## The children -/

/-- The execution waits for its business task with the snapshot it was handed over with. -/
def Waits (world : World) (handle : Nat) (snapshot : DurableSnapshot) : Prop :=
  ∃ execution, world.executions[handle]? = some execution ∧
    (∀ task, execution.owner ≠ .request task) ∧ execution.snapshot.runId = snapshot.runId ∧
    (execution.owner = .waiting →
      execution.snapshot = snapshot ∨ execution.revocationError.isSome)

theorem waits_persistent : (discipline codec).Persistent fun world =>
    Waits world handle snapshot := by
  rintro other world next safe step ⟨execution, found, left, isRun, waits⟩
  obtain ⟨after, foundAfter, passes⟩ := step.executions handle execution found
  refine ⟨after, foundAfter, passes.left left, passes.runId.trans isRun, fun isWaiting => ?_⟩
  have wasWaiting : execution.owner = .waiting := by
    rcases passes.owner with kept | ⟨wasRequest, _⟩ | ⟨wasWaiting, _⟩
    · exact kept.symm.trans isWaiting
    · exact absurd wasRequest (left _)
    · exact wasWaiting
  rcases waits wasWaiting with isSnapshot | revoked
  · rcases passes.snapshot with kept | revoked | isRequest | isBusiness
    · exact Or.inl (kept.trans isSnapshot)
    · exact Or.inr (passes.revoked revoked)
    · exact absurd isRequest (left _)
    · rw [wasWaiting] at isBusiness
      cases isBusiness
  · exact Or.inr (passes.revoked revoked)

theorem Owns.left (owns : Owns actor handle origin snapshot world) : Left world handle := by
  obtain ⟨self, found, owner, _⟩ := owns.shared
  refine ⟨self, found, fun task => ?_⟩
  rw [owner]
  simp

/-- The business task takes over its execution and runs the body as its owner. -/
theorem business_wp (free : ∀ world runId, Licensed codec actor world runId)
    (needs : Needs codec world (.business service context handle origin approval queueOnly)) :
    Ensures actor (business codec service handle origin approval queueOnly)
      (fun _ _ _ => True) (fun _ _ _ => True) context world := by
  obtain ⟨held, waits, reviewed⟩ := needs
  have stable : Stable actor fun current => Held current origin ∧
      Waits current handle origin ∧ Reviewed current origin approval :=
    (held_persistent origin).stable.and (waits_persistent.stable.and reviewed_persistent.stable)
  have ends : ∀ (result : Except Failure Unit) (context : RequestContext) current,
      Left current handle → Ensures actor (call (.businessDone handle result))
        (fun _ _ _ => True) (fun _ _ _ => True) context current := by
    intro result context current left
    refine done_wp left (fun _ _ => rfl) ?_ fun _ _ _ => trivial
    rintro before reply next ⟨⟩
    exact ⟨rfl, rfl, rfl, rfl⟩
  refine wp_bind (attach_wp stable ⟨held, waits, reviewed⟩ ?_)
  rintro current self safe ⟨held, waits, reviewed⟩ found isWaiting step
  obtain ⟨_, foundOther, _, isRun, same⟩ := waits
  cases found.symm.trans foundOther
  have owns : Owns actor handle origin origin
      (current.setExecution handle { self with owner := .business actor.index }) :=
    ⟨held, held, rfl, _, World.setExecution_found found, rfl, isRun, same isWaiting⟩
  refine wp_bind (wp_attempt ((runBody_brings free).wp ⟨owns, reviewed⟩ ?_ ?_))
  · rintro _ context current ⟨last, owns⟩
    exact ends (.ok ()) context current owns.left
  · rintro failure context current ⟨last, owns⟩
    exact ends (.error failure) context current owns.left

/-- The snapshot an execution shows once it has left its request. -/
theorem shown_wp {ok : SharedExecution → σ → World → Prop} {fail : Failure → σ → World → Prop}
    (left : Left world handle)
    (rest : ∀ self current, Left current handle ∧ Held current self.snapshot →
      ok self state current) :
    Ensures actor (execution handle) ok fail state world := by
  refine execution_wp (left_persistent handle).stable left ?_
  rintro self current safe ⟨_, foundOther, left⟩ found
  cases found.symm.trans foundOther
  exact rest self current ⟨⟨self, found, left⟩, safe.executions handle self found left⟩

theorem leftHeld_persistent : (discipline codec).Persistent fun world =>
    Left world handle ∧ Held world snapshot :=
  (left_persistent handle).and (held_persistent snapshot)

section

variable (free : ∀ world runId, Licensed codec actor world runId) (left : Left world handle)

include free left

/-- The heartbeat renews the lease for the snapshot its execution shows it. -/
theorem heartbeat_wp {state : σ} {ok : Unit → σ → World → Prop}
    (rest : ∀ state current, Left current handle → ok () state current)
    (raises : ∀ failure state current, Left current handle → fail failure state current) :
    Ensures actor (heartbeat service handle) ok fail state world := by
  have holds : (fun (_ : σ) current => Left current handle) state world := left
  refine repeatUntil_wp (fun _ => (left_persistent handle).stable) holds ?_
  intro state current left
  refine auxiliaryIo_neutral.seq (left_persistent handle).stable left ?_
    fun failure current left => raises failure state current left
  intro _ current _ left
  refine wp_bind (shown_wp left ?_)
  intro self current both
  split
  · exact rest state current both.1
  refine clock_neutral.seq leftHeld_persistent.stable both ?_
    fun failure current both => raises failure state current both.1
  intro now current _ both
  refine (remaining_neutral self.snapshot).seq leftHeld_persistent.stable both ?_
    fun failure current both => raises failure state current both.1
  intro allowance current _ both
  -- A renewal that failed revokes the execution before the error leaves the task.
  have revokes : ∀ (error : Option DomainError) (failure : Failure) current,
      Left current handle → Ensures actor (do
        revoke handle error
        throw failure : Act σ (Option Unit)) (fun result next current => match result with
        | some value => ok value next current
        | none => Left current handle) fail state current := by
    intro error failure current left
    refine wp_bind (revoke_wp (left_persistent handle).stable left ?_ ?_)
    · rintro current self ⟨_, foundOther, left⟩ found task isRequest
      cases found.symm.trans foundOther
      exact absurd isRequest (left task)
    · intro current next _ safe left _ step _
      exact raises failure state next (left_persistent handle actor current next safe step left)
  refine wp_bind (wp_attempt ?_)
  unfold awaitWithTimeout
  split
  · exact revokes _ _ current both.1
  · refine leaseRow_wp rfl rfl (Framed.of_persistent leftHeld_persistent) both ?_ ?_ ?_
    · intro current _ both
      exact ⟨both.2, free _ _, by simp [Operation.claimToken]⟩
    · intro returned current _ both _
      exact both.1
    · intro failure current both
      cases failure <;> exact revokes _ _ current both.1

theorem heartbeatTask_wp {state : σ} :
    Ensures actor (heartbeatTask service handle)
      (fun _ _ _ => True) (fun _ _ _ => True) state world := by
  have ends : ∀ (result : Except Failure Unit) (state : σ) current,
      Left current handle → Ensures actor (call (.heartbeatDone handle result))
        (fun _ _ _ => True) (fun _ _ _ => True) state current := by
    intro result state current left
    refine done_wp left (fun _ _ => rfl) ?_ fun _ _ _ => trivial
    rintro before reply next ⟨⟩
    exact ⟨rfl, rfl, rfl, rfl⟩
  exact wp_bind (wp_attempt (heartbeat_wp free left (ends (.ok ()))
    fun failure => ends (.error failure)))

/-- A checkpoint write of the graph uses the lease of its execution. -/
theorem graphCheckpoint_wp {scheduled : GraphCall} {state : σ} :
    Ensures actor (graphCheckpoint handle scheduled)
      (fun _ _ _ => True) (fun _ _ _ => True) state world := by
  refine wp_bind (shown_wp left ?_)
  intro self current both
  refine clock_neutral.seq leftHeld_persistent.stable both ?_ fun _ _ _ => trivial
  intro now current _ both
  cases scheduled <;>
    exact wp_bind (leaseRow_wp rfl rfl (Framed.of_persistent leftHeld_persistent) both
      (fun current _ both => ⟨both.2, free _ _, by simp [Operation.claimToken]⟩)
      (fun _ _ _ _ _ => trivial) fun _ _ _ => trivial)

end

end AegisRag.Agent.Durable.Service
