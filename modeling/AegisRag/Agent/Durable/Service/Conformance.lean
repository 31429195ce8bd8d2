import AegisRag.Agent.Durable.Service.RequestSpec

/-!
# The service refines the journal

The remaining public methods keep the discipline, and with them every task the
service ever runs. In every pool that any schedule reaches, each run is therefore
a reachable run of the journal, and what the journal's theorems say of such runs
holds of the service.
-/

namespace AegisRag.Agent.Durable.Service

open Semantics Semantics.Task

variable {codec : Codec} {actor : Actor (machine codec)} {world : World}

/-- The task keeps the discipline, whatever it finds and whatever it answers. -/
abbrev Conforms (actor : Actor (machine codec)) {σ α : Type} (task : Act σ α) : Prop :=
  Brings actor (fun _ => True) task fun _ => True

/-! ## Starting a run -/

variable {runId : String}

theorem awaitWithTimeout_wp {timeoutSeconds : Seconds} {awaitable : Act σ α}
    {ok : α → σ → World → Prop} (expired : fail .timeout state world)
    (holds : Ensures actor awaitable ok fail state world) :
    Ensures actor (awaitWithTimeout timeoutSeconds awaitable) ok fail state world := by
  unfold awaitWithTimeout
  split
  · exact expired
  · exact holds

/-- The snapshot of a new run is one of those `start` may insert. -/
theorem newRun_neutral (service : DurableAgentService) (context : RequestContext)
    (command : DurableStartCommand) (runId : String) (startup : Option DurableStartup) :
    Neutral codec (newRun codec service context command runId startup : Act σ DurableSnapshot)
      fun snapshot => snapshot.accepted = true ∧ ∃ now,
        snapshot = service.newSnapshot context command runId startup now := by
  refine .bind (privateArguments_neutral _) fun _ _ => ?_
  refine .bind clock_neutral fun now _ => ?_
  refine guard_neutral fun _ => ?_
  refine guard_neutral fun _ => ?_
  refine guard_neutral fun accepted => ?_
  refine .bind registeredToolNames_neutral fun names _ => ?_
  refine guard_neutral fun _ => .pure ⟨?_, now, rfl⟩
  simpa using accepted

section

/-- The unkeyed insert of `start`. -/
theorem createRun_wp {ok : Unit → σ → World → Prop} (origin : Origin codec snapshot.runId snapshot)
    (permits : ∀ world runId, Licensed codec actor world runId)
    (rest : ∀ current, Drivable actor snapshot snapshot none true current → ok () state current)
    (raises : ∀ failure current, fail failure state current) :
    Ensures actor (createRun snapshot) ok fail state world := by
  have framed : Framed codec actor fun _ => True := .const True
  refine clock_neutral.seq framed.stable trivial ?_ fun failure current _ => raises failure current
  intro now current _ _
  refine wp_bind (awaitWithTimeout_wp (raises _ current)
    (purgeExpired_wp framed trivial ?_ fun failure current _ => raises failure current))
  intro current _
  refine clock_neutral.seq framed.stable trivial ?_ fun failure current _ => raises failure current
  intro now current _ _
  refine wp_bind (awaitWithTimeout_wp (raises _ current) (insertRow_wp rfl origin framed trivial
    (fun current state _ _ => permits _ _) ?_ fun failure current _ => raises failure current))
  intro inserted current _ _ stored
  obtain ⟨held, created⟩ := stored (Or.inr rfl)
  have drivable : Drivable actor snapshot snapshot none true current :=
    ⟨held, permits _ _, fun _ => ⟨_, _, created⟩, Or.inl rfl, fun _ _ isCommand => by
      cases isCommand⟩
  exact auxiliaryIo_neutral.wp drivable_persistent.stable drivable
    (fun _ current _ drivable => rest current drivable)
    fun failure current _ => raises failure current

/-- A start without a key. -/
theorem startUnkeyed_conforms {service : DurableAgentService} {context : RequestContext}
    (origin : Origin codec snapshot.runId snapshot)
    (permits : ∀ world runId, Licensed codec actor world runId) :
    Conforms actor (startUnkeyed service context snapshot : Act σ _) := by
  intro state world _
  refine wp_bind (orTimeout_wp (wp_tryCatch (createRun_wp origin permits ?_ ?_)))
  · intro current drivable
    split
    · exact wp_pure trivial
    · exact drive_brings state current drivable
  · intro failure current
    cases failure with
    | timeout | domain _ | other => trivial
    | cancelled =>
      have persistent : (discipline codec).Persistent fun _ => True :=
        fun _ _ _ _ _ _ => trivial
      refine wp_bind (uuid4_wp (.of_persistent persistent) trivial ?_)
      intro token current _ _ _ _
      refine wp_bind (newExecution_wp persistent trivial ?_)
      intro handle current _ _ own
      have cleans : Cleans actor handle snapshot.runId true current :=
        ⟨permits _ _, _, own, rfl, Or.inl ⟨rfl, rfl⟩⟩
      exact disconnect_wp cleans fun _ _ _ => trivial

end

section

variable {snapshot : DurableSnapshot} {token : String}

/-- `create_keyed`. -/
theorem createKeyed_wp {ok : Option DurableSnapshot → σ → World → Prop}
    (origin : Origin codec snapshot.runId snapshot) (framed : Framed codec actor pre)
    (holds : pre world) (permits : ∀ current runId creator made, pre current →
      .created creator (some token) made ∈ (current.runs runId).log →
      Licensed codec actor current runId)
    (carried : ∀ current runId state, pre current → pre (current.setRun runId state))
    (inserted : ∀ current, pre current → Held current snapshot →
      .created actor.index (some token) snapshot ∈ (current.runs snapshot.runId).log →
      ok none state current)
    (found : ∀ existing current, pre current → ok (some existing) state current)
    (raises : ∀ failure current, pre current → fail failure state current) :
    Ensures actor (createKeyed snapshot token now leaseSeconds) ok fail state world := by
  refine wp_bind (insertRow_wp rfl origin framed holds ?_ ?_ raises)
  · intro current state holds created
    refine permits _ _ actor.index snapshot (carried current _ state holds) ?_
    rw [World.setRun_same]
    exact created
  intro isNew current _ holds stored
  cases isNew with
  | true =>
    obtain ⟨held, created⟩ := stored (Or.inl rfl)
    exact inserted current holds held created
  | false =>
    refine wp_bind (lookupKeyedRow_wp framed holds ?_ raises)
    intro result current _ holds _
    cases result with
    | none => exact raises _ current holds
    | some existing => exact found existing current holds

/-- What a keyed start keeps from its first call on: the token it drew. -/
def Drawn (actor : Actor (machine codec)) (token : String) (world : World) : Prop :=
  ⟨token, .creationToken, actor.index⟩ ∈ world.issued

theorem Drawn.framed : Framed codec actor (Drawn actor token) :=
  .of_persistent (issued_persistent _)

/-- The token of a keyed start licenses it to touch the run it inserted. -/
theorem Drawn.licensed (isStart : actor.code = .start service context command) {creator : Nat}
    {made : DurableSnapshot} (drawn : Drawn actor token world)
    (created : .created creator (some token) made ∈ (world.runs runId).log) :
    Licensed codec actor world runId := by
  simp only [Licensed, isStart]
  exact Or.inr ⟨token, creator, made, drawn, created⟩

/-- The keyed insert as its request waits for it. -/
theorem awaitCreation_wp {ok : Option DurableSnapshot → σ → World → Prop}
    (isStart : actor.code = .start service context command)
    (origin : Origin codec snapshot.runId snapshot) (drawn : Drawn actor token world)
    (inserted : ∀ current, Drawn actor token current → Held current snapshot →
      .created actor.index (some token) snapshot ∈ (current.runs snapshot.runId).log →
      ok none state current)
    (found : ∀ existing current, Drawn actor token current → ok (some existing) state current)
    (raises : ∀ failure current, Drawn actor token current → fail failure state current) :
    Ensures actor (awaitCreation snapshot token now leaseSeconds) ok fail state world := by
  refine clock_neutral.seq Drawn.framed.stable drawn ?_ raises
  intro reading current _ drawn
  refine wp_bind (awaitWithTimeout_wp (raises _ current drawn)
    (createKeyed_wp origin Drawn.framed drawn (fun _ _ _ _ drawn => drawn.licensed isStart)
      (fun _ _ _ drawn => drawn) ?_ (fun existing current drawn => found existing current drawn)
      raises))
  intro current drawn held created
  have stable : Stable actor fun current => Drawn actor token current ∧
      Held current snapshot ∧
      .created actor.index (some token) snapshot ∈ (current.runs snapshot.runId).log :=
    Drawn.framed.stable.and ((held_persistent snapshot).stable.and (logged_persistent _).stable)
  refine auxiliaryIo_neutral.seq stable ⟨drawn, held, created⟩ ?_
    fun failure current all => raises failure current all.1
  intro _ current _ all
  exact inserted current all.1 all.2.1 all.2.2

/-- `_start_keyed` touches no run but one that it inserted itself. -/
theorem startKeyed_conforms (isStart : actor.code = .start service context command)
    (origin : Origin codec snapshot.runId snapshot) :
    Conforms actor (startKeyed service context snapshot : Act σ _) := by
  intro state world _
  refine wp_bind (uuid4_wp (.const True) trivial ?_)
  intro token current _ _ drawn _
  have abandons : ∀ failure current, Drawn actor token current → Ensures actor (do
      cancelKeyedCreation snapshot token
      throw (storageFailure failure) : Act σ DurableRunResponse) (fun _ _ _ => True)
      (fun _ _ _ => True) state current := fun _ _ drawn =>
    wp_bind (cancelKeyedCreation_wp Drawn.framed (fun _ drawn => ⟨_, drawn⟩)
      (fun _ _ _ _ drawn => drawn.licensed isStart) drawn fun _ _ _ => trivial)
  refine clock_neutral.seq Drawn.framed.stable drawn ?_ fun _ _ _ => trivial
  intro purgeNow current _ drawn
  refine wp_bind (wp_attempt (clock_neutral.seq Drawn.framed.stable drawn ?_ abandons))
  intro reading current _ drawn
  refine awaitWithTimeout_wp (abandons _ current drawn)
    (purgeExpired_wp Drawn.framed drawn ?_ abandons)
  intro current drawn
  refine clock_neutral.seq Drawn.framed.stable drawn ?_ fun _ _ _ => trivial
  intro now current _ drawn
  refine wp_bind (wp_attempt (awaitCreation_wp isStart origin drawn ?_ ?_ ?_))
  · intro current drawn held created
    have drivable : Drivable actor snapshot snapshot none true current :=
      ⟨held, drawn.licensed isStart created, fun _ => ⟨_, _, created⟩,
        Or.inl rfl, fun _ _ isCommand => by cases isCommand⟩
    dsimp only
    split
    · exact wp_bind (leaseRow_wp rfl rfl (.of_persistent drivable_persistent) drivable
        (fun current _ drivable => ⟨drivable.held, drivable.licensed, fun token claims => by
          simp [Operation.claimToken] at claims⟩)
        (fun _ _ _ _ _ => trivial) fun _ _ _ => trivial)
    · exact drive_brings state current drivable
  · exact fun _ _ _ => existingStart_brings (.const True) _ _ trivial
  · intro failure current drawn
    refine wp_bind (start_wp Drawn.framed.stable drawn
      (fun current _ drawn => ⟨origin, actor.index, drawn⟩) ?_)
    exact fun current drawn => abandons failure current drawn

/-- The storage task of an abandoned start touches only the run it inserted. -/
theorem lateCreation_wp (isLate : actor.code = .lateCreation snapshot token now leaseSeconds)
    (origin : Origin codec snapshot.runId snapshot) {task : Nat}
    (drawn : ⟨token, .creationToken, task⟩ ∈ world.issued) :
    Ensures actor (lateCreation snapshot token now leaseSeconds)
      (fun _ _ _ => True) fail state world := by
  have framed : Framed codec actor fun current => ⟨token, .creationToken, task⟩ ∈ current.issued :=
    .of_persistent (issued_persistent _)
  have permits : ∀ (current : World) runId creator made,
      ⟨token, .creationToken, task⟩ ∈ current.issued →
      .created creator (some token) made ∈ (current.runs runId).log →
      Licensed codec actor current runId := by
    intro current runId creator made _ created
    simp only [Licensed, isLate]
    exact ⟨creator, made, created⟩
  have cleans : ∀ current, ⟨token, .creationToken, task⟩ ∈ current.issued →
      Ensures actor (cancelKeyedCreation snapshot token)
        (fun _ _ _ => True) fail state current := fun current drawn =>
    cancelKeyedCreation_wp framed (fun _ drawn => ⟨task, drawn⟩) permits drawn fun _ _ _ => trivial
  exact wp_bind (wp_attempt (createKeyed_wp origin framed drawn permits
    (fun _ _ _ drawn => drawn) (fun current drawn _ _ => cleans current drawn)
    (fun _ current drawn => cleans current drawn) fun _ current drawn => cleans current drawn))

end

/-- `start`. -/
theorem startRun_conforms (isStart : actor.code = .start service context command) :
    Conforms actor (startRun codec service context command : Act σ _) := by
  intro state world _
  have stable : Stable actor fun _ => True := (Framed.const True).stable
  refine (authorize_neutral context).seq stable trivial ?_ fun _ _ _ => trivial
  intro _ current _ _
  refine wp_guard (fun _ => trivial) fun _ => ?_
  refine wp_bind (uuid4_wp (.const True) trivial ?_)
  intro runId current _ _ _ version
  cases keyed : command.idempotencyKey with
  | none =>
    refine (newRun_neutral service context command runId none).seq stable trivial ?_
      fun _ _ _ => trivial
    rintro snapshot current ⟨accepted, now, rfl⟩ _
    refine startUnkeyed_conforms ⟨service, context, command, none, now, rfl, accepted, ?_⟩ ?_
      state current trivial
    · rw [keyed]
      exact ⟨rfl, version⟩
    · intro world runId
      simp only [Licensed, isStart]
      exact Or.inl keyed
  | some key =>
    refine wp_bind (orTimeout_wp (lookupKeyedRow_wp (.const True) trivial ?_ fun _ _ _ => trivial))
    intro found current _ _ _
    cases found with
    | some existing => exact existingStart_brings (.const True) state current trivial
    | none =>
      refine (newRun_neutral service context command _ _).seq stable trivial ?_
        fun _ _ _ => trivial
      rintro snapshot current ⟨accepted, now, rfl⟩ _
      refine startKeyed_conforms isStart ⟨service, context, command, _, now, rfl, accepted, ?_⟩
        state current trivial
      rw [keyed]
      exact ⟨rfl, rfl⟩

/-- `recover` only reads and purges. -/
theorem recoverRun_conforms :
    Conforms actor (recoverRun codec service context key : Act σ _) := by
  have framed : Framed codec actor fun _ => True := .const True
  intro state world _
  refine (authorize_neutral context).seq framed.stable trivial ?_ fun _ _ _ => trivial
  intro _ current _ _
  refine wp_guard (fun _ => trivial) fun _ => ?_
  refine wp_bind (orTimeout_wp (lookupKeyedRow_wp framed trivial ?_ fun _ _ _ => trivial))
  intro found current _ _ _
  cases found with
  | none => trivial
  | some existing => exact getRun_brings framed state current trivial

/-! ## Resuming and cancelling -/

section

variable {snapshot : DurableSnapshot} {context : RequestContext}

/-- The checks of `resume` on the approval it names. -/
theorem reviewApproval_wp {ok : Unit → σ → World → Prop}
    (permits : ∀ world runId, Licensed codec actor world runId)
    (awaiting : snapshot.status = .awaitingApproval) (held : Held world snapshot)
    (rest : ∀ current, Held current snapshot →
      (∀ requested, snapshot.approval = some requested → ∃ now,
        .approvalChecked actor.index snapshot requested command now ∈
          (current.runs snapshot.runId).log) → ok () state current)
    (raises : ∀ failure current, fail failure state current) :
    Ensures actor (reviewApproval codec context snapshot command) ok fail state world := by
  have framed : Framed codec actor fun current => Held current snapshot :=
    .of_persistent (held_persistent snapshot)
  have raising : ∀ failure current, Held current snapshot → fail failure state current :=
    fun failure current _ => raises failure current
  refine clock_neutral.seq framed.stable held ?_ raising
  intro now current _ held
  split
  swap
  · exact raises _ current
  rename_i approval decision isApproval isDecision
  refine wp_guard (fun _ => raises _ current) fun valid => ?_
  refine wp_guard (fun _ => raises _ current) fun action => ?_
  refine (remaining_neutral snapshot).seq framed.stable held ?_ raising
  intro allowance current _ held
  refine wp_bind (orTimeout_wp (awaitWithTimeout_wp (raises _ current)
    ((toolDefinition_neutral snapshot context).wp framed.stable held ?_
      fun failure current _ => raises _ current)))
  intro definition current _ held
  refine wp_guard (fun _ => raises _ current) fun defined => ?_
  simp only [not_or, not_le, not_not] at valid action defined
  refine noted_wp framed.stable framed (fun _ => id) held (fun _ _ => rfl) ?_ ?_
  · intro current _ held
    exact ⟨permits _ _, .approvalChecked held awaiting isApproval valid.1 valid.2.2 isDecision
      action defined⟩
  · intro current held isIn
    refine rest current held ?_
    intro requested isRequested
    cases isApproval.symm.trans isRequested
    exact ⟨_, isIn⟩

/-- `resume`. -/
theorem resumeRun_conforms {service : DurableAgentService}
    (permits : ∀ world runId, Licensed codec actor world runId) :
    Conforms actor (resumeRun codec service context runId command : Act σ _) := by
  intro state world _
  refine wp_bind (loadRun_wp (.const True) trivial ?_ fun _ _ _ => trivial)
  intro snapshot current _ loaded
  refine wp_guard (fun _ => trivial) fun _ => ?_
  refine wp_guard (fun _ => trivial) fun _ => ?_
  have unstarted : ∀ current : World, false = true → ∃ token made,
      .created actor.index token made ∈ (current.runs snapshot.runId).log :=
    fun _ starts => absurd starts (by decide)
  apply wp_ite
  · intro awaiting
    refine wp_bind (reviewApproval_wp permits awaiting loaded.held ?_ fun _ _ => trivial)
    intro current held checked
    refine drive_brings state current ⟨held, permits _ _, unstarted current, Or.inl rfl, ?_⟩
    intro given requested isGiven _ isRequested
    cases isGiven
    exact ⟨actor.index, checked requested isRequested⟩
  · intro awaiting
    refine wp_guard (fun _ => trivial) fun _ => ?_
    exact drive_brings state current ⟨loaded.held, permits _ _, unstarted current, Or.inl rfl,
      fun _ _ _ isAwaiting => absurd isAwaiting awaiting⟩

/-- `run_background`. -/
theorem runBackground_conforms (permits : ∀ world runId, Licensed codec actor world runId) :
    Conforms actor (runBackground service context runId expectedRevision : Act σ _) := by
  intro state world _
  unfold runBackground
  refine wp_guard (fun _ => trivial) fun _ => ?_
  refine wp_bind (loadRun_wp (.const True) trivial ?_ fun _ _ _ => trivial)
  intro snapshot current _ loaded
  refine wp_guard (fun _ => trivial) fun _ => ?_
  refine wp_guard (fun _ => trivial) fun _ => ?_
  exact drive_brings state current ⟨loaded.held, permits _ _,
    fun starts => absurd starts (by decide), Or.inl rfl, fun _ _ isCommand => by cases isCommand⟩

/-- `cancel`. -/
theorem cancelRun_conforms (permits : ∀ world runId, Licensed codec actor world runId) :
    Conforms actor (cancelRun context runId expectedRevision : Act σ _) := by
  intro state world _
  refine wp_bind (loadRun_wp (.const True) trivial ?_ fun _ _ _ => trivial)
  intro snapshot current _ loaded
  refine wp_guard (fun _ => trivial) fun _ => ?_
  refine wp_guard (fun _ => trivial) fun _ => ?_
  have framed : Framed codec actor fun current => Held current snapshot :=
    .of_persistent (held_persistent snapshot)
  refine clock_neutral.seq framed.stable loaded.held ?_ fun _ _ _ => trivial
  intro now current _ held
  refine wp_bind (orTimeout_wp (cancelRow_wp framed held (fun _ _ held => held)
    (fun _ _ _ _ _ _ => permits _ _) ?_ fun _ _ _ => trivial))
  intro saved current _ held _ _
  exact auxiliaryIo_neutral.seq framed.stable held (fun _ _ _ _ => wp_pure trivial)
    fun _ _ _ => trivial

end

/-! ## Every task keeps the discipline -/

/-- A request keeps the discipline, whatever it answers. -/
theorem Conforms.answering (conforms : Conforms actor request) :
    (discipline codec).wp actor (answering request) (fun _ _ => True) world :=
  Discipline.wp_bind (wp_elim (conforms () world trivial) (fun _ _ _ returned => returned)
    fun _ _ _ raised => raised)

theorem ending_wp (holds : Ensures actor child (fun _ _ => post .ended)
      (fun _ _ => post .ended) state world) :
    (discipline codec).wp actor (ending child state) post world :=
  Discipline.wp_bind (wp_elim holds (fun _ _ _ returned => returned) fun _ _ _ raised => raised)

/-- The program behind each code keeps the discipline. -/
theorem body_wp (needs : Needs codec world actor.code) :
    (discipline codec).wp actor (body codec actor.code) (fun _ _ => True) world := by
  obtain ⟨_, code⟩ := actor
  cases code with
  | start service context command => exact Conforms.answering (startRun_conforms rfl)
  | recover service context key => exact Conforms.answering recoverRun_conforms
  | get service context runId => exact Conforms.answering (getRun_brings (.const True))
  | resume service context runId command =>
    exact Conforms.answering (resumeRun_conforms fun _ _ => trivial)
  | runBackground service context runId expectedRevision =>
    exact Conforms.answering (runBackground_conforms fun _ _ => trivial)
  | cancel service context runId expectedRevision =>
    exact Conforms.answering (cancelRun_conforms fun _ _ => trivial)
  | lateCreation snapshot token now leaseSeconds =>
    obtain ⟨origin, _, drawn⟩ := needs
    exact ending_wp (lateCreation_wp rfl origin drawn)
  | business service context handle snapshot approval queueOnly =>
    exact ending_wp (business_wp (fun _ _ => trivial) needs)
  | heartbeat service handle =>
    refine ending_wp (heartbeatTask_wp ?_ needs)
    exact fun _ _ => trivial
  | graphCheckpoint handle scheduled =>
    refine ending_wp (graphCheckpoint_wp ?_ needs)
    exact fun _ _ => trivial

/-- Every task of the service keeps the discipline. -/
theorem discipline_sound (codec : Codec) : (discipline codec).Sound where
  arrivals code world _ arrives := by
    cases code with
    | start | recover | get | resume | runBackground | cancel => trivial
    | lateCreation | business | heartbeat | graphCheckpoint => cases arrives
  bodies _ _ _ needs := body_wp needs
  postStable _ _ _ _ _ _ _ _ _ := trivial

/-- In every pool that any schedule reaches, the shared world is safe. -/
theorem pool_safe {pool : Pool (machine codec)} (reachable : pool.Reachable) :
    Safe codec pool.world :=
  ((discipline_sound codec).reachable reachable).inv

/-- The service refines the journal: whatever tasks run, in whatever order and with
whatever crashes, each run is a reachable run of the journal. -/
theorem pool_refines {pool : Pool (machine codec)} (reachable : pool.Reachable)
    (runId : String) : RunReachable codec (Origin codec runId) (pool.world.runs runId) :=
  (pool_safe reachable).runs runId

end AegisRag.Agent.Durable.Service
