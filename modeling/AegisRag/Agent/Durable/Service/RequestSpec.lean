import AegisRag.Agent.Durable.Rows
import AegisRag.Agent.Durable.Service.PhaseSpec

/-!
# The requests keep the discipline

A request only reads, purges and touches runs its code licenses it to touch. An
execution is its own until it hands it over to the children; afterwards it
writes to it again only once it has revoked it.
-/

namespace AegisRag.Agent.Durable.Service

open Semantics
open Semantics.Task hiding start

variable {codec : Codec} {actor : Actor (machine codec)} {world : World}

/-! ## Reads -/

/-- A deadline reported as another error. -/
def asTimeout (error : Failure) : Failure → Failure
  | .timeout => error
  | failure => failure

variable {loaded : DurableSnapshot}

theorem orTimeout_wp {awaitable : Act σ α} {ok : α → σ → World → Prop}
    (holds : Ensures actor awaitable ok
      (fun failure => fail (asTimeout error failure)) state world) :
    Ensures actor (orTimeout error awaitable) ok fail state world := by
  refine wp_tryCatch (wp_mono holds (fun _ _ _ returned => returned) ?_)
  intro failure state world raised
  cases failure <;> exact raised

theorem loaded_persistent {tenantId userId runId : String} {value : DurableSnapshot} :
    (discipline codec).Persistent fun world => Loaded world tenantId userId runId value :=
  fun other world next safe step loaded =>
    ⟨held_persistent value other world next safe step loaded.held, loaded.runId,
      loaded.tenantId, loaded.userId, loaded.accepted⟩

theorem Framed.andLoaded (framed : Framed codec actor pre) :
    Framed codec actor fun world => pre world ∧ Loaded world tenantId userId runId value :=
  framed.and (.of_persistent loaded_persistent)

/-- `_load`. -/
theorem loadRun_wp {runId : String} {ok : DurableSnapshot → σ → World → Prop}
    (framed : Framed codec actor pre) (holds : pre world) (rest : ∀ value current, pre current →
      Loaded current context.auth.tenantId context.auth.userId runId value → ok value state current)
    (raises : Raises pre fail state) :
    Ensures actor (loadRun context runId) ok fail state world := by
  refine (authorize_neutral context).seq framed.stable holds ?_ raises
  intro _ current _ holds
  refine wp_bind (orTimeout_wp (loadRow_wp framed holds ?_ ?_))
  swap
  · intro failure current holds
    exact raises _ current holds
  intro value current _ holds loaded
  refine clock_neutral.seq framed.andLoaded.stable ⟨holds, loaded⟩ ?_
    fun failure current both => raises failure current both.1
  intro now current _ both
  apply wp_ite
  · intro expired
    refine clock_neutral.seq framed.stable both.1 ?_ raises
    intro now current _ holds
    refine wp_bind (orTimeout_wp (purgeExpired_wp framed holds ?_ ?_))
    · intro current holds
      exact raises _ current holds
    · intro failure current holds
      exact raises _ current holds
  · intro expired
    exact rest value current both.1 both.2

/-- `get`. -/
theorem getRun_brings (framed : Framed codec actor pre) :
    Brings actor pre (getRun service context runId : Act σ _) pre := by
  intro state world holds
  refine wp_bind (loadRun_wp framed holds (fun value current holds _ => ?_) fun _ _ holds => holds)
  exact wp_ite (fun _ => wp_bind (orTimeout_wp ((revalidate_neutral service context value).wp
    framed.stable holds (fun _ _ _ holds => holds) fun _ _ holds => holds))) fun _ => holds

/-- `_existing_start` writes nothing, whatever it answers. -/
theorem existingStart_brings (framed : Framed codec actor pre) :
    Brings actor pre (existingStart service context existing startup : Act σ _) pre := by
  intro state world holds
  refine clock_neutral.seq framed.stable holds (fun now current _ holds => ?_)
    fun _ _ holds => holds
  exact wp_ite (fun _ => getRun_brings framed state current holds) fun _ =>
    wp_ite (fun _ => holds) fun _ => getRun_brings framed state current holds

/-! ## Cleanup -/

/-- What a cleanup needs of its execution: the request still owns it, or has revoked
it after the hand-over. A cleanup that saves comes after the hand-over. -/
structure Cleans (actor : Actor (machine codec)) (handle : Nat) (runId : String)
    (cancelled : Bool) (world : World) : Prop where
  licensed : Licensed codec actor world runId
  shared : ∃ self, world.executions[handle]? = some self ∧ self.snapshot.runId = runId ∧
    (self.owner = .request actor.index ∧ cancelled = true ∨
      self.revocationError.isSome ∧ ∀ task, self.owner ≠ .request task)

section

variable {handle : Nat} {runId : String} {cancelled : Bool}

theorem Cleans.framed : Framed codec actor (Cleans actor handle runId cancelled) := by
  constructor
  · rintro other world next differs safe step ⟨licensed, self, found, isRun, controls⟩
    refine ⟨licensed_persistent actor other world next safe step licensed, ?_⟩
    obtain ⟨after, foundAfter, passes⟩ := step.executions handle self found
    rcases controls with ⟨mine, saves⟩ | ⟨revoked, left⟩
    · obtain rfl := passes.reserved actor.index mine (Ne.symm differs)
      exact ⟨after, foundAfter, isRun, Or.inl ⟨mine, saves⟩⟩
    · exact ⟨after, foundAfter, passes.runId.trans isRun,
        Or.inr ⟨passes.revoked revoked, passes.left left⟩⟩
  · rintro world next safe step same ⟨licensed, shared⟩
    refine ⟨licensed_persistent actor actor world next safe step licensed, ?_⟩
    rw [same]
    exact shared

/-- What a cleanup knows once it has loaded a snapshot. -/
def Cleaning (actor : Actor (machine codec)) (handle : Nat) (runId : String) (cancelled : Bool)
    (loaded : DurableSnapshot) (world : World) : Prop :=
  Cleans actor handle runId cancelled world ∧ Held world loaded

theorem Cleaning.framed : Framed codec actor (Cleaning actor handle runId cancelled loaded) :=
  Cleans.framed.and (Framed.of_persistent (held_persistent loaded))

/-- A snapshot of the run that the cleanup assigns. -/
theorem assignSnapshot_brings (isRun : loaded.runId = runId) :
    Brings actor (Cleaning actor handle runId cancelled loaded)
      (assignSnapshot handle loaded : Act σ Unit)
      (Cleaning actor handle runId cancelled loaded) := by
  intro state world both
  refine assignSnapshot_wp Cleaning.framed.stable both ?_ ?_
  · rintro current self safe ⟨cleans, held⟩ found
    obtain ⟨other, foundOther, isOther, controls⟩ := cleans.shared
    cases found.symm.trans foundOther
    refine ⟨held, isRun.trans isOther.symm, ?_⟩
    rcases controls with ⟨mine, _⟩ | revoked
    · exact Or.inr (Or.inl mine)
    · exact Or.inl revoked
  · rintro current self safe ⟨cleans, held⟩ found step
    obtain ⟨other, foundOther, _, controls⟩ := cleans.shared
    cases found.symm.trans foundOther
    exact ⟨⟨licensed_persistent actor actor current _ safe step cleans.licensed, _,
      World.setExecution_found found, isRun, controls⟩, held⟩

/-- The ownership-checked cancellation. -/
theorem cancelOwned_brings (isRun : loaded.runId = runId) :
    Brings actor (Cleaning actor handle runId cancelled loaded)
      (cancelOwned handle loaded token createdHere : Act σ Unit)
      (Cleans actor handle runId cancelled) := by
  intro state world both
  refine clock_neutral.seq Cleaning.framed.stable both ?_ fun _ _ both => both.1
  intro now current _ both
  refine wp_bind (cancelRow_wp Cleaning.framed both (fun _ _ both => both.2) ?_ ?_
    fun _ _ both => both.1)
  · intro current saved next _ both _
    rw [isRun]
    exact both.1.licensed
  · intro saved current _ both isHeld savedRun
    refine wp_bind ((assignSnapshot_brings (savedRun.trans isRun)).wp ⟨both.1, isHeld⟩ ?_
      fun _ _ _ both => both.1)
    intro _ state current both
    exact auxiliaryIo_neutral.brings Cleans.framed.stable state current both.1

/-- A stop by the request itself, after it has revoked the execution: it replaces
whatever snapshot the execution holds by then. -/
theorem stopRevoked_brings (stable : Stable actor facts)
    (admissible : ∀ current seen, Safe codec current → Held current seen → seen.runId = runId →
      facts current → Admissible codec actor.index (current.runs seen.runId) (site seen) seen
        (seen.stopped code status) none) :
    Brings actor (fun current => Cleans actor handle runId false current ∧ facts current)
      (stop handle site code status true : Act σ Unit) (Cleans actor handle runId false) := by
  intro state world both
  refine wp_bind (wp_bind (execution_wp (Cleans.framed.stable.and stable) both ?_))
  rintro self current safe ⟨cleans, holds⟩ found
  have shown : Held current self.snapshot ∧ self.snapshot.runId = runId := by
    obtain ⟨_, foundOther, isRun, controls⟩ := cleans.shared
    cases found.symm.trans foundOther
    exact ⟨safe.executions handle self found (controls.resolve_left (by simp)).2, isRun⟩
  have stableAll : Stable actor fun current =>
      Cleans actor handle runId false current ∧ facts current ∧ Held current self.snapshot :=
    Cleans.framed.stable.and (stable.and (held_persistent self.snapshot).stable)
  simp only [if_true]
  refine wp_bind (wp_pure ?_)
  refine clock_neutral.seq stableAll ⟨cleans, holds, shown.1⟩ ?_ fun _ _ all => all.1
  intro now current _ all
  refine wp_bind (wp_ofExcept ?_ fun _ _ => all.1)
  intro instant passed
  refine wp_bind (saveRow_wp stableAll Cleans.framed (fun _ all => all.1) all
    (saveInstant_forward passed) ?_ ?_ fun _ _ cleans => cleans)
  · rintro current safe ⟨cleans, holds, held⟩
    refine ⟨held, ?_, admissible current self.snapshot safe held shown.2 holds⟩
    rw [shown.2]
    exact cleans.licensed
  · intro saved current _ cleans isSaved
    refine wp_bind ((assignSnapshot_brings (isSaved.runId.trans shown.2)).wp
      ⟨cleans, isSaved.held⟩ ?_ fun _ _ _ both => both.1)
    intro _ state current both
    refine wp_bind (execution_wp Cleans.framed.stable both.1 ?_)
    intro _ current _ cleans _
    refine wp_bind (wp_pure ?_)
    apply wp_ite
    · intro changed
      exact (auxiliaryIo_neutral.brings Cleans.framed.stable).bind
        (fun _ _ _ cleans => wp_pure cleans) (fun _ cleans => cleans) state current cleans
    · intro changed
      exact wp_pure cleans

/-- The timeout of a cleanup: the pending call was checked for the loaded snapshot, so
it is settled if that is the one replaced. -/
theorem stopTimedOut_brings (isRun : loaded.runId = runId) :
    Brings actor (Cleaning actor handle runId false loaded)
      (stopTimedOut handle loaded : Act σ Unit) (Cleans actor handle runId false) := by
  -- A held snapshot of the loaded revision is the loaded snapshot.
  have timesOut : ∀ facts : World → Prop, Stable actor facts →
      (∀ current, facts current → Held current loaded ∧
        Settled (current.runs loaded.runId) loaded) →
      Brings actor (fun current => Cleans actor handle runId false current ∧ facts current)
        (stop handle (fun snapshot => .cleanupTimeout (snapshot.revision == loaded.revision))
          "AGENT_TIMEOUT" .stopped true : Act σ Unit) (Cleans actor handle runId false) := by
    intro facts stable settled
    refine stopRevoked_brings stable ?_
    intro current seen safe isHeld seenRun holds
    refine .cleanupTimeout fun same => ?_
    obtain ⟨isLoaded, settled⟩ := settled current holds
    have inRun : seen.runId = loaded.runId := seenRun.trans isRun.symm
    rw [Held, ← inRun] at isLoaded
    obtain rfl : seen = loaded := Chronicle.eq_of_revision (safe.runs seen.runId).fenced.chain
      isHeld isLoaded (beq_iff_eq.mp same)
    exact settled
  intro state world both
  unfold stopTimedOut
  split
  · rename_i idle
    exact timesOut _ (held_persistent loaded).stable (fun current isHeld => ⟨isHeld, Or.inl idle⟩)
      state world both
  rename_i callId pending
  refine wp_bind (ledgerRow_wp Cleaning.framed both ?_ ?_ fun _ _ both => both.1)
  · rintro current _ ⟨cleans, isHeld⟩
    refine ⟨isHeld, Or.inl pending, ?_⟩
    rw [isRun]
    exact cleans.licensed
  rintro entry current _ ⟨cleans, isHeld⟩ seen
  apply wp_ite
  · intro inDoubt
    exact stopRevoked_brings (Discipline.Stable.const True) (fun _ _ _ _ _ _ => .cleanupUnknown)
      state current ⟨cleans, trivial⟩
  · intro inDoubt
    refine timesOut _ (seen_persistent loaded callId entry).stable ?_ state current
      ⟨cleans, isHeld, seen⟩
    exact fun current both => ⟨both.1, Or.inr ⟨callId, entry, pending, both.2, inDoubt⟩⟩

theorem Brings.retryOnConflict {attempt : Act σ Unit} (brings : Brings actor pre attempt post) :
    Brings actor pre (retryOnConflict attempt) post := by
  intro state world holds
  refine wp_bind (wp_attempt (brings.wp holds (fun _ _ _ kept => kept) ?_))
  intro failure state current kept
  dsimp only
  split <;> exact kept

/-- One round of a terminal cleanup. -/
theorem persistTerminal_brings :
    Brings actor (Cleans actor handle runId cancelled)
      (persistTerminal handle createdHere cancelled : Act σ (Option Unit))
      (Cleans actor handle runId cancelled) := by
  intro state world cleans
  refine wp_bind (execution_wp Cleans.framed.stable cleans ?_)
  intro self current _ cleans found
  have shown : self.snapshot.runId = runId := by
    obtain ⟨_, foundOther, isRun, _⟩ := cleans.shared
    cases found.symm.trans foundOther
    exact isRun
  refine wp_bind (wp_attempt (loadRow_wp Cleans.framed cleans ?_ ?_))
  swap
  · intro failure current cleans
    dsimp only
    split <;> exact cleans
  intro loaded current _ cleans isLoaded
  have isRun : loaded.runId = runId := isLoaded.runId.trans shown
  refine wp_bind ((assignSnapshot_brings isRun).wp ⟨cleans, isLoaded.held⟩ ?_
    fun _ _ _ both => both.1)
  intro _ state current both
  split
  · exact both.1
  refine wp_bind (ownsRow_wp Cleaning.framed both ?_ fun _ _ both => both.1)
  intro owned current both
  cases owned with
  | false => cases cancelled <;> exact both.1
  | true =>
    cases cancelled with
    | true => exact (cancelOwned_brings isRun).retryOnConflict state current both
    | false => exact (stopTimedOut_brings isRun).retryOnConflict state current both

theorem Brings.orTimeout {post : World → Prop} (brings : Brings actor pre task post) :
    Brings actor pre (orTimeout error task) post :=
  fun state world holds => orTimeout_wp (brings state world holds)

/-- `_terminal_cleanup`. -/
theorem terminalCleanup_brings :
    Brings actor (Cleans actor handle runId cancelled)
      (terminalCleanup handle createdHere cancelled : Act σ Unit)
      (Cleans actor handle runId cancelled) :=
  (persistTerminal_brings.repeatUntil Cleans.framed.stable).orTimeout

/-- `_cancel_after_disconnect`. -/
theorem cancelAfterDisconnect_brings :
    Brings actor (Cleans actor handle runId true)
      (cancelAfterDisconnect handle createdHere : Act σ Unit) (Cleans actor handle runId true) :=
  terminalCleanup_brings.attempt.bind
    (fun _ => auxiliaryIo_neutral.brings Cleans.framed.stable) fun _ cleans => cleans

/-- A disconnected request ends with an error of its own. -/
theorem disconnect_wp {ok : α → σ → World → Prop} (cleans : Cleans actor handle runId true world)
    (raises : ∀ failure state current, fail failure state current) :
    Ensures actor (do
      cancelAfterDisconnect handle createdHere
      throw error) ok fail state world :=
  wp_bind (cancelAfterDisconnect_brings.wp cleans
    (fun _ state current _ => raises error state current)
    fun failure state current _ => raises failure state current)

end

/-! ## An abandoned keyed insert -/

/-- A row leased to a creation token was inserted with it: claims use tokens drawn
for claims, and no text is drawn twice. -/
theorem created_of_leased (safe : Safe codec world)
    (drawn : ⟨token, .creationToken, task⟩ ∈ world.issued)
    (found : (world.runs runId).chronicle.cell.run = some row)
    (leased : row.leaseToken = some token) :
    ∃ creator made, .created creator (some token) made ∈ (world.runs runId).log := by
  obtain ⟨event, isIn, writes⟩ := (safe.runs runId).leaseWritten row token found leased
  cases event with
  | created creator given made =>
    obtain rfl : given = some token := writes
    exact ⟨creator, made, isIn⟩
  | leased claimer operation =>
    have claims : ClaimedWith token (.leased claimer operation) := by
      cases operation with
      | acquire _ other _ _ _ => exact Option.some.inj writes
      | _ => simp [Event.leasesTo, Operation.claimToken] at writes
    obtain ⟨other, claimed⟩ := safe.claims runId token _ isIn claims
    have same := List.inj_on_of_nodup_map safe.issued drawn claimed rfl
    simp at same
  | _ => exact absurd writes id

section

variable {snapshot : DurableSnapshot} {token : String}

section

variable (framed : Framed codec actor pre)
  (drawn : ∀ current, pre current → ∃ task, ⟨token, .creationToken, task⟩ ∈ current.issued)
  (permits : ∀ current runId creator made, pre current →
    .created creator (some token) made ∈ (current.runs runId).log →
    Licensed codec actor current runId)

include framed drawn permits

theorem persistCreation_brings :
    Brings actor pre (persistCreation snapshot token : Act σ (Option Unit)) pre := by
  intro state world holds
  refine wp_bind (wp_attempt (loadRow_wp framed holds ?_ ?_))
  swap
  · intro failure current holds
    dsimp only
    split <;> exact holds
  intro loaded current _ holds isLoaded
  dsimp only
  split
  · exact holds
  have framedHeld : Framed codec actor fun current => pre current ∧ Held current loaded :=
    framed.and (.of_persistent (held_persistent loaded))
  refine wp_bind (ownsRow_wp framedHeld ⟨holds, isLoaded.held⟩ ?_ fun _ _ both => both.1)
  intro owned current both
  cases owned with
  | false => exact both.1
  | true =>
    refine (?_ : Brings actor (fun current => pre current ∧ Held current loaded) _
      pre).retryOnConflict state current both
    intro state current both
    refine clock_neutral.seq framedHeld.stable both ?_ fun _ _ both => both.1
    intro now current _ both
    refine wp_bind (cancelRow_wp framedHeld both (fun _ _ both => both.2) ?_ ?_
      fun _ _ both => both.1)
    · intro current saved next safe both performed
      obtain ⟨_, committed, _, _⟩ := Chronicle.perform_cancel performed
      obtain ⟨_, found, cancellable, _, _⟩ := RunCell.cancel_ok committed
      simp only [RunCell.cancellable, RunCell.ownershipGuard, RunCell.ownedBy, Bool.and_eq_true,
        Bool.false_and, Bool.or_false, beq_iff_eq] at cancellable
      obtain ⟨_, isDrawn⟩ := drawn current both.1
      obtain ⟨creator, made, isIn⟩ :=
        created_of_leased safe isDrawn found cancellable.1.1.2
      exact permits current _ creator made both.1 isIn
    · intro saved current _ both _ _
      exact auxiliaryIo_neutral.brings framed.stable state current both.1

/-- `_cancel_keyed_creation` touches only a row that its own token inserted. -/
theorem cancelKeyedCreation_wp (holds : pre world)
    (rest : ∀ state current, pre current → ok () state current) :
    Ensures actor (cancelKeyedCreation snapshot token) ok fail state world :=
  wp_bind (wp_attempt (((persistCreation_brings framed drawn permits).repeatUntil
    framed.stable).wp holds (fun _ => rest) fun _ => rest))

end

end

/-! ## Driving an execution -/

/-- A request that has handed its execution over to the children. -/
structure Supervises (actor : Actor (machine codec)) (handle : Nat) (runId : String)
    (world : World) : Prop where
  licensed : Licensed codec actor world runId
  shared : ∃ self, world.executions[handle]? = some self ∧ self.snapshot.runId = runId ∧
    ∀ task, self.owner ≠ .request task

section

variable {handle : Nat} {runId : String}

theorem supervises_persistent : (discipline codec).Persistent (Supervises actor handle runId) := by
  rintro other world next safe step ⟨licensed, self, found, isRun, left⟩
  obtain ⟨after, foundAfter, passes⟩ := step.executions handle self found
  exact ⟨licensed_persistent actor other world next safe step licensed, after, foundAfter,
    passes.runId.trans isRun, passes.left left⟩

theorem Supervises.framed : Framed codec actor (Supervises actor handle runId) :=
  .of_persistent supervises_persistent

theorem Supervises.cleans {cancelled : Bool} (supervises : Supervises actor handle runId world)
    (revoked : Revoked world handle) : Cleans actor handle runId cancelled world := by
  obtain ⟨licensed, self, found, isRun, left⟩ := supervises
  obtain ⟨_, foundOther, isRevoked⟩ := revoked
  cases found.symm.trans foundOther
  exact ⟨licensed, self, found, isRun, Or.inr ⟨isRevoked, left⟩⟩

/-- What is true of a supervised execution once its request has revoked it. -/
def Ended (actor : Actor (machine codec)) (handle : Nat) (runId : String) (world : World) : Prop :=
  Supervises actor handle runId world ∧ Revoked world handle

theorem ended_persistent : (discipline codec).Persistent (Ended actor handle runId) :=
  supervises_persistent.and (revoked_persistent handle)

theorem Ended.framed : Framed codec actor (Ended actor handle runId) :=
  .of_persistent ended_persistent

theorem revoke_brings {error : Option DomainError} :
    Brings actor (Supervises actor handle runId) (revoke handle error : Act σ Unit)
      (Ended actor handle runId) := by
  intro state world supervises
  refine revoke_wp supervises_persistent.stable supervises ?_ ?_
  · rintro current self ⟨_, _, foundOther, _, left⟩ found task isRequest
    cases found.symm.trans foundOther
    exact absurd isRequest (left task)
  · intro current next self safe supervises _ step revoked
    exact ⟨supervises_persistent actor current next safe step supervises, revoked⟩

/-- A cleanup after the revocation keeps what every task keeps. -/
theorem Brings.ended (cleans : Brings actor (Cleans actor handle runId cancelled) cleanup
      (Cleans actor handle runId cancelled)) :
    Brings actor (Ended actor handle runId) cleanup (Ended actor handle runId) :=
  fun state world ended => wp_mono (wp_keeps ended_persistent ended
    (cleans state world (ended.1.cleans ended.2)))
    (fun _ _ _ both => both.2) fun _ _ _ both => both.2

/-- `response`. -/
theorem response_brings :
    Brings actor (Supervises actor handle runId)
      (response service context handle asked reconcile : Act σ DurableRunResponse)
      (Supervises actor handle runId) := by
  intro state world supervises
  refine wp_bind (execution_wp supervises_persistent.stable supervises ?_)
  intro self current _ supervises _
  split
  · exact supervises
  · exact (getRun_brings Supervises.framed).orTimeout state current supervises

theorem reconcileRevoked_brings :
    Brings actor (Supervises actor handle runId)
      (reconcileRevoked service context handle asked : Act σ DurableRunResponse)
      (Supervises actor handle runId) := by
  refine revoke_brings.bind (fun _ state world ended => ?_) fun _ ended => ended.1
  refine auxiliaryIo_neutral.seq supervises_persistent.stable ended.1 ?_
    fun _ _ supervises => supervises
  intro _ current _ supervises
  refine wp_bind (execution_wp supervises_persistent.stable supervises ?_)
  intro self current _ supervises _
  refine wp_bind (response_brings.wp supervises ?_ fun _ _ _ supervises => supervises)
  intro response state current supervises
  split <;> exact supervises

/-- The body of `_drive` after its claim. -/
theorem supervise_brings :
    Brings actor (Supervises actor handle runId)
      (supervise service context handle asked : Act σ DurableRunResponse)
      (Supervises actor handle runId) := by
  -- Both ways to a timeout end the run in a cleanup first.
  have cleansUp : Brings actor (Ended actor handle runId) (do
      terminalCleanup handle false false
      response service context handle asked false : Act σ DurableRunResponse)
      (Supervises actor handle runId) :=
    (Brings.ended terminalCleanup_brings).bind
      (fun _ state current ended => response_brings state current ended.1) fun _ ended => ended.1
  intro state world supervises
  refine (waitTasks_neutral handle).seq supervises_persistent.stable supervises ?_
    fun _ _ supervises => supervises
  rintro ⟨_, _⟩ current _ supervises
  refine wp_bind (execution_wp supervises_persistent.stable supervises ?_)
  intro self current _ supervises _
  split
  · exact reconcileRevoked_brings state current supervises
  split
  · exact response_brings state current supervises
  · exact revoke_brings.bind (fun _ => cleansUp) (fun _ ended => ended.1) state current supervises
  · exact supervises
  · have audited := (auxiliaryIo_neutral.brings ended_persistent.stable).bind (fun _ => cleansUp)
      fun _ ended => ended.1
    exact revoke_brings.bind (fun _ => audited) (fun _ ended => ended.1) state current supervises

theorem interrupted_neutral : Neutral codec (interrupted : Act σ Bool) fun _ => True := by
  refine .bind auxiliaryIo_neutral.attempt fun result _ => ?_
  cases result <;> exact .pure trivial

/-- The `finally` of `_drive`. -/
theorem driveCleanup_brings :
    Brings actor (Supervises actor handle runId) (driveCleanup handle cancelled : Act σ Unit)
      (Ended actor handle runId) := by
  have disconnects : Brings actor (Ended actor handle runId)
      (cancelAfterDisconnect handle false : Act σ Unit) (Ended actor handle runId) :=
    Brings.ended cancelAfterDisconnect_brings
  -- What follows the release of the lease.
  have finishes : ∀ disconnected, Brings actor (Ended actor handle runId) (do
      if disconnected || (← interrupted) then
        cancelAfterDisconnect handle false
        throw .cancelled : Act σ Unit) (Ended actor handle runId) := by
    intro disconnected
    refine (interrupted_neutral.brings ended_persistent.stable).bind (fun stopped => ?_)
      fun _ ended => ended
    split
    · exact disconnects.bind (fun _ _ _ ended => wp_throw ended) fun _ ended => ended
    · exact fun _ _ ended => wp_pure ended
  have cancels : ∀ disconnected, Brings actor (Ended actor handle runId)
      (if cancelled || disconnected then cancelAfterDisconnect handle false
        else pure () : Act σ Unit)
      (Ended actor handle runId) := by
    intro disconnected
    split
    · exact disconnects
    · exact fun _ _ ended => wp_pure ended
  refine revoke_brings.bind (fun _ => ?_) fun _ ended => ended
  refine (interrupted_neutral.brings ended_persistent.stable).bind (fun disconnected => ?_)
    fun _ ended => ended
  rw [bind_when]
  refine (cancels disconnected).bind (fun _ => ?_) fun _ ended => ended
  intro state current ended
  refine wp_bind (execution_wp ended_persistent.stable ended ?_)
  rintro self current safe ended found
  have framed : Framed codec actor fun current => Ended actor handle runId current ∧
      Held current self.snapshot :=
    Ended.framed.and (.of_persistent (held_persistent self.snapshot))
  obtain ⟨other, foundOther, isRun, left⟩ := ended.1.shared
  cases found.symm.trans foundOther
  refine wp_bind (wp_attempt (leaseRow_wp rfl rfl framed
    ⟨ended, safe.executions handle self found left⟩ ?_ ?_ ?_))
  · rintro current _ ⟨ended, held⟩
    refine ⟨held, ?_, fun token claims => by simp [Operation.claimToken] at claims⟩
    rw [isRun]
    exact ended.1.licensed
  · intro returned current _ both _
    exact finishes disconnected state current both.1
  · intro failure current both
    cases failure with
    | cancelled =>
      exact wp_bind (disconnects.wp both.1 (fun _ _ _ ended => ended) fun _ _ _ ended => ended)
    | timeout | domain _ | other => exact finishes disconnected state current both.1

/-- What a request knows before it drives a run. -/
structure Drivable (actor : Actor (machine codec)) (checked snapshot : DurableSnapshot)
    (approval : Option DurableResumeCommand) (start : Bool) (world : World) : Prop where
  held : Held world snapshot
  licensed : Licensed codec actor world snapshot.runId
  inserted : start = true → ∃ token made,
    .created actor.index token made ∈ (world.runs snapshot.runId).log
  reclaimed : Reclaimed checked snapshot
  reviewed : ∀ command requested, approval = some command → snapshot.status = .awaitingApproval →
    snapshot.approval = some requested →
    ∃ checker now, .approvalChecked checker checked requested command now ∈
      (world.runs snapshot.runId).log

theorem drivable_persistent {checked snapshot : DurableSnapshot}
    {approval : Option DurableResumeCommand} {start : Bool} :
    (discipline codec).Persistent (Drivable actor checked snapshot approval start) := by
  rintro other world next safe step ⟨held, licensed, inserted, reclaimed, reviewed⟩
  refine ⟨held_persistent snapshot other world next safe step held,
    licensed_persistent actor other world next safe step licensed, ?_, reclaimed, ?_⟩
  · intro starts
    obtain ⟨token, made, isIn⟩ := inserted starts
    exact ⟨token, made, (step.extends safe).1 _ isIn⟩
  · intro command requested isCommand awaiting isRequested
    obtain ⟨checker, now, isIn⟩ := reviewed command requested isCommand awaiting isRequested
    exact ⟨checker, now, (step.extends safe).1 _ isIn⟩

theorem Drivable.business {checked snapshot : DurableSnapshot}
    {approval : Option DurableResumeCommand} {start : Bool}
    (drivable : Drivable actor checked snapshot approval start world) :
    Reviewed world snapshot approval := by
  intro command requested isCommand awaiting isRequested
  obtain ⟨checker, now, isIn⟩ := drivable.reviewed command requested isCommand awaiting isRequested
  exact ⟨checker, checked, now, isIn, drivable.reclaimed⟩

/-- A request that has built its execution and not yet handed it over. -/
structure Prepares (actor : Actor (machine codec)) (handle : Nat)
    (checked snapshot : DurableSnapshot) (token : String) (approval : Option DurableResumeCommand)
    (start : Bool) (world : World) : Prop where
  drivable : Drivable actor checked snapshot approval start world
  own : world.executions[handle]? =
    some ⟨snapshot, token, none, .request actor.index, none, none⟩

section

variable {token : String}

theorem Prepares.framed :
    Framed codec actor (Prepares actor handle checked snapshot token approval start) := by
  constructor
  · rintro other world next differs safe step ⟨drivable, own⟩
    refine ⟨drivable_persistent other world next safe step drivable, ?_⟩
    obtain ⟨_, found, passes⟩ := step.executions handle _ own
    obtain rfl := passes.reserved actor.index rfl (Ne.symm differs)
    exact found
  · rintro world next safe step same ⟨drivable, own⟩
    refine ⟨drivable_persistent actor world next safe step drivable, ?_⟩
    rw [same]
    exact own

theorem Prepares.cleans (prepares : Prepares actor handle checked snapshot token approval
    start world) :
    Cleans actor handle snapshot.runId true world :=
  ⟨prepares.drivable.licensed, _, prepares.own, rfl, Or.inl ⟨rfl, rfl⟩⟩

theorem drawn_persistent : (discipline codec).Persistent fun world =>
    keyed = false → ∃ task, ⟨token, .leaseToken, task⟩ ∈ world.issued := by
  intro other world next safe step drawn unkeyed
  obtain ⟨task, isIn⟩ := drawn unkeyed
  exact ⟨task, step.issued _ isIn⟩

/-- The claim of `_drive`. -/
theorem claim_wp {ok : Option DurableSnapshot → σ → World → Prop}
    (prepares : Prepares actor handle checked snapshot token approval start world)
    (drawn : keyed = false → ∃ task, ⟨token, .leaseToken, task⟩ ∈ world.issued)
    (rest : ∀ claimed current, Prepares actor handle checked snapshot token approval start current →
      Held current (claimed.getD snapshot) → Reclaimed snapshot (claimed.getD snapshot) →
      ok claimed state current)
    (raises : ∀ failure current, Prepares actor handle checked snapshot token approval
      start current →
      fail failure state current) :
    Ensures actor (claim service snapshot token keyed queueOnly) ok fail state world := by
  have framed : Framed codec actor fun current =>
      Prepares actor handle checked snapshot token approval start current ∧
        (keyed = false → ∃ task, ⟨token, .leaseToken, task⟩ ∈ current.issued) :=
    Prepares.framed.and (Framed.of_persistent drawn_persistent)
  refine clock_neutral.seq framed.stable ⟨prepares, drawn⟩ ?_
    fun failure current both => raises failure current both.1
  intro now current _ both
  refine leaseRow_wp ?_ (?_ : _ = some snapshot) framed both ?_ ?_ fun failure current both =>
    raises failure current both.1
  · cases keyed <;> rfl
  · cases keyed <;> rfl
  · rintro current _ ⟨prepares, drawn⟩
    refine ⟨prepares.drivable.held, prepares.drivable.licensed, ?_⟩
    intro claimed claims
    cases keyed with
    | true => simp [Operation.claimToken] at claims
    | false =>
      obtain rfl : token = claimed := by simpa [Operation.claimToken] using claims
      exact drawn rfl
  · rintro returned current _ ⟨prepares, _⟩ returns
    cases returned with
    | none => exact rest none current prepares prepares.drivable.held (Or.inl rfl)
    | some saved =>
      obtain ⟨held, reclaimed⟩ := returns saved rfl
      exact rest (some saved) current prepares held reclaimed

/-- A claim changes neither the run nor its approval. -/
theorem Drivable.claimed {saved : DurableSnapshot}
    (drivable : Drivable actor snapshot snapshot approval start world) (held : Held world saved)
    (reclaimed : Reclaimed snapshot saved) : Drivable actor snapshot saved approval
      start world := by
  obtain ⟨_, licensed, inserted, _, reviewed⟩ := drivable
  rcases reclaimed with rfl | claims
  · exact ⟨held, licensed, inserted, Or.inl rfl, reviewed⟩
  · obtain ⟨_, _, _, _, rfl⟩ := claims
    exact ⟨held, licensed, inserted, Or.inr ⟨_, _, _, _, rfl⟩, reviewed⟩

/-- A hand-over leaves the execution to be supervised, and to the business task. -/
theorem Prepares.handOver {next : World}
    (prepares : Prepares actor handle checked snapshot token approval start world)
    (safe : Safe codec world) (step : Step codec actor world next)
    (found : next.executions[handle]? = some ⟨snapshot, token, none, .waiting, none, none⟩) :
    Supervises actor handle snapshot.runId next ∧ Held next snapshot ∧
      Waits next handle snapshot ∧ Reviewed next snapshot approval := by
  have drivable := drivable_persistent actor world next safe step prepares.drivable
  have left : ∀ task, Owner.waiting ≠ .request task := fun _ isRequest => by cases isRequest
  exact ⟨⟨drivable.licensed, _, found, rfl, left⟩, drivable.held,
    ⟨_, found, left, rfl, fun _ => Or.inl rfl⟩, drivable.business⟩

/-- `_drive` after its claim. -/
theorem handOver_brings {claimed : DurableSnapshot} (reclaimed : Reclaimed snapshot claimed) :
    Brings actor (fun current => Prepares actor handle snapshot snapshot token approval
      start current ∧
      Held current claimed) (do
      assignSnapshot handle claimed
      call (.handOver handle)
      Task.start (.heartbeat service handle : Code)
      Task.start (.business service context handle claimed approval queueOnly : Code)
      let outcome ← Task.attempt (supervise service context handle asked)
      driveCleanup handle (match outcome with
        | .error .cancelled => true
        | _ => false)
      Task.ofExcept outcome : Act σ DurableRunResponse) fun _ => True := by
  have handed : (discipline codec).Persistent fun current =>
      Supervises actor handle claimed.runId current ∧ Held current claimed ∧
        Waits current handle claimed ∧ Reviewed current claimed approval :=
    supervises_persistent.and
      ((held_persistent claimed).and (waits_persistent.and reviewed_persistent))
  intro state world both
  refine wp_bind (assignSnapshot_wp (Prepares.framed.stable.and
    (held_persistent claimed).stable) both ?_ ?_)
  · rintro current self _ ⟨prepares, held⟩ found
    cases prepares.own.symm.trans found
    exact ⟨held, reclaimed.runId, Or.inr (Or.inl rfl)⟩
  rintro current self safe ⟨prepares, held⟩ found step
  cases prepares.own.symm.trans found
  have assigned : Prepares actor handle snapshot claimed token approval start
      (current.setExecution handle ⟨claimed, token, none, .request actor.index, none, none⟩) :=
    ⟨drivable_persistent actor _ _ safe step (prepares.drivable.claimed held reclaimed),
      World.setExecution_found prepares.own⟩
  refine wp_bind (handOver_wp Prepares.framed.stable assigned ?_ ?_)
  · intro current self _ prepares found
    cases prepares.own.symm.trans found
    exact prepares.drivable.held
  intro current self safe prepares found step
  cases prepares.own.symm.trans found
  refine wp_bind (start_wp handed.stable
    (prepares.handOver safe step (World.setExecution_found prepares.own)) ?_ ?_)
  · rintro current _ ⟨⟨_, self, found, _, left⟩, _⟩
    exact ⟨self, found, left⟩
  intro current all
  refine wp_bind (start_wp handed.stable all (fun current _ all => all.2) ?_)
  intro current all
  refine supervise_brings.attempt.bind (fun outcome => ?_) (fun _ _ => trivial) state current all.1
  refine driveCleanup_brings.bind (fun _ _ _ _ => ?_) fun _ _ => trivial
  exact wp_ofExcept (fun _ _ => trivial) fun _ _ => trivial

/-- `_drive`. -/
theorem drive_brings :
    Brings actor (Drivable actor snapshot snapshot approval start)
      (drive service context snapshot approval createdHere initialToken queueOnly start :
        Act σ DurableRunResponse) fun _ => True := by
  intro state world drivable
  refine wp_bind (noted_wp drivable_persistent.stable (.of_persistent drivable_persistent)
    (fun _ => id) drivable (fun _ _ => rfl) ?_ ?_)
  · intro current _ drivable
    exact ⟨drivable.licensed, .driving drivable.inserted⟩
  intro current drivable _
  -- The token is drawn for the claim unless the row was inserted with it.
  rcases initialToken with _ | token
  on_goal 1 =>
    refine wp_bind (uuid4_wp (.of_persistent drivable_persistent) drivable ?_)
    intro token current _ drivable isDrawn _
    have drawn : (none : Option String).isSome = false →
        ∃ task, ⟨token, .leaseToken, task⟩ ∈ current.issued := fun _ => ⟨actor.index, isDrawn⟩
  on_goal 2 =>
    refine wp_bind (wp_pure ?_)
    have drawn : (some token).isSome = false →
        ∃ task, ⟨token, .leaseToken, task⟩ ∈ current.issued := by simp
  all_goals
    refine wp_bind (newExecution_wp (drivable_persistent.and drawn_persistent) ⟨drivable, drawn⟩ ?_)
    rintro handle current _ ⟨drivable, drawn⟩ own
    have prepares : Prepares actor handle snapshot snapshot token approval start current :=
      ⟨drivable, own⟩
    refine wp_bind (wp_tryCatch (claim_wp prepares drawn ?_ ?_))
    · intro claimed current prepares held reclaimed
      exact handOver_brings reclaimed state current ⟨prepares, held⟩
    · intro failure current prepares
      cases failure with
      | cancelled | timeout => exact disconnect_wp prepares.cleans fun _ _ _ => trivial
      | domain _ | other => trivial

end

end

end AegisRag.Agent.Durable.Service
