import AegisRag.Agent.RunService.Run

/-!
# The terminal record of a run

What one call of `AgentRunApplicationService.run` does to the row of its run. After a
commit that was not acknowledged, and after the commit of a terminal row, the repository
is asked for nothing more: such an event is the last of the log. Unless the flags of
`_PersistenceState` report one, the log is open.
-/

namespace AegisRag.Agent.RunService

open Semantics Durable Semantics.Task

/-! ## Logs -/

/-- Whether nothing may follow: an unacknowledged commit, or one of a terminal row. -/
def Event.closes : Event → Bool
  | .write _ => false
  | .commit row _ acknowledged _ => !acknowledged || row.any (·.status.isTerminal)

/-- Nothing follows an event that closes. -/
def Orderly (log : List Event) : Prop := log.Pairwise fun earlier _ => earlier.closes = false

/-- Nothing has closed the log. -/
def IsOpen (log : List Event) : Prop := ∀ event ∈ log, event.closes = false

variable {log : List Event} {write : Write} {ok : Unit → Cancellable Locals → World → Prop}

/-- At most one event closes an orderly log. -/
theorem Orderly.closing_length (orderly : Orderly log) : (log.filter Event.closes).length ≤ 1 := by
  have pairs := orderly.filter Event.closes
  match found : log.filter Event.closes with
  | [] => simp
  | [_] => simp
  | first :: second :: rest =>
    rw [found] at pairs
    have isOpen := (List.pairwise_cons.mp pairs).1 second List.mem_cons_self
    have closes : first ∈ log.filter Event.closes := found ▸ List.mem_cons_self
    rw [(List.mem_filter.mp closes).2] at isOpen
    cases isOpen

theorem IsOpen.orderly_append (isOpen : IsOpen log) (event : Event) : Orderly (log ++ [event]) := by
  have all : log.Pairwise fun earlier _ => earlier.closes = false :=
    List.pairwise_iff_forall_sublist.mpr fun sublist =>
      isOpen _ (sublist.subset List.mem_cons_self)
  rw [Orderly, List.pairwise_append]
  exact ⟨all, List.pairwise_singleton _ _, fun earlier isEarlier _ _ => isOpen earlier isEarlier⟩

theorem IsOpen.append (isOpen : IsOpen log) (keepsOpen : event.closes = false) :
    IsOpen (log ++ [event]) := by
  intro found isFound
  rcases List.mem_append.mp isFound with earlier | last
  · exact isOpen found earlier
  · rw [List.mem_singleton.mp last]
    exact keepsOpen

/-- Flags that report neither a terminal nor an uncertain commit are right. -/
def Honest (own : Locals) (log : List Event) : Prop :=
  own.persistence.terminalAcknowledged = false → own.persistence.commitUncertain = false →
    IsOpen log

theorem IsOpen.honest (isOpen : IsOpen log) (own : Locals) : Honest own log :=
  fun _ _ => isOpen

/-- The log holds the acknowledged commit of a terminal row, before its deadline. -/
def IsRecorded (row : AgentRunRow) (log : List Event) : Prop :=
  row.status.isTerminal = true ∧ .commit (some row) true true true ∈ log

/-! ## Rules -/

variable {setting : Setting} {α β : Type} {act : Act α}

/-- The only obligation at a call: the log stays orderly. -/
def discipline (setting : Setting) : Discipline (machine setting) :=
  .alone (machine setting) (fun world => Orderly world.log) List.Pairwise.nil

/-- The call. -/
def caller (setting : Setting) : Actor (machine setting) := ⟨0, ()⟩

/-- An act that starts with `pre` ends with `ok` or raises with `fail`, about the variables
of the call and the log. -/
def Spec (setting : Setting) (pre : Locals → List Event → Prop) (act : Act α)
    (ok : α → Locals → List Event → Prop) (fail : Raised → Locals → List Event → Prop) : Prop :=
  ∀ (state : Cancellable Locals) (world : World), pre state.own world.log →
    Task.wp (discipline setting) (caller setting) act
      (fun value next after => ok value next.own after.log)
      (fun failure next after => fail failure next.own after.log) state world

/-- An act that touches neither the variables nor the log. -/
def Quiet (setting : Setting) (act : Act α) : Prop :=
  ∀ property : Locals → List Event → Prop,
    Spec setting property act (fun _ => property) (fun _ => property)

variable {pre : Locals → List Event → Prop}

theorem Spec.bind {ok : β → Locals → List Event → Prop} (first : Spec setting pre act between fail)
    (rest : ∀ value, Spec setting (between value) (after value) ok fail) :
    Spec setting pre (act >>= after) ok fail := by
  intro state world holds
  exact wp_seq (first state world holds) fun value next current established =>
    rest value next current established

/-- A quiet act keeps what it starts with, where that allows it to raise. -/
theorem Quiet.keeps (quiet : Quiet setting act)
    (raises : ∀ failure own log, pre own log → fail failure own log) :
    Spec setting pre act (fun _ => pre) fail := by
  intro state world holds
  exact wp_mono (quiet pre state world holds) (fun _ _ _ kept => kept)
    fun failure _ _ kept => raises failure _ _ kept

theorem Quiet.bind (first : Quiet setting act) (rest : ∀ value, Quiet setting (after value)) :
    Quiet setting (act >>= after) :=
  fun property => (first property).bind fun value => rest value property

theorem quiet_pure (value : α) : Quiet setting (pure value : Act α) :=
  fun _ _ _ holds => wp_pure holds

theorem quiet_throw (failure : Raised) : Quiet setting (throw failure : Act α) :=
  fun _ _ _ holds => wp_throw holds

theorem quiet_cancelling : Quiet setting cancelling :=
  fun _ _ _ holds => wp_bind (wp_get (wp_pure holds))

theorem Quiet.attempt (quiet : Quiet setting act) : Quiet setting (attempt act) :=
  fun property state world holds => wp_attempt (quiet property state world holds)

theorem Quiet.withTimeout (quiet : Quiet setting act) : Quiet setting (withTimeout act) := by
  intro property state world holds
  apply wp_withTimeout
  exact wp_mono (quiet property state.entered world holds) (fun _ _ _ kept => kept)
    (fun _ _ _ kept => ⟨kept, kept⟩)

/-- The operations that are no request to the repository to write or to commit. -/
def Op.isSilent : Op → Bool
  | .write _ | .commit _ => false
  | _ => true

theorem quiet_perform (op : Op) (silent : op.isSilent = true) : Quiet setting (perform op) := by
  intro property state world holds
  apply wp_aloneCall rfl
  intro orderly answer reply after executed
  have same : after.log = world.log := by
    cases op <;> cases silent <;> cases answer <;> cases executed <;> rfl
  rw [same]
  exact ⟨orderly, holds⟩

theorem quiet_sleep : Quiet setting sleep := by
  apply (quiet_perform .sleep rfl).bind
  intro interruption property state world holds
  exact wp_settleYield holds holds

theorem Quiet.await (quiet : Quiet setting reply) : Quiet setting (await reply) := by
  apply quiet.bind
  intro ended property state world holds
  exact wp_settle (fun _ _ => holds) (fun _ _ => holds)

/-- Raise a cancellation if it was requested, and go on otherwise. -/
theorem Quiet.unlessCancelled (cancellations : ℕ) (quiet : Quiet setting act) :
    Quiet setting (do
      let current ← cancelling
      if cancellations < current then throw .cancelled else act) := by
  apply quiet_cancelling.bind
  intro current
  split
  · exact quiet_throw _
  · exact quiet

theorem quiet_recordAudit : Quiet setting recordAudit := by
  apply quiet_sleep.bind
  intro _
  apply quiet_cancelling.bind
  intro cancellations
  apply (quiet_perform .audit rfl).await.attempt.bind
  intro attempted
  split
  · exact (quiet_pure ()).unlessCancelled cancellations
  · exact quiet_pure ()

theorem quiet_safeRollback : Quiet setting safeRollback := by
  apply quiet_sleep.bind
  intro _
  apply quiet_cancelling.bind
  intro cancellations
  apply (quiet_perform .rollback rfl).await.withTimeout.attempt.bind
  intro attempted
  split
  · exact (quiet_pure _).unlessCancelled cancellations
  · exact (quiet_pure _).unlessCancelled cancellations
  · exact quiet_pure _

/-! ## A phase -/

/-- Whether a write ends the run. -/
def Write.isUpdate : Write → Bool
  | .create _ => false
  | .update _ _ _ _ => true

theorem update_working {session next : RunSession} {change : AgentRunUpdate}
    (updated : session.update tenantId userId runId change = some next) :
    ∃ row : AgentRunRow, next.working = some (row.updated change) := by
  unfold RunSession.update at updated
  split at updated
  · cases updated
  · rename_i row _
    split at updated
    · cases updated
      exact ⟨row, rfl⟩
    · cases updated

theorem apply_spec {runId : String} {row : AgentRunRow}
    (applied : write.apply runId session = some (row, next)) :
    next.working = some row ∧ row.status.isTerminal = write.isUpdate := by
  cases write with
  | create record =>
    cases applied
    exact ⟨rfl, rfl⟩
  | update tenantId userId runId change =>
    cases updated : session.update tenantId userId runId change with
    | none =>
      simp only [Write.apply, updated] at applied
      cases applied
    | some after =>
      obtain ⟨_, isWorking⟩ := update_working updated
      simp only [Write.apply, updated, isWorking] at applied
      cases applied
      exact ⟨isWorking, rfl⟩

theorem step_write (executed : step (.write write) answer world = some (reply, after)) :
    after.log = world.log ++ [.write write] ∧
      ∀ row, reply.2 = .ok row → after.session.working = some row ∧
        row.status.isTerminal = write.isUpdate := by
  cases answer with
  | write interruption runId ending =>
    cases executed
    cases applied : write.apply runId world.session with
    | none =>
      refine ⟨rfl, fun row isRow => ?_⟩
      cases isRow
    | some made =>
      obtain ⟨row, _⟩ := made
      refine ⟨rfl, fun found isRow => ?_⟩
      cases ending with
      | returned =>
        cases isRow
        exact apply_spec applied
      | raised failure applied => cases isRow
  | _ => cases executed

theorem step_commit (executed : step (.commit expired) answer world = some (reply, after)) :
    (reply.2 = .ok () ∧ after.log = world.log ++
      [.commit world.session.working true true (!expired && !reply.1.expires.headD false)]) ∨
    ((∃ failure, reply.2 = .error failure) ∧ ∃ effective, after.log = world.log ++
      [.commit world.session.working effective false
        (!expired && !reply.1.expires.headD false)]) := by
  cases answer with
  | call interruption ending =>
    cases ending with
    | returned =>
      cases executed
      exact Or.inl ⟨rfl, rfl⟩
    | raised failure applied =>
      cases executed
      exact Or.inr ⟨⟨failure, rfl⟩, _, rfl⟩
  | _ => cases executed

/-- A phase has come to its end: the log stays open after the first, and after the last it
holds the row, which the flags report. -/
def IsPersisted (terminal : Bool) (row : AgentRunRow) (own : Locals) (log : List Event) : Prop :=
  if terminal then own.persistence.terminalAcknowledged = true ∧ IsRecorded row log
  else IsOpen log

theorem wp_checkDeadline (returns : state.expiredAt 0 = false → ok () state world)
    (raises : ∀ failure, raised failure state world) :
    Task.wp (discipline setting) (caller setting) (checkDeadline cancellations enclosing) ok raised
      state world := by
  unfold checkDeadline
  apply wp_bind (wp_get _)
  dsimp only
  split
  · exact wp_throw (raises _)
  · split
    · exact wp_throw (raises _)
    · rename_i notExpired
      apply wp_pure
      apply returns
      cases expired : state.expiredAt 0 with
      | false => rfl
      | true =>
        rw [expired] at notExpired
        exact absurd notExpired (by simp)

theorem timers_interrupted {state : Cancellable Locals} (isInside : state.timers ≠ []) :
    (state.interrupted interruption).timers ≠ [] := by
  cases timers : state.timers with
  | nil => exact absurd timers isInside
  | cons timer rest => simp [Cancellable.interrupted, timers, Cancellable.expire]

/-- A timeout that has not expired by the end of a wait did not expire in it. -/
theorem expiredAt_interrupted {state : Cancellable Locals} (isInside : state.timers ≠ [])
    (notExpired : (state.interrupted interruption).expiredAt 0 = false) :
    state.expiredAt 0 = false ∧ interruption.expires.headD false = false := by
  cases timers : state.timers with
  | nil => exact absurd timers isInside
  | cons timer rest =>
    simp only [Cancellable.expiredAt, Cancellable.interrupted, timers, Cancellable.expire] at *
    simpa using notExpired

section

theorem wp_write {ok : AgentRunRow → Cancellable Locals → World → Prop} (isOpen : IsOpen world.log)
    (returns : ∀ interruption row after, after.log = world.log ++ [.write write] →
      after.session.working = some row → row.status.isTerminal = write.isUpdate →
        ok row (state.interrupted interruption) after)
    (raises : ∀ interruption failure after, after.log = world.log ++ [.write write] →
      raised failure (state.interrupted interruption) after) :
    Task.wp (discipline setting) (caller setting) (await (perform (.write write))) ok raised state
      world := by
  apply wp_bind
  apply wp_aloneCall rfl
  intro _ answer reply after executed
  obtain ⟨interruption, _⟩ := reply
  obtain ⟨isLog, isRow⟩ := step_write executed
  constructor
  · rw [isLog]
    exact isOpen.orderly_append _
  · apply wp_settle
    · intro row isResult
      obtain ⟨working, status⟩ := isRow row isResult
      exact returns interruption row after isLog working status
    · intro failure _
      exact raises interruption failure after isLog

theorem wp_commit (isOpen : IsOpen world.log)
    (returns : ∀ interruption after, after.log = world.log ++ [.commit world.session.working true
      true (!expired && !interruption.expires.headD false)] →
        ok () (state.interrupted interruption) after)
    (raises : ∀ interruption failure after, raised failure (state.interrupted interruption) after) :
    Task.wp (discipline setting) (caller setting) (await (perform (.commit expired))) ok raised
      state world := by
  apply wp_bind
  apply wp_aloneCall rfl
  intro _ answer reply after executed
  obtain ⟨interruption, _⟩ := reply
  rcases step_commit executed with ⟨isOk, isLog⟩ | ⟨⟨failure, isError⟩, _, isLog⟩
  · constructor
    · rw [isLog]
      exact isOpen.orderly_append _
    · cases isOk
      exact wp_settle (fun _ _ => returns interruption after isLog)
        (fun failure _ => raises interruption failure after)
  · constructor
    · rw [isLog]
      exact isOpen.orderly_append _
    · cases isError
      apply wp_settle
      · intro value isOk
        cases isOk
      · exact fun failure _ => raises interruption failure after

theorem wp_assign (holds : ok () { state with
      own := { state.own with persistence := update state.own.persistence } } world) :
    Task.wp (discipline setting) (caller setting) (assign update) ok raised state world :=
  wp_modify holds

end

/-- The body of a phase, from an open log. -/
theorem wp_writeAndCommit (isInside : state.timers ≠ []) (isOpen : IsOpen world.log)
    (isUpdate : write.isUpdate = terminal)
    (notAcknowledged : state.own.persistence.commitAcknowledged = false) :
    Task.wp (discipline setting) (caller setting)
      (writeAndCommit terminal enclosing cancellations write)
      (fun row next after => IsPersisted terminal row next.own after.log)
      (fun _ next after => Honest next.own after.log) state world := by
  unfold writeAndCommit
  apply wp_bind
  apply wp_checkDeadline _ fun _ => isOpen.honest _
  intro _
  apply wp_bind
  refine wp_write isOpen ?_ ?_
  · intro writing row written isLog isWorking isStatus
    have isOpen : IsOpen written.log := by
      rw [isLog]
      exact isOpen.append rfl
    apply wp_bind
    apply wp_assign
    apply wp_bind
    apply wp_checkDeadline _ fun _ => isOpen.honest _
    intro _
    apply wp_bind
    apply wp_assign
    apply wp_bind (wp_get _)
    apply wp_bind
    refine wp_commit isOpen ?_ ?_
    · intro interruption committed isLog
      apply wp_bind
      apply wp_assign
      cases terminal with
      | false =>
        have isOpen : IsOpen committed.log := by
          rw [isLog]
          apply isOpen.append
          rw [isWorking]
          simp [Event.closes, isStatus, isUpdate]
        apply wp_bind
        apply wp_assign
        apply wp_bind
        apply wp_checkDeadline _ fun _ => isOpen.honest _
        intro _
        exact wp_pure isOpen
      | true =>
        apply wp_bind
        apply wp_assign
        apply wp_bind
        apply wp_checkDeadline
        · intro notExpired
          apply wp_bind
          apply wp_assign
          apply wp_pure
          refine ⟨rfl, isStatus.trans isUpdate, ?_⟩
          obtain ⟨notBefore, notMeanwhile⟩ :=
            expiredAt_interrupted (timers_interrupted isInside) notExpired
          have inTime : (!(state.interrupted writing).expiredAt 0 &&
              !interruption.expires.headD false) = true := by
            rw [notBefore, notMeanwhile]
            rfl
          rw [isLog, isWorking]
          exact List.mem_append_right _ (List.mem_singleton.mpr (congrArg _ inTime.symm))
        · intro failure notTerminal
          cases notTerminal
    · intro interruption failure after _ isCertain
      -- The commit has started and was not acknowledged.
      simp [PersistenceState.commitUncertain, notAcknowledged] at isCertain
  · intro interruption failure after isLog
    apply IsOpen.honest
    rw [isLog]
    exact isOpen.append rfl

/-- The body of a phase inside its timeout. -/
theorem spec_attempt (isUpdate : write.isUpdate = terminal) :
    Spec setting (fun own log => IsOpen log ∧ own.persistence.commitAcknowledged = false)
      (attempt (withTimeout (writeAndCommit terminal enclosing cancellations write)))
      (fun attempted own log => match attempted with
        | .ok (row, _) => IsPersisted terminal row own log
        | .error _ => Honest own log)
      (fun _ => Honest) := by
  rintro state world ⟨isOpen, notAcknowledged⟩
  apply wp_attempt
  apply wp_withTimeout
  have inside : state.entered.timers ≠ [] := by simp [Cancellable.entered]
  exact wp_mono (wp_writeAndCommit inside isOpen isUpdate notAcknowledged)
    (fun _ _ _ persisted => persisted) (fun _ _ _ honest => ⟨honest, honest⟩)

/-- `_persist_phase`, from an open log. -/
theorem spec_persistPhase (terminal enclosing : Bool) (write : Write)
    (isUpdate : write.isUpdate = terminal) :
    Spec setting (fun _ => IsOpen) (persistPhase terminal enclosing write)
      (IsPersisted terminal) (fun _ => Honest) := by
  have opens : ∀ (_ : Raised) (own : Locals) (log : List Event),
      IsOpen log ∧ own.persistence.commitAcknowledged = false → Honest own log :=
    fun _ own _ holds => holds.1.honest own
  have resets : Spec setting (fun _ => IsOpen)
      (assign fun state => { state with commitStarted := false, commitAcknowledged := false })
      (fun _ own log => IsOpen log ∧ own.persistence.commitAcknowledged = false)
      (fun _ => Honest) :=
    fun _ _ isOpen => wp_assign ⟨isOpen, rfl⟩
  apply Spec.bind resets
  intro _
  apply Spec.bind (quiet_sleep.keeps opens)
  intro _
  apply Spec.bind (quiet_cancelling.keeps opens)
  intro cancellations
  apply Spec.bind (spec_attempt isUpdate)
  intro attempted
  have raises : ∀ failure : Raised, Spec setting Honest
      (throw failure : Act AgentRunRow) (IsPersisted terminal) (fun _ => Honest) :=
    fun failure _ _ honest => wp_throw honest
  match attempted with
  | .ok (row, _) => exact fun _ _ persisted => wp_pure persisted
  | .error .cancelled =>
    have either : ∀ current, Spec setting Honest
        (if cancellations < current then throw .cancelled else throw .storageFailed)
        (IsPersisted terminal) (fun _ => Honest) := by
      intro current
      split
      · exact raises _
      · exact raises _
    exact Spec.bind (quiet_cancelling.keeps fun _ _ _ honest => honest) either
  | .error (.agentTool _) | .error (.agentRun _) | .error (.domain _) | .error .timeout
  | .error .other => exact raises _

/-! ## The call -/

/-- Nothing more is known of an act that ends in any way. -/
abbrev Ends (setting : Setting) (pre : Locals → List Event → Prop) (act : Act α) : Prop :=
  Spec setting pre act (fun _ _ _ => True) (fun _ _ _ => True)

theorem Spec.ends {ok : α → Locals → List Event → Prop} (spec : Spec setting pre act ok fail) :
    Ends setting pre act :=
  fun state world holds => wp_mono (spec state world holds) (fun _ _ _ _ => trivial)
    fun _ _ _ _ => trivial

theorem Quiet.ends (quiet : Quiet setting act) (pre : Locals → List Event → Prop) :
    Ends setting pre act :=
  (quiet pre).ends

theorem Ends.attempt (ends : Ends setting pre act) : Ends setting pre (attempt act) :=
  fun state world holds => wp_attempt (ends state world holds)

theorem Ends.withTimeout (ends : Ends setting pre act) : Ends setting pre (withTimeout act) := by
  intro state world holds
  apply wp_withTimeout
  exact wp_mono (ends state.entered world holds) (fun _ _ _ _ => trivial)
    fun _ _ _ _ => ⟨trivial, trivial⟩

theorem Ends.owned (child : Ends setting pre act) : Ends setting pre (owned act) := by
  intro state world holds
  apply wp_bind (wp_get _)
  apply wp_bind (wp_set _)
  apply wp_seq (child.attempt (.fresh state.own) world holds)
  intro ended next current ends
  apply wp_bind (wp_get _)
  apply wp_seq ((quiet_perform .awaitCleanup rfl).ends (fun _ _ => True) next current ends)
  intro cancels last after _
  exact wp_bind (wp_set (wp_pure trivial))

theorem ends_recordCancellation (runId : String) :
    Ends setting (fun _ => IsOpen) (recordCancellation setting runId) := by
  apply Spec.bind (quiet_safeRollback.keeps fun _ _ _ _ => trivial)
  intro isRolledBack state world isOpen
  apply wp_bind (wp_get _)
  split
  · exact wp_throw trivial
  · have persists : Ends setting (fun _ => IsOpen)
        (persistPhase true true (updateOf setting runId (cancelledUpdate setting))) :=
      (spec_persistPhase true true _ rfl).ends
    exact Spec.bind persists (fun _ => quiet_recordAudit.ends _) state world isOpen

/-- The cleanup of a cancelled run writes to an open log only. -/
theorem ends_finishCancellation (runId : String) :
    Ends setting (fun _ => IsOpen) (finishCancellation setting runId) := by
  apply Spec.bind (ends_recordCancellation runId).withTimeout.owned
  intro _ state world _
  exact wp_bind (wp_get (wp_pure trivial))

/-- A recorded run is audited, and the flags stay honest. -/
theorem spec_recordAudit (row : AgentRunRow) :
    Spec setting (IsPersisted true row) recordAudit (fun _ => IsPersisted true row)
      (fun _ => Honest) := by
  apply quiet_recordAudit.keeps
  intro _ own log persisted notTerminal
  rw [persisted.1] at notTerminal
  cases notTerminal

theorem spec_markFailed (runId : String) :
    Spec setting (fun _ => IsOpen) (markFailedAfterRuntimeException setting runId)
      (fun _ => Honest) (fun _ => Honest) := by
  apply Spec.bind (spec_persistPhase true false _ rfl)
  intro row state world persisted
  apply wp_mono (spec_recordAudit row state world persisted)
  · intro _ next after persisted notTerminal
    rw [persisted.1] at notTerminal
    cases notTerminal
  · exact fun _ _ _ honest => honest

theorem spec_runOnce : Spec setting (fun _ => IsOpen) (runOnce setting)
    (fun response _ log => IsRecorded response.record log) (fun _ => Honest) := by
  have honest : ∀ (_ : Raised) (own : Locals) (log : List Event), IsOpen log → Honest own log :=
    fun _ own _ isOpen => isOpen.honest own
  apply Spec.bind (quiet_sleep.keeps honest)
  intro _
  apply Spec.bind (quiet_cancelling.keeps honest)
  intro cancellations
  have notes : Spec setting (fun _ => IsOpen) (modify fun state : Cancellable Locals =>
        { state with own := { state.own with callerCancellations := cancellations } })
      (fun _ _ log => IsOpen log) (fun _ => Honest) :=
    fun _ _ isOpen => wp_modify isOpen
  apply Spec.bind notes
  intro _
  apply Spec.bind (spec_persistPhase false false _ rfl)
  intro created
  apply Spec.bind (quiet_recordAudit.keeps honest)
  intro _
  apply Spec.bind ((quiet_perform .runtime rfl).await.attempt.keeps honest)
  intro attempted
  have fails : Spec setting (fun _ => IsOpen) (do
      markFailedAfterRuntimeException setting created.id
      throw (.agentRun "AGENT_RUN_FAILED") : Act AgentRunResponse)
      (fun response _ log => IsRecorded response.record log) (fun _ => Honest) :=
    (spec_markFailed created.id).bind fun _ _ _ isHonest => wp_throw isHonest
  match attempted with
  | .error .cancelled => exact fun _ _ isOpen => wp_throw (isOpen.honest _)
  | .error (.agentTool _) | .error (.agentRun _) | .error (.domain _) | .error .timeout
  | .error .other => exact fails
  | .ok result =>
    apply Spec.bind (spec_persistPhase true false _ rfl)
    intro row
    apply Spec.bind (spec_recordAudit row)
    exact fun _ _ _ persisted => wp_pure persisted.2

/-- An act that never returns. -/
abbrev Raises (setting : Setting) (pre : Locals → List Event → Prop) (act : Act α) : Prop :=
  Spec setting pre act (fun _ _ _ => False) (fun _ _ _ => True)

theorem raises_throw (failure : Raised) : Raises setting pre (throw failure : Act α) :=
  fun _ _ _ => wp_throw trivial

/-- A cancellation is handled without a second terminal record. -/
theorem raises_handleCancellation : Raises setting Honest (handleCancellation setting) := by
  intro state world honest
  apply wp_bind (wp_get _)
  dsimp only
  split
  · exact wp_throw trivial
  · rename_i notTerminal
    have cleans : Task.wp (discipline setting) (caller setting)
        (cleanUp setting state.own.persistence) (fun _ _ _ => True) (fun _ _ _ => True) state
        world := by
      unfold cleanUp
      split
      · rename_i runId _ isCertain
        apply ends_finishCancellation runId state world
        apply honest (Bool.eq_false_iff.mpr notTerminal)
        simp only [Bool.and_eq_true, Bool.not_eq_true'] at isCertain
        exact isCertain.2
      · apply wp_seq ((quiet_safeRollback.ends fun _ _ => True).owned state world trivial)
        exact fun _ _ _ _ => wp_pure trivial
    apply wp_seq cleans
    intro isPersisted next current _
    apply wp_bind (wp_get _)
    split <;> exact wp_throw trivial

/-- The handlers never return a response. -/
theorem raises_handle (failure : Raised) : Raises setting Honest (handle setting failure) := by
  have rollsBack : ∀ raised : Raised, Raises setting Honest (do
      let _ ← safeRollback
      throw raised : Act AgentRunResponse) :=
    fun raised => (quiet_safeRollback.ends _).bind fun _ => raises_throw raised
  cases failure with
  | cancelled => exact raises_handleCancellation
  | timeout | other => exact rollsBack _
  | agentTool code | agentRun code | domain code => exact rollsBack _

theorem spec_run (setting : Setting) : Spec setting (fun _ => IsOpen) (run setting)
    (fun response _ log => IsRecorded response.record log) (fun _ _ _ => True) := by
  unfold run
  split
  · exact (quiet_recordAudit.ends _).bind fun _ _ _ _ => wp_throw trivial
  · intro state world isOpen
    apply wp_tryCatch
    apply wp_mono (spec_runOnce state world isOpen)
    · exact fun _ _ _ recorded => recorded
    · intro failure next current honest
      exact wp_mono (raises_handle failure next current honest)
        (fun _ _ _ impossible => impossible.elim) fun _ _ _ _ => trivial

/-! ## Every run of a call -/

def Event.isWrite : Event → Bool
  | .write _ => true
  | .commit _ _ _ _ => false

/-- A commit, acknowledged or not, that stored a terminal row. -/
def Event.commitsTerminal : Event → Bool
  | .write _ => false
  | .commit row effective _ _ => effective && row.any (·.status.isTerminal)

/-- A commit that was started and not acknowledged. -/
def Event.isUncertain : Event → Bool
  | .write _ => false
  | .commit _ _ acknowledged _ => !acknowledged

/-- An acknowledged commit of a terminal row. -/
def Event.acknowledgesTerminal : Event → Bool
  | .write _ => false
  | .commit row _ acknowledged _ => acknowledged && row.any (·.status.isTerminal)

theorem Event.closes_of_commitsTerminal {event : Event} (commits : event.commitsTerminal = true) :
    event.closes = true := by
  cases event with
  | write write => cases commits
  | commit row effective acknowledged inTime =>
    simp only [Event.commitsTerminal, Bool.and_eq_true] at commits
    simp [Event.closes, commits.2]

theorem Event.closes_iff (event : Event) :
    event.closes = true ↔ event.isUncertain = true ∨ event.acknowledgesTerminal = true := by
  cases event with
  | write write => simp [Event.closes, Event.isUncertain, Event.acknowledgesTerminal]
  | commit row effective acknowledged inTime =>
    cases acknowledged <;>
      simp [Event.closes, Event.isUncertain, Event.acknowledgesTerminal]

/-- A call commits at most one terminal row, writes nothing after it or after a commit that
was not acknowledged, and returns a response only for a terminal row whose commit was
acknowledged before its deadline. -/
theorem run_records_its_end_once (setting : Setting) (requests : ℕ) (timers : List Timer)
    (answers : List Answer) (rest : Program signature _) (after : World)
    (performed : (run setting ⟨requests, timers, .initial⟩).perform (machine setting) answers
      ⟨.empty, []⟩ = some (rest, after)) :
    (after.log.filter Event.commitsTerminal).length ≤ 1 ∧
    (after.log.Pairwise fun earlier later =>
      earlier.isUncertain = true → later.isWrite = false) ∧
    (after.log.Pairwise fun earlier later =>
      earlier.acknowledgesTerminal = true → later.isWrite = false) ∧
    ∀ response state, rest = .done (.ok response, state) →
      response.record.status.isTerminal = true ∧
        .commit (some response.record) true true true ∈ after.log := by
  have isOpen : IsOpen [] := fun _ isMember => by cases isMember
  have verified := spec_run setting ⟨requests, timers, .initial⟩ ⟨.empty, []⟩ isOpen
  obtain ⟨orderly, remaining⟩ :=
    Discipline.perform_alone (by rfl) List.Pairwise.nil verified performed
  have orderly : Orderly after.log := orderly
  refine ⟨?_, ?_, ?_, ?_⟩
  · have fewer : (after.log.filter Event.commitsTerminal).length ≤
        (after.log.filter Event.closes).length :=
      (List.monotone_filter_right _ fun _ => Event.closes_of_commitsTerminal).length_le
    exact fewer.trans orderly.closing_length
  · apply orderly.imp
    intro earlier later notClosed uncertain
    rw [earlier.closes_iff.mpr (Or.inl uncertain)] at notClosed
    cases notClosed
  · apply orderly.imp
    intro earlier later notClosed acknowledged
    rw [earlier.closes_iff.mpr (Or.inr acknowledged)] at notClosed
    cases notClosed
  · rintro response state rfl
    exact remaining

/-- A call by a user who may run agents. -/
def exampleSetting : Setting where
  context := ⟨"request", "trace", ⟨"tenant", "user", ["agent:run"]⟩⟩
  config := ⟨4, 4, 30, 2, "question"⟩
  failedLatencyMs := 1
  cancelledLatencyMs := 1

def exampleResult : AgentRunResult where
  status := .completed
  terminationReason := .finalAnswer
  stepsUsed := 1
  toolCallsUsed := 0
  finalAnswer := some "answer"
  finalCitations := []
  errorCode := none
  observations := []
  latencyMs := 1

def uninterrupted : Interruption := ⟨0, []⟩

/-- The caller is cancelled while the result of its run is written, and the driver returns
all the same: the cleanup rolls back and records the cancellation. -/
def cancelledAnswers : List Answer :=
  [.sleep uninterrupted, .sleep uninterrupted, .write uninterrupted "run" .returned,
    .call uninterrupted .returned, .sleep uninterrupted, .audit uninterrupted (.ok ()),
    .runtime uninterrupted (.ok exampleResult), .sleep uninterrupted,
    .write ⟨1, []⟩ "run" .returned, .sleep uninterrupted, .call uninterrupted .returned,
    .sleep uninterrupted, .write uninterrupted "run" .returned, .call uninterrupted .returned,
    .sleep uninterrupted, .audit uninterrupted (.ok ()), .cleanup 2]

theorem run_records_its_end_once_cancelled :
    ∃ rest after, (run exampleSetting ⟨0, [], .initial⟩).perform (machine exampleSetting)
        cancelledAnswers ⟨.empty, []⟩ = some (rest, after) ∧
      after.log.length = 5 ∧ (after.log.filter Event.commitsTerminal).length ≤ 1 := by
  refine ⟨_, _, rfl, rfl, ?_⟩
  exact (run_records_its_end_once exampleSetting 0 [] cancelledAnswers _ _ rfl).1

end AegisRag.Agent.RunService
