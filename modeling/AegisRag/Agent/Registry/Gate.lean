import AegisRag.Agent.Registry.Execute

/-!
# The gate in front of a handler

What holds whenever a handler is started, over every interleaving of calls and
revocations. `Justified` lists the conditions in terms of the log so far. A call
collects them one by one; the last check and the start are one operation.
-/

namespace AegisRag.Agent.Registry

open Semantics Durable

variable (setting : Setting)

/-- A grant made out for a request: for its run, caller, tool and arguments. -/
structure IsBound (grant : Grant) (request : Request) (arguments : Members) : Prop where
  run : request.agentRunId = some grant.runId
  tenant : request.context.auth.tenantId = grant.tenantId
  user : request.context.auth.userId = grant.userId
  tool : request.name = grant.toolName
  arguments : setting.argumentDigest arguments = some grant.argumentsDigest

/-- The conditions for starting a handler, after what the log holds. -/
structure Justified (log : List Event) (call : ℕ) (request : Request) (reading : Seconds)
    (tool : Tool) (arguments : Members) : Prop where
  registered : setting.registry.definitions request.name = some tool
  isMapping : request.arguments = some arguments
  accepted : tool.accepts arguments = true
  permitted : request.context.auth.hasToolPermission tool.permission = true
  allowed : .allowed call ∈ log
  notRevoked : ∀ state, request.dispatchState = some state → .revoked state ∉ log
  approved : tool.requiresApproval = true → ∃ grant, request.approvalGrant = some grant ∧
    .consumed call grant ∈ log ∧ IsBound setting (setting.grants grant) request arguments ∧
    reading < (setting.grants grant).expiresAt
  first : ∀ other earlier, .started call other earlier ∉ log

/-- A start of a tool that requires approval, with a grant. -/
def isApprovedStart (grant : ℕ) : Event → Bool
  | .started _ request _ =>
    request.approvalGrant = some grant &&
      (setting.registry.definitions request.name).any (·.requiresApproval)
  | _ => false

def Event.call : Event → Option ℕ
  | .entered call _ => some call
  | .consumed call _ => some call
  | .allowed call => some call
  | .revoked _ => none
  | .started call _ _ => some call

/-- The world of every schedule. -/
structure Valid (world : World) : Prop where
  numbered : ∀ event ∈ world.log, ∀ call, event.call = some call → call < world.calls
  enteredOnce : ∀ call task other, .entered call task ∈ world.log →
    .entered call other ∈ world.log → task = other
  consumedFlag : ∀ call grant, .consumed call grant ∈ world.log → world.consumed grant = true
  consumedOnce : ∀ call other grant, .consumed call grant ∈ world.log →
    .consumed other grant ∈ world.log → call = other
  revokedFlag : ∀ state, .revoked state ∈ world.log → (world.dispatchStates state).revoked = true
  justified : ∀ before call request reading after,
    world.log = before ++ .started call request reading :: after →
      ∃ tool arguments, Justified setting before call request reading tool arguments
  approvedOnce : ∀ grant, world.log.countP (isApprovedStart setting grant) ≤ 1

/-- What a task may add to the log: entries of a new call or of one it has entered. -/
def Permits (task : ℕ) (world : World) : Event → Prop
  | .entered call entering => call = world.calls ∧ entering = task
  | .consumed call grant => .entered call task ∈ world.log ∧ world.consumed grant = false
  | .allowed call => .entered call task ∈ world.log
  | .revoked _ => True
  | .started call request reading => .entered call task ∈ world.log ∧
    ∃ tool arguments, Justified setting world.log call request reading tool arguments

/-- One operation of a task: at most one entry, and no flag is taken back. -/
structure Guarantee (task : ℕ) (world next : World) : Prop where
  log : next.log = world.log ∨
    ∃ event, next.log = world.log ++ [event] ∧ Permits setting task world event
  callsKept : world.calls ≤ next.calls
  callsNoted : ∀ call entering, next.log = world.log ++ [.entered call entering] →
    call < next.calls
  consumedKept : ∀ grant, world.consumed grant = true → next.consumed grant = true
  consumedNoted : ∀ call grant, next.log = world.log ++ [.consumed call grant] →
    next.consumed grant = true
  revokedKept : ∀ state, (world.dispatchStates state).revoked = true →
    (next.dispatchStates state).revoked = true
  revokedNoted : ∀ state, next.log = world.log ++ [.revoked state] →
    (next.dispatchStates state).revoked = true

variable {setting} {task : ℕ} {world next : World}

/-! ## The invariant -/

theorem Guarantee.mem (guarantee : Guarantee setting task world next) (isIn : event ∈ world.log) :
    event ∈ next.log := by
  rcases guarantee.log with same | ⟨_, grown, -⟩
  · rw [same]
    exact isIn
  · rw [grown]
    exact List.mem_append_left _ isIn

/-- An entry of the next log is an old one or the one this step adds. -/
theorem Guarantee.mem_cases (guarantee : Guarantee setting task world next)
    (isIn : event ∈ next.log) :
    event ∈ world.log ∨
      (next.log = world.log ++ [event] ∧ Permits setting task world event) := by
  rcases guarantee.log with same | ⟨_, grown, permitted⟩
  · rw [same] at isIn
    exact .inl isIn
  · rw [grown] at isIn
    rcases List.mem_append.mp isIn with isOld | isNew
    · exact .inl isOld
    · obtain rfl := List.mem_singleton.mp isNew
      exact .inr ⟨grown, permitted⟩

/-- A start that uses a grant for the first time: whoever used it before consumed it, and
only one task did. -/
theorem Valid.countP_eq_zero (valid : Valid setting world)
    (justified : Justified setting world.log call request reading tool arguments)
    (isApproved : isApprovedStart setting grant (.started call request reading) = true) :
    world.log.countP (isApprovedStart setting grant) = 0 := by
  rw [List.countP_eq_zero]
  intro event isIn isEarlier
  cases event with
  | started earlierCall earlierRequest earlierReading =>
    obtain ⟨_, _, isSplit⟩ := List.append_of_mem isIn
    obtain ⟨_, _, earlier⟩ := valid.justified _ _ _ _ _ isSplit
    simp only [isApprovedStart, Bool.and_eq_true, decide_eq_true_eq, justified.registered,
      Option.any_some] at isApproved
    simp only [isApprovedStart, Bool.and_eq_true, decide_eq_true_eq, earlier.registered,
      Option.any_some] at isEarlier
    obtain ⟨_, isUsed, consumed, -⟩ := justified.approved isApproved.2
    obtain ⟨_, isEarlierUsed, earlierConsumed, -⟩ := earlier.approved isEarlier.2
    cases isUsed.symm.trans isApproved.1
    cases isEarlierUsed.symm.trans isEarlier.1
    have sameCall : earlierCall = call := by
      apply valid.consumedOnce _ _ _ _ consumed
      rw [isSplit]
      exact List.mem_append_left _ earlierConsumed
    subst sameCall
    exact justified.first _ _ isIn
  | entered | consumed | allowed | revoked => contradiction

/-- A new entry is of a call that has a number. -/
theorem Guarantee.call_lt (valid : Valid setting world)
    (guarantee : Guarantee setting task world next) (isCall : event.call = some call)
    (grown : next.log = world.log ++ [event]) (permitted : Permits setting task world event) :
    call < next.calls := by
  have entered : ∀ call, .entered call task ∈ world.log → call < next.calls := fun call isIn =>
    lt_of_lt_of_le (valid.numbered _ isIn call rfl) guarantee.callsKept
  cases event with
  | entered other entering =>
    cases isCall
    exact guarantee.callsNoted _ _ grown
  | consumed | started =>
    cases isCall
    exact entered _ permitted.1
  | allowed other =>
    cases isCall
    exact entered _ permitted
  | revoked state => contradiction

/-- A call with a number is not entered again. -/
theorem Valid.not_entered (valid : Valid setting world)
    (isIn : .entered call entering ∈ world.log) :
    call ≠ world.calls :=
  (valid.numbered _ isIn call rfl).ne

theorem Valid.preserved (valid : Valid setting world)
    (guarantee : Guarantee setting task world next) : Valid setting next := by
  constructor
  · intro event isIn call isCall
    rcases guarantee.mem_cases isIn with isOld | ⟨grown, permitted⟩
    · exact lt_of_lt_of_le (valid.numbered event isOld call isCall) guarantee.callsKept
    · exact guarantee.call_lt valid isCall grown permitted
  · intro call first second isFirst isSecond
    rcases guarantee.mem_cases isFirst with oldFirst | ⟨-, isNext, byFirst⟩
    · rcases guarantee.mem_cases isSecond with oldSecond | ⟨-, isNext, -⟩
      · exact valid.enteredOnce call first second oldFirst oldSecond
      · exact absurd isNext (valid.not_entered oldFirst)
    · rcases guarantee.mem_cases isSecond with oldSecond | ⟨-, -, bySecond⟩
      · exact absurd isNext (valid.not_entered oldSecond)
      · exact byFirst.trans bySecond.symm
  · intro call grant isIn
    rcases guarantee.mem_cases isIn with isOld | ⟨grown, -⟩
    · exact guarantee.consumedKept grant (valid.consumedFlag call grant isOld)
    · exact guarantee.consumedNoted call grant grown
  · intro call other grant isCall isOther
    rcases guarantee.mem_cases isCall with oldCall | ⟨grownCall, -, isFree⟩
    · rcases guarantee.mem_cases isOther with oldOther | ⟨-, -, isFree⟩
      · exact valid.consumedOnce call other grant oldCall oldOther
      · rw [valid.consumedFlag call grant oldCall] at isFree
        contradiction
    · rcases guarantee.mem_cases isOther with oldOther | ⟨grownOther, -, -⟩
      · rw [valid.consumedFlag other grant oldOther] at isFree
        contradiction
      · have same := List.append_cancel_left (grownCall.symm.trans grownOther)
        exact (Event.consumed.inj (List.cons.inj same).1).1
  · intro state isIn
    rcases guarantee.mem_cases isIn with isOld | ⟨grown, -⟩
    · exact guarantee.revokedKept state (valid.revokedFlag state isOld)
    · exact guarantee.revokedNoted state grown
  · intro before call request reading after isSplit
    rcases guarantee.log with same | ⟨event, grown, permitted⟩
    · rw [same] at isSplit
      exact valid.justified before call request reading after isSplit
    · rw [grown] at isSplit
      rcases List.eq_nil_or_concat after with rfl | ⟨middle, _, rfl⟩
      · obtain ⟨rfl, isEvent⟩ := List.append_inj' isSplit rfl
        obtain rfl := (List.cons.inj isEvent).1
        exact permitted.2
      · rw [List.concat_eq_append, ← List.cons_append, ← List.append_assoc] at isSplit
        exact valid.justified before call request reading middle (List.append_inj' isSplit rfl).1
  · intro grant
    rcases guarantee.log with same | ⟨event, grown, permitted⟩
    · rw [same]
      exact valid.approvedOnce grant
    · rw [grown, List.countP_append, List.countP_singleton]
      split
      · rename_i isApproved
        cases event with
        | started call request reading =>
          obtain ⟨-, _, _, justified⟩ := permitted
          rw [valid.countP_eq_zero justified isApproved]
        | entered | consumed | allowed | revoked => contradiction
      · exact valid.approvedOnce grant

theorem valid_initial : Valid setting (machine setting).initial where
  numbered _ isIn := absurd isIn List.not_mem_nil
  enteredOnce _ _ _ isIn := absurd isIn List.not_mem_nil
  consumedFlag _ _ isIn := absurd isIn List.not_mem_nil
  consumedOnce _ _ _ isIn := absurd isIn List.not_mem_nil
  revokedFlag _ isIn := absurd isIn List.not_mem_nil
  justified before _ _ _ _ isSplit := by
    have isNil : [] = before ++ _ := isSplit
    simp at isNil
  approvedOnce _ := Nat.zero_le _

/-- A call that returned has started its handler. -/
def Returned (actor : Actor (machine setting)) (outcome : (machine setting).Outcome)
    (world : World) : Prop :=
  ∀ request result, actor.code = .execute request → outcome.1 = .ok result →
    ∃ call reading, .entered call actor.index ∈ world.log ∧
      .started call request reading ∈ world.log

variable (setting) in
/-- Calls keep the guarantee, and one that returned has started its handler. -/
def discipline : Discipline (machine setting) where
  Inv := Valid setting
  Guar actor := Guarantee setting actor.index
  Pre _ _ := True
  Post := Returned
  initial := valid_initial
  preserved := Valid.preserved

/-! ## What a call learns and keeps -/

variable {actor : Actor (machine setting)} {call : ℕ} {request : Request} {tool : Tool}
  {arguments : Members}

/-- No handler has been started for the call, which this task has entered. -/
def Open (task call : ℕ) (world : World) : Prop :=
  .entered call task ∈ world.log ∧ ∀ request reading, .started call request reading ∉ world.log

theorem stable_open : (discipline setting).Stable actor (Open actor.index call) := by
  rintro other world next differs valid guarantee ⟨isEntered, notStarted⟩
  refine ⟨guarantee.mem isEntered, ?_⟩
  intro request reading isIn
  rcases guarantee.mem_cases isIn with isOld | ⟨-, byOther, -⟩
  · exact notStarted request reading isOld
  · exact differs (valid.enteredOnce call _ _ byOther isEntered)

/-! ## Single operations -/

theorem Guarantee.refl (world : World) : Guarantee setting task world world where
  log := .inl rfl
  callsKept := le_rfl
  callsNoted _ _ grown := by simp at grown
  consumedKept _ held := held
  consumedNoted _ _ grown := by simp at grown
  revokedKept _ held := held
  revokedNoted _ grown := by simp at grown

/-- What the world shows of an entry: its number is taken, its flag is set. -/
def Event.Shown (world : World) : Event → Prop
  | .entered call _ => call < world.calls
  | .consumed _ grant => world.consumed grant = true
  | .revoked state => (world.dispatchStates state).revoked = true
  | .allowed _ | .started _ _ _ => True

/-- A step that adds one entry; the flags that the entry stands for are set. -/
theorem Guarantee.note (event : Event) (grown : next.log = world.log ++ [event])
    (permitted : Permits setting task world event) (shown : event.Shown next)
    (callsKept : world.calls ≤ next.calls)
    (consumedKept : ∀ grant, world.consumed grant = true → next.consumed grant = true)
    (revokedKept : ∀ state, (world.dispatchStates state).revoked = true →
      (next.dispatchStates state).revoked = true) :
    Guarantee setting task world next := by
  have isShown : ∀ {other : Event}, next.log = world.log ++ [other] → other.Shown next :=
    fun isOther => (List.cons.inj (List.append_cancel_left (grown.symm.trans isOther))).1 ▸ shown
  exact
    { log := .inr ⟨event, grown, permitted⟩
      callsKept
      callsNoted := fun _ _ isEntered => isShown isEntered
      consumedKept
      consumedNoted := fun _ _ isConsumed => isShown isConsumed
      revokedKept
      revokedNoted := fun _ isRevoked => isShown isRevoked }

@[simp] theorem note_dispatchStates (event : Event) :
    (world.note event).dispatchStates = world.dispatchStates := rfl

section

variable (state : Option ℕ) (update : DispatchState → DispatchState)

include state update

@[simp] theorem setDispatchState_log : (world.setDispatchState state update).log = world.log := by
  cases state <;> rfl

@[simp] theorem setDispatchState_calls :
    (world.setDispatchState state update).calls = world.calls := by
  cases state <;> rfl

@[simp] theorem setDispatchState_consumed :
    (world.setDispatchState state update).consumed = world.consumed := by
  cases state <;> rfl

end

theorem setDispatchState_revoked
    (keeps : ∀ held, held.revoked = true → (update held).revoked = true)
    (isRevoked : (world.dispatchStates index).revoked = true) :
    ((world.setDispatchState state update).dispatchStates index).revoked = true := by
  cases state with
  | none => exact isRevoked
  | some changed =>
    by_cases same : index = changed
    · subst same
      simpa [World.setDispatchState] using keeps _ isRevoked
    · simpa [World.setDispatchState, Function.update_of_ne same] using isRevoked

/-- What the task proves of a body: from `pre` it keeps the guarantee and returns in `post`.
A failure may happen anywhere. -/
def Spec {α : Type} (actor : Actor (machine setting)) (pre : World → Prop) (task : Body α)
    (post : α → World → Prop) : Prop :=
  ∀ world, pre world →
    Task.wp (discipline setting) actor task (fun value _ world => post value world)
    (fun _ _ _ => True) () world

variable {body : Body α}

theorem spec_bind (first : Spec actor pre body post)
    (rest : ∀ value, Spec actor (post value) (after value) last) :
    Spec actor pre (body >>= after) last := by
  intro world holds
  apply Task.wp_seq (first world holds)
  intro value state world established
  exact rest value world established

theorem spec_pure (returns : ∀ world, pre world → post value world) :
    Spec actor pre (pure value : Body α) post :=
  fun world holds => returns world holds

theorem spec_throw {failure : Failure} : Spec actor pre (throw failure : Body α) post :=
  fun _ _ => trivial

theorem spec_weaken (weakens : ∀ world, pre world →
    weaker world) (spec : Spec actor weaker body post) : Spec actor pre body post :=
  fun world holds => spec world (weakens world holds)

/-- What the log does not decide goes along as a plain fact. -/
theorem spec_fact (spec : fact → Spec actor pre body post) :
    Spec actor (fun world => pre world ∧ fact) body post :=
  fun world holds => spec holds.2 world holds.1

/-- One operation, from what interference leaves of the precondition. -/
theorem spec_perform {op : Op} {post : op.Reply → World → Prop}
    (stable : (discipline setting).Stable actor pre)
    (does : ∀ world, Valid setting world → pre world → ∀ answer reply after,
      step setting actor.index op answer world = some (reply, after) →
        Guarantee setting actor.index world after ∧ post reply after) :
    Spec actor pre (perform op) post := by
  intro world holds
  apply Task.wp_call stable holds
  intro current valid established answer reply after executed
  exact does current valid established answer reply after executed

/-- The awaits that only wait. -/
def Op.Waits (op : Op) : Prop :=
  op = .recordToolCall ∨ op = .recordAudit ∨ op = .awaitHandler

theorem spec_wait (stable : (discipline setting).Stable actor pre) (waits : op.Waits) :
    Spec actor pre (perform op) fun _ => pre := by
  apply spec_perform stable
  intro world valid holds answer reply after executed
  obtain rfl : after = world := by
    rcases waits with rfl | rfl | rfl <;> cases answer <;> simp [step] at executed <;>
      exact (congrArg Prod.snd executed).symm
  exact ⟨.refl _, holds⟩

theorem spec_enter (state : Option ℕ) :
    Spec actor (fun _ => True) (perform (.enter state)) fun call => Open actor.index call := by
  apply spec_perform (fun _ _ _ _ _ _ _ => trivial)
  intro world valid _ answer reply after executed
  cases answer <;> simp only [step, Option.some.injEq, reduceCtorEq] at executed
  obtain ⟨rfl, rfl⟩ := Prod.mk.inj executed
  constructor
  · apply Guarantee.note (.entered world.calls actor.index)
    · simp [World.note]
    · exact ⟨rfl, rfl⟩
    · exact Nat.lt_succ_self _
    · exact Nat.le_succ _
    · intro grant isConsumed
      simpa [World.note] using isConsumed
    · intro index isRevoked
      apply setDispatchState_revoked _ isRevoked
      exact fun _ held => held
  · constructor
    · simp [World.note]
    · intro request reading isIn
      have isOld : .started world.calls request reading ∈ world.log := by
        simpa [World.note] using isIn
      exact absurd (valid.numbered _ isOld _ rfl) (Nat.lt_irrefl _)

/-- The grant was consumed by this call, for this request. -/
def IsApproved (setting : Setting) (call : ℕ) (request : Request) (arguments : Members)
    (tool : Tool) (world : World) : Prop :=
  tool.requiresApproval = true → ∃ grant, request.approvalGrant = some grant ∧
    .consumed call grant ∈ world.log ∧ IsBound setting (setting.grants grant) request arguments

/-- A grant says yes only to what it was made out for, and only if it was not consumed. -/
theorem isBound_of_consume
    (consumed : grant.consume isConsumed now (presented setting request arguments) = .ok true) :
    isConsumed = false ∧ IsBound setting grant request arguments := by
  unfold Grant.consume at consumed
  split at consumed
  · contradiction
  · rename_i accepted
    simp only [Bool.or_eq_true, not_or] at accepted
    obtain ⟨⟨⟨⟨⟨free, -⟩, run⟩, tenant⟩, user⟩, name⟩ := accepted
    cases digest : setting.argumentDigest arguments with
    | none =>
      simp [presented, digest] at consumed
    | some text =>
      simp only [presented, digest, Except.ok.injEq, decide_eq_true_eq] at consumed
      refine ⟨by simpa using free, ?_, ?_, ?_, ?_, ?_⟩
      · exact not_not.mp fun differs => run (decide_eq_true differs)
      · exact not_not.mp fun differs => tenant (decide_eq_true differs)
      · exact not_not.mp fun differs => user (decide_eq_true differs)
      · exact not_not.mp fun differs => name (decide_eq_true differs)
      · rw [digest, consumed]

theorem spec_consume :
    Spec actor (Open actor.index call)
      (perform (.consume call grant (presented setting request arguments)))
      fun result world => Open actor.index call world ∧ (result = .ok true →
        .consumed call grant ∈ world.log ∧
          IsBound setting (setting.grants grant) request arguments) := by
  apply spec_perform stable_open
  intro world valid isOpen answer reply after executed
  cases answer <;> simp only [step, reduceCtorEq] at executed
  rename_i now
  split at executed
  · rename_i consumed
    cases executed
    obtain ⟨isFree, isBound⟩ := isBound_of_consume consumed
    refine ⟨?_, ⟨?_, ?_⟩, fun _ => ⟨?_, isBound⟩⟩
    · apply Guarantee.note (.consumed call grant)
      · rfl
      · exact ⟨isOpen.1, isFree⟩
      · simp [Event.Shown]
      · exact le_rfl
      · intro other isConsumed
        by_cases same : other = grant
        · simp [same]
        · simpa [Function.update_of_ne same] using isConsumed
      · exact fun _ held => held
    · exact List.mem_append_left _ isOpen.1
    · intro other reading isIn
      apply isOpen.2 other reading
      simpa [World.note] using isIn
    · simp [World.note]
  · rename_i result notConsumed
    cases executed
    exact ⟨.refl _, isOpen, fun isOk => absurd isOk notConsumed⟩

theorem spec_acquire (stable : (discipline setting).Stable actor pre)
    (keeps : ∀ world, pre world → pre (world.note (.allowed call)))
    (isOpen : ∀ world, pre world → Open actor.index call world) :
    Spec actor pre (perform (.acquire call))
      fun result world => pre world ∧ (result = .ok true → .allowed call ∈ world.log) := by
  apply spec_perform stable
  intro world valid holds answer reply after executed
  cases answer <;> simp only [step, reduceCtorEq] at executed
  split at executed
  · cases executed
    refine ⟨?_, keeps world holds, fun _ => by simp [World.note]⟩
    apply Guarantee.note (.allowed call)
    · rfl
    · exact (isOpen world holds).1
    · trivial
    · exact le_rfl
    · exact fun _ held => held
    · exact fun _ held => held
  · rename_i result notAllowed
    cases executed
    exact ⟨.refl _, holds, fun isOk => absurd isOk notAllowed⟩

/-- What a call has collected when it reaches the last check. -/
structure Collected (setting : Setting) (task call : ℕ) (request : Request) (tool : Tool)
    (arguments : Members) (world : World) : Prop where
  isOpen : Open task call world
  isApproved : IsApproved setting call request arguments tool world
  registered : setting.registry.definitions request.name = some tool
  isMapping : request.arguments = some arguments
  accepted : tool.accepts arguments = true
  permitted : request.context.auth.hasToolPermission tool.permission = true
  allowed : .allowed call ∈ world.log

/-- The last check and what was collected justify the start. -/
theorem Collected.justified (valid : Valid setting world)
    (collected : Collected setting task call request tool arguments world)
    (notCancelled : world.isCancelled setting.grants request reading = false) :
    Justified setting world.log call request reading tool arguments := by
  simp only [World.isCancelled, Bool.or_eq_false_iff] at notCancelled
  obtain ⟨notRevoked, notExpired⟩ := notCancelled
  refine ⟨collected.registered, collected.isMapping, collected.accepted, collected.permitted,
    collected.allowed, ?_, ?_, collected.isOpen.2⟩
  · intro state isState isRevoked
    rw [isState, Option.any_some, valid.revokedFlag state isRevoked] at notRevoked
    contradiction
  · intro requires
    obtain ⟨grant, isGrant, consumed, isBound⟩ := collected.isApproved requires
    refine ⟨grant, isGrant, consumed, isBound, ?_⟩
    rw [isGrant, Option.any_some, decide_eq_false_iff_not, not_le] at notExpired
    exact notExpired

theorem stable_isApproved :
    (discipline setting).Stable actor (IsApproved setting call request arguments tool) := by
  intro other world next _ _ guarantee isApproved requires
  obtain ⟨grant, isGrant, consumed, isBound⟩ := isApproved requires
  exact ⟨grant, isGrant, guarantee.mem consumed, isBound⟩

theorem stable_collected :
    (discipline setting).Stable actor
      (Collected setting actor.index call request tool arguments) := by
  intro other world next differs valid guarantee collected
  exact
    { collected with
      isOpen := stable_open other world next differs valid guarantee collected.isOpen
      isApproved :=
        stable_isApproved other world next differs valid guarantee collected.isApproved
      allowed := guarantee.mem collected.allowed }

def IsStarted (task call : ℕ) (request : Request) (world : World) : Prop :=
  ∃ reading, .entered call task ∈ world.log ∧ .started call request reading ∈ world.log

theorem stable_isStarted :
    (discipline setting).Stable actor (IsStarted actor.index call request) := by
  rintro other world next _ _ guarantee ⟨reading, isEntered, isStarted⟩
  exact ⟨reading, guarantee.mem isEntered, guarantee.mem isStarted⟩

theorem spec_start :
    Spec actor (Collected setting actor.index call request tool arguments)
      (perform (.dispatch call request))
      fun isStarted world => isStarted = true → IsStarted actor.index call request world := by
  apply spec_perform stable_collected
  intro world valid collected answer reply after executed
  cases answer <;> simp only [step, reduceCtorEq] at executed
  rename_i now
  split at executed
  · cases executed
    exact ⟨.refl _, Bool.noConfusion⟩
  · rename_i notCancelled
    cases executed
    have justified := collected.justified valid (Bool.not_eq_true _ ▸ notCancelled)
    refine ⟨?_, fun _ => ⟨now, ?_, ?_⟩⟩
    · apply Guarantee.note (.started call request now)
      · simp [World.note]
      · exact ⟨collected.isOpen.1, tool, arguments, justified⟩
      · trivial
      · simp [World.note]
      · intro grant isConsumed
        simpa [World.note] using isConsumed
      · intro index isRevoked
        apply setDispatchState_revoked _ isRevoked
        exact fun _ held => held
    · simp [World.note, collected.isOpen.1]
    · simp [World.note]

/-! ## The program -/

theorem spec_recordToolCall (stable : (discipline setting).Stable actor pre) :
    Spec actor pre (recordToolCall setting) fun _ => pre := by
  unfold recordToolCall
  split
  · apply spec_bind (spec_wait stable (.inl rfl))
    intro result
    match result with
    | .ok () => exact spec_pure fun _ holds => holds
    | .error .cancelled | .error (.domain _) | .error .timeout | .error .other => exact spec_throw
  · exact spec_pure fun _ holds => holds

theorem spec_recordAudit (stable : (discipline setting).Stable actor pre) :
    Spec actor pre recordAudit fun _ => pre := by
  unfold recordAudit
  apply spec_bind (spec_wait stable (.inr (.inl rfl)))
  intro result
  match result with
  | .error .cancelled => exact spec_throw
  | .ok () | .error (.domain _) | .error .timeout | .error .other =>
    exact spec_pure fun _ holds => holds

theorem spec_refuse {failure : Failure} (stable : (discipline setting).Stable actor pre) :
    Spec actor pre (refuse setting failure : Body α) post := by
  unfold refuse
  apply spec_bind (spec_recordToolCall stable)
  intro _
  apply spec_bind (spec_recordAudit stable)
  intro _
  exact spec_throw

theorem spec_resolve :
    Spec actor (Open actor.index call) (resolve setting request) fun found world =>
      Open actor.index call world ∧ setting.registry.definitions request.name = some found.1 ∧
        request.arguments = some found.2 := by
  unfold resolve
  split
  · exact spec_throw
  · split
    · exact spec_refuse stable_open
    · exact spec_refuse stable_open
    · rename_i tool arguments isTool isArguments
      exact spec_pure fun world isOpen => ⟨isOpen, isTool, isArguments⟩

def Approved (setting : Setting) (task call : ℕ) (request : Request) (tool : Tool)
    (arguments : Members) (world : World) : Prop :=
  Open task call world ∧ IsApproved setting call request arguments tool world

theorem stable_approved :
    (discipline setting).Stable actor (Approved setting actor.index call request tool arguments) :=
  stable_open.and stable_isApproved

theorem spec_approve :
    Spec actor (Open actor.index call) (approve setting call request tool arguments)
      fun _ => Approved setting actor.index call request tool arguments := by
  unfold approve
  split
  · rename_i requires
    split
    · exact spec_refuse stable_open
    · rename_i grant isGrant
      apply spec_bind spec_consume
      intro result
      match result with
      | .error failure => exact fun _ _ => trivial
      | .ok false =>
        exact spec_weaken (fun _ holds => holds.1) (spec_refuse stable_open)
      | .ok true =>
        intro world holds
        obtain ⟨consumed, isBound⟩ := holds.2 rfl
        exact ⟨holds.1, fun _ => ⟨grant, isGrant, consumed, isBound⟩⟩
  · rename_i notRequired
    exact spec_pure fun world isOpen => ⟨isOpen, fun requires => absurd requires notRequired⟩

theorem spec_check :
    Spec actor (Approved setting actor.index call request tool arguments)
      (check setting request tool arguments) fun _ world =>
        Approved setting actor.index call request tool arguments world ∧
          tool.accepts arguments = true ∧
          request.context.auth.hasToolPermission tool.permission = true := by
  unfold check
  split
  · exact spec_refuse stable_approved
  · rename_i accepted
    split
    · exact spec_refuse stable_approved
    · rename_i permitted
      apply spec_pure
      intro world holds
      exact ⟨holds, by simpa using accepted, by simpa using permitted⟩

theorem Approved.note (holds : Approved setting task call request tool arguments world) :
    Approved setting task call request tool arguments (world.note (.allowed call)) := by
  obtain ⟨⟨isEntered, notStarted⟩, isApproved⟩ := holds
  refine ⟨⟨List.mem_append_left _ isEntered, ?_⟩, ?_⟩
  · intro other reading isIn
    apply notStarted other reading
    simpa [World.note] using isIn
  · intro requires
    obtain ⟨grant, isGrant, consumed, isBound⟩ := isApproved requires
    exact ⟨grant, isGrant, List.mem_append_left _ consumed, isBound⟩

theorem spec_limit :
    Spec actor (Approved setting actor.index call request tool arguments) (limit setting call)
      fun _ world => Approved setting actor.index call request tool arguments world ∧
        .allowed call ∈ world.log := by
  unfold limit
  apply spec_bind (spec_acquire stable_approved (fun _ => Approved.note) fun _ holds => holds.1)
  intro decision
  match decision with
  | .error failure => exact fun _ _ => trivial
  | .ok false => exact spec_weaken (fun _ holds => holds.1) (spec_refuse stable_approved)
  | .ok true => exact fun world holds => ⟨holds.1, holds.2 rfl⟩

theorem spec_dispatch :
    Spec actor (Collected setting actor.index call request tool arguments)
      (dispatch call request) fun _ => IsStarted actor.index call request := by
  unfold dispatch
  apply spec_bind spec_start
  intro isStarted
  match isStarted with
  | true => exact fun world holds => holds rfl
  | false => exact spec_throw

theorem spec_finish :
    Spec actor (IsStarted actor.index call request) (finish setting request tool)
      fun _ => IsStarted actor.index call request := by
  unfold finish
  apply spec_bind (spec_wait stable_isStarted (.inr (.inr rfl)))
  intro outcome
  match outcome with
  | .timedOut | .cancelled | .raised => exact spec_refuse stable_isStarted
  | .returned output =>
    dsimp only
    split
    · apply spec_bind (spec_recordToolCall stable_isStarted)
      intro _
      apply spec_bind (spec_recordAudit stable_isStarted)
      intro _
      exact spec_pure fun _ holds => holds
    · exact spec_refuse stable_isStarted

/-- A call that returns has collected everything before it started its handler. -/
theorem spec_execute :
    Spec actor (fun _ => True) (execute setting request)
      fun _ world => ∃ call, IsStarted actor.index call request world := by
  unfold execute
  apply spec_bind (spec_enter _)
  intro call
  apply spec_bind spec_resolve
  rintro ⟨tool, arguments⟩
  apply spec_fact
  rintro ⟨registered, isMapping⟩
  apply spec_bind spec_approve
  intro _
  apply spec_bind spec_check
  intro _
  apply spec_fact
  rintro ⟨accepted, permitted⟩
  apply spec_bind spec_limit
  intro _
  have collects : ∀ world, Approved setting actor.index call request tool arguments world ∧
      .allowed call ∈ world.log →
        Collected setting actor.index call request tool arguments world :=
    fun world holds => ⟨holds.1.1, holds.1.2, registered, isMapping, accepted, permitted, holds.2⟩
  apply spec_bind (spec_weaken collects spec_dispatch)
  intro _ world isStarted
  apply Task.wp_mono (spec_finish world isStarted)
  · exact fun _ _ _ holds => ⟨call, holds⟩
  · exact fun _ _ _ _ => trivial

theorem spec_revoke (state : ℕ) :
    Spec actor (fun _ => True) (perform (.revoke state)) fun _ _ => True := by
  apply spec_perform (fun _ _ _ _ _ _ _ => trivial)
  intro world valid _ answer reply after executed
  cases answer <;> simp only [step, Option.some.injEq, reduceCtorEq] at executed
  obtain ⟨-, rfl⟩ := Prod.mk.inj executed
  refine ⟨?_, trivial⟩
  apply Guarantee.note (.revoked state)
  · simp [World.note]
  · trivial
  · simp [Event.Shown, World.setDispatchState]
  · exact le_rfl
  · exact fun _ held => held
  · intro index isRevoked
    rw [note_dispatchStates]
    apply setDispatchState_revoked _ isRevoked
    exact fun _ _ => rfl

theorem sound : (discipline setting).Sound where
  arrivals _ _ _ _ := trivial
  bodies := by
    rintro ⟨index, code⟩ world _ -
    cases code with
    | execute request =>
      have spec : Spec (⟨index, .execute request⟩ : Actor (machine setting)) (fun _ => True)
          (body setting (.execute request))
          fun _ world => ∃ call, IsStarted index call request world :=
        spec_bind spec_execute fun _ => spec_pure fun _ holds => holds
      apply Discipline.wp_mono (spec world trivial)
      rintro ⟨result, state⟩ world returned other outcome isCode isOk
      obtain rfl := Code.execute.inj isCode
      obtain rfl : result = .ok outcome := isOk
      obtain ⟨call, reading, isEntered, isStarted⟩ := returned
      exact ⟨call, reading, isEntered, isStarted⟩
    | revoke state =>
      have spec : Spec (⟨index, .revoke state⟩ : Actor (machine setting)) (fun _ => True)
          (body setting (.revoke state)) fun _ _ => True :=
        spec_bind (spec_revoke state) fun _ => spec_pure fun _ _ => trivial
      apply Discipline.wp_mono (spec world trivial)
      rintro ⟨result, state⟩ world _ other outcome isCode
      contradiction
  postStable := by
    intro actor other outcome world next _ _ guarantee returned request result isCode isOk
    obtain ⟨call, reading, isEntered, isStarted⟩ := returned request result isCode isOk
    exact ⟨call, reading, guarantee.mem isEntered, guarantee.mem isStarted⟩

/-- In every interleaving of calls and revocations, a handler is started only for a
registered tool with accepted arguments, by a permitted caller, after the limiter allowed
this call, while it was not revoked and, if the tool requires approval, with a live grant
that this call consumed; every grant leads to at most one start; and a call that starts
no handler does not return. -/
theorem handlers_start_only_through_the_gate (setting : Setting) (pool : Pool (machine setting))
    (reachable : pool.Reachable) :
    (∀ before call request reading after,
      pool.world.log = before ++ .started call request reading :: after →
        ∃ tool arguments, Justified setting before call request reading tool arguments) ∧
    (∀ grant, pool.world.log.countP (isApprovedStart setting grant) ≤ 1) ∧
    (∀ (index : ℕ) (request : Request) (outcome : Option ToolOutcome),
      pool.threads[index]? = some ⟨.execute request, some (.done (.ok outcome, ()))⟩ →
        ∃ call reading, .entered call index ∈ pool.world.log ∧
          .started call request reading ∈ pool.world.log) := by
  have holds := sound.reachable reachable
  have valid : Valid setting pool.world := holds.inv
  refine ⟨valid.justified, valid.approvedOnce, ?_⟩
  intro index request outcome isThread
  exact holds.threads index _ _ isThread rfl request outcome rfl rfl

/-- One tool that requires approval and one grant for it. -/
def ticketSetting : Setting where
  registry :=
    { definitions := fun name =>
        if name = "create_support_ticket" then
          some ⟨"support:ticket:create", true, fun _ => true, fun _ => true⟩
        else none
      hasRecorder := true }
  grants _ := ⟨"run", "acme", "ada", "create_support_ticket", "digest", 100⟩
  argumentDigest _ := some "digest"

/-- A call of the tool with the grant. -/
def ticketRequest : Request where
  name := "create_support_ticket"
  arguments := some []
  context := ⟨"request", "trace", ⟨"acme", "ada", ["support:ticket:create"]⟩⟩
  agentRunId := some "run"
  approvalGrant := some 0
  dispatchState := some 0

/-- Two calls share the grant; the first consumes it and starts the handler. -/
theorem handlers_start_only_through_the_gate_shared :
    ∃ pool : Pool (machine ticketSetting), pool.Reachable ∧
      pool.world.log.countP (isApprovedStart ticketSetting 0) = 1 ∧
      ∀ grant, pool.world.log.countP (isApprovedStart ticketSetting grant) ≤ 1 := by
  obtain ⟨pool, performed, started⟩ := Pool.exists_of_run
    (fun pool : Pool (machine ticketSetting) =>
      pool.world.log.countP (isApprovedStart ticketSetting 0) = 1)
    [.arrive (.execute ticketRequest), .arrive (.execute ticketRequest), .run 0 .silent,
      .run 1 .silent, .run 0 (.reading 10), .run 1 (.reading 11), .run 0 (.limiter (.ok true)),
      .run 0 (.reading 20)] (by decide +kernel)
  have reachable : pool.Reachable := ⟨_, performed⟩
  exact ⟨pool, reachable, started,
    (handlers_start_only_through_the_gate ticketSetting pool reachable).2.1⟩

end AegisRag.Agent.Registry
