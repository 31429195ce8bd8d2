import AegisRag.Agent.Durable.Consistency
import AegisRag.Agent.Durable.Service.Discipline

/-!
# Rules for the operations

One rule for each kind of operation: what it does to the world is a `Step`, and
what its caller knows afterwards. Operations that leave the world alone are
`Neutral`; so is every program made of them, which takes care of clocks,
collaborators and the checks between two transactions.
-/

namespace AegisRag.Agent.Durable.Service

open Semantics RunCell
open Semantics.Task hiding attempt

variable {codec : Codec} {actor : Actor (machine codec)} {world : World}
  {runId tenantId userId token callId : String} {chronicle : Chronicle} {snapshot : DurableSnapshot}
  {failure : Failure} {answer : Answer} {now : Seconds}

/-! ## Steps of the world -/

/-- An execution may stay as it is. -/
theorem Passes.refl (task : Nat) (execution : SharedExecution) : Passes task execution execution :=
  ⟨rfl, rfl, id, Or.inl rfl, Or.inl rfl, fun _ _ _ => rfl⟩

/-- Doing nothing is a step. -/
theorem Step.refl (safe : Safe codec world) : Step codec actor world world :=
  ⟨fun _ => Or.inl rfl, fun _ before found => ⟨before, found, .refl _ _⟩, fun _ isIn => isIn, safe⟩

/-- The run that was set. -/
@[simp] theorem World.setRun_same (runId : String) (state : RunState) :
    (world.setRun runId state).runs runId = state := by simp [World.setRun]

/-- Setting one run leaves the others alone. -/
theorem World.setRun_other (state : RunState) (differs : other ≠ runId) :
    (world.setRun runId state).runs other = world.runs other := by simp [World.setRun, differs]

/-- A license outlasts what only adds to a log. -/
theorem Licensed.setRun (licensed : Licensed codec actor world runId)
    (logged : ∀ event ∈ (world.runs runId).log, event ∈ state.log) :
    Licensed codec actor (world.setRun runId state) runId := by
  unfold Licensed at licensed ⊢
  split at licensed
  · rcases licensed with unkeyed | ⟨token, creator, snapshot, drawn, created⟩
    · exact Or.inl unkeyed
    · refine Or.inr ⟨token, creator, snapshot, drawn, ?_⟩
      rw [World.setRun_same]
      exact logged _ created
  · obtain ⟨creator, snapshot, created⟩ := licensed
    refine ⟨creator, snapshot, ?_⟩
    rw [World.setRun_same]
    exact logged _ created
  · exact licensed
  · exact licensed
  · trivial

section

variable (safe : Safe codec world)

include safe

/-- Moving runs by steps of the journal keeps the world safe. -/
theorem Safe.moveRuns {runs : String → RunState} (task : Nat)
    (moved : ∀ runId, runs runId = world.runs runId ∨
      RunStep codec (Origin codec runId) task (world.runs runId) (runs runId))
    (claimed : ∀ runId token event, (runs runId).log = event :: (world.runs runId).log →
      ClaimedWith token event → ∃ task, ⟨token, .leaseToken, task⟩ ∈ world.issued) :
    Safe codec { world with runs } := by
  have kept : ∀ runId snapshot, snapshot ∈ (world.runs runId).committed →
      snapshot ∈ (runs runId).committed := by
    intro runId snapshot isIn
    rcases moved runId with same | stepped
    · rw [same]
      exact isIn
    · exact (stepped.effect (safe.runs runId).fenced).committed_kept isIn
  refine ⟨?_, ?_, safe.issued, ?_⟩
  · intro runId
    rcases moved runId with same | stepped
    · simp only [same]
      exact safe.runs runId
    · exact (safe.runs runId).step stepped
  · intro handle execution found left
    exact kept _ _ (safe.executions handle execution found left)
  · intro runId token event isIn claims
    rcases moved runId with same | stepped
    · simp only [same] at isIn
      exact safe.claims runId token event isIn claims
    · obtain ⟨_, logged, _⟩ := stepped.logs
      simp only [logged] at isIn
      rcases List.mem_cons.mp isIn with rfl | older
      · exact claimed runId token event logged claims
      · exact safe.claims runId token event older claims

/-- A step of the journal on one run, under a license for it. -/
theorem Step.setRun (stepped : RunStep codec (Origin codec runId) actor.index (world.runs runId)
      ⟨chronicle, event :: (world.runs runId).log⟩) (permitted : Licensed codec actor
      (world.setRun runId ⟨chronicle, event :: (world.runs runId).log⟩) runId)
    (claimed : ∀ token, ClaimedWith token event →
      ∃ task, ⟨token, .leaseToken, task⟩ ∈ world.issued) :
    Step codec actor world (world.setRun runId ⟨chronicle, event :: (world.runs runId).log⟩) := by
  refine ⟨?_, fun _ before found => ⟨before, found, .refl _ _⟩, fun _ isIn => isIn, ?_⟩
  · intro other
    by_cases same : other = runId
    · subst same
      rw [World.setRun_same]
      exact Or.inr ⟨stepped, Or.inr permitted⟩
    · exact Or.inl (World.setRun_other _ same)
  · refine safe.moveRuns actor.index ?_ ?_
    · intro other
      by_cases same : other = runId
      · subst same
        simp only [if_true]
        exact Or.inr stepped
      · simp [same]
    · intro other token newest logged claims
      by_cases same : other = runId
      · subst same
        simp only [if_true, List.cons.injEq, and_true] at logged
        exact claimed token (logged ▸ claims)
      · simp only [same, if_false] at logged
        simp at logged

/-- A step of the journal by a task that is licensed already. -/
theorem Step.logs (licensed : Licensed codec actor world runId)
    (claimed : ∀ token, ClaimedWith token event →
      ∃ task, ⟨token, .leaseToken, task⟩ ∈ world.issued)
    (stepped : RunStep codec (Origin codec runId) actor.index (world.runs runId)
      ⟨chronicle, event :: (world.runs runId).log⟩) :
    Step codec actor world (world.setRun runId ⟨chronicle, event :: (world.runs runId).log⟩) :=
  .setRun safe stepped (licensed.setRun fun _ isIn => List.mem_cons_of_mem _ isIn) claimed

/-- Writing a note to the log of a run. -/
theorem Step.note (noted : Noted codec actor.index (world.runs runId) event)
    (licensed : Licensed codec actor world runId) :
    Step codec actor world (world.note runId event) := by
  refine .logs safe licensed ?_ (.note noted)
  intro token claims
  cases noted <;> exact absurd claims id

/-- A purge of expired runs, which every code may issue. -/
theorem Step.purge (tenantId : String) (now : Seconds)
    (selected : List String) :
    Step codec actor world (world.purgeExpired actor.index tenantId now selected) := by
  have moved : ∀ runId, (world.purgeExpired actor.index tenantId now selected).runs runId =
      world.runs runId ∨ RunStep codec (Origin codec runId) actor.index (world.runs runId)
        ((world.purgeExpired actor.index tenantId now selected).runs runId) ∧
        ((world.purgeExpired actor.index tenantId now selected).runs runId).log =
          .purged actor.index :: (world.runs runId).log := by
    intro runId
    simp only [World.purgeExpired]
    split
    · rename_i chosen
      simp only [Bool.and_eq_true] at chosen
      exact Or.inr ⟨.purge chosen.2, rfl⟩
    · exact Or.inl rfl
  refine ⟨?_, fun _ before found => ⟨before, found, .refl _ _⟩, fun _ isIn => isIn, ?_⟩
  · intro runId
    rcases moved runId with same | ⟨stepped, logged⟩
    · exact Or.inl same
    · exact Or.inr ⟨stepped, Or.inl logged⟩
  · refine safe.moveRuns actor.index (fun runId => (moved runId).imp id And.left) ?_
    intro runId token event logged claims
    rcases moved runId with same | ⟨_, purged⟩
    · have impossible : (world.runs runId).log = event :: (world.runs runId).log := by
        rw [← logged]
        exact congrArg RunState.log same.symm
      simp at impossible
    · have isPurge := purged.symm.trans logged
      simp only [List.cons.injEq, and_true] at isPurge
      subst isPurge
      exact absurd claims id

/-- An assignment to a shared execution. -/
theorem Step.setExecution
    (found : world.executions[handle]? = some before) (passes : Passes actor.index before after)
    (held : (∀ task, after.owner ≠ .request task) → Held world after.snapshot) :
    Step codec actor world (world.setExecution handle after) := by
  have bound := (List.getElem?_eq_some_iff.mp found).1
  refine ⟨fun _ => Or.inl rfl, ?_, fun _ isIn => isIn, safe.runs, ?_, safe.issued, safe.claims⟩
  · intro other execution atOther
    by_cases same : handle = other
    · subst same
      cases found.symm.trans atOther
      exact ⟨after, by simp [World.setExecution, bound], passes⟩
    · refine ⟨execution, ?_, .refl _ _⟩
      simp only [World.setExecution]
      rw [List.getElem?_set_ne same]
      exact atOther
  · intro other execution atOther left
    rcases getElem?_of_set atOther with ⟨rfl, rfl⟩ | ⟨_, old⟩
    · exact held left
    · exact safe.executions other execution old left

/-- A new shared execution. -/
theorem Step.newExecution {execution : SharedExecution}
    (owner : execution.owner = .request actor.index) :
    Step codec actor world { world with executions := world.executions ++ [execution] } := by
  refine ⟨fun _ => Or.inl rfl, ?_, fun _ isIn => isIn, safe.runs, ?_, safe.issued, safe.claims⟩
  · intro handle before found
    have bound := (List.getElem?_eq_some_iff.mp found).1
    refine ⟨before, ?_, .refl _ _⟩
    simp only [List.getElem?_append_left bound]
    exact found
  · intro handle other found left
    rcases getElem?_of_append found with old | ⟨_, rfl⟩
    · exact safe.executions handle other old left
    · exact absurd owner (left actor.index)

/-- Drawing an identifier that was never issued. -/
theorem Step.draw (unused : identifier.text ∉ world.issued.map (·.text)) :
    Step codec actor world { world with issued := identifier :: world.issued } := by
  refine ⟨fun _ => Or.inl rfl, fun _ before found => ⟨before, found, .refl _ _⟩,
    fun _ isIn => List.mem_cons_of_mem _ isIn, safe.runs, safe.executions, ?_, ?_⟩
  · rw [List.map_cons, List.nodup_cons]
    exact ⟨unused, safe.issued⟩
  · intro runId token event isIn claims
    obtain ⟨task, drawn⟩ := safe.claims runId token event isIn claims
    exact ⟨task, List.mem_cons_of_mem _ drawn⟩

end

/-! ## Programs that leave the world alone -/

/-- The program keeps whatever its task may rely on and its own state, and returns
only such values. -/
def Neutral (codec : Codec) {σ α : Type} (task : Act σ α) (returns : α → Prop) : Prop :=
  ∀ (actor : Actor (machine codec)) (pre : World → Prop), Stable actor pre →
    ∀ state world, pre world →
      Ensures actor task
        (fun value next current => returns value ∧ next = state ∧ pre current)
        (fun _ next current => next = state ∧ pre current)
        state world

/-- Whatever is raised is a failure the caller accounts for. -/
def Raises {σ : Type} (pre : World → Prop) (fail : Failure → σ → World → Prop) (state : σ) : Prop :=
  ∀ failure current, pre current → fail failure state current

section

variable {σ α β : Type}

/-- Returning touches nothing. -/
theorem Neutral.pure (holds : returns value) : Neutral codec (pure value : Act σ α) returns :=
  fun _ _ _ _ _ established => wp_pure ⟨holds, rfl, established⟩

/-- Raising touches nothing. -/
theorem Neutral.throw : Neutral codec (throw failure : Act σ α) returns :=
  fun _ _ _ _ _ established => wp_throw ⟨rfl, established⟩

/-- A sequence of neutral tasks is neutral. -/
theorem Neutral.bind (first : Neutral codec task returns)
    (rest : ∀ value, returns value → Neutral codec (after value) returned) :
    Neutral codec (task >>= after) returned := by
  intro actor pre stable state world holds
  refine wp_seq (first actor pre stable state world holds) ?_
  rintro value next current ⟨isValue, rfl, established⟩
  exact rest value isValue actor pre stable next current established

/-- A pure check is neutral. -/
theorem Neutral.ofExcept (value : ∀ value, result = .ok value → returns value) :
    Neutral codec (Task.ofExcept result : Act σ α) returns := by
  cases result with
  | ok returned => exact .pure (value returned rfl)
  | error raised => exact .throw

/-- A choice between neutral tasks is neutral. -/
theorem Neutral.ite [Decidable condition] (isTrue : condition → Neutral codec first returns)
    (isFalse : ¬ condition → Neutral codec second returns) :
    Neutral codec (if condition then first else second) returns := by
  split
  · rename_i holds
    exact isTrue holds
  · rename_i holds
    exact isFalse holds

/-- A check that raises, in front of the rest. -/
theorem guard_neutral [Decidable condition]
    (passes : ¬ condition → Neutral codec rest returns) :
    Neutral codec (if condition then throw failure >>= unreached else rest) returns :=
  .ite (fun _ => .bind (.throw : Neutral codec _ fun _ => False)
    fun _ impossible => False.elim impossible) passes

/-- Turning failures into values keeps a task neutral. -/
theorem Neutral.attempt (neutral : Neutral codec task returns) :
    Neutral codec (Task.attempt task) fun result => ∀ value, result = .ok value →
      returns value := by
  intro actor pre stable state world holds
  refine wp_attempt (wp_mono (neutral actor pre stable state world holds) ?_ ?_)
  · rintro value next current ⟨isValue, kept⟩
    refine ⟨?_, kept⟩
    rintro _ ⟨⟩
    exact isValue
  · intro failure next current kept
    exact ⟨by simp, kept⟩

/-- An operation that only answers. -/
theorem Neutral.call (quiet : ∀ index answer world reply next, execute codec index op answer world =
      some (reply, next) → next = world ∧ returned reply) :
    Neutral codec (call op : Act σ op.Reply) returned := by
  intro actor pre stable state world holds
  refine wp_call stable holds ?_
  intro current safe established answer reply after executed
  obtain ⟨rfl, isReply⟩ := quiet actor.index answer current reply after executed
  exact ⟨.refl safe, isReply, rfl, established⟩

/-- An operation that answers in any world, and leaves it alone. -/
theorem Neutral.answered {op : Op} {reply : Answer → op.Reply}
    (answers : ∀ index answer world, execute codec index op answer world =
      some (reply answer, world)) :
    Neutral codec (Service.call op : Act σ op.Reply) fun _ => True := by
  refine .call ?_
  intro index answer world reply next executed
  cases (answers index answer world).symm.trans executed
  exact ⟨rfl, trivial⟩

/-- Awaiting a reply raises what it failed with. -/
theorem Neutral.awaited {operation : Act σ (Except Failure α)}
    (neutral : Neutral codec operation fun result => ∀ value, result = .ok value → returns value) :
    Neutral codec (awaited operation) returns :=
  .bind neutral fun _ outcome => .ofExcept outcome

/-- Rule of a neutral task that another one follows. -/
theorem Neutral.seq (neutral : Neutral codec task returns) (stable : Stable actor pre)
    (holds : pre world) (rest : ∀ value current, returns value → pre current →
      Ensures actor (after value) ok fail state current) (raises : Raises pre fail state) :
    Ensures actor (task >>= after) ok fail state world := by
  refine wp_bind (wp_mono (neutral actor pre stable state world holds) ?_ ?_)
  · rintro value next current ⟨isValue, rfl, established⟩
    exact rest value current isValue established
  · rintro failure next current ⟨rfl, established⟩
    exact raises failure current established

/-- Rule of a neutral task. -/
theorem Neutral.wp (neutral : Neutral codec task returns) (stable : Stable actor pre)
    (holds : pre world)
    (rest : ∀ value current, returns value → pre current → ok value state current)
    (raises : Raises pre fail state) :
    Ensures actor task ok fail state world := by
  refine wp_mono (neutral actor pre stable state world holds) ?_ ?_
  · rintro value next current ⟨isValue, rfl, established⟩
    exact rest value current isValue established
  · rintro failure next current ⟨rfl, established⟩
    exact raises failure current established

/-! ## Collaborators and clocks -/

/-- A collaborator changes nothing and returns the value it has. -/
theorem Answer.collaborator_some
    (delivered : answer.collaborator world value = some (reply, next)) :
    next = world ∧ ∀ result, reply = .ok result → value = some result := by
  unfold Answer.collaborator at delivered
  split at delivered
  · obtain ⟨result, isValue, same⟩ := Option.map_eq_some_iff.mp delivered
    cases same
    refine ⟨rfl, ?_⟩
    rintro _ ⟨⟩
    exact isValue
  · cases delivered
    exact ⟨rfl, by simp⟩

/-- A cancellable wait changes nothing. -/
theorem Answer.cancellable_some (delivered : answer.cancellable world value = some (reply, next)) :
    next = world := by
  unfold Answer.cancellable at delivered
  split at delivered <;> cases delivered <;> rfl

theorem clock_neutral : Neutral codec (clock : Act σ Seconds) fun _ => True :=
  .answered fun _ _ _ => rfl

theorem perfCounter_neutral : Neutral codec (perfCounter : Act σ Seconds) fun _ => True :=
  .answered fun _ _ _ => rfl

theorem choose_neutral : Neutral codec (choose : Act σ Nat) fun _ => True :=
  .answered fun _ _ _ => rfl

theorem registeredToolNames_neutral :
    Neutral codec (registeredToolNames : Act σ (List String)) fun _ => True :=
  .answered fun _ _ _ => rfl

theorem scheduledCheckpoints_neutral :
    Neutral codec (scheduledCheckpoints : Act σ (List GraphCall)) fun _ => True :=
  .answered fun _ _ _ => rfl

theorem auxiliaryIo_neutral : Neutral codec (auxiliaryIo : Act σ Unit) fun _ => True :=
  .awaited (.call fun _ _ _ _ _ executed => ⟨Answer.cancellable_some executed, fun _ _ => trivial⟩)

theorem getDefinition_neutral (name : String) :
    Neutral codec (getDefinition name : Act σ ToolDefinition) fun _ => True :=
  .awaited (.call fun _ _ _ _ _ executed =>
    ⟨(Answer.collaborator_some executed).1, fun _ _ => trivial⟩)

theorem rehydrate_neutral :
    Neutral codec (rehydrate : Act σ (List (String × String))) fun _ => True :=
  .awaited (.call fun _ _ _ _ _ executed =>
    ⟨(Answer.collaborator_some executed).1, fun _ _ => trivial⟩)

theorem revalidateContext_neutral (context : RequestContext) :
    Neutral codec (awaited (Service.call (.revalidateContext context)) : Act σ RequestContext)
      fun _ => True :=
  .awaited (.call fun _ _ _ _ _ executed =>
    ⟨(Answer.collaborator_some executed).1, fun _ _ => trivial⟩)

theorem validateAnswer_neutral :
    Neutral codec
      (Service.call .validateAnswer : Act σ (Except Failure FinalAnswerValidationResult))
      fun result => ∀ validation, result = .ok validation →
        validation.citations.all AgentCitationRef.accepted = true := by
  refine .call ?_
  intro index answer world reply next executed
  obtain ⟨same, isValue⟩ := Answer.collaborator_some executed
  refine ⟨same, ?_⟩
  intro validation isOk
  exact (Option.filter_eq_some_iff.mp (isValue validation isOk)).2

theorem registryGate_neutral :
    Neutral codec (Service.call .registryGate : Act σ (Except Failure Unit)) fun _ => True := by
  refine .call ?_
  intro index answer world reply next executed
  exact ⟨(Answer.collaborator_some executed).1, trivial⟩

theorem handlerResult_neutral :
    Neutral codec (Service.call .handlerResult : Act σ (Except Failure ToolExecutionResult))
      fun result => ∀ value, result = .ok value →
        value.summary.all AgentObservationSummary.accepted = true := by
  refine .call ?_
  intro index answer world reply next executed
  obtain ⟨same, isValue⟩ := Answer.collaborator_some executed
  refine ⟨same, ?_⟩
  intro value isOk
  exact (Option.filter_eq_some_iff.mp (isValue value isOk)).2

end

/-! ## Transactions -/

/-- What a task knows that the others keep, and that its own operations keep as
long as they leave the shared executions alone. -/
structure Framed (codec : Codec) (actor : Actor (machine codec)) (pre : World → Prop) : Prop where
  stable : Stable actor pre
  own : ∀ world next, Safe codec world → Step codec actor world next →
    next.executions = world.executions → pre world → pre next

/-- What nobody ever undoes is framed. -/
theorem Framed.of_persistent (persistent : (discipline codec).Persistent pre) :
    Framed codec actor pre :=
  ⟨persistent.stable, fun world next safe step _ holds =>
    persistent actor world next safe step holds⟩

/-- Framed assertions are closed under conjunction. -/
theorem Framed.and (first : Framed codec actor left) (second : Framed codec actor right) :
    Framed codec actor fun world => left world ∧ right world :=
  ⟨first.stable.and second.stable, fun world next safe step same holds =>
    ⟨first.own world next safe step same holds.1, second.own world next safe step same holds.2⟩⟩

/-- Framed assertions are closed under disjunction. -/
theorem Framed.or (first : Framed codec actor left) (second : Framed codec actor right) :
    Framed codec actor fun world => left world ∨ right world :=
  ⟨first.stable.or second.stable, fun world next safe step same holds =>
    holds.imp (first.own world next safe step same) (second.own world next safe step same)⟩

/-- A fact that does not mention the world is framed. -/
theorem Framed.const (fact : Prop) : Framed codec actor fun _ => fact :=
  ⟨Discipline.Stable.const fact, fun _ _ _ _ _ holds => holds⟩

/-- How a transaction ends: delivered, refused, or interrupted before or after its
commit. -/
theorem Answer.transaction_some
    (delivered : answer.transaction current result = some (reply, next)) :
    (∃ value, reply = .ok value ∧ result = .ok (value, next)) ∨
      ∃ failure, reply = .error failure ∧ (result = .error (failure, next) ∨ next = current ∨
        ∃ value, result = .ok (value, next)) := by
  unfold Answer.transaction at delivered
  split at delivered
  · split at delivered
    · cases delivered
      exact Or.inl ⟨_, rfl, rfl⟩
    · cases delivered
      exact Or.inr ⟨_, rfl, Or.inl rfl⟩
  · split at delivered
    · split at delivered
      · cases delivered
        refine Or.inr ⟨_, rfl, Or.inr ?_⟩
        split
        · exact Or.inr ⟨_, rfl⟩
        · exact Or.inl rfl
      · cases delivered
        exact Or.inr ⟨_, rfl, Or.inr (Or.inl rfl)⟩
    · cases delivered

section

variable {σ α : Type} {pre : World → Prop} {state : σ}

/-- A transaction whose commit is a step of the task, delivered or not. -/
theorem transaction_step {current next : World} {ok : α → σ → World → Prop}
    {fail : Failure → σ → World → Prop} (framed : Framed codec actor pre)
    (safe : Safe codec current) (holds : pre current)
    (delivered : answer.transaction current result = some (reply, next))
    (raises : Raises pre fail state)
    (commits : ∀ value after, result = .ok (value, after) → Step codec actor current after ∧
      after.executions = current.executions ∧ (pre after → ok value state after))
    (refuses : ∀ failure after, result = .error (failure, after) → Step codec actor current after ∧
      after.executions = current.executions) :
    Step codec actor current next ∧ ((∃ value, reply = .ok value ∧ ok value state next) ∨
      ∃ failure, reply = .error failure ∧ fail failure state next) := by
  have kept : ∀ {after}, Step codec actor current after →
      after.executions = current.executions → pre after :=
    fun step same => framed.own current _ safe step same holds
  rcases Answer.transaction_some delivered with ⟨value, isOk, committed⟩ |
    ⟨failure, isError, refused | rfl | ⟨value, committed⟩⟩
  · obtain ⟨step, same, done⟩ := commits value next committed
    exact ⟨step, Or.inl ⟨value, isOk, done (kept step same)⟩⟩
  · obtain ⟨step, same⟩ := refuses failure next refused
    exact ⟨step, Or.inr ⟨failure, isError, raises failure next (kept step same)⟩⟩
  · exact ⟨.refl safe, Or.inr ⟨failure, isError, raises failure next holds⟩⟩
  · obtain ⟨step, same, _⟩ := commits value next committed
    exact ⟨step, Or.inr ⟨failure, isError, raises failure next (kept step same)⟩⟩

/-- Awaiting an operation that fails with nothing of the service's own. -/
theorem awaited_wp {operation : Act σ (Except Failure α)} {ok : α → σ → World → Prop}
    (holds : Ensures actor operation (fun reply next current =>
      (∃ value, reply = .ok value ∧ ok value next current) ∨
        ∃ failure, reply = .error failure ∧ fail failure next current) fail state world) :
    Ensures actor (awaited operation) ok fail state world := by
  refine wp_seq holds ?_
  rintro reply next current (⟨value, rfl, established⟩ | ⟨failure, rfl, established⟩)
  · exact wp_pure established
  · exact wp_throw established

section

variable {ok : α → σ → World → Prop}

/-- The retention purge, which every task may issue. -/
theorem purgeExpired_wp {ok : Unit → σ → World → Prop} (framed : Framed codec actor pre)
    (holds : pre world) (rest : ∀ current, pre current → ok () state current)
    (raises : Raises pre fail state) :
    Ensures actor (purgeExpired tenantId now) ok fail state world := by
  refine awaited_wp (wp_call framed.stable holds ?_)
  intro current safe established answer reply after executed
  have delivered : Answer.transaction answer current
      (.ok ((), current.purgeExpired actor.index tenantId now (Answer.names answer))) =
      some (reply, after) := executed
  apply transaction_step framed safe established delivered raises
  · rintro value after ⟨⟩
    exact ⟨Step.purge safe tenantId now (Answer.names answer), rfl, rest _⟩
  · rintro failure after ⟨⟩

/-- What a load hands out. -/
structure Loaded (world : World) (tenantId userId runId : String) (value : DurableSnapshot) :
    Prop where
  held : Held world value
  runId : value.runId = runId
  tenantId : value.tenantId = tenantId
  userId : value.userId = userId
  accepted : value.accepted = true

/-- A row that passes its validation is loaded. -/
theorem Loaded.of_validated (safe : Safe codec world)
    (found : (world.runs runId).chronicle.cell.run = some row)
    (validated : validatedSnapshot row tenantId userId runId = .ok value) :
    Loaded world tenantId userId runId value := by
  obtain ⟨_, accepted, ⟨_, _, isRun, isTenant, isUser⟩, rfl⟩ :=
    RunCell.validatedSnapshot_ok.mp validated
  refine ⟨?_, isRun, isTenant, isUser, accepted⟩
  have stored : (world.runs runId).stored = some row.snapshot := by simp [RunState.stored, found]
  rw [Held, isRun]
  exact RunState.stored_committed (safe.runs runId).fenced stored

/-- A transaction that only reads. -/
theorem reading_step (framed : Framed codec actor pre) (safe : Safe codec current)
    (holds : pre current)
    (delivered : answer.transaction current (reading current result) = some (reply, next))
    (rest : ∀ value, result = .ok value → ok value state current) (raises : Raises pre fail state) :
    Step codec actor current next ∧ ((∃ value, reply = .ok value ∧ ok value state next) ∨
      ∃ failure, reply = .error failure ∧ fail failure state next) := by
  apply transaction_step framed safe holds delivered raises
  · intro value after read
    cases result with
    | error failure => cases read
    | ok value =>
      cases read
      exact ⟨.refl safe, rfl, fun _ => rest value rfl⟩
  · intro failure after read
    cases result with
    | ok value => cases read
    | error failure =>
      cases read
      exact ⟨.refl safe, rfl⟩

/-- A load hands out a committed snapshot of the owner. -/
theorem loadRow_wp {ok : DurableSnapshot → σ → World → Prop} (framed : Framed codec actor pre)
    (holds : pre world) (rest : ∀ value current, Safe codec current → pre current →
      Loaded current tenantId userId runId value → ok value state current)
    (raises : Raises pre fail state) :
    Ensures actor (loadRow tenantId userId runId) ok fail state world := by
  refine awaited_wp (wp_call framed.stable holds ?_)
  intro current safe established answer reply after executed
  refine reading_step framed safe established executed ?_ raises
  intro value read
  obtain ⟨_, found, validated⟩ := RunCell.load_ok read
  exact rest value current safe established (.of_validated safe found validated)

/-- A keyed lookup hands out the run or nothing. -/
theorem lookupKeyedRow_wp {ok : Option DurableSnapshot → σ → World → Prop}
    (framed : Framed codec actor pre) (holds : pre world)
    (rest : ∀ found current, Safe codec current → pre current →
      (∀ value, found = some value → Loaded current tenantId userId runId value) →
      ok found state current) (raises : Raises pre fail state) :
    Ensures actor (lookupKeyedRow tenantId userId runId) ok fail state world := by
  refine awaited_wp (wp_call framed.stable holds ?_)
  intro current safe established answer reply after executed
  refine reading_step framed safe established executed ?_ raises
  intro value read
  refine rest value current safe established ?_
  rintro found rfl
  obtain ⟨_, _, atRow, validated⟩ := RunCell.lookupKeyed_some read
  exact .of_validated safe atRow validated

/-- The ownership check of a lease. -/
theorem ownsRow_wp {allowUnclaimed : Bool} {ok : Bool → σ → World → Prop}
    (framed : Framed codec actor pre) (holds : pre world)
    (rest : ∀ owned current, pre current → ok owned state current)
    (raises : Raises pre fail state) :
    Ensures actor (ownsRow snapshot token allowUnclaimed) ok fail state world := by
  refine awaited_wp (wp_call framed.stable holds ?_)
  intro current safe established answer reply after executed
  have delivered : Answer.transaction answer current (reading current
      (.ok ((current.runs snapshot.runId).chronicle.cell.owns snapshot token allowUnclaimed))) =
      some (reply, after) := executed
  exact reading_step framed safe established delivered
    (fun value _ => rest value current established) raises

/-- A ledger read fails only with a durable error. -/
theorem ledgerEntry_error {cell : RunCell}
    (refused : cell.ledgerEntry snapshot callId = .error failure) :
    ∃ code, failure = .durable code := by
  unfold ledgerEntry at refused
  split at refused
  · cases refused
    exact ⟨_, rfl⟩
  · split at refused <;> cases refused
    exact ⟨_, rfl⟩

/-- The ledger is read for a call the worker has reason to look up; a refusal is
written down. -/
theorem ledgerRow_wp {ok : ToolLedgerEntry → σ → World → Prop} (framed : Framed codec actor pre)
    (holds : pre world)
    (known : ∀ current, Safe codec current → pre current → Held current snapshot ∧
      (current.runs snapshot.runId).Recorded actor.index snapshot callId ∧
      Licensed codec actor current snapshot.runId)
    (rest : ∀ entry current, Safe codec current → pre current →
      (current.runs snapshot.runId).LedgerSeen snapshot callId entry → ok entry state current)
    (raises : Raises pre fail state) :
    Ensures actor (ledgerRow snapshot callId) ok fail state world := by
  refine awaited_wp (wp_call framed.stable holds ?_)
  intro current safe established answer reply after executed
  obtain ⟨held, recorded, licensed⟩ := known current safe established
  apply transaction_step framed safe established executed raises
  · intro value after read
    simp only [World.ledger] at read
    split at read
    · rename_i entry found
      cases read
      exact ⟨.refl safe, rfl, fun kept => rest value current safe kept fun _ => found⟩
    · cases read
  · intro failure after read
    simp only [World.ledger] at read
    split at read
    · cases read
    · rename_i raised refused
      obtain ⟨code, rfl⟩ := ledgerEntry_error refused
      cases read
      have noted : Noted codec actor.index (current.runs snapshot.runId)
          (.raised actor.index code snapshot) := .unreadable held recorded refused
      exact ⟨.note safe noted licensed, rfl⟩

end

section

variable {fail : Failure → σ → World → Prop}

/-- Only a keyed insert may find its row taken. -/
theorem insert_returns (inserts : operation.inserted = some snapshot)
    (performed : chronicle.perform codec operation = .ok (none, next)) :
    operation.insertToken ≠ none := by
  cases operation with
  | createKeyed fresh token => exact Option.some_ne_none token
  | create => cases Chronicle.perform_ok performed with | kept keeps => cases keeps
  | _ => cases inserts

/-- Inserting a new run; a used key is answered by `false`. -/
theorem insertRow_wp {ok : Bool → σ → World → Prop} (inserts : operation.inserted = some snapshot)
    (origin : Origin codec snapshot.runId snapshot) (framed : Framed codec actor pre)
    (holds : pre world) (permitted : ∀ (current : World) (state : RunState), pre current →
      .created actor.index operation.insertToken snapshot ∈ state.log →
      Licensed codec actor (current.setRun snapshot.runId state) snapshot.runId)
    (rest : ∀ inserted current, Safe codec current → pre current →
      (inserted = true ∨ operation.insertToken = none → Held current snapshot ∧
        .created actor.index operation.insertToken snapshot ∈
          (current.runs snapshot.runId).log) → ok inserted state current)
    (raises : Raises pre fail state) :
    Ensures actor (insertRow operation) ok fail state world := by
  refine awaited_wp (wp_call framed.stable holds ?_)
  intro current safe established answer reply after executed
  have delivered : Answer.transaction answer current
      (current.insert codec actor.index operation snapshot) = some (reply, after) := by
    simp only [machine, execute, inserts] at executed
    exact executed
  apply transaction_step framed safe established delivered raises
  · intro inserted next stored
    simp only [World.insert] at stored
    split at stored
    · cases stored
    · rename_i chronicle performed
      cases stored
      refine ⟨.refl safe, rfl, fun kept => rest _ _ safe kept ?_⟩
      rintro (isTrue | unkeyed)
      · cases isTrue
      · exact absurd unkeyed (insert_returns inserts performed)
    · rename_i returned chronicle performed
      cases stored
      have stepped : RunStep codec (Origin codec snapshot.runId) actor.index
          (current.runs snapshot.runId)
          ⟨chronicle, .created actor.index operation.insertToken snapshot ::
            (current.runs snapshot.runId).log⟩ := .insert inserts origin performed
      have step := Step.setRun safe stepped
        (permitted current _ established List.mem_cons_self) fun _ claims => absurd claims id
      refine ⟨step, rfl, fun kept => rest _ _ step.safe kept ?_⟩
      intro _
      rw [Held, World.setRun_same]
      refine ⟨?_, List.mem_cons_self⟩
      cases Chronicle.perform_ok performed with
      | inserted same =>
        cases inserts.symm.trans same
        exact List.mem_cons_self
      | acquired | saved | cancelled => cases inserts
  · intro failure next refused
    simp only [World.insert] at refused
    split at refused
    · rename_i raised isRefused
      cases refused
      exact ⟨.refl safe, rfl⟩
    · cases refused
    · cases refused

/-- A claim returns the snapshot it was given, up to its charge. -/
theorem lease_returns (leases : Operation.leases operation = true)
    (subject : operation.subject = some snapshot) (known : snapshot ∈ chronicle.committed)
    (performed : chronicle.perform codec operation = .ok (some saved, next)) :
    saved ∈ next.committed ∧ Reclaimed snapshot saved := by
  cases Chronicle.perform_ok performed with
  | acquired acquired committed =>
    cases subject
    obtain ⟨_, _, _, _, ⟨wallClock, rfl⟩ | ⟨budget, active, _, rfl⟩⟩ := acquire_ok acquired
    · rw [committed, wallClock]
      exact ⟨known, Or.inl rfl⟩
    · rw [committed, active]
      exact ⟨List.mem_cons_self, Or.inr ⟨budget, _, _, _, rfl⟩⟩
  | inserted inserts => cases inserts.symm.trans (Operation.inserted_of_leases leases)
  | saved | cancelled => cases leases

/-- A lease operation on a snapshot the store handed out. -/
theorem leaseRow_wp {ok : Option DurableSnapshot → σ → World → Prop}
    (leases : Operation.leases operation = true) (subject : operation.subject = some snapshot)
    (framed : Framed codec actor pre) (holds : pre world)
    (known : ∀ current, Safe codec current → pre current → Held current snapshot ∧
      Licensed codec actor current snapshot.runId ∧
      ∀ token, operation.claimToken = some token →
        ∃ task, ⟨token, .leaseToken, task⟩ ∈ current.issued)
    (rest : ∀ returned current, Safe codec current → pre current →
      (∀ saved, returned = some saved → Held current saved ∧ Reclaimed snapshot saved) →
      ok returned state current)
    (raises : Raises pre fail state) :
    Ensures actor (leaseRow operation) ok fail state world := by
  refine awaited_wp (wp_call framed.stable holds ?_)
  intro current safe established answer reply after executed
  obtain ⟨held, licensed, claims⟩ := known current safe established
  have delivered : Answer.transaction answer current
      (current.lease codec actor.index operation snapshot) = some (reply, after) := by
    simp only [execute, subject, leases] at executed
    exact executed
  apply transaction_step framed safe established delivered raises
  · intro returned next stored
    simp only [World.lease] at stored
    split at stored
    · cases stored
    · rename_i given chronicle performed
      cases stored
      have step := Step.logs safe licensed ?_ (.lease leases ?_ performed)
      · refine ⟨step, rfl, fun kept => rest _ _ step.safe kept ?_⟩
        rintro saved rfl
        obtain ⟨committed, reclaimed⟩ := lease_returns leases subject held performed
        refine ⟨?_, reclaimed⟩
        rw [Held, reclaimed.runId, World.setRun_same]
        exact committed
      · intro token claimed
        refine claims token ?_
        cases operation <;> first | exact congrArg some claimed | exact absurd claimed id
      · intro other isSubject
        cases subject.symm.trans isSubject
        exact held
  · intro failure next refused
    simp only [World.lease] at refused
    split at refused
    · cases refused
      exact ⟨.refl safe, rfl⟩
    · cases refused

/-- A worker's newest event of a run. -/
def LatestBy (state : RunState) (task : Nat) (event : Event) : Prop :=
  ∃ newer older, state.log = newer ++ event :: older ∧ ∀ other ∈ newer, other.task ≠ task

/-- Other tasks do not write events of this one. -/
theorem latestBy_stable :
    Stable actor fun world => LatestBy (world.runs runId) actor.index event := by
  rintro other world next differs _ step ⟨newer, older, log, others⟩
  rcases step.runs runId with same | ⟨stepped, _⟩
  · rw [same]
    exact ⟨newer, older, log, others⟩
  · obtain ⟨newest, logged, isTask⟩ := stepped.logs
    refine ⟨newest :: newer, older, by rw [logged, log]; rfl, ?_⟩
    intro event isIn
    rcases List.mem_cons.mp isIn with rfl | earlier
    · rw [isTask]
      exact differs
    · exact others event earlier

/-- What a save leaves: its event is the worker's newest, and the snapshot was
settled from the one it passed. -/
structure Saved (actor : Actor (machine codec)) (site : Site)
    (previous snapshot saved : DurableSnapshot) (world : World) : Prop where
  held : Held world saved
  runId : saved.runId = previous.runId
  latest : LatestBy (world.runs previous.runId) actor.index (.saved actor.index site previous saved)
  settled : ∃ now, savedSnapshot previous snapshot now = .ok saved

/-- A save that is admissible wherever interference may take the world. -/
theorem saveRow_wp {site : Site} {previous : DurableSnapshot} (stable : Stable actor pre)
    (framed : Framed codec actor kept) (keeps : ∀ current, pre current → kept current)
    (holds : pre world) (forward : previous.lastObservedAt ≤ now)
    (known : ∀ current, Safe codec current → pre current → Held current previous ∧
      Licensed codec actor current previous.runId ∧
      Admissible codec actor.index (current.runs previous.runId) site previous snapshot entry)
    (rest : ∀ saved current, Safe codec current → kept current →
      Saved actor site previous snapshot saved current → ok saved state current)
    (raises : Raises kept fail state) :
    Ensures actor (saveRow site previous snapshot token now entry) ok fail state world := by
  refine awaited_wp (wp_call stable holds ?_)
  intro current safe established answer reply after executed
  obtain ⟨held, licensed, admissible⟩ := known current safe established
  apply transaction_step framed safe (keeps current established) executed raises
  · intro saved next stored
    simp only [World.save] at stored
    split at stored
    · rename_i result chronicle performed
      cases stored
      obtain ⟨committed, isSaved, isResult, extended⟩ := Chronicle.perform_save performed
      cases isResult
      obtain ⟨_, _, _, _, settled, _⟩ := save_ok isSaved
      have isRun : saved.runId = previous.runId :=
        ((savedSnapshot_sameRun settled).trans admissible.sameRun).runId
      have step := Step.logs safe licensed (fun _ claims => absurd claims id)
        (.save held admissible forward performed)
      refine ⟨step, rfl, fun kept => rest _ _ step.safe kept
        ⟨?_, isRun, ⟨[], (current.runs previous.runId).log, ?_, by simp⟩, now, settled⟩⟩
      · rw [Held, isRun, World.setRun_same]
        change saved ∈ chronicle.committed
        rw [extended]
        exact List.mem_cons_self
      · rw [World.setRun_same]
        rfl
    · cases stored
    · cases stored
  · intro failure next refused
    simp only [World.save] at refused
    split at refused
    · cases refused
    · cases refused
      exact ⟨.refl safe, rfl⟩
    · rename_i raised isRefused
      cases refused
      split
      · rename_i immutable
        subst immutable
        have noted : Noted codec actor.index (current.runs previous.runId)
            (.raised actor.index "DURABLE_LEDGER_IMMUTABLE" previous) := by
          refine @Noted.immutable _ _ _ _ _ _ token now _ held admissible ?_
          rcases bind_error.mp isRefused with atCell | ⟨_, _, returned⟩
          · exact atCell
          · cases returned
        exact ⟨.note safe noted licensed, rfl⟩
      · exact ⟨.refl safe, rfl⟩

/-- A cancellation of a snapshot the store handed out. -/
theorem cancelRow_wp {previous : DurableSnapshot} {ownership : Option String}
    (framed : Framed codec actor pre) (holds : pre world)
    (known : ∀ current, Safe codec current → pre current → Held current previous)
    (permitted : ∀ current saved next, Safe codec current → pre current →
      (current.runs previous.runId).chronicle.perform codec
        (.cancel previous now ownership allowUnclaimed) = .ok (some saved, next) →
      Licensed codec actor current previous.runId)
    (rest : ∀ saved current, Safe codec current → pre current → Held current saved →
      saved.runId = previous.runId → ok saved state current)
    (raises : Raises pre fail state) :
    Ensures actor (cancelRow previous now ownership allowUnclaimed) ok fail state world := by
  refine awaited_wp (wp_call framed.stable holds ?_)
  intro current safe established answer reply after executed
  have held := known current safe established
  apply transaction_step framed safe established executed raises
  · intro saved next stored
    simp only [World.cancel] at stored
    split at stored
    · rename_i result chronicle performed
      cases stored
      obtain ⟨committed, isSaved, isResult, extended⟩ := Chronicle.perform_cancel performed
      cases isResult
      obtain ⟨_, _, _, settled, _⟩ := cancel_ok isSaved
      have isRun : saved.runId = previous.runId := by rw [cancelledSnapshot_frame settled]
      have licensed := permitted current saved chronicle safe established performed
      have step := Step.logs safe licensed (fun _ claims => absurd claims id)
        (.cancel held performed)
      refine ⟨step, rfl, fun kept => rest _ _ step.safe kept ?_ isRun⟩
      rw [Held, isRun, World.setRun_same]
      change saved ∈ chronicle.committed
      rw [extended]
      exact List.mem_cons_self
    · cases stored
    · cases stored
  · intro failure next refused
    simp only [World.cancel] at refused
    split at refused
    · cases refused
    · cases refused
      exact ⟨.refl safe, rfl⟩
    · cases refused
      exact ⟨.refl safe, rfl⟩

/-! ## Notes -/

section

variable (stable : Stable actor pre) (framed : Framed codec actor kept)
  (keeps : ∀ current, pre current → kept current)

include stable framed keeps

/-- An operation that writes a note. -/
theorem noted_wp {op : Op} {reply : op.Reply} {ok : op.Reply → σ → World → Prop} (holds : pre world)
    (notes : ∀ answer current, execute codec actor.index op answer current =
      some (reply, current.note runId event))
    (known : ∀ current, Safe codec current → pre current → Licensed codec actor current runId ∧
      Noted codec actor.index (current.runs runId) event)
    (rest : ∀ current, kept current → event ∈ (current.runs runId).log → ok reply state current) :
    Ensures actor (call op) ok fail state world := by
  refine wp_call stable holds ?_
  intro current safe established answer reply after executed
  cases (notes answer current).symm.trans executed
  obtain ⟨licensed, noted⟩ := known current safe established
  have step := Step.note safe noted licensed
  refine ⟨step, rest _ (framed.own current _ safe step rfl (keeps current established)) ?_⟩
  rw [World.note, World.setRun_same]
  exact List.mem_cons_self

/-- An error whose branch is written down. -/
theorem raiseRecorded_wp (holds : pre world)
    (known : ∀ current, Safe codec current → pre current →
      Licensed codec actor current snapshot.runId ∧
      Noted codec actor.index (current.runs snapshot.runId) (.raised actor.index code snapshot))
    (raises : ∀ current, kept current → fail (.durable code) state current) :
    Ensures actor (raiseRecorded code snapshot : Act σ α) ok fail state world :=
  wp_bind (noted_wp stable framed keeps holds (fun _ _ => rfl) known
    fun current kept _ => wp_throw (raises current kept))

/-- The model is called under a reservation that was not used yet. -/
theorem nextStep_wp (holds : pre world)
    (known : ∀ current, Safe codec current → pre current → Licensed codec actor current runId ∧
      Noted codec actor.index (current.runs runId) (.modelCalled actor.index attempt))
    (rest : ∀ reply current, kept current →
      (∀ decision, reply = .ok decision → decision.accepted = true) → ok reply state current) :
    Ensures actor (call (.nextStep runId attempt)) ok fail state world := by
  refine wp_call stable holds ?_
  intro current safe established answer reply after executed
  obtain ⟨licensed, noted⟩ := known current safe established
  have step := Step.note safe noted licensed
  have kept := framed.own current _ safe step rfl (keeps current established)
  simp only [execute, World.nextStep] at executed
  split at executed
  · cases executed
    exact ⟨step, rest _ _ kept (by simp)⟩
  · rename_i decision _ _
    cases executed
    refine ⟨step, rest _ _ kept ?_⟩
    intro other isOk
    split at isOk
    · rename_i accepted
      cases isOk
      exact accepted
    · cases isOk
  · cases executed

/-- A handler starts under the worker's own dispatch, unless it was revoked. -/
theorem startHandler_wp (holds : pre world)
    (known : ∀ current execution, Safe codec current → pre current →
      current.executions[handle]? = some execution → execution.revocationError = none →
      Licensed codec actor current execution.snapshot.runId ∧
      Noted codec actor.index (current.runs execution.snapshot.runId)
        (.handlerStarted actor.index callId definition))
    (rest : ∀ reply current, kept current → ok reply state current) :
    Ensures actor (call (.startHandler handle callId definition)) ok fail state world := by
  refine wp_call stable holds ?_
  intro current safe established answer reply after executed
  have kept := keeps current established
  simp only [execute, World.startHandler, Option.bind_eq_bind] at executed
  obtain ⟨execution, found, executed⟩ := Option.bind_eq_some_iff.mp executed
  split at executed
  · cases executed
    exact ⟨.refl safe, rest _ _ kept⟩
  · rename_i unrevoked
    have isNone : execution.revocationError = none := by simpa using unrevoked
    obtain ⟨licensed, noted⟩ := known current execution safe established found isNone
    split at executed
    · cases executed
      have step := Step.note safe noted licensed
      exact ⟨step, rest _ _ (framed.own current _ safe step rfl kept)⟩
    · cases executed
      exact ⟨.refl safe, rest _ _ kept⟩

end

/-! ## Identifiers -/

/-- A drawn identifier is new. -/
theorem uuid4_wp (framed : Framed codec actor pre) (holds : pre world)
    (rest : ∀ text current, Safe codec current → pre current →
      ⟨text, draw, actor.index⟩ ∈ current.issued → codec.uuidVersion text = 4 →
      ok text state current) :
    Ensures actor (uuid4 draw) ok fail state world := by
  refine wp_call framed.stable holds ?_
  intro current safe established answer reply after executed
  simp only [execute] at executed
  split at executed
  · rename_i drawn
    cases executed
    have unused : answer.text ∉ current.issued.map (·.text) := by
      intro isIn
      obtain ⟨identifier, isIssued, same⟩ := List.mem_map.mp isIn
      have differs := List.all_eq_true.mp drawn.2 identifier isIssued
      simp [same] at differs
    have step : Step codec actor current
        { current with issued := ⟨answer.text, draw, actor.index⟩ :: current.issued } :=
      .draw safe unused
    exact ⟨step, rest _ _ step.safe (framed.own current _ safe step rfl established)
      List.mem_cons_self drawn.1⟩
  · cases executed

end

/-! ## Shared executions -/

section

variable {fail : Failure → σ → World → Prop}

/-- Assigning what is there changes nothing. -/
theorem World.setExecution_self {execution : SharedExecution}
    (found : world.executions[handle]? = some execution) :
    world.setExecution handle execution = world := by
  have same : world.executions.set handle execution = world.executions := by
    obtain ⟨bound, rfl⟩ := List.getElem?_eq_some_iff.mp found
    exact List.set_getElem_self bound
  rw [World.setExecution, same]

/-- The execution that was assigned. -/
theorem World.setExecution_found (found : world.executions[handle]? = some before) :
    (world.setExecution handle after).executions[handle]? = some after := by
  have bound := (List.getElem?_eq_some_iff.mp found).1
  simp [World.setExecution, bound]

/-- How an operation on one shared execution is executed. -/
theorem World.withExecution_some
    (executed : world.withExecution handle update = some (value, next)) :
    ∃ before after, world.executions[handle]? = some before ∧
      update before = some (value, after) ∧ next = world.setExecution handle after := by
  simp only [World.withExecution, Option.bind_eq_bind] at executed
  obtain ⟨before, found, executed⟩ := Option.bind_eq_some_iff.mp executed
  obtain ⟨⟨_, after⟩, updated, returned⟩ := Option.bind_eq_some_iff.mp executed
  cases returned
  exact ⟨before, after, found, updated, rfl⟩

section

variable (stable : Stable actor pre) (holds : pre world)

include stable holds

/-- Reading the shared execution. -/
theorem execution_wp (rest : ∀ self current, Safe codec current → pre current →
      current.executions[handle]? = some self → ok self state current) :
    Ensures actor (execution handle) ok fail state world := by
  refine wp_call stable holds ?_
  intro current safe established answer reply after executed
  obtain ⟨_, _, found, isUpdate, rfl⟩ := World.withExecution_some executed
  cases isUpdate
  rw [World.setExecution_self found]
  exact ⟨.refl safe, rest _ current safe established found⟩

/-- Assigning the snapshot: its owner may, and anyone after a revocation. -/
theorem assignSnapshot_wp (known : ∀ current self, Safe codec current → pre current →
      current.executions[handle]? = some self → Held current snapshot ∧
      snapshot.runId = self.snapshot.runId ∧
      (self.revocationError.isSome ∧ (∀ task, self.owner ≠ .request task) ∨
        self.owner = .request actor.index ∨ self.owner = .business actor.index))
    (rest : ∀ current self, Safe codec current → pre current →
      current.executions[handle]? = some self →
      Step codec actor current (current.setExecution handle { self with snapshot }) →
      ok () state (current.setExecution handle { self with snapshot })) :
    Ensures actor (assignSnapshot handle snapshot) ok fail state world := by
  refine wp_call stable holds ?_
  intro current safe established answer reply after executed
  obtain ⟨self, _, found, isUpdate, rfl⟩ := World.withExecution_some executed
  cases isUpdate
  obtain ⟨held, isRun, permitted⟩ := known current self safe established found
  have reserved : ∀ other, self.owner = .request other → other ≠ actor.index →
      { self with snapshot } = self := by
    intro other isRequest differs
    rcases permitted with ⟨_, left⟩ | mine | isBusiness
    · exact absurd isRequest (left other)
    · rw [isRequest, Owner.request.injEq] at mine
      exact absurd mine differs
    · rw [isRequest] at isBusiness
      cases isBusiness
  have step : Step codec actor current (current.setExecution handle { self with snapshot }) :=
    .setExecution safe found
      ⟨rfl, isRun, id, Or.inl rfl, Or.inr (permitted.imp And.left id), reserved⟩ fun _ => held
  exact ⟨step, rest current self safe established found step⟩

/-- Revoking the shared execution. -/
theorem revoke_wp (known : ∀ current self, pre current → current.executions[handle]? = some self →
      ∀ other, self.owner = .request other → other = actor.index)
    (rest : ∀ current next self, Safe codec current → pre current →
      current.executions[handle]? = some self → Step codec actor current next →
      Revoked next handle → ok () state next) :
    Ensures actor (revoke handle error) ok fail state world := by
  refine wp_call stable holds ?_
  intro current safe established answer reply after executed
  obtain ⟨self, _, found, isUpdate, rfl⟩ := World.withExecution_some executed
  cases isUpdate
  have step : Step codec actor current (current.setExecution handle { self with
      revocationError := self.revocationError <|>
        some (error.getD (durableError "DURABLE_LEASE_LOST")) }) := by
    refine .setExecution safe found ⟨rfl, rfl, ?_, Or.inl rfl, Or.inl rfl, ?_⟩
      fun left => safe.executions handle self found left
    swap
    · intro other isRequest differs
      exact absurd (known current self established found other isRequest) differs
    intro revoked
    cases isRevoked : self.revocationError with
    | none => simp [isRevoked] at revoked
    | some earlier => rfl
  refine ⟨step, rest current _ self safe established found step
    ⟨_, World.setExecution_found found, ?_⟩⟩
  cases self.revocationError with
  | none => rfl
  | some earlier => rfl

/-- A request leaves its execution to the children it is about to start. -/
theorem handOver_wp (known : ∀ current self, Safe codec current → pre current →
      current.executions[handle]? = some self → Held current self.snapshot)
    (rest : ∀ current self, Safe codec current → pre current →
      current.executions[handle]? = some self →
      Step codec actor current (current.setExecution handle { self with owner := .waiting }) →
      ok () state (current.setExecution handle { self with owner := .waiting })) :
    Ensures actor (call (.handOver handle)) ok fail state world := by
  refine wp_call stable holds ?_
  intro current safe established answer reply after executed
  obtain ⟨self, _, found, isUpdate, rfl⟩ := World.withExecution_some executed
  split at isUpdate
  · rename_i isRequest
    cases isUpdate
    have reserved : ∀ other, self.owner = .request other → other ≠ actor.index →
        { self with owner := .waiting } = self := by
      intro other isOther differs
      rw [isOther, Owner.request.injEq] at isRequest
      exact absurd isRequest differs
    have step : Step codec actor current
        (current.setExecution handle { self with owner := .waiting }) :=
      .setExecution safe found
        ⟨rfl, rfl, id, Or.inr (Or.inl ⟨isRequest, rfl⟩), Or.inl rfl, reserved⟩
        fun _ => known current self safe established found
    exact ⟨step, rest current self safe established found step⟩
  · cases isUpdate

/-- A business task takes over the execution that waits for it. -/
theorem attach_wp (rest : ∀ current self, Safe codec current → pre current →
      current.executions[handle]? = some self → self.owner = .waiting →
      Step codec actor current
        (current.setExecution handle { self with owner := .business actor.index }) →
      ok self state (current.setExecution handle { self with owner := .business actor.index })) :
    Ensures actor (call (.attach handle)) ok fail state world := by
  refine wp_call stable holds ?_
  intro current safe established answer reply after executed
  obtain ⟨self, _, found, isUpdate, rfl⟩ := World.withExecution_some executed
  split at isUpdate
  · rename_i isWaiting
    obtain ⟨rfl, rfl⟩ := Prod.mk.inj (Option.some.inj isUpdate)
    have step : Step codec actor current
        (current.setExecution handle { self with owner := .business actor.index }) := by
      refine .setExecution safe found
        ⟨rfl, rfl, id, Or.inr (Or.inr ⟨isWaiting, rfl⟩), Or.inl rfl, ?_⟩ fun _ => ?_
      · intro other isRequest
        rw [isWaiting] at isRequest
        cases isRequest
      refine safe.executions handle self found fun task => ?_
      rw [isWaiting]
      simp
    exact ⟨step, rest current self safe established found isWaiting step⟩
  · cases isUpdate

/-- Starting a task whose needs are met wherever interference may take the world. -/
theorem start_wp (needs : ∀ current, Safe codec current → pre current → Needs codec current code)
    (rest : ∀ current, pre current → ok () state current) :
    Ensures actor (Task.start code : Act σ Unit) ok fail state world :=
  wp_start fun current rely safe =>
    have established := stable.rely rely holds
    ⟨needs current safe established, rest current established⟩

end

/-- A child records how it ended, in an execution that has left its request. -/
theorem done_wp (left : Left world handle)
    (executes : ∀ answer current, execute codec actor.index op answer current =
      current.withExecution handle update)
    (records : ∀ before reply next, update before = some (reply, next) →
      next.snapshot = before.snapshot ∧ next.token = before.token ∧ next.owner = before.owner ∧
        next.revocationError = before.revocationError)
    (rest : ∀ reply current, Left current handle → ok reply state current) :
    Ensures actor (call op) ok fail state world := by
  have persistent : (discipline codec).Persistent (Left · handle) := left_persistent handle
  refine wp_call persistent.stable left ?_
  rintro current safe ⟨before, found, left⟩ answer reply after executed
  obtain ⟨other, next, foundOther, isNext, rfl⟩ :=
    World.withExecution_some ((executes answer current).symm.trans executed)
  cases found.symm.trans foundOther
  obtain ⟨snapshot, token, owner, revoked⟩ := records before reply next isNext
  have step : Step codec actor current (current.setExecution handle next) := by
    refine .setExecution safe found ⟨token, by rw [snapshot], by rw [revoked]; exact id,
      Or.inl owner, Or.inl snapshot, fun other isRequest _ => absurd isRequest (left other)⟩ ?_
    rw [owner, snapshot]
    exact fun left => safe.executions handle before found left
  exact ⟨step, rest reply _ (persistent actor current _ safe step ⟨before, found, left⟩)⟩

/-- Creating a shared execution. -/
theorem newExecution_wp (persistent : (discipline codec).Persistent pre) (holds : pre world)
    (rest : ∀ handle current, Safe codec current → pre current → current.executions[handle]? =
      some ⟨snapshot, token, none, .request actor.index, none, none⟩ → ok handle state current) :
    Ensures actor (newExecution snapshot token) ok fail state world := by
  refine wp_call persistent.stable holds ?_
  intro current safe established answer reply after executed
  cases executed
  have step : Step codec actor current { current with executions := current.executions ++
      [⟨snapshot, token, none, .request actor.index, none, none⟩] } := .newExecution safe rfl
  exact ⟨step, rest _ _ step.safe (persistent actor current _ safe step established) (by simp)⟩

theorem waitTasks_neutral (handle : Nat) {σ : Type} :
    Neutral codec (awaited (call (.waitTasks handle)) : Act σ _) fun _ => True := by
  refine .awaited (.call ?_)
  intro index answer world reply next executed
  simp only [execute] at executed
  split at executed
  · cases executed
  · exact ⟨Answer.cancellable_some executed, fun _ _ => trivial⟩

end

/-! ## Loops -/

/-- A loop of the source keeps what each round keeps. -/
theorem repeatUntil_wp {body : Act σ (Option α)} {invariant : σ → World → Prop}
    {ok : α → σ → World → Prop} (stable : ∀ state, Stable actor (invariant state))
    (holds : invariant state world) (round : ∀ state current, invariant state current →
      Ensures actor body (fun result next current => match result with
        | some value => ok value next current
        | none => invariant next current) fail state current) :
    Ensures actor (repeatUntil body) ok fail state world := by
  refine wp_bind (wp_call (stable state) holds ?_)
  intro current safe established answer reply after executed
  cases executed
  refine ⟨.refl safe, wp_iterate round ?_ _ established⟩
  intro next current established
  refine wp_bind (wp_call (stable next) established ?_)
  intro current safe now answer reply after executed
  cases executed

end

/-! ## What a program leaves -/

/-- Whether it returns or raises, the program brings one condition about from another. -/
def Brings (actor : Actor (machine codec)) {σ α : Type} (pre : World → Prop) (task : Act σ α)
    (post : World → Prop) : Prop :=
  ∀ state world, pre world → Ensures actor task (fun _ _ => post) (fun _ _ => post) state world

section

variable {σ α β : Type}

/-- A task that brings an assertion, used as a rule. -/
theorem Brings.wp (brings : Brings actor pre task post) (holds : pre world)
    (rest : ∀ value state current, post current → ok value state current)
    (raises : ∀ failure state current, post current → fail failure state current) :
    Ensures actor task ok fail state world :=
  wp_mono (brings state world holds) rest raises

/-- Tasks that bring assertions compose. -/
theorem Brings.bind (first : Brings actor pre task middle)
    (rest : ∀ value, Brings actor middle (after value) post)
    (raises : ∀ current, middle current → post current) :
    Brings actor pre (task >>= after) post :=
  fun _ _ holds => wp_bind (first.wp holds (fun value => rest value) fun _ _ => raises)

/-- Failures that are caught keep what was brought. -/
theorem Brings.attempt (brings : Brings actor pre task post) :
    Brings actor pre (Task.attempt task) post :=
  fun state world holds => wp_attempt (brings state world holds)

/-- A neutral task keeps what is stable. -/
theorem Neutral.brings (neutral : Neutral codec task returns) (stable : Stable actor pre) :
    Brings actor pre task pre :=
  fun _ _ holds => neutral.wp stable holds (fun _ _ _ kept => kept) fun _ _ kept => kept

/-- A loop keeps what each round keeps. -/
theorem Brings.repeatUntil {body : Act σ (Option α)} (round : Brings actor pre body pre)
    (stable : Stable actor pre) : Brings actor pre (repeatUntil body) pre := by
  intro state world holds
  have invariant : (fun (_ : σ) => pre) state world := holds
  refine repeatUntil_wp (fun _ => stable) invariant ?_
  intro state current holds
  refine round.wp holds ?_ fun _ _ _ kept => kept
  intro result _ _ kept
  cases result <;> exact kept

end

end AegisRag.Agent.Durable.Service
