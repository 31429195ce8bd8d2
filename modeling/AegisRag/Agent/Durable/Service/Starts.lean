import AegisRag.Agent.Durable.Service.Answers

/-!
# Keyed starts

A start with an idempotency key computes its run id from the key, so all starts
with one key meet at one row, which is inserted at most once. A start that did
not insert it answers with the run, a conflict or the expiry of the run.
-/

namespace AegisRag.Agent.Durable.Service

open Semantics Deployment

/-! ## Runs on the deployment -/

namespace Deployment

/-- A command for a background run under one key. -/
def keyedCommand (input : String) : DurableStartCommand :=
  { input, idempotencyKey := some "key", executionMode := .background }

def keyedStart (input : String) : Code :=
  .start { backgroundEnabled := true } member (keyedCommand input)

/-- The first start inserts the run and leaves it to a worker. -/
def firstStart : List (Move (machine codec)) :=
  request (keyedStart "hello") ::
    (steps 0 4 (answer 1000 false "drawn") ++ steps 0 9 (answer 1000 false "token"))

/-- The same command is sent again. -/
def secondStart : List (Move (machine codec)) :=
  firstStart ++ (request (keyedStart "hello") :: steps 1 5 (answer 1000 false "again"))

/-- Another command is sent under the key once the run has expired. -/
def otherStart : List (Move (machine codec)) :=
  firstStart ++ (request (keyedStart "other") ::
    steps 1 7 { answer 90000 false "again" with names := ["keyed-run"] })

end Deployment

section

variable {codec : Codec} {pool : Pool (machine codec)}

/-! ## What a task writes down about a run -/

/-- All that the task did to the run was to remove it. -/
def OnlyPurges (world : World) (task : Nat) (runId : String) : Prop :=
  ∀ event ∈ (world.runs runId).log, event.task = task → event = .purged task

/-- Apart from purges, a task touches only runs that its code licenses it to touch. -/
theorem touches_licensed (reachable : pool.Reachable) (found : pool.threads[index]? = some thread)
    (runId : String) :
    OnlyPurges pool.world index runId ∨ Licensed codec ⟨index, thread.code⟩ pool.world runId := by
  refine (discipline_sound codec).attributed
    (fun index world => ∀ runId, ∀ event ∈ (world.runs runId).log, event.task ≠ index)
    (fun actor world => ∀ runId, OnlyPurges world actor.index runId ∨
      Licensed codec actor world runId) ?_ ?_ ?_ ?_ reachable found runId
  · simp [World.initial, RunState.initial]
  · intro actor world unused runId
    exact Or.inl fun event isIn isTask => absurd isTask (unused runId event isIn)
  · intro index other world next safe step differs unused runId event isIn
    rcases step.runs runId with same | ⟨stepped, _⟩
    · rw [same] at isIn
      exact unused runId event isIn
    · obtain ⟨newest, logged, isTask⟩ := stepped.logs
      rw [logged] at isIn
      rcases List.mem_cons.mp isIn with rfl | older
      · rw [isTask]
        exact differs
      · exact unused runId event older
  · intro actor other world next safe step same own runId
    rcases own runId with purges | licensed
    swap
    · exact Or.inr (licensed_persistent actor other world next safe step licensed)
    rcases step.runs runId with unchanged | ⟨stepped, permitted⟩
    · left
      rw [OnlyPurges, unchanged]
      exact purges
    · obtain ⟨newest, logged, isTask⟩ := stepped.logs
      by_cases isActor : other.index = actor.index
      · obtain rfl := same isActor
        rcases permitted with purged | licensed
        · left
          intro event isIn isOwn
          rw [purged] at isIn
          rcases List.mem_cons.mp isIn with isNewest | older
          · exact isNewest
          · exact purges event older isOwn
        · exact Or.inr licensed
      · left
        intro event isIn isOwn
        rw [logged] at isIn
        rcases List.mem_cons.mp isIn with rfl | older
        · exact absurd (isTask.symm.trans isOwn) isActor
        · exact purges event older isOwn

/-- A start drives only a run it inserted. -/
theorem driving_inserted (reachable : pool.Reachable)
    (drives : .driving task true ∈ (pool.world.runs runId).log) :
    ∃ token snapshot, .created task token snapshot ∈ (pool.world.runs runId).log := by
  have along : Along (fun event older => ∀ task, event = .driving task true →
      ∃ token snapshot, .created task token snapshot ∈ older) (pool.world.runs runId).log := by
    refine (pool_refines reachable runId).along _ ?_
    rintro worker state next event reached effect logged task rfl
    cases effect.noted_of_log logged rfl with
    | driving inserted => exact inserted rfl
  obtain ⟨_, older, log, fact⟩ := along.of_mem drives
  obtain ⟨token, snapshot, isIn⟩ := fact task rfl
  refine ⟨token, snapshot, ?_⟩
  rw [log]
  exact List.mem_append_right _ (List.mem_cons_of_mem _ isIn)

/-- A run is removed only once it has expired at the reading of the purge. -/
theorem purged_expired (reachable : pool.Reachable) (moved : pool.move move = some next)
    (logged : (next.world.runs runId).log = .purged task :: (pool.world.runs runId).log) :
    ∃ tenantId now, (pool.world.runs runId).chronicle.cell.purgeable tenantId now = true := by
  have unlogged : ∀ world : World, world.runs runId = pool.world.runs runId →
      (world.runs runId).log ≠ .purged task :: (pool.world.runs runId).log := by
    intro world same isLogged
    rw [same] at isLogged
    exact absurd isLogged.symm (List.cons_ne_self _ _)
  rcases (discipline_sound codec).move reachable moved with same | ⟨_, _, _, step⟩
  · exact absurd logged (unlogged next.world (by rw [same]))
  · rcases step.runs runId with same | ⟨stepped, _⟩
    · exact absurd logged (unlogged next.world same)
    · generalize next.world.runs runId = after at stepped logged
      cases stepped with
      | purge expired => exact ⟨_, _, expired⟩
      | insert | lease | cancel | save => simp at logged
      | note noted =>
        simp only [List.cons.injEq, and_true] at logged
        rw [logged] at noted
        cases noted

/-! ## Idempotency -/

def insertionToken : Event → Option String
  | .created _ token _ => token
  | _ => none

/-- The owner's key and the fingerprint under which a finished start was answered with a run. -/
def answeredKey : Thread (machine codec) → Option (Option String × String × String × String)
  | ⟨.start _ context command, some (.done (.response (.ok _)))⟩ =>
    some (command.idempotencyKey, context.auth.tenantId, context.auth.userId,
      codec.startCommandFingerprint command)
  | _ => none

/-- The deployment's run ids tell owners apart. -/
theorem Deployment.keyedRunId_owner (tenant user key : String)
    (same : Deployment.codec.keyedRunId tenant user key = "keyed-run") :
    tenant = "tenant" ∧ user = "user" := by
  simp only [Codec.keyedRunId, Deployment.codec] at same
  split at same
  · rename_i isOwner
    cases isOwner
    exact ⟨rfl, rfl⟩
  · simp at same

/-- The code of the error that a finished request answered with. -/
def answeredError : Thread (machine codec) → Option String
  | ⟨_, some (.done (.response (.error (.domain error))))⟩ => some error.code
  | _ => none

/-- Whether an event removes the run, and which task logged it. -/
def purger : Event → Option Nat
  | .purged task => some task
  | _ => none

end

end AegisRag.Agent.Durable.Service
