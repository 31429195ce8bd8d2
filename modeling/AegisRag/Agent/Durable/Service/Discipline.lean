import AegisRag.Agent.Durable.Budget
import AegisRag.Agent.Durable.Service.Requests

/-!
# What the service's tasks guarantee to each other

`Safe` says that every run of the shared world is a reachable run of the journal.
`Step` is what one operation of one task may do: a step of the journal on each
run it touches, under a license of the task's code, and a pass of the shared
executions that leaves a snapshot to its owner until somebody revokes it.
-/

namespace AegisRag.Agent.Durable.Service

open Semantics

/-! ## Runs -/

/-- The snapshots `start` inserts under a run id: an unkeyed one has a drawn id, a
keyed one an id and a startup record made from the key and the command. -/
def Origin (codec : Codec) (runId : String) (snapshot : DurableSnapshot) : Prop :=
  ∃ service context command startup now,
    snapshot = DurableAgentService.newSnapshot service context command runId startup now ∧
      snapshot.accepted = true ∧
      match command.idempotencyKey with
      | none => startup = none ∧ codec.uuidVersion runId = 4
      | some key =>
        runId = codec.keyedRunId context.auth.tenantId context.auth.userId key ∧
          startup = some ⟨codec.startCommandFingerprint command⟩

theorem Origin.fresh {runId : String} (origin : Origin codec runId snapshot) : Fresh snapshot := by
  obtain ⟨_, _, _, _, _, rfl, _⟩ := origin
  exact ⟨rfl, rfl, rfl, rfl, rfl, rfl⟩

theorem Origin.runId {runId : String} (origin : Origin codec runId snapshot) :
    snapshot.runId = runId := by
  obtain ⟨_, _, _, _, _, rfl, _⟩ := origin
  rfl

/-- The store has handed the snapshot out. -/
def Held (world : World) (snapshot : DurableSnapshot) : Prop :=
  snapshot ∈ (world.runs snapshot.runId).committed

/-- The event claims the lease with this token. -/
def ClaimedWith (token : String) : Event → Prop
  | .leased _ (.acquire _ other _ _ _) => other = token
  | _ => False

/-- The shared world of every schedule. -/
structure Safe (codec : Codec) (world : World) : Prop where
  runs : ∀ runId, RunReachable codec (Origin codec runId) (world.runs runId)
  /-- Once an execution has left its request, its snapshot is one of the store's. -/
  executions : ∀ (handle : Nat) (execution : SharedExecution),
    world.executions[handle]? = some execution →
    (∀ task, execution.owner ≠ .request task) → Held world execution.snapshot
  issued : (world.issued.map (·.text)).Nodup
  /-- A lease is claimed only with a token drawn for that. -/
  claims : ∀ runId token, ∀ event ∈ (world.runs runId).log, ClaimedWith token event →
    ∃ task, ⟨token, .leaseToken, task⟩ ∈ world.issued

/-- A keyed start has inserted the run with a token of its own. -/
def Inserted (world : World) (runId : String) (task : Nat) : Prop :=
  ∃ token creator snapshot, ⟨token, .creationToken, task⟩ ∈ world.issued ∧
    .created creator (some token) snapshot ∈ (world.runs runId).log

/-- What the code of a task lets it do to a run, purges apart: a keyed start and
its abandoned storage task touch only a run they inserted, a read touches none. -/
def Licensed (codec : Codec) (actor : Actor (machine codec)) (world : World)
    (runId : String) : Prop :=
  match actor.code with
  | .start _ _ command => command.idempotencyKey = none ∨ Inserted world runId actor.index
  | .lateCreation _ token _ _ =>
    ∃ creator snapshot, .created creator (some token) snapshot ∈ (world.runs runId).log
  | .recover .. | .get .. => False
  | _ => True

/-- How an operation of a task may change a shared execution. -/
structure Passes (task : Nat) (before after : SharedExecution) : Prop where
  token : after.token = before.token
  runId : after.snapshot.runId = before.snapshot.runId
  revoked : before.revocationError.isSome → after.revocationError.isSome
  owner : after.owner = before.owner ∨ (before.owner = .request task ∧ after.owner = .waiting) ∨
    (before.owner = .waiting ∧ after.owner = .business task)
  snapshot : after.snapshot = before.snapshot ∨ before.revocationError.isSome ∨
    before.owner = .request task ∨ before.owner = .business task
  /-- A request that has not handed its execution over is its only user. -/
  reserved : ∀ other, before.owner = .request other → other ≠ task → after = before

/-- One operation of a task. -/
structure Step (codec : Codec) (actor : Actor (machine codec)) (world next : World) : Prop where
  runs : ∀ runId, next.runs runId = world.runs runId ∨
    RunStep codec (Origin codec runId) actor.index (world.runs runId) (next.runs runId) ∧
      ((next.runs runId).log = .purged actor.index :: (world.runs runId).log ∨
        Licensed codec actor next runId)
  executions : ∀ (handle : Nat) (before : SharedExecution),
    world.executions[handle]? = some before →
    ∃ after, next.executions[handle]? = some after ∧ Passes actor.index before after
  issued : ∀ identifier ∈ world.issued, identifier ∈ next.issued
  safe : Safe codec next

/-! ## The discipline -/

/-- What a forked task needs of the world. -/
def Needs (codec : Codec) (world : World) : Code → Prop
  | .lateCreation snapshot token _ _ =>
    Origin codec snapshot.runId snapshot ∧
      ∃ task, ⟨token, .creationToken, task⟩ ∈ world.issued
  | .business _ _ handle snapshot approval _ =>
    Held world snapshot ∧
      (∃ execution, world.executions[handle]? = some execution ∧
        (∀ task, execution.owner ≠ .request task) ∧
        execution.snapshot.runId = snapshot.runId ∧
        (execution.owner = .waiting →
          execution.snapshot = snapshot ∨ execution.revocationError.isSome)) ∧
      ∀ command requested, approval = some command → snapshot.status = .awaitingApproval →
        snapshot.approval = some requested →
        ∃ checker checked now, .approvalChecked checker checked requested command now ∈
          (world.runs snapshot.runId).log ∧ Reclaimed checked snapshot
  | .heartbeat _ handle | .graphCheckpoint handle _ =>
    ∃ execution, world.executions[handle]? = some execution ∧
      ∀ task, execution.owner ≠ .request task
  | _ => True

theorem Safe.initial (codec : Codec) : Safe codec World.initial :=
  ⟨fun _ => .initial, by simp [World.initial], by simp [World.initial],
    by simp [World.initial, RunState.initial]⟩

/-- The discipline every task of the service keeps. -/
abbrev discipline (codec : Codec) : Discipline (machine codec) where
  Inv := Safe codec
  Guar := Step codec
  Pre code world := Needs codec world code
  Post _ _ _ := True
  initial := Safe.initial codec
  preserved _ step := step.safe

/-- The verification condition of a task of the service. -/
abbrev Ensures {codec : Codec} (actor : Actor (machine codec)) {σ α : Type} (task : Act σ α) :
    (α → σ → World → Prop) → (Failure → σ → World → Prop) → σ → World → Prop :=
  Task.wp (discipline codec) actor task

/-- What the other tasks of the service keep. -/
abbrev Stable {codec : Codec} (actor : Actor (machine codec)) (pre : World → Prop) : Prop :=
  (discipline codec).Stable actor pre

/-! ## What every task keeps -/

section

variable {codec : Codec} {actor : Actor (machine codec)} {world next : World} {runId : String}

theorem Step.extends (safe : Safe codec world) (step : Step codec actor world next) :
    (∀ event ∈ (world.runs runId).log, event ∈ (next.runs runId).log) ∧
      ∀ snapshot ∈ (world.runs runId).committed, snapshot ∈ (next.runs runId).committed := by
  rcases step.runs runId with same | ⟨stepped, _⟩
  · rw [same]
    exact ⟨fun _ isIn => isIn, fun _ isIn => isIn⟩
  · have effect := stepped.effect (safe.runs runId).fenced
    obtain ⟨event, logged⟩ := effect.logs
    refine ⟨?_, fun snapshot isIn => effect.committed_kept isIn⟩
    intro older isIn
    rw [logged]
    exact List.mem_cons_of_mem _ isIn

theorem logged_persistent (event : Event) :
    (discipline codec).Persistent fun world => event ∈ (world.runs runId).log :=
  fun _ _ _ safe step isIn => (step.extends safe).1 event isIn

theorem committed_persistent (snapshot : DurableSnapshot) :
    (discipline codec).Persistent fun world => snapshot ∈ (world.runs runId).committed :=
  fun _ _ _ safe step isIn => (step.extends safe).2 snapshot isIn

theorem held_persistent (snapshot : DurableSnapshot) :
    (discipline codec).Persistent fun world => Held world snapshot :=
  committed_persistent snapshot

theorem issued_persistent (identifier : Identifier) :
    (discipline codec).Persistent fun world => identifier ∈ world.issued :=
  fun _ _ _ _ step isIn => step.issued identifier isIn

theorem inserted_persistent (task : Nat) :
    (discipline codec).Persistent fun world => Inserted world runId task := by
  rintro other world next safe step ⟨token, creator, snapshot, drawn, created⟩
  exact ⟨token, creator, snapshot, step.issued _ drawn, (step.extends safe).1 _ created⟩

theorem licensed_persistent (actor : Actor (machine codec)) :
    (discipline codec).Persistent fun world => Licensed codec actor world runId := by
  intro other world next safe step licensed
  unfold Licensed at licensed ⊢
  split at licensed
  · rcases licensed with unkeyed | inserted
    · exact Or.inl unkeyed
    · exact Or.inr (inserted_persistent actor.index other world next safe step inserted)
  · obtain ⟨creator, snapshot, created⟩ := licensed
    exact ⟨creator, snapshot, (step.extends safe).1 _ created⟩
  · exact licensed
  · exact licensed
  · exact trivial

def Revoked (world : World) (handle : Nat) : Prop :=
  ∃ execution, world.executions[handle]? = some execution ∧ execution.revocationError.isSome

theorem revoked_persistent (handle : Nat) :
    (discipline codec).Persistent fun world => Revoked world handle := by
  rintro other world next safe step ⟨execution, found, revoked⟩
  obtain ⟨after, foundAfter, passes⟩ := step.executions handle execution found
  exact ⟨after, foundAfter, passes.revoked revoked⟩

/-- The execution has left its request. -/
def Left (world : World) (handle : Nat) : Prop :=
  ∃ execution, world.executions[handle]? = some execution ∧
    ∀ task, execution.owner ≠ .request task

theorem Passes.left (passes : Passes task before after)
    (left : ∀ other, before.owner ≠ .request other) : ∀ other, after.owner ≠ .request other := by
  intro other isRequest
  rcases passes.owner with kept | ⟨wasRequest, _⟩ | ⟨_, isBusiness⟩
  · exact left other (kept.symm.trans isRequest)
  · exact left task wasRequest
  · rw [isRequest] at isBusiness
    cases isBusiness

theorem left_persistent (handle : Nat) :
    (discipline codec).Persistent fun world => Left world handle := by
  rintro other world next safe step ⟨execution, found, left⟩
  obtain ⟨after, foundAfter, passes⟩ := step.executions handle execution found
  exact ⟨after, foundAfter, passes.left left⟩

theorem seen_persistent (snapshot : DurableSnapshot) (callId : String) (entry : ToolLedgerEntry) :
    (discipline codec).Persistent fun world => Held world snapshot ∧
      (world.runs snapshot.runId).LedgerSeen snapshot callId entry := by
  rintro other world next safe step ⟨held, seen⟩
  refine ⟨held_persistent snapshot other world next safe step held, ?_⟩
  rcases step.runs snapshot.runId with same | ⟨stepped, _⟩
  · rw [same]
    exact seen
  · have reachable := safe.runs snapshot.runId
    have after := (step.safe.runs snapshot.runId).fenced
    exact (stepped.effect reachable.fenced).seen_kept after held seen

end

end AegisRag.Agent.Durable.Service
