import AegisRag.Semantics.Watched
import AegisRag.Agent.Durable.Service.Lifecycle

/-!
# What a keyed start answers

A start whose awaits do not fail, on a clock that does not go back, is watched through its
whole run. Unless it inserts the run of its key, it answers with that run, with a conflict
over another command or with the expiry of the run, or its own checks refuse the command.
-/

namespace AegisRag.Agent.Durable.Service

open Semantics Semantics.Task

/-! ## Calm tasks -/

/-- The awaits of a task do not fail, and its clock does not go back behind `start`. -/
abbrev calm (codec : Codec) (start : Seconds) : Monitor (machine codec) where
  State := Seconds
  start
  accept floor answer :=
    if answer.failure = none ∧ floor ≤ answer.time then some answer.time else none

/-- A task that is watched from a reading on until the world is `last`. -/
structure Watch (codec : Codec) where
  start : Seconds
  last : World
  index : Nat
  code : Code

/-- What the tasks of the service may have done since. -/
abbrev Leads (codec : Codec) : World → World → Prop := (discipline codec).Later

/-- Verification condition of a watched task. -/
abbrev Follows {codec : Codec} (watch : Watch codec) {σ α : Type} (task : Act σ α)
    (ok : α → σ → World × Seconds → Prop) (fail : Failure → σ → World × Seconds → Prop)
    (state : σ) (world : World × Seconds) : Prop :=
  Task.wp ((discipline codec).watching (calm codec watch.start) watch.last watch.index)
    ⟨watch.index, watch.code⟩ task ok fail state world

section

variable {codec : Codec} {watch : Watch codec} {σ α : Type} {state : σ} {world : World × Seconds}
  {fail : Failure → σ → World × Seconds → Prop}

theorem calm_admits {first floor next : Seconds} {answer : Answer}
    (admitted : (calm codec first).accept floor answer = some next) :
    answer.failure = none ∧ floor ≤ answer.time ∧ next = answer.time := by
  obtain ⟨⟨unfailing, forward⟩, same⟩ := Option.ite_none_right_eq_some.mp admitted
  exact ⟨unfailing, forward, (Option.some.inj same).symm⟩

theorem heard_le {first earlier later : Seconds} (heard : (calm codec first).Heard earlier later) :
    earlier ≤ later := by
  induction heard with
  | refl => exact le_refl _
  | tail _ step ih =>
    obtain ⟨answer, admitted⟩ := step
    obtain ⟨_, forward, rfl⟩ := calm_admits admitted
    exact ih.trans forward

/-- One call of a calm task. -/
theorem follows_call {op : Op} {ok : op.Reply → σ → World × Seconds → Prop}
    (holds : ∀ current answer reply after, Leads codec world.1 current → Safe codec current →
      Leads codec current after → Leads codec after watch.last → answer.failure = none →
      world.2 ≤ answer.time → execute codec watch.index op answer current = some (reply, after) →
      ok reply state (after, answer.time)) :
    Follows watch (call op) ok fail state world := by
  refine wp_watched ?_
  intro current answer reply after before following later heard safe stepped leads admitted executed
  obtain ⟨unfailing, forward, rfl⟩ := calm_admits admitted
  exact holds current answer reply after later safe stepped leads unfailing
    ((heard_le heard).trans forward) executed

/-- Whatever a calm task does, its clock goes on. -/
theorem follows_any {task : Act σ α} {ok : α → σ → World × Seconds → Prop}
    (rest : ∀ value state final, world.2 ≤ final.2 → ok value state final)
    (raises : ∀ failure state final, world.2 ≤ final.2 → fail failure state final) :
    Follows watch task ok fail state world := by
  refine Discipline.wp_watchedAny ?_
  rintro ⟨result, next⟩ final heard
  cases result with
  | ok value => exact rest value next final (heard_le heard)
  | error failure => exact raises failure next final (heard_le heard)

theorem follows_clock {ok : Seconds → σ → World × Seconds → Prop}
    (rest : ∀ current now, Leads codec world.1 current → world.2 ≤ now →
      ok now state (current, now)) :
    Follows watch clock ok fail state world := by
  refine follows_call ?_
  intro current answer reply after later _ _ _ _ forward executed
  cases executed
  exact rest _ _ later forward

theorem follows_uuid4 {draw : Draw} {ok : String → σ → World × Seconds → Prop}
    (rest : ∀ text current now, Leads codec world.1 current → world.2 ≤ now →
      ⟨text, draw, watch.index⟩ ∈ watch.last.issued → ok text state (current, now)) :
    Follows watch (uuid4 draw) ok fail state world := by
  refine follows_call ?_
  intro current answer reply after later _ stepped leads _ forward executed
  simp only [execute] at executed
  split at executed
  · cases executed
    exact rest _ _ _ (later.trans stepped) forward
      ((issued_persistent _).later leads List.mem_cons_self)
  · cases executed

theorem follows_purge {ok : Unit → σ → World × Seconds → Prop}
    (rest : ∀ current now, Leads codec world.1 current → world.2 ≤ now →
      ok () state (current, now)) :
    Follows watch (purgeExpired tenantId now) ok fail state world := by
  refine wp_bind (follows_call ?_)
  intro current answer reply after later _ stepped _ unfailing forward executed
  simp only [execute, Answer.transaction, unfailing] at executed
  cases executed
  exact rest _ _ (later.trans stepped) forward

theorem Answer.reading_calm {answer : Answer} (unfailing : answer.failure = none)
    (delivered : answer.transaction before (reading before result) = some (reply, next)) :
    reply = result ∧ next = before := by
  cases result <;> simp only [Answer.transaction, unfailing, reading] at delivered <;>
    cases delivered <;> exact ⟨rfl, rfl⟩

end

/-! ## The run of a key -/

/-- One owner's key has the run id, and every cancellation of the run reaches its start. -/
structure KeyedRun (codec : Codec) (last : World) (tenantId userId runId : String) : Prop where
  keyed : codec.uuidVersion runId ≠ 4
  owner : ∀ tenant user key, codec.keyedRunId tenant user key = runId →
    tenant = tenantId ∧ user = userId
  forward : Along CancelForward (last.runs runId).log

/-- The run was purged, or has expired at the reading. -/
def Gone (world : World) (runId : String) (now : Seconds) : Prop :=
  (∃ task, .purged task ∈ (world.runs runId).log) ∨
    ∃ snapshot ∈ (world.runs runId).committed, snapshot.expiresAt ≤ now

section

variable {codec : Codec} {last world : World} {tenantId userId runId : String}

theorem committed_sameRun (safe : Safe codec world)
    (isFirst : first ∈ (world.runs runId).committed)
    (isSecond : second ∈ (world.runs runId).committed) : SameRun first second :=
  List.Pairwise.forall_of_forall (fun _ _ => .refl _) (safe.runs runId).sameRun isFirst isSecond

variable (run : KeyedRun codec last tenantId userId runId)

include run

theorem KeyedRun.origin (snapshot : DurableSnapshot) (origin : Origin codec runId snapshot) :
    snapshot.tenantId = tenantId ∧ snapshot.userId = userId ∧ snapshot.startup.isSome := by
  obtain ⟨service, context, command, startup, now, rfl, _, kind⟩ := origin
  cases key : command.idempotencyKey with
  | none =>
    rw [key] at kind
    exact absurd kind.2 run.keyed
  | some key =>
    simp only [key] at kind
    obtain ⟨isTenant, isUser⟩ := run.owner _ _ _ kind.1.symm
    exact ⟨isTenant, isUser, by rw [kind.2]; rfl⟩

theorem KeyedRun.committed (safe : Safe codec world)
    (known : snapshot ∈ (world.runs runId).committed) :
    snapshot.runId = runId ∧ snapshot.tenantId = tenantId ∧ snapshot.userId = userId ∧
      snapshot.startup.isSome := by
  refine (safe.runs runId).everyCommitted (fun snapshot => snapshot.runId = runId ∧
    snapshot.tenantId = tenantId ∧ snapshot.userId = userId ∧ snapshot.startup.isSome)
    (fun snapshot origin => ⟨origin.runId, run.origin snapshot origin⟩) ?_ snapshot known
  intro state previous saved _ _ _ isRun successor
  have same := successor.sameRun
  rw [same.runId, same.tenantId, same.userId, same.startup]
  exact isRun

/-- A used key has a run. -/
theorem KeyedRun.used (safe : Safe codec world)
    (taken : ((world.runs runId).chronicle.cell.legacy.isSome ||
      (world.runs runId).chronicle.cell.run.isSome) = true) :
    (world.runs runId).committed ≠ [] := by
  intro unborn
  rcases (Bool.or_eq_true _ _).mp taken with isLegacy | isRun
  · obtain ⟨legacy, found⟩ := Option.isSome_iff_exists.mp isLegacy
    obtain ⟨_, ⟨event, isIn, places⟩, _⟩ := (safe.runs runId).marked run.origin legacy found
    rw [(safe.runs runId).unplaced unborn event isIn] at places
    cases places
  · obtain ⟨row, found⟩ := Option.isSome_iff_exists.mp isRun
    have isHead := ((safe.runs runId).fenced.stored row found).1
    rw [← RunState.committed, unborn] at isHead
    cases isHead

/-- What the store answers about the run of a key: nothing before it is inserted, its
expiry after a purge, and a snapshot of it in between. -/
theorem KeyedRun.reads (safe : Safe codec world) (leads : Leads codec world last) :
    ((world.runs runId).committed = [] ∧
      (world.runs runId).chronicle.cell.lookupKeyed tenantId userId runId = .ok none) ∨
    ((∃ task, .purged task ∈ (world.runs runId).log) ∧
      (world.runs runId).chronicle.cell.lookupKeyed tenantId userId runId = .error runExpired ∧
      (world.runs runId).chronicle.cell.load tenantId userId runId = .error runExpired) ∨
    ∃ snapshot ∈ (world.runs runId).committed,
      (world.runs runId).chronicle.cell.lookupKeyed tenantId userId runId = .ok (some snapshot) ∧
      (world.runs runId).chronicle.cell.load tenantId userId runId = .ok snapshot := by
  have reachable := safe.runs runId
  have forward : Along CancelForward (world.runs runId).log := by
    refine cancelForward_of_all fun event isIn => ?_
    obtain ⟨_, _, _, fact⟩ := run.forward.of_mem ((logged_persistent event).later leads isIn)
    exact fact
  cases isLegacy : (world.runs runId).chronicle.cell.legacy with
  | none =>
    exact Or.inl ⟨reachable.fenced.fresh isLegacy, by simp [RunCell.lookupKeyed, isLegacy]⟩
  | some legacy =>
    obtain ⟨⟨isTenant, isUser, isKeyed⟩, _, kept⟩ := reachable.marked run.origin legacy isLegacy
    cases found : (world.runs runId).chronicle.cell.run with
    | none =>
      rw [found] at kept
      refine Or.inr (Or.inl ⟨kept.resolve_left (by simp), ?_, ?_⟩)
      · simp [RunCell.lookupKeyed, isLegacy, isTenant, isUser, isKeyed, found, runExpired]
      · simp [RunCell.load, RunCell.loadMissing, isLegacy, isTenant, isUser, isKeyed, found,
          runExpired]
    | some row =>
      have known := List.mem_of_head? (reachable.fenced.stored row found).1
      obtain ⟨isRun, tenant, user, startup⟩ := run.committed safe known
      have scope := reachable.rowOwned row found
      simp only [RunRow.inScope, Bool.and_eq_true, beq_iff_eq] at scope
      have rowTenant := scope.1.2.trans tenant
      have rowUser := scope.2.trans user
      have validated := reachable.validates (fun _ origin => origin.readable) forward found
      rw [rowTenant, rowUser, isRun] at validated
      have unset : row.snapshot.startup ≠ none := Option.isSome_iff_ne_none.mp startup
      refine Or.inr (Or.inr ⟨row.snapshot, known, ?_, ?_⟩)
      · simp [RunCell.lookupKeyed, isLegacy, isTenant, isUser, isKeyed, found, rowTenant, rowUser,
          validated, unset]
      · simp [RunCell.load, found, rowTenant, rowUser, validated]

end

/-! ## Reads -/

section

variable {codec : Codec} {watch : Watch codec} {runId : String} {context : RequestContext}
  {service : DurableAgentService} {world : World × Seconds}
  {fail : Failure → Unit → World × Seconds → Prop}
  (run : KeyedRun codec watch.last context.auth.tenantId context.auth.userId runId)

include run

theorem follows_lookup {ok : Option DurableSnapshot → Unit → World × Seconds → Prop}
    (unborn : ∀ current now, Leads codec world.1 current → world.2 ≤ now →
      (current.runs runId).committed = [] → ok none () (current, now))
    (found : ∀ value current now, world.2 ≤ now → value ∈ (current.runs runId).committed →
      Leads codec current watch.last → ok (some value) () (current, now))
    (gone : ∀ current now, Gone watch.last runId now → fail runExpired () (current, now)) :
    Follows watch (lookupKeyedRow context.auth.tenantId context.auth.userId runId) ok fail ()
      world := by
  refine wp_bind (follows_call ?_)
  intro current answer reply after later safe stepped leads unfailing forward executed
  obtain ⟨rfl, rfl⟩ := Answer.reading_calm unfailing executed
  rcases run.reads safe leads with
    ⟨none, read⟩ | ⟨⟨task, purged⟩, read, _⟩ | ⟨value, known, read, _⟩
  all_goals rw [read]
  · exact unborn _ _ later forward none
  · exact gone _ _ (Or.inl ⟨task, (logged_persistent _).later leads purged⟩)
  · exact found value _ _ forward known leads

/-- `_load` of a run that was inserted: a snapshot that has not expired, or the expiry. -/
theorem follows_loadRun {ok : DurableSnapshot → Unit → World × Seconds → Prop}
    (authorized : authorize context = .ok ())
    (inserted : known ∈ (world.1.runs runId).committed)
    (found : ∀ value current now, world.2 ≤ now → value ∈ (watch.last.runs runId).committed →
      now < value.expiresAt → ok value () (current, now))
    (gone : ∀ current now, Gone watch.last runId now → fail runExpired () (current, now)) :
    Follows watch (loadRun context runId) ok fail () world := by
  unfold loadRun
  rw [authorized]
  refine wp_bind (wp_pure (wp_bind (wp_tryCatch (wp_bind (follows_call ?_)))))
  intro current answer reply after later safe stepped leads unfailing forward executed
  obtain ⟨rfl, rfl⟩ := Answer.reading_calm unfailing executed
  rcases run.reads safe leads with ⟨none, _⟩ | ⟨⟨task, purged⟩, _, read⟩ | ⟨value, isIn, _, read⟩
  · exact absurd none (List.ne_nil_of_mem ((committed_persistent known).later later inserted))
  · rw [read]
    exact gone _ _ (Or.inl ⟨task, (logged_persistent _).later leads purged⟩)
  · rw [read]
    have committed := (committed_persistent value).later leads isIn
    refine wp_bind (follows_clock fun current now _ onward =>
      wp_ite (fun expired => ?_) fun live => ?_)
    · refine wp_bind (follows_clock fun current later _ onward => ?_)
      refine wp_bind (wp_tryCatch (follows_purge fun current last _ further => ?_))
      exact gone _ _ (Or.inr ⟨value, committed, expired.trans (onward.trans further)⟩)
    · exact found value _ _ (forward.trans onward) committed (not_le.mp live)

/-- `get` of a run that was inserted. -/
theorem follows_getRun {ok : DurableRunResponse → Unit → World × Seconds → Prop}
    (authorized : authorize context = .ok ())
    (inserted : known ∈ (world.1.runs runId).committed)
    (found : ∀ value final, value ∈ (watch.last.runs runId).committed →
      world.2 < value.expiresAt → ok (.fromSnapshot value) () final)
    (refused : ∀ failure value final, value ∈ (watch.last.runs runId).committed →
      world.2 < value.expiresAt → value.status = .completed → fail failure () final)
    (gone : ∀ current now, Gone watch.last runId now → fail runExpired () (current, now)) :
    Follows watch (getRun service context runId) ok fail () world := by
  refine wp_bind (follows_loadRun run authorized inserted ?_ gone)
  intro value current now forward isIn live
  have unexpired := forward.trans_lt live
  apply wp_ite
  · intro completed
    exact wp_bind (follows_any (fun _ _ _ _ => found value _ isIn unexpired)
      fun failure _ _ _ => refused failure value _ isIn unexpired completed)
  · exact fun _ => found value _ isIn unexpired

end

/-! ## Duplicates -/

/-- The answers of a duplicate start: the run (or the error of revalidating a completed
one) under its fingerprint, a conflict under another one, or that the run is gone. -/
def Lands (world : World) (runId fingerprint : String) (start finish : Seconds) :
    Except Failure DurableRunResponse → Prop
  | .ok response => ∃ snapshot ∈ (world.runs runId).committed,
      snapshot.startup = some ⟨fingerprint⟩ ∧ response = .fromSnapshot snapshot
  | .error failure =>
    (failure = startKeyConflict ∧ ∃ snapshot ∈ (world.runs runId).committed,
      snapshot.startup ≠ some ⟨fingerprint⟩ ∧ start < snapshot.expiresAt) ∨
    (failure = runExpired ∧ Gone world runId finish) ∨
    ∃ snapshot ∈ (world.runs runId).committed,
      snapshot.startup = some ⟨fingerprint⟩ ∧ snapshot.status = .completed

section

variable (codec : Codec) (service : DurableAgentService) (context : RequestContext)
  (command : DurableStartCommand) (runId : String)

/-- The snapshot that a keyed start inserts. -/
abbrev asked (now : Seconds) : DurableSnapshot :=
  service.newSnapshot context command runId (some ⟨codec.startCommandFingerprint command⟩) now

/-- How the checks of a start itself refuse its command, and how its budget runs out. -/
inductive Refuses (start finish : Seconds) : Failure → Prop
  | permission {failure : Failure} (refused : authorize context = .error failure) :
    Refuses start finish failure
  | background (mode : command.executionMode = .background)
      (disabled : service.backgroundEnabled = false) :
    Refuses start finish (.domain ⟨"DURABLE_BACKGROUND_UNCONFIGURED", 503⟩)
  | input {failure : Failure}
      (refused : codec.validatePrivateArguments [("input", .str command.input)] = .error failure) :
    Refuses start finish failure
  | config (refused : (service.runConfig command).accepted = false) : Refuses start finish .other
  | retention (short : service.retentionSeconds < (service.runConfig command).timeoutSeconds) :
    Refuses start finish (.domain ⟨"DURABLE_BUDGET_EXCEEDS_RETENTION", 422⟩)
  | snapshot (now : Seconds)
      (refused : (asked codec service context command runId now).accepted = false) :
    Refuses start finish .other
  | approvalTools (named : command.approvalTools ≠ []) :
    Refuses start finish (.domain ⟨"DURABLE_APPROVAL_TOOL_UNKNOWN", 422⟩)
  | size {failure : Failure} (now : Seconds)
      (refused : codec.persisted (asked codec service context command runId now) =
        .error failure) :
    Refuses start finish failure
  | deadline (past : start + (service.runConfig command).timeoutSeconds ≤ finish) :
    Refuses start finish .storageTimeout

/-- How a keyed start that inserts nothing ends. -/
def Settles (world : World) (start finish : Seconds)
    (result : Except Failure DurableRunResponse) : Prop :=
  (∃ failure, result = .error failure ∧
    Refuses codec service context command runId start finish failure) ∨
    Lands world runId (codec.startCommandFingerprint command) start finish result

/-- The start keeps to `Settles` whether it returns or raises. -/
abbrev Settling (watch : Watch codec) (task : Act Unit DurableRunResponse)
    (world : World × Seconds) : Prop :=
  Follows watch task
    (fun response _ final =>
      Settles codec service context command runId watch.last watch.start final.2 (.ok response))
    (fun failure _ final =>
      Settles codec service context command runId watch.last watch.start final.2 (.error failure))
    () world

end

variable {codec : Codec} {watch : Watch codec} {runId : String} {context : RequestContext}
  {service : DurableAgentService} {command : DurableStartCommand} {world : World × Seconds}
  {fail : Failure → Unit → World × Seconds → Prop}

/-- `_existing_start`. -/
theorem follows_existingStart (safe : Safe codec watch.last)
    (run : KeyedRun codec watch.last context.auth.tenantId context.auth.userId runId)
    (authorized : authorize context = .ok ()) (started : watch.start ≤ world.2)
    (inserted : existing ∈ (world.1.runs runId).committed)
    (leads : Leads codec world.1 watch.last) :
    Settling codec service context command runId watch
      (existingStart service context existing (some ⟨codec.startCommandFingerprint command⟩))
      world := by
  have known := (committed_persistent existing).later leads inserted
  have isRun := (run.committed safe known).1
  refine wp_bind (follows_clock fun current now later forward => ?_)
  have stillInserted := (committed_persistent existing).later later inserted
  have gone : ∀ (current : World) now, Gone watch.last runId now → Settles codec service context
      command runId watch.last watch.start now (.error runExpired) :=
    fun _ _ gone => .inr (.inr (.inl ⟨rfl, gone⟩))
  rw [isRun]
  refine wp_ite (fun expired => ?_) fun live => wp_ite (fun differs => ?_) fun same => ?_
  · -- The clock does not go back, so the run that was read is expired for `get` too.
    have past : ∀ value ∈ (watch.last.runs runId).committed, ¬ now < value.expiresAt := by
      intro value isIn
      rw [(committed_sameRun safe isIn known).expiresAt]
      exact not_lt.mpr expired
    exact follows_getRun run authorized stillInserted
      (fun value _ isIn unexpired => absurd unexpired (past value isIn))
      (fun _ value _ isIn unexpired => absurd unexpired (past value isIn)) gone
  · exact .inr (.inl ⟨rfl, existing, known, differs,
      (started.trans forward).trans_lt (not_le.mp live)⟩)
  · have startup : ∀ value ∈ (watch.last.runs runId).committed,
        value.startup = some ⟨codec.startCommandFingerprint command⟩ := fun value isIn =>
      (committed_sameRun safe isIn known).startup.trans (not_not.mp same)
    exact follows_getRun run authorized stillInserted
      (fun value _ isIn _ => .inr ⟨value, isIn, startup value isIn, rfl⟩)
      (fun _ value _ isIn _ completed =>
        .inr (.inr (.inr ⟨value, isIn, startup value isIn, completed⟩))) gone

/-! ## New runs -/

theorem follows_newRun {ok : DurableSnapshot → Unit → World × Seconds → Prop}
    (started : watch.start ≤ world.2)
    (rest : ∀ now current later, watch.start ≤ now → now ≤ later → ok (asked codec
      service context command runId now) () (current, later))
    (raises : ∀ failure final, Refuses codec service context command runId watch.start final.2
      failure → fail failure () final) :
    Follows watch (newRun codec service context command runId
      (some ⟨codec.startCommandFingerprint command⟩)) ok fail () world := by
  refine wp_bind (wp_ofExcept (fun _ _ => ?_) fun failure refused => raises _ _ (.input refused))
  refine wp_bind (follows_clock fun current now _ forward => ?_)
  refine wp_guard (fun refused => raises _ _ (.config (by simpa using refused))) fun _ => ?_
  refine wp_guard (fun short => raises _ _ (.retention short)) fun _ => ?_
  refine wp_guard (fun refused => raises _ _ (.snapshot now (by simpa using refused))) fun _ => ?_
  refine wp_bind (follows_call ?_)
  intro current answer names after _ _ _ _ _ onward executed
  cases executed
  refine wp_guard (fun unknown => raises _ _ (.approvalTools ?_)) fun _ =>
    rest now _ _ (started.trans forward) onward
  rintro none
  simp [none] at unknown

/-- A keyed insert is too large, finds its key used, or writes the run. -/
theorem insertKeyed_cases (codec : Codec) {snapshot : DurableSnapshot}
    (keyed : snapshot.startup.isSome) (token : String) (now leaseSeconds : Seconds)
    (chronicle : Chronicle) :
    (∃ failure, codec.persisted snapshot = .error failure ∧ chronicle.perform codec
      (.createKeyed snapshot token now leaseSeconds) = .error failure) ∨
    ((chronicle.cell.legacy.isSome || chronicle.cell.run.isSome) = true ∧ chronicle.perform codec
      (.createKeyed snapshot token now leaseSeconds) = .ok (none, chronicle)) ∨
    ∃ next, chronicle.perform codec (.createKeyed snapshot token now leaseSeconds) =
      .ok (some snapshot, next) := by
  have unset : snapshot.startup.isNone = false := by simpa using keyed
  cases fits : codec.persisted snapshot with
  | error failure =>
    simp [Chronicle.perform, RunCell.insertKeyed, RunCell.addNew, unset, fits, bind, Except.bind]
  | ok payload =>
    cases taken : chronicle.cell.legacy.isSome || chronicle.cell.run.isSome <;>
      simp [Chronicle.perform, RunCell.insertKeyed, RunCell.addNew, unset, fits, taken, bind,
        Except.bind, pure, Except.pure]

/-- The keyed insert of a start that inserts nothing. -/
theorem follows_insert {ok : Bool → Unit → World × Seconds → Prop} {snapshot : DurableSnapshot}
    {token : String} {now leaseSeconds : Seconds}
    (run : KeyedRun codec watch.last snapshot.tenantId snapshot.userId snapshot.runId)
    (keyed : snapshot.startup.isSome)
    (drawn : ⟨token, .creationToken, watch.index⟩ ∈ watch.last.issued)
    (uninserted : ¬ Inserted watch.last snapshot.runId watch.index)
    (used : ∀ current later known, known ∈ (current.runs snapshot.runId).committed →
      world.2 ≤ later → ok false () (current, later))
    (raises : ∀ failure final, codec.persisted snapshot = .error failure → fail failure () final) :
    Follows watch (insertRow (.createKeyed snapshot token now leaseSeconds)) ok fail () world := by
  refine wp_bind (follows_call ?_)
  intro current answer reply after later safe stepped leads unfailing forward executed
  have delivered : answer.transaction current (current.insert codec watch.index
      (.createKeyed snapshot token now leaseSeconds) snapshot) = some (reply, after) := executed
  rcases insertKeyed_cases codec keyed token now leaseSeconds
      (current.runs snapshot.runId).chronicle with
    ⟨failure, large, performed⟩ | ⟨taken, performed⟩ | ⟨next, performed⟩ <;>
    simp only [Answer.transaction, unfailing, World.insert, performed] at delivered <;>
    cases delivered
  · exact raises failure _ large
  · obtain ⟨known, isIn⟩ := List.exists_mem_of_ne_nil _ (run.used safe taken)
    exact used _ _ known isIn forward
  · refine absurd ⟨token, watch.index, snapshot, drawn, ?_⟩ uninserted
    refine (logged_persistent _).later leads ?_
    rw [World.setRun_same]
    exact List.mem_cons_self

theorem Gone.mono (gone : Gone last runId now) (onward : now ≤ later) : Gone last runId later :=
  gone.imp_right fun ⟨snapshot, isIn, expired⟩ => ⟨snapshot, isIn, expired.trans onward⟩

/-- A start that gives up cleans up after its insert and raises. -/
theorem follows_abandon {failure : Failure} {snapshot : DurableSnapshot} {token : String}
    {ok : DurableRunResponse → Unit → World × Seconds → Prop}
    (raises : ∀ final, world.2 ≤ final.2 → fail failure () final) :
    Follows watch (do
      cancelKeyedCreation snapshot token
      throw failure) ok fail () world :=
  wp_bind (wp_bind (wp_attempt (follows_any (fun _ _ final onward => raises final onward)
    fun _ _ final onward => raises final onward)))

/-- A start whose storage task failed leaves that task behind and gives up. -/
theorem follows_giveUp {failure : Failure} {snapshot : DurableSnapshot} {token : String}
    {ok : DurableRunResponse → Unit → World × Seconds → Prop}
    (raises : ∀ final, world.2 ≤ final.2 → fail failure () final) :
    Follows watch (do
      Task.start (.lateCreation snapshot token now leaseSeconds : Code)
      cancelKeyedCreation snapshot token
      throw failure) ok fail () world := by
  refine wp_bind (wp_start fun current rely _ => ⟨trivial, follows_abandon fun final onward => ?_⟩)
  exact raises final ((heard_le (Discipline.watching_rely rely).2).trans onward)

/-- `_start_keyed` of a start that inserts nothing. -/
theorem follows_startKeyed {made : Seconds} (safe : Safe codec watch.last)
    (run : KeyedRun codec watch.last context.auth.tenantId context.auth.userId runId)
    (authorized : authorize context = .ok ())
    (uninserted : ¬ Inserted watch.last runId watch.index)
    (started : watch.start ≤ made) (forward : made ≤ world.2) :
    Settling codec service context command runId watch (startKeyed service context
      (asked codec service context command runId made)) world := by
  have late : ∀ {reading : Seconds} (final : World × Seconds),
      made + (service.runConfig command).timeoutSeconds - reading ≤ 0 → reading ≤ final.2 →
      Settles codec service context command runId watch.last watch.start final.2
        (.error .storageTimeout) := by
    intro reading final past onward
    refine .inl ⟨_, rfl, .deadline ((add_le_add_left started _).trans ?_)⟩
    exact (sub_nonpos.mp past).trans onward
  unfold startKeyed
  refine wp_bind (follows_uuid4 fun token current drawnAt _ second drawn => ?_)
  refine wp_bind (follows_clock fun current purgeNow _ third => ?_)
  refine wp_bind (wp_attempt (wp_bind (follows_clock fun current reading _ fourth => ?_)))
  refine wp_ite (fun past => ?_) fun _ => follows_purge fun current purged _ fifth => ?_
  · exact follows_abandon fun final onward => late final past onward
  refine wp_bind (follows_clock fun current now _ sixth => ?_)
  refine wp_bind (wp_attempt (wp_bind (follows_clock fun current reading _ seventh => ?_)))
  refine wp_bind (wp_ite (fun past => ?_) fun _ =>
    wp_bind (follows_insert run rfl drawn uninserted ?_ ?_))
  · exact follows_giveUp fun final onward => late final past onward
  · intro current inserted known isIn eighth
    refine wp_bind (follows_lookup run ?_ ?_ ?_)
    · intro current _ later _ unborn
      have stillIn := (committed_persistent known).later later isIn
      exact absurd unborn (List.ne_nil_of_mem stillIn)
    · intro existing current found ninth isExisting leads
      have since : watch.start ≤ found := by linarith
      have answers : Settling codec service context command runId watch
          (existingStart service context existing (some ⟨codec.startCommandFingerprint command⟩))
          (current, found) :=
        follows_existingStart safe run authorized since isExisting leads
      exact answers
    · intro current _ gone
      exact follows_giveUp fun final onward => .inr (.inr (.inl ⟨rfl, gone.mono onward⟩))
  · intro failure final large
    have kept : storageFailure failure = failure := by
      unfold Codec.persisted at large
      split at large <;> cases large
      rfl
    dsimp only
    rw [kept]
    exact follows_giveUp fun final onward => .inl ⟨_, rfl, .size made large⟩

/-- `start` with a key, where it inserts nothing. -/
theorem follows_startRun (safe : Safe codec watch.last)
    (keyed : command.idempotencyKey = some key)
    (run : KeyedRun codec watch.last context.auth.tenantId context.auth.userId
      (codec.keyedRunId context.auth.tenantId context.auth.userId key))
    (uninserted : ¬ Inserted watch.last
      (codec.keyedRunId context.auth.tenantId context.auth.userId key) watch.index)
    (started : watch.start ≤ world.2) :
    Settling codec service context command
      (codec.keyedRunId context.auth.tenantId context.auth.userId key) watch
      (startRun codec service context command) world := by
  refine wp_bind (wp_ofExcept (fun _ authorized => ?_) fun failure refused =>
    .inl ⟨_, rfl, .permission refused⟩)
  refine wp_guard (fun off => .inl ⟨_, rfl, .background off.1 (by simpa using off.2)⟩) fun _ => ?_
  refine wp_bind (follows_uuid4 fun _ current _ _ forward _ => ?_)
  rw [keyed]
  refine wp_bind (wp_tryCatch (follows_lookup run ?_ ?_ ?_))
  · intro current now _ onward _
    refine wp_bind (follows_newRun ((started.trans forward).trans onward) ?_ ?_)
    · intro made current later since after
      exact follows_startKeyed safe run authorized uninserted since after
    · exact fun failure final refused => .inl ⟨_, rfl, refused⟩
  · intro existing current now onward isIn leads
    exact follows_existingStart safe run authorized ((started.trans forward).trans onward) isIn
      leads
  · exact fun current now gone => .inr (.inr (.inl ⟨rfl, gone⟩))

/-- In every pool, a calm start of the key that inserted nothing ended so. -/
theorem calm_start_settles {pool : Pool (machine codec)}
    {moves : List (Move (machine codec))} {start finish : Seconds}
    (performed : Pool.run moves (Pool.initial _) = some pool)
    (found : pool.threads[index]? =
      some ⟨.start service context command, some (.done (.response result))⟩)
    (keyed : command.idempotencyKey = some key)
    (isRun : runId = codec.keyedRunId context.auth.tenantId context.auth.userId key)
    (run : KeyedRun codec pool.world context.auth.tenantId context.auth.userId runId)
    (uninserted : ¬ Inserted pool.world runId index)
    (admitted : moves.foldlM ((calm codec start).hear index) start = some finish) :
    Settles codec service context command runId pool.world start finish result := by
  subst isRun
  refine (discipline_sound codec).watched (fun code outcome final =>
    code = .start service context command → ∀ result, outcome = .response result →
    Settles codec service context command _ pool.world start final result) ?_ performed admitted
    found rfl result rfl
  intro code world floor heard
  by_cases isStart : code = .start service context command
  · subst isStart
    have settles : Settling codec service context command _
        ⟨start, pool.world, index, .start service context command⟩
        (startRun codec service context command) (world, floor) :=
      follows_startRun (pool_safe ⟨moves, performed⟩) keyed run uninserted (heard_le heard)
    refine Discipline.wp_bind (wp_elim settles ?_ ?_)
    · rintro response _ final settled _ _ ⟨⟩
      exact settled
    · rintro failure _ final settled _ _ ⟨⟩
      exact settled
  · exact Discipline.wp_watchedAny fun _ _ _ same => absurd same isStart

end AegisRag.Agent.Durable.Service
