import AegisRag.Agent.Durable.Approval
import AegisRag.Agent.Durable.Outcome
import AegisRag.Agent.Durable.Service.Conformance

/-!
# What the service guarantees about dispatches

Statements about every pool that a schedule can reach: any requests, any
interleaving of their tasks with any clock readings and replies, and a crash of
any task between two awaits. They are read off the journal through `pool_refines`.
-/

namespace AegisRag.Agent.Durable.Service

open Semantics

/-- Only snapshots that `start` builds are inserted, and these are fresh. -/
theorem origin_fresh {codec : Codec} {runId : String} :
    ∀ snapshot, Origin codec runId snapshot → Fresh snapshot :=
  fun _ origin => origin.fresh

/-! ## A deployment with one tool -/

namespace Deployment

/-- Encodings that tell keyed run ids from drawn identifiers, and digests of commands
by their inputs. -/
def codec : Codec where
  sha256
    | .obj members =>
      match members.lookup "input" with
      | some (.str input) => input
      | _ => "digest"
    | _ => "digest"
  uuid5
    | .arr [.str "tenant", .str "user", _] => "keyed-run"
    | _ => "other-run"
  uuidVersion text := if text = "keyed-run" ∨ text = "other-run" then 5 else 4
  uuid5_version _ := by split <;> rfl
  snapshotBytes _ := 0
  jsonBytes _ := 0

def member : RequestContext :=
  ⟨"request", "trace", ⟨"tenant", "user", ["agent:run", "mail:send"]⟩⟩

/-- The same user once the permission for the tool is gone. -/
def restricted : RequestContext := ⟨"request", "trace", ⟨"tenant", "user", ["agent:run"]⟩⟩

/-- A tool whose call must not replay. -/
def sendMail (requiresApproval : Bool) : ToolDefinition :=
  ⟨"send_mail", "mail:send", .null, .null, .never, requiresApproval, "1"⟩

def sendDecision : AgentStepDecision := ⟨.toolCall, some "send_mail", [], none, []⟩

def delivered : AgentObservationSummary :=
  ⟨"send_mail", .success, [], [], none, none, 0, .null, .null⟩

/-- What the environment answers at one clock reading. -/
def answer (time : Seconds) (requiresApproval : Bool) (text : String) : Answer where
  time
  text
  count := 9
  decision := some sendDecision
  definition := some (sendMail requiresApproval)
  toolResult := some ⟨some delivered⟩

def request (code : Code) : Move (machine codec) := .arrive code

/-- So many operations of one task, all answered alike. -/
def steps (index count : Nat) (answer : Answer) : List (Move (machine codec)) :=
  List.replicate count (.run index answer)

def crash (tasks : List Nat) : List (Move (machine codec)) := tasks.map .crash

/-- A start drives its own run up to the fork of its children. -/
def started (requiresApproval : Bool) : List (Move (machine codec)) :=
  request (.start {} member { input := "hello" }) ::
    (steps 0 1 (answer 1 requiresApproval "run") ++ steps 0 8 (answer 1 requiresApproval "") ++
      steps 0 1 (answer 1 requiresApproval "lease") ++ steps 0 7 (answer 1 requiresApproval ""))

/-- Its business task gets as far as the handler of the first call. -/
def handlerEntered : List (Move (machine codec)) :=
  started false ++ steps 2 60 (answer 1 false "")

theorem noApproval : (none : Option String).isNone = (none : Option Bool).isNone := rfl

/-- The process dies there, and the run is resumed once the lease is over. -/
def takenOver (context : RequestContext) : List (Move (machine codec)) :=
  handlerEntered ++ crash [0, 1, 2] ++
    (request (.resume {} context "run" ⟨3, none, none, noApproval⟩) ::
      (steps 3 3 (answer 40 false "") ++ steps 3 1 (answer 40 false "takeover") ++
        steps 3 7 (answer 40 false "")))

/-- The business task of a start asks for approval of its first call and ends. -/
def approvalRequested : List (Move (machine codec)) :=
  started true ++ steps 2 46 (answer 1 true "") ++ steps 2 1 (answer 1 true "approval") ++
    steps 2 9 (answer 1 true "")

/-- A resume approves the call, and its business task enters the handler. -/
def approved : List (Move (machine codec)) :=
  approvalRequested ++ crash [0, 1, 2] ++
    (request (.resume {} member "run" ⟨3, some "approval", some true, rfl⟩) ::
      (steps 3 7 (answer 40 true "") ++ steps 3 1 (answer 40 true "takeover") ++
        steps 3 7 (answer 40 true "") ++ steps 5 41 (answer 40 true "")))

end Deployment

open Deployment

/-! ## At most one handler start per decision -/

section

variable {codec : Codec} {pool : Pool (machine codec)}

/-- A handler starts once at most and under its own worker's dispatch, and what follows
a call that must not replay is for a decision committed later. -/
theorem never_handler_starts_once_per_decision (reachable : pool.Reachable) (runId : String) :
    (∀ newer older task callId definition, (pool.world.runs runId).log =
        newer ++ .handlerStarted task callId definition :: older →
      ∃ oldest, DispatchedAt older task callId definition oldest) ∧
    ((pool.world.runs runId).log.filterMap Event.startedCall).Nodup ∧
    ∀ first second earlier later call other recent older,
      DispatchedAt (pool.world.runs runId).log second other later recent →
      DispatchedAt recent first call earlier older →
      earlier.durableReplayPolicy = .never →
      older.countP Event.decides < recent.countP Event.decides := by
  have run := pool_refines reachable runId
  refine ⟨?_, run.started_nodup, ?_⟩
  · intro newer older task callId definition log
    exact run.started_after_dispatch log
  · intro first second earlier later call other recent older isLater isEarlier never
    exact run.dispatched_later origin_fresh isLater isEarlier never

/-- The handler was entered once when a second worker took the run over, and the
second worker ended the run instead of entering it again. -/
theorem never_handler_starts_once_takenOver :
    ∃ pool, Pool.run (takenOver member ++ steps 5 29 (answer 40 false ""))
        (Pool.initial _) = some pool ∧
      ((pool.world.runs "run").log.filterMap Event.startedCall = ["run-step-1-tool-1"] ∧
        (pool.world.runs "run").stored.map (·.status) = some .interventionRequired) ∧
      ((pool.world.runs "run").log.filterMap Event.startedCall).Nodup := by
  obtain ⟨pool, performed, facts⟩ := Pool.exists_of_run
    (fun pool : Pool (machine Deployment.codec) =>
      (pool.world.runs "run").log.filterMap Event.startedCall = ["run-step-1-tool-1"] ∧
        (pool.world.runs "run").stored.map (·.status) = some .interventionRequired)
    (takenOver member ++ steps 5 29 (answer 40 false "")) (by decide +kernel)
  exact ⟨pool, performed, facts, (never_handler_starts_once_per_decision ⟨_, performed⟩ "run").2.1⟩

/-! ## Unknown outcomes -/

/-- Where every exit without a look at the ledger is a known one, a run that ended over an
entered call that must not replay asks for intervention or was cancelled. -/
theorem unknown_outcome_needs_intervention (reachable : pool.Reachable) (runId : String)
    (known : Along ExitKnown (pool.world.runs runId).log) {snapshot : DurableSnapshot}
    (stored : (pool.world.runs runId).stored = some snapshot)
    (ended : snapshot.status.terminal = true) {row : LedgerRow}
    (recorded : row ∈ (pool.world.runs runId).ledger) (started : row.entry.status = .started)
    (never : row.entry.replayPolicy = .never)
    (entered : Entered (pool.world.runs runId).log row.entry.callId) :
    snapshot.status = .interventionRequired ∨ snapshot.status = .cancelled := by
  have resolved := (pool_refines reachable runId).resolved origin_fresh known
  by_contra otherwise
  rw [not_or] at otherwise
  have retired := resolved snapshot stored ended otherwise.1 otherwise.2 row recorded started never
  exact retired.unentered entered

/-- The second worker looks at the ledger, and the run asks for intervention. -/
theorem unknown_outcome_needs_intervention_takenOver :
    ∃ pool snapshot row, Pool.run (takenOver member ++ steps 5 29 (answer 40 false ""))
        (Pool.initial _) = some pool ∧
      (pool.world.runs "run").stored = some snapshot ∧ row ∈ (pool.world.runs "run").ledger ∧
      Entered (pool.world.runs "run").log row.entry.callId ∧
      (snapshot.status = .interventionRequired ∨ snapshot.status = .cancelled) := by
  obtain ⟨pool, performed, guarded, entries, entered, ended⟩ := Pool.exists_of_run
    (fun pool : Pool (machine Deployment.codec) =>
      (pool.world.runs "run").log.all (fun event => !event.exitsBlindly) = true ∧
        (pool.world.runs "run").ledger.map (fun row =>
          (row.entry.callId, row.entry.status, row.entry.replayPolicy)) =
            [("run-step-1-tool-1", .started, .never)] ∧
        (pool.world.runs "run").log.filterMap Event.startedCall = ["run-step-1-tool-1"] ∧
        (pool.world.runs "run").stored.map (·.status.terminal) = some true)
    (takenOver member ++ steps 5 29 (answer 40 false "")) (by decide +kernel)
  obtain ⟨snapshot, stored, terminal⟩ := Option.map_eq_some_iff.mp ended
  have hasEntry : ("run-step-1-tool-1", .started, .never) ∈
      (pool.world.runs "run").ledger.map (fun row =>
        (row.entry.callId, row.entry.status, row.entry.replayPolicy)) := by
    rw [entries]
    exact List.mem_cons_self
  obtain ⟨row, recorded, isRow⟩ := List.mem_map.mp hasEntry
  simp only [Prod.mk.injEq] at isRow
  have hasStart : row.entry.callId ∈ (pool.world.runs "run").log.filterMap Event.startedCall := by
    rw [entered, isRow.1]
    exact List.mem_cons_self
  obtain ⟨event, isIn, starts⟩ := List.mem_filterMap.mp hasStart
  obtain ⟨owner, definition, rfl⟩ := Event.startedCall_some starts
  exact ⟨pool, snapshot, row, performed, stored, recorded, ⟨owner, definition, isIn⟩,
    unknown_outcome_needs_intervention ⟨_, performed⟩ "run" (exitKnown_of_guarded guarded) stored
      terminal recorded isRow.2.1 isRow.2.2 ⟨owner, definition, isIn⟩⟩

/-- The second worker fails before it looks at the ledger, because the permission for
the tool is gone: the run ends as failed although its handler was entered. -/
theorem revoked_permission_hides_unknown_outcome :
    ∃ pool, Pool.run (takenOver restricted ++ steps 5 27 (answer 40 false ""))
        (Pool.initial _) = some pool ∧
      (pool.world.runs "run").stored.map (fun snapshot => (snapshot.status, snapshot.errorCode)) =
        some (.failed, some "TOOL_PERMISSION_DENIED") ∧
      (pool.world.runs "run").ledger.map (fun row =>
        (row.entry.callId, row.entry.status, row.entry.replayPolicy)) =
          [("run-step-1-tool-1", .started, .never)] ∧
      (pool.world.runs "run").log.filterMap Event.startedCall = ["run-step-1-tool-1"] :=
  Pool.exists_of_run (m := machine Deployment.codec) _ _ (by decide +kernel)

/-! ## Approvals -/

/-- A tool that needs approval is dispatched only under an authorisation of its action
since the last decision, and after a call that must not replay under a new one. -/
theorem approval_authorises_its_dispatch (reachable : pool.Reachable) (runId : String) :
    (∀ owner definition previous saved newer older, (pool.world.runs runId).log =
        newer ++ .saved owner (.beforeDispatch definition) previous saved :: older →
      definition.needsApproval previous = true →
      ∃ decision, previous.decision = some decision ∧
        Authorised codec decision definition older ∧
        Granted older (codec.decisionDigest decision) (some (codec.definitionDigest definition))) ∧
    ∀ first second earlier later previous saved laterPrevious laterSaved newer between older,
      (pool.world.runs runId).log =
        newer ++ .saved second (.beforeDispatch later) laterPrevious laterSaved ::
          (between ++ .saved first (.beforeDispatch earlier) previous saved :: older) →
      earlier.durableReplayPolicy = .never → later.needsApproval laterPrevious = true →
      ∃ decision, laterPrevious.decision = some decision ∧
        Authorised codec decision later between := by
  have run := pool_refines reachable runId
  constructor
  · intro owner definition previous saved newer older log needs
    exact run.dispatch_authorised origin_fresh log needs
  · intro first second earlier later previous saved laterPrevious laterSaved newer between older log
      never needs
    exact run.authorised_between origin_fresh log never needs

/-- The dispatch of a log that needed approval. -/
def gatedDispatch : Event → Option Bool
  | .saved _ (.beforeDispatch definition) previous _ => some (definition.needsApproval previous)
  | _ => none

/-- An approved call is dispatched and its handler entered; the approval stands behind it. -/
theorem approval_authorises_its_dispatch_approved :
    ∃ pool, Pool.run approved (Pool.initial _) = some pool ∧
      (pool.world.runs "run").log.filterMap Event.startedCall = ["run-step-1-tool-1"] ∧
      ∃ decision definition older,
        Authorised Deployment.codec decision definition older ∧
        Granted older (Deployment.codec.decisionDigest decision)
          (some (Deployment.codec.definitionDigest definition)) := by
  obtain ⟨pool, performed, entered, dispatched⟩ := Pool.exists_of_run
    (fun pool : Pool (machine Deployment.codec) =>
      (pool.world.runs "run").log.filterMap Event.startedCall = ["run-step-1-tool-1"] ∧
        (pool.world.runs "run").log.filterMap gatedDispatch = [true])
    approved (by decide +kernel)
  have hasDispatch : true ∈ (pool.world.runs "run").log.filterMap gatedDispatch := by
    rw [dispatched]
    exact List.mem_cons_self
  obtain ⟨event, isIn, gated⟩ := List.mem_filterMap.mp hasDispatch
  obtain ⟨newer, older, log⟩ := List.append_of_mem isIn
  have integrity := (approval_authorises_its_dispatch ⟨_, performed⟩ "run").1
  cases event with
  | saved owner site previous saved =>
    cases site with
    | beforeDispatch definition =>
      obtain ⟨decision, _, authorised⟩ :=
        integrity owner definition previous saved newer older log (Option.some.inj gated)
      exact ⟨pool, performed, entered, decision, definition, older, authorised⟩
    | _ => cases gated
  | _ => cases gated

/-! ## Budgets -/

/-- Over a whole run the model is called at most `max_steps` times, at most
`max_tool_calls` tools are dispatched, and no counter ever falls. -/
theorem budgets_survive_crashes (reachable : pool.Reachable) (runId : String) :
    (∀ snapshot ∈ (pool.world.runs runId).committed,
      ((pool.world.runs runId).log.filterMap Event.modelCall).length ≤ snapshot.config.maxSteps ∧
        ((pool.world.runs runId).log.filterMap Event.dispatched).length ≤
          snapshot.config.maxToolCalls) ∧
    (pool.world.runs runId).committed.Pairwise Grows := by
  have run := pool_refines reachable runId
  constructor
  · intro snapshot known
    exact run.budgets origin_fresh known
  · exact run.counters_grow

/-- One model call and one dispatch are counted across a takeover. -/
theorem budgets_survive_crashes_takenOver :
    ∃ pool, Pool.run (takenOver member ++ steps 5 29 (answer 40 false ""))
        (Pool.initial _) = some pool ∧
      ((pool.world.runs "run").log.filterMap Event.modelCall = [1] ∧
        (pool.world.runs "run").log.filterMap Event.dispatched = ["run-step-1-tool-1"] ∧
        (pool.world.runs "run").committed.map (fun snapshot =>
          (snapshot.stepsUsed, snapshot.toolCallsUsed)) =
            [(1, 1), (1, 1), (1, 0), (1, 0), (0, 0)]) ∧
      (pool.world.runs "run").committed.Pairwise Grows := by
  obtain ⟨pool, performed, counted⟩ := Pool.exists_of_run
    (fun pool : Pool (machine Deployment.codec) =>
      (pool.world.runs "run").log.filterMap Event.modelCall = [1] ∧
        (pool.world.runs "run").log.filterMap Event.dispatched = ["run-step-1-tool-1"] ∧
        (pool.world.runs "run").committed.map (fun snapshot =>
          (snapshot.stepsUsed, snapshot.toolCallsUsed)) =
            [(1, 1), (1, 1), (1, 0), (1, 0), (0, 0)])
    (takenOver member ++ steps 5 29 (answer 40 false "")) (by decide +kernel)
  exact ⟨pool, performed, counted, (budgets_survive_crashes ⟨_, performed⟩ "run").2⟩

end

end AegisRag.Agent.Durable.Service
