import AegisRag.Agent.Observation

/-!
# Events of a run

`AgentStreamSink` and its events, of `packages/agent/streaming.py`. An event carries what
its kind allows: a progress event the tool call it is about, an error its code, and only
the final event a response, whose type is a parameter.
-/

namespace AegisRag.Agent.Streaming

open Semantics Durable

inductive ToolEventKind where
  | toolCall
  | toolResult
deriving DecidableEq

inductive ToolEventStatus where
  | started
  | success
  | error
deriving DecidableEq

/-- `AgentToolEvent`. -/
structure AgentToolEvent where
  kind : ToolEventKind
  requestId : String
  traceId : String
  toolCallId : String
  toolName : String
  status : ToolEventStatus
  metadata : Members

/-- The data of a public progress event. -/
structure ToolProgress where
  toolCallId : String
  toolName : String
  status : ToolEventStatus
  latencyMs : Option Seconds
  errorCode : Option String
deriving DecidableEq

inductive EventData (ρ : Type) where
  | started
  | tool (kind : ToolEventKind) (progress : ToolProgress)
  | error (code : String)
  | final (response : ρ)

/-- `AgentStreamEvent`. -/
structure AgentStreamEvent (ρ : Type) where
  sequence : ℕ
  requestId : String
  traceId : String
  agentRunId : Option String
  data : EventData ρ

variable {ρ : Type}

/-- The events that end a stream. -/
def EventData.isTerminal : EventData ρ → Bool
  | .error _ | .final _ => true
  | .started | .tool _ _ => false

def EventData.isError : EventData ρ → Bool
  | .error _ => true
  | _ => false

/-- The pattern of a public error code. -/
def isErrorCode (code : String) : Bool :=
  match code.toList with
  | [] => false
  | first :: rest =>
    first.isUpper && rest.all (fun char => char.isUpper || char.isDigit || char == '_') &&
      rest.length ≤ 79

/-! ## The sink -/

/-- `maxsize` of the queue. -/
def capacity : ℕ := 64

/-- `AgentStreamSink`, and how many progress events it has dropped because its queue was
full. -/
structure AgentStreamSink (ρ : Type) where
  requestId : String
  traceId : String
  queue : List (AgentStreamEvent ρ)
  runId : Option String
  sequence : ℕ
  closed : Bool
  overflowed : Bool
  dropped : ℕ

namespace AgentStreamSink

def new (requestId traceId : String) : AgentStreamSink ρ where
  requestId := requestId
  traceId := traceId
  queue := []
  runId := none
  sequence := 0
  closed := false
  overflowed := false
  dropped := 0

variable (sink : AgentStreamSink ρ)

/-- `_event`. -/
def event (data : EventData ρ) : AgentStreamEvent ρ where
  sequence := sink.sequence
  requestId := sink.requestId
  traceId := sink.traceId
  agentRunId := sink.runId
  data := data

def isFull : Bool := capacity ≤ sink.queue.length

/-- `_put`. -/
def put (event : AgentStreamEvent ρ) : AgentStreamSink ρ :=
  if sink.closed then sink
  else if sink.isFull then { sink with overflowed := true, dropped := sink.dropped + 1 }
  else { sink with queue := sink.queue ++ [event], sequence := sink.sequence + 1 }

/-- `started`. -/
def started (runId : String) : AgentStreamSink ρ :=
  let named := { sink with runId := some runId }
  named.put (named.event .started)

/-- The latency that `emit` lets through; a boolean is read as a number. -/
def publicLatency (metadata : Members) : Option Seconds :=
  match metadata.lookup "latency_ms" with
  | some (.int value) => if 0 ≤ value then some value else none
  | some (.float value) => if 0 ≤ value then some value else none
  | some (.bool value) => some (if value then 1 else 0)
  | _ => none

/-- The error code that `emit` lets through. -/
def publicErrorCode (metadata : Members) : Option String :=
  (textOf metadata "error_code").filter isErrorCode

/-- The data of the public event. -/
def progress (event : AgentToolEvent) : EventData ρ :=
  .tool event.kind
    { toolCallId := event.toolCallId
      toolName := event.toolName
      status := event.status
      latencyMs := publicLatency event.metadata
      errorCode := publicErrorCode event.metadata }

/-- `emit`; an event of another request raises and is not put. -/
def emit (event : AgentToolEvent) : AgentStreamSink ρ :=
  if event.requestId ≠ sink.requestId ∨ event.traceId ≠ sink.traceId then sink
  else sink.put (sink.event (progress event))

/-- The event that `fail` puts. -/
def failure (code : String) : AgentStreamEvent ρ :=
  sink.event (.error (if isErrorCode code then code else "AGENT_RUN_FAILED"))

/-- The event that `finish` puts. -/
def completion (response : ρ) : AgentStreamEvent ρ :=
  if sink.overflowed then sink.failure "AGENT_STREAM_OVERFLOW" else sink.event (.final response)

/-- `await self.queue.put(event)` where the queue has room. -/
def putTerminal (event : AgentStreamEvent ρ) : AgentStreamSink ρ :=
  { sink with queue := sink.queue ++ [event], sequence := sink.sequence + 1 }

end AgentStreamSink

end AegisRag.Agent.Streaming
