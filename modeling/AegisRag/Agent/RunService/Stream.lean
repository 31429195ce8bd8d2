import AegisRag.Agent.Streaming

/-!
# Streaming a run

`AgentRunApplicationService.stream` of `packages/agent/service.py`: the producer that runs
the agent, the task that gets the next event from the queue, and the generator that the
consumer reads. The three take turns in any order. The run may put any progress events; a
producer that is cancelled puts no terminal event. The consumer may close the stream at any
time.
-/

namespace AegisRag.Agent.RunService.Stream

open Streaming

/-- How `produce` goes on; its task is made when the first event is asked for. -/
inductive Producer (ρ : Type) where
  | absent
  | running
  /-- Waiting for room for the terminal event. -/
  | putting (event : AgentStreamEvent ρ)
  | done
  | cancelled

/-- The task behind `pending_event`. -/
inductive Getter (ρ : Type) where
  | absent
  | waiting
  | got (event : AgentStreamEvent ρ)

/-- Where the generator is. -/
inductive Phase where
  /-- Not started, or at a `yield`; whether the event yielded was terminal. -/
  | suspended (afterTerminal : Bool)
  /-- In `asyncio.wait`. -/
  | waiting
  /-- In `await pending_event`. -/
  | awaitingEvent
  /-- In `await producer`. -/
  | awaitingProducer
  | returned
  | raised
  | closed
deriving DecidableEq

/-- A stream and what the consumer has received from it. -/
structure State (ρ : Type) where
  sink : AgentStreamSink ρ
  producer : Producer ρ
  getter : Getter ρ
  phase : Phase
  delivered : List (AgentStreamEvent ρ)

variable {ρ : Type}

def initial (requestId traceId : String) : State ρ where
  sink := .new requestId traceId
  producer := .absent
  getter := .absent
  phase := .suspended false
  delivered := []

/-- How `run` ends inside `produce`. -/
inductive RunOutcome (ρ : Type) where
  | returned (response : ρ)
  | failed (code : String)
  | cancelled

/-- What can happen next. -/
inductive Action (ρ : Type) where
  | started (runId : String)
  | emit (event : AgentToolEvent)
  | runEnds (outcome : RunOutcome ρ)
  | putTerminal
  | get
  | read
  | wake
  | receive
  | join
  | close

/-- The run ends. -/
def Producer.after (sink : AgentStreamSink ρ) : RunOutcome ρ → Producer ρ
  | .returned response => .putting (sink.completion response)
  | .failed code => .putting (sink.failure code)
  | .cancelled => .cancelled

/-- The producer once an event has been asked for. -/
def Producer.start : Producer ρ → Producer ρ
  | .absent => .running
  | producer => producer

def Producer.isDone : Producer ρ → Bool
  | .done | .cancelled => true
  | .absent | .running | .putting _ => false

/-- Whether the task behind `pending_event` is done. -/
def Getter.isDone : Getter ρ → Bool
  | .got _ => true
  | .absent | .waiting => false

def Phase.isOver : Phase → Bool
  | .returned | .raised | .closed => true
  | _ => false

/-- What the `finally` of the generator does to the sink and to the pending get. -/
def State.finish (state : State ρ) (phase : Phase) : State ρ :=
  { state with
    sink := { state.sink with closed := true }
    getter := .absent
    phase := phase }

def step (state : State ρ) : Action ρ → Option (State ρ)
  | .started runId =>
    match state.producer with
    | .running => some { state with sink := state.sink.started runId }
    | _ => none
  | .emit event =>
    match state.producer with
    | .running => some { state with sink := state.sink.emit event }
    | _ => none
  | .runEnds outcome =>
    match state.producer with
    | .running => some { state with producer := .after state.sink outcome }
    | _ => none
  | .putTerminal =>
    match state.producer with
    | .putting event =>
      if state.sink.isFull then none
      else some { state with sink := state.sink.putTerminal event, producer := .done }
    | _ => none
  | .get =>
    match state.getter, state.sink.queue with
    | .waiting, event :: rest =>
      some { state with sink := { state.sink with queue := rest }, getter := .got event }
    | _, _ => none
  | .read =>
    match state.phase with
    | .suspended true => some { state with phase := .awaitingProducer }
    | .suspended false =>
      some { state with
        producer := state.producer.start
        getter := .waiting
        phase := .waiting }
    | _ => none
  | .wake =>
    match state.phase with
    | .waiting =>
      if !state.getter.isDone && !state.producer.isDone then none
      else if !state.getter.isDone && state.sink.queue.isEmpty then
        some { state with phase := .awaitingProducer }
      else some { state with phase := .awaitingEvent }
    | _ => none
  | .receive =>
    match state.phase, state.getter with
    | .awaitingEvent, .got event =>
      some { state with
        getter := .absent
        phase := .suspended event.data.isTerminal
        delivered := state.delivered ++ [event] }
    | _, _ => none
  | .join =>
    match state.phase, state.producer with
    | .awaitingProducer, .done => some (state.finish .returned)
    | .awaitingProducer, .cancelled => some (state.finish .raised)
    | _, _ => none
  | .close => if state.phase.isOver then none else some (state.finish .closed)

def run : List (Action ρ) → State ρ → Option (State ρ)
  | [], state => some state
  | action :: rest, state => (step state action).bind (run rest)

end AegisRag.Agent.RunService.Stream
