import AegisRag.Agent.RunService.Stream

/-!
# The order of a stream

As long as a stream is read, the events delivered, taken and queued are numbered without a
gap, and only the last of them can be terminal. The generator stops at the terminal event,
or when nothing is left of a producer that was cancelled.
-/

namespace AegisRag.Agent.RunService.Stream

open Streaming

variable {ρ : Type}

/-! ## What a stream holds -/

def Getter.events : Getter ρ → List (AgentStreamEvent ρ)
  | .got event => [event]
  | .absent | .waiting => []

/-- The events put so far that are not lost: delivered, taken and queued. -/
def State.events (state : State ρ) : List (AgentStreamEvent ρ) :=
  state.delivered ++ (state.getter.events ++ state.sink.queue)

/-- No event ends the stream. -/
def IsProgress (events : List (AgentStreamEvent ρ)) : Prop :=
  ∀ event ∈ events, event.data.isTerminal = false

/-- The last event ends the stream, with an error if one was dropped. -/
def IsComplete (overflowed : Bool) (events : List (AgentStreamEvent ρ)) : Prop :=
  ∃ progress last, events = progress ++ [last] ∧ IsProgress progress ∧
    last.data.isTerminal = true ∧ (overflowed = true → last.data.isError = true)

/-- The last event received ends the stream. -/
def EndsTerminal (events : List (AgentStreamEvent ρ)) : Prop :=
  ∃ progress last, events = progress ++ [last] ∧ last.data.isTerminal = true

/-- What the events are, given how far the producer is. -/
structure Shape (state : State ρ) : Prop where
  progress : state.producer ≠ .done → IsProgress state.events
  complete : state.producer = .done → IsComplete state.sink.overflowed state.events
  putting : ∀ event, state.producer = .putting event →
    event.sequence = state.sink.sequence ∧ event.data.isTerminal = true ∧
      (state.sink.overflowed = true → event.data.isError = true)

/-- What has been delivered, given where the generator is. -/
structure PhaseFits (state : State ρ) : Prop where
  suspended : ∀ afterTerminal, state.phase = .suspended afterTerminal → state.getter = .absent
  ended : state.phase = .suspended true → EndsTerminal state.delivered
  reading : state.phase = .suspended false ∨ state.phase = .waiting ∨
    state.phase = .awaitingEvent → IsProgress state.delivered
  joining : state.phase = .awaitingProducer →
    EndsTerminal state.delivered ∨ state.producer = .cancelled
  getting : state.phase = .waiting ∨ state.phase = .awaitingEvent → state.getter ≠ .absent
  queued : state.phase = .awaitingEvent → state.getter = .waiting → state.sink.queue ≠ []

/-- The invariant of a stream that is still read. -/
structure Live (state : State ρ) : Prop where
  isOpen : state.sink.closed = false
  numbered : state.events.map (·.sequence) = List.range state.sink.sequence
  shape : Shape state
  overflowed : state.sink.overflowed = decide (0 < state.sink.dropped)
  phase : PhaseFits state

/-- What holds of the delivered events at any time. -/
structure Sound (state : State ρ) : Prop where
  numbered : state.delivered.map (·.sequence) = List.range state.delivered.length
  onlyLast : IsProgress state.delivered.dropLast
  overflowed : ∀ event ∈ state.delivered, event.data.isTerminal = true → 0 < state.sink.dropped →
    event.data.isError = true
  returned : state.phase = .returned → EndsTerminal state.delivered

variable {state next : State ρ} {event : AgentStreamEvent ρ} {action : Action ρ}

theorem Shape.cases (shape : Shape state) :
    IsProgress state.events ∨ IsComplete state.sink.overflowed state.events := by
  by_cases isDone : state.producer = .done
  · exact Or.inr (shape.complete isDone)
  · exact Or.inl (shape.progress isDone)

/-- While the run goes on there is no terminal event. -/
theorem Shape.of_running (isRunning : state.producer = .running)
    (isProgress : IsProgress state.events) : Shape state where
  progress _ := isProgress
  complete isDone := by
    rw [isRunning] at isDone
    cases isDone
  putting event isPutting := by
    rw [isRunning] at isPutting
    cases isPutting

theorem Shape.running (shape : Shape state) (isRunning : state.producer = .running) :
    IsProgress state.events :=
  shape.progress (by simp [isRunning])

/-- The producer goes on without being cancelled. -/
theorem PhaseFits.produce (fits : PhaseFits state) (isPhase : next.phase = state.phase)
    (isGetter : next.getter = state.getter) (isDelivered : next.delivered = state.delivered)
    (isQueue : state.sink.queue <+: next.sink.queue)
    (notCancelled : state.producer = .cancelled → next.producer = .cancelled) :
    PhaseFits next := by
  constructor
  · rw [isPhase, isGetter]
    exact fits.suspended
  · rw [isPhase, isDelivered]
    exact fits.ended
  · rw [isPhase, isDelivered]
    exact fits.reading
  · rw [isPhase, isDelivered]
    exact fun joining => (fits.joining joining).imp_right notCancelled
  · rw [isPhase, isGetter]
    exact fits.getting
  · rw [isPhase, isGetter]
    intro awaiting waiting isEmpty
    rw [isEmpty] at isQueue
    exact fits.queued awaiting waiting (List.prefix_nil.mp isQueue)

/-- Of events of which only the last is terminal, so are the first ones. -/
theorem IsComplete.of_begins (complete : IsComplete overflowed events)
    (isPrefix : first <+: events) :
    IsProgress first ∨ first = events := by
  obtain ⟨_, _, rfl, isProgress, _, _⟩ := complete
  rcases List.prefix_concat_iff.mp isPrefix with whole | before
  · exact Or.inr whole
  · exact Or.inl fun event isEvent => isProgress event (before.subset isEvent)

theorem range_of_prefix (isPrefix : numbers <+: List.range count) :
    numbers = List.range numbers.length := by
  have isTake := List.prefix_iff_eq_take.mp isPrefix
  have within : numbers.length ≤ count := by simpa using isPrefix.length_le
  rw [List.take_range, Nat.min_eq_left within] at isTake
  exact isTake

theorem Live.sound (live : Live state) (notReturned : state.phase ≠ .returned) : Sound state := by
  have isPrefix : state.delivered <+: state.events := List.prefix_append _ _
  constructor
  · have prefixOfRange : state.delivered.map (·.sequence) <+: List.range state.sink.sequence := by
      rw [← live.numbered]
      exact isPrefix.map _
    simpa using range_of_prefix prefixOfRange
  · intro event isEvent
    have isDelivered := List.dropLast_subset _ isEvent
    rcases live.shape.cases with isProgress | isComplete
    · exact isProgress event (isPrefix.subset isDelivered)
    · rcases isComplete.of_begins isPrefix with isProgress | whole
      · exact isProgress event isDelivered
      · obtain ⟨progress, last, isEvents, isProgress, _, _⟩ := isComplete
        rw [whole, isEvents, List.dropLast_concat] at isEvent
        exact isProgress event isEvent
  · intro event isEvent terminal dropped
    have isOverflowed : state.sink.overflowed = true := by
      rw [live.overflowed]
      exact decide_eq_true dropped
    rcases live.shape.cases with isProgress | isComplete
    · rw [isProgress event (isPrefix.subset isEvent)] at terminal
      cases terminal
    · obtain ⟨progress, last, isEvents, isProgress, _, isError⟩ := isComplete
      have isMember := isPrefix.subset isEvent
      rw [isEvents, List.mem_append, List.mem_singleton] at isMember
      rcases isMember with earlier | rfl
      · rw [isProgress event earlier] at terminal
        cases terminal
      · exact isError isOverflowed
  · exact fun isReturned => absurd isReturned notReturned

/-! ## Steps -/

/-- The whole invariant: a stream that is over keeps what it delivered. -/
def Inv (state : State ρ) : Prop :=
  if state.phase.isOver then Sound state ∧ state.sink.closed = true ∧ state.getter = .absent
  else Live state

/-- What putting a progress event does to an open sink. -/
theorem put_spec {sink : AgentStreamSink ρ} (isOpen : sink.closed = false)
    (event : AgentStreamEvent ρ) :
    sink.put event = { sink with overflowed := true, dropped := sink.dropped + 1 } ∨
      sink.put event =
        { sink with queue := sink.queue ++ [event], sequence := sink.sequence + 1 } := by
  unfold AgentStreamSink.put
  rw [if_neg (by simp [isOpen])]
  split
  · exact Or.inl rfl
  · exact Or.inr rfl

section

variable (live : Live state) (isRunning : state.producer = .running)

include live isRunning

/-- Progress that is put, or dropped, while the run goes on. -/
theorem Live.put
    (isNext : event.sequence = state.sink.sequence) (isProgress : event.data.isTerminal = false) :
    Live { state with sink := state.sink.put event } := by
  have before := live.shape.running isRunning
  rcases put_spec live.isOpen event with dropped | put
  · rw [dropped]
    exact
      { isOpen := live.isOpen
        numbered := live.numbered
        shape := .of_running isRunning before
        overflowed := by simp
        phase := live.phase.produce rfl rfl rfl (List.prefix_refl _) id }
  · rw [put]
    have events : State.events { state with sink := { state.sink with
        queue := state.sink.queue ++ [event], sequence := state.sink.sequence + 1 } } =
        state.events ++ [event] := by
      simp [State.events]
    have after : IsProgress (state.events ++ [event]) := by
      intro found isFound
      rcases List.mem_append.mp isFound with earlier | last
      · exact before found earlier
      · rw [List.mem_singleton.mp last]
        exact isProgress
    constructor
    · exact live.isOpen
    · rw [events, List.map_append, live.numbered, List.range_succ]
      simp [isNext]
    · refine Shape.of_running (by exact isRunning) ?_
      rw [events]
      exact after
    · exact live.overflowed
    · exact live.phase.produce rfl rfl rfl (List.prefix_append _ _) id

theorem Live.started (runId : String) : Live { state with sink := state.sink.started runId } := by
  have named : Live { state with sink := { state.sink with runId := some runId } } :=
    { isOpen := live.isOpen
      numbered := live.numbered
      shape := .of_running isRunning (live.shape.running isRunning)
      overflowed := live.overflowed
      phase := live.phase.produce rfl rfl rfl (List.prefix_refl _) id }
  exact named.put isRunning rfl rfl

theorem Live.emit (event : AgentToolEvent) : Live { state with sink := state.sink.emit event } := by
  unfold AgentStreamSink.emit
  split
  · exact live
  · exact live.put isRunning rfl rfl

/-- The run ends in a stream that is still read. -/
theorem Live.runEnds
    (outcome : RunOutcome ρ) : Live { state with producer := .after state.sink outcome } := by
  have before := live.shape.running isRunning
  have fits : PhaseFits { state with producer := Producer.after state.sink outcome } := by
    refine live.phase.produce (by rfl) (by rfl) (by rfl) (List.prefix_refl _) ?_
    intro isCancelled
    rw [isRunning] at isCancelled
    cases isCancelled
  refine ⟨live.isOpen, live.numbered, ?_, live.overflowed, fits⟩
  cases outcome with
  | returned response =>
    refine ⟨fun _ => before, fun isDone => (by cases isDone), ?_⟩
    intro event isPutting
    cases isPutting
    unfold AgentStreamSink.completion
    split
    · exact ⟨rfl, rfl, fun _ => rfl⟩
    · rename_i notOverflowed
      exact ⟨rfl, rfl, fun overflowed => absurd overflowed notOverflowed⟩
  | failed code =>
    refine ⟨fun _ => before, fun isDone => (by cases isDone), ?_⟩
    intro event isPutting
    cases isPutting
    exact ⟨rfl, rfl, fun _ => rfl⟩
  | cancelled =>
    refine ⟨fun _ => before, fun isDone => (by cases isDone), ?_⟩
    intro event isPutting
    cases isPutting

end

theorem Live.putTerminal (live : Live state) (isPutting : state.producer = .putting event) :
    Live { state with sink := state.sink.putTerminal event, producer := .done } := by
  have isProgress := live.shape.progress (by simp [isPutting])
  obtain ⟨isNext, terminal, isError⟩ := live.shape.putting event isPutting
  have events : State.events { state with
      sink := state.sink.putTerminal event, producer := .done } = state.events ++ [event] := by
    simp [State.events, AgentStreamSink.putTerminal]
  constructor
  · exact live.isOpen
  · rw [events, List.map_append, live.numbered]
    show _ = List.range (state.sink.sequence + 1)
    rw [List.range_succ, ← isNext]
    rfl
  · constructor
    · exact fun notDone => absurd rfl notDone
    · intro _
      rw [events]
      exact ⟨state.events, event, rfl, isProgress, terminal, isError⟩
    · intro _ impossible
      cases impossible
  · exact live.overflowed
  · refine live.phase.produce (by rfl) (by rfl) (by rfl) (List.prefix_append _ _) ?_
    intro isCancelled
    rw [isPutting] at isCancelled
    cases isCancelled

theorem PhaseFits.of_waiting (isPhase : state.phase = .waiting)
    (isProgress : IsProgress state.delivered) (getting : state.getter ≠ .absent) :
    PhaseFits state where
  suspended := by simp [isPhase]
  ended := by simp [isPhase]
  reading _ := isProgress
  joining := by simp [isPhase]
  getting _ := getting
  queued := by simp [isPhase]

theorem PhaseFits.of_awaitingEvent (isPhase : state.phase = .awaitingEvent)
    (isProgress : IsProgress state.delivered) (getting : state.getter ≠ .absent)
    (queued : state.getter = .waiting → state.sink.queue ≠ []) : PhaseFits state where
  suspended := by simp [isPhase]
  ended := by simp [isPhase]
  reading _ := isProgress
  joining := by simp [isPhase]
  getting _ := getting
  queued _ := queued

theorem PhaseFits.of_awaitingProducer (isPhase : state.phase = .awaitingProducer)
    (joining : EndsTerminal state.delivered ∨ state.producer = .cancelled) : PhaseFits state where
  suspended := by simp [isPhase]
  ended := by simp [isPhase]
  reading := by simp [isPhase]
  joining _ := joining
  getting := by simp [isPhase]
  queued := by simp [isPhase]

theorem Getter.events_of_not_isDone {getter : Getter ρ} (notDone : getter.isDone = false) :
    getter.events = [] := by
  cases getter with
  | absent | waiting => rfl
  | got event => cases notDone

/-- A step that neither puts nor loses an event, to a phase that fits. -/
theorem Live.move (live : Live state) (isSink : next.sink.closed = false)
    (isSequence : next.sink.sequence = state.sink.sequence)
    (isOverflowed : next.sink.overflowed = state.sink.overflowed)
    (isDropped : next.sink.dropped = state.sink.dropped)
    (isProducer : next.producer = state.producer) (isEvents : next.events = state.events)
    (fits : PhaseFits next) : Live next where
  isOpen := isSink
  numbered := by
    rw [isEvents, isSequence]
    exact live.numbered
  shape := by
    constructor
    · rw [isProducer, isEvents]
      exact live.shape.progress
    · rw [isProducer, isEvents, isOverflowed]
      exact live.shape.complete
    · rw [isProducer, isSequence, isOverflowed]
      exact live.shape.putting
  overflowed := by
    rw [isOverflowed, isDropped]
    exact live.overflowed
  phase := fits

theorem Live.get (live : Live state) (isWaiting : state.getter = .waiting)
    (isQueue : state.sink.queue = event :: rest) :
    Live { state with sink := { state.sink with queue := rest }, getter := .got event } := by
  refine live.move live.isOpen rfl rfl rfl rfl ?_ ?_
  · simp [State.events, isWaiting, isQueue, Getter.events]
  · refine ⟨?_, live.phase.ended, live.phase.reading, live.phase.joining, ?_, ?_⟩
    · intro afterTerminal suspended
      have isAbsent := live.phase.suspended afterTerminal suspended
      rw [isWaiting] at isAbsent
      cases isAbsent
    · intro _ impossible
      cases impossible
    · intro _ impossible
      cases impossible

theorem Producer.start_eq {producer : Producer ρ} (notAbsent : producer ≠ .absent) :
    producer.start = producer := by
  cases producer with
  | absent => exact absurd rfl notAbsent
  | running | putting _ | done | cancelled => rfl

section

variable (live : Live state)

include live

theorem Live.start : Live { state with producer := state.producer.start } := by
  by_cases isAbsent : state.producer = .absent
  · have isProgress := live.shape.progress (by simp [isAbsent])
    rw [isAbsent]
    refine ⟨live.isOpen, live.numbered, .of_running rfl isProgress, live.overflowed, ?_⟩
    refine live.phase.produce (by rfl) (by rfl) (by rfl) (List.prefix_refl _) ?_
    rw [isAbsent]
    intro isCancelled
    cases isCancelled
  · rw [Producer.start_eq isAbsent]
    exact live

/-- The consumer asks for the next event. -/
theorem Live.read (suspended : state.phase = .suspended false) :
    Live { state with
      producer := state.producer.start, getter := .waiting, phase := .waiting } := by
  have isAbsent := live.phase.suspended false suspended
  have isProgress := live.phase.reading (Or.inl suspended)
  refine live.start.move live.isOpen rfl rfl rfl rfl ?_ ?_
  · simp [State.events, isAbsent, Getter.events]
  · exact .of_waiting rfl isProgress (by simp)

/-- The consumer goes on after the terminal event. -/
theorem Live.readEnd (suspended : state.phase = .suspended true) :
    Live { state with phase := .awaitingProducer } := by
  refine live.move live.isOpen rfl rfl rfl rfl rfl ?_
  exact .of_awaitingProducer rfl (Or.inl (live.phase.ended suspended))

/-- With nothing left, the producer was cancelled. -/
theorem Live.wakeEnd (isWaiting : state.phase = .waiting)
    (isDone : state.producer.isDone = true)
    (nothing : state.getter.events ++ state.sink.queue = []) :
    Live { state with phase := .awaitingProducer } := by
  have isProgress := live.phase.reading (Or.inr (Or.inl isWaiting))
  have isCancelled : state.producer = .cancelled := by
    cases isProducer : state.producer with
    | cancelled => rfl
    | absent | running | putting event =>
      rw [isProducer] at isDone
      cases isDone
    | done =>
      obtain ⟨_, last, isEvents, _, terminal, _⟩ := live.shape.complete isProducer
      rw [State.events, nothing, List.append_nil] at isEvents
      rw [isProgress last (isEvents ▸ by simp)] at terminal
      cases terminal
  refine live.move live.isOpen rfl rfl rfl rfl rfl ?_
  exact .of_awaitingProducer rfl (Or.inr isCancelled)

theorem Live.wake (isWaiting : state.phase = .waiting)
    (queued : state.getter = .waiting → state.sink.queue ≠ []) :
    Live { state with phase := .awaitingEvent } := by
  have isProgress := live.phase.reading (Or.inr (Or.inl isWaiting))
  refine live.move live.isOpen rfl rfl rfl rfl rfl ?_
  exact .of_awaitingEvent rfl isProgress (live.phase.getting (Or.inl isWaiting)) queued

theorem Live.receive (isAwaiting : state.phase = .awaitingEvent)
    (isGot : state.getter = .got event) :
    Live { state with
      getter := .absent
      phase := .suspended event.data.isTerminal
      delivered := state.delivered ++ [event] } := by
  have isProgress := live.phase.reading (Or.inr (Or.inr isAwaiting))
  refine live.move live.isOpen rfl rfl rfl rfl ?_ ?_
  · simp [State.events, isGot, Getter.events]
  · refine ⟨fun _ _ => rfl, ?_, ?_, by simp, by simp, by simp⟩
    · intro isTerminal
      exact ⟨state.delivered, event, rfl, by simpa using isTerminal⟩
    · intro reading found isFound
      have notTerminal : event.data.isTerminal = false := by
        rcases reading with suspended | other | other
        · simpa using suspended
        · cases other
        · cases other
      rcases List.mem_append.mp isFound with earlier | last
      · exact isProgress found earlier
      · rw [List.mem_singleton.mp last]
        exact notTerminal

/-- Ending the generator keeps what was delivered. -/
theorem Live.finish (notOver : state.phase.isOver = false) {phase : Phase}
    (isOver : phase.isOver = true) (isEnd : phase = .returned → EndsTerminal state.delivered) :
    Inv (state.finish phase) := by
  have sound := live.sound fun isReturned => by
    rw [isReturned] at notOver
    cases notOver
  have isOver : (state.finish phase).phase.isOver = true := isOver
  unfold Inv
  rw [if_pos isOver]
  exact ⟨⟨sound.numbered, sound.onlyLast, sound.overflowed, isEnd⟩, rfl, rfl⟩

end

/-- What a step does, and where it is possible. -/
inductive Moves (state : State ρ) : State ρ → Prop
  | started (runId : String) (isRunning : state.producer = .running) :
      Moves state { state with sink := state.sink.started runId }
  | emit (event : AgentToolEvent) (isRunning : state.producer = .running) :
      Moves state { state with sink := state.sink.emit event }
  | runEnds (outcome : RunOutcome ρ) (isRunning : state.producer = .running) :
      Moves state { state with producer := .after state.sink outcome }
  | putTerminal {event : AgentStreamEvent ρ} (isPutting : state.producer = .putting event) :
      Moves state { state with sink := state.sink.putTerminal event, producer := .done }
  | get {event : AgentStreamEvent ρ} {rest} (isWaiting : state.getter = .waiting)
      (isQueue : state.sink.queue = event :: rest) :
      Moves state { state with sink := { state.sink with queue := rest }, getter := .got event }
  | readEnd (suspended : state.phase = .suspended true) :
      Moves state { state with phase := .awaitingProducer }
  | read (suspended : state.phase = .suspended false) :
      Moves state { state with
        producer := state.producer.start, getter := .waiting, phase := .waiting }
  | wakeEnd (isWaiting : state.phase = .waiting)
      (someDone : ¬(!state.getter.isDone && !state.producer.isDone) = true)
      (nothing : (!state.getter.isDone && state.sink.queue.isEmpty) = true) :
      Moves state { state with phase := .awaitingProducer }
  | wake (isWaiting : state.phase = .waiting)
      (someLeft : ¬(!state.getter.isDone && state.sink.queue.isEmpty) = true) :
      Moves state { state with phase := .awaitingEvent }
  | receive {event : AgentStreamEvent ρ} (isAwaiting : state.phase = .awaitingEvent)
      (isGot : state.getter = .got event) :
      Moves state { state with
        getter := .absent
        phase := .suspended event.data.isTerminal
        delivered := state.delivered ++ [event] }
  | returned (isJoining : state.phase = .awaitingProducer) (isDone : state.producer = .done) :
      Moves state (state.finish .returned)
  | raised (isJoining : state.phase = .awaitingProducer) (ended : state.producer = .cancelled) :
      Moves state (state.finish .raised)
  | close (notOver : ¬state.phase.isOver = true) : Moves state (state.finish .closed)

theorem moves_of_step (stepped : step state action = some next) : Moves state next := by
  unfold step at stepped
  (repeat' split at stepped) <;> cases stepped
  · exact .started _ ‹_›
  · exact .emit _ ‹_›
  · exact .runEnds _ ‹_›
  · exact .putTerminal ‹_›
  · exact .get ‹_› ‹_›
  · exact .readEnd ‹_›
  · exact .read ‹_›
  · exact .wakeEnd ‹_› ‹_› ‹_›
  · exact .wake ‹_› ‹_›
  · exact .receive ‹_› ‹_›
  · exact .returned ‹_› ‹_›
  · exact .raised ‹_› ‹_›
  · exact .close ‹_›

theorem Live.step (live : Live state) (notOver : state.phase.isOver = false)
    (moves : Moves state next) : Inv next := by
  have stays : ∀ {next : State ρ}, next.phase.isOver = false → Live next → Inv next := by
    intro next notOver live
    unfold Inv
    rw [if_neg (by simp [notOver])]
    exact live
  cases moves with
  | started runId isRunning => exact stays notOver (live.started isRunning runId)
  | emit event isRunning => exact stays notOver (live.emit isRunning event)
  | runEnds outcome isRunning => exact stays notOver (live.runEnds isRunning outcome)
  | putTerminal isPutting => exact stays notOver (live.putTerminal isPutting)
  | get isWaiting isQueue => exact stays notOver (live.get isWaiting isQueue)
  | readEnd suspended => exact stays rfl (live.readEnd suspended)
  | read suspended => exact stays rfl (live.read suspended)
  | wakeEnd isWaiting someDone nothing =>
    simp only [Bool.and_eq_true, Bool.not_eq_true', List.isEmpty_iff] at nothing
    apply stays rfl (live.wakeEnd isWaiting _ _)
    · simpa [nothing.1] using someDone
    · rw [Getter.events_of_not_isDone nothing.1, nothing.2, List.append_nil]
  | wake isWaiting someLeft =>
    apply stays rfl (live.wake isWaiting _)
    intro waiting isEmpty
    exact someLeft (by simp [waiting, isEmpty, Getter.isDone])
  | receive isAwaiting isGot => exact stays rfl (live.receive isAwaiting isGot)
  | returned isJoining isDone =>
    apply live.finish notOver rfl
    intro _
    apply (live.phase.joining isJoining).resolve_right
    rw [isDone]
    intro isCancelled
    cases isCancelled
  | raised | close => exact live.finish notOver rfl fun impossible => (by cases impossible)

/-- A closed sink takes no progress. -/
theorem put_of_closed {sink : AgentStreamSink ρ} (closed : sink.closed = true)
    (event : AgentStreamEvent ρ) : sink.put event = sink := by
  unfold AgentStreamSink.put
  rw [if_pos closed]

/-- A stream that is over stays as it is, whatever the producer still does. -/
theorem Moves.of_over (moves : Moves state next) (isOver : state.phase.isOver = true)
    (closed : state.sink.closed = true) (isAbsent : state.getter = .absent) :
    next.phase = state.phase ∧ next.delivered = state.delivered ∧
      next.sink.dropped = state.sink.dropped ∧ next.sink.closed = true ∧ next.getter = .absent := by
  cases moves with
  | started runId =>
    have same : state.sink.started runId = { state.sink with runId := some runId } :=
      put_of_closed (by exact closed) _
    rw [same]
    exact ⟨rfl, rfl, rfl, closed, isAbsent⟩
  | emit event =>
    unfold AgentStreamSink.emit
    rw [put_of_closed closed, ite_self]
    exact ⟨rfl, rfl, rfl, closed, isAbsent⟩
  | runEnds | putTerminal => exact ⟨rfl, rfl, rfl, closed, isAbsent⟩
  | get isWaiting => simp [isWaiting] at isAbsent
  | readEnd inPhase | read inPhase | wakeEnd inPhase | wake inPhase | receive inPhase =>
    simp [inPhase, Phase.isOver] at isOver
  | returned inPhase | raised inPhase => simp [inPhase, Phase.isOver] at isOver
  | close notOver => exact absurd isOver notOver

theorem Inv.step (inv : Inv state) (stepped : step state action = some next) : Inv next := by
  by_cases isOver : state.phase.isOver = true
  · unfold Inv at inv ⊢
    rw [if_pos isOver] at inv
    obtain ⟨sound, closed, isAbsent⟩ := inv
    obtain ⟨isPhase, isDelivered, isDropped, closed, isAbsent⟩ :=
      (moves_of_step stepped).of_over isOver closed isAbsent
    rw [isPhase, if_pos isOver]
    refine ⟨⟨?_, ?_, ?_, ?_⟩, closed, isAbsent⟩
    · rw [isDelivered]
      exact sound.numbered
    · rw [isDelivered]
      exact sound.onlyLast
    · rw [isDelivered, isDropped]
      exact sound.overflowed
    · rw [isPhase, isDelivered]
      exact sound.returned
  · unfold Inv at inv
    rw [if_neg isOver] at inv
    exact inv.step (Bool.eq_false_iff.mpr isOver) (moves_of_step stepped)

/-! ## Whole runs -/

theorem inv_initial (requestId traceId : String) : Inv (initial requestId traceId : State ρ) :=
  show Live _ from
  { isOpen := rfl
    numbered := rfl
    shape :=
      { progress := fun _ _ isEvent => by cases isEvent
        complete := fun impossible => by cases impossible
        putting := fun _ impossible => by cases impossible }
    overflowed := rfl
    phase :=
      { suspended := fun _ _ => rfl
        ended := fun impossible => by cases impossible
        reading := fun _ _ isEvent => by cases isEvent
        joining := fun impossible => by cases impossible
        getting := by simp [initial]
        queued := by simp [initial] } }

theorem Inv.run (inv : Inv state) (ran : run actions state = some later) : Inv later := by
  induction actions generalizing state with
  | nil =>
    cases ran
    exact inv
  | cons action rest ih =>
    obtain ⟨_, stepped, ran⟩ := Option.bind_eq_some_iff.mp ran
    exact ih (inv.step stepped) ran

theorem Inv.sound (inv : Inv state) : Sound state := by
  unfold Inv at inv
  split at inv
  · exact inv.1
  · rename_i notOver
    apply inv.sound
    intro isReturned
    rw [isReturned] at notOver
    exact notOver rfl

theorem Inv.delivered_of_over (inv : Inv state) (isOver : state.phase.isOver = true)
    (ran : Stream.run actions state = some later) :
    later.delivered = state.delivered := by
  induction actions generalizing state with
  | nil =>
    cases ran
    rfl
  | cons action rest ih =>
    obtain ⟨_, stepped, ran⟩ := Option.bind_eq_some_iff.mp ran
    have ended := inv
    rw [Inv, if_pos isOver] at ended
    obtain ⟨isPhase, isDelivered, _⟩ := (moves_of_step stepped).of_over isOver ended.2.1 ended.2.2
    rw [← isDelivered]
    exact ih (inv.step stepped) (isPhase ▸ isOver) ran

/-! ## Reading to the end -/

/-- Whether the run is over. -/
def Producer.isEnded : Producer ρ → Bool
  | .absent | .running => false
  | .putting _ | .done | .cancelled => true

/-- A bound on the steps left once the run is over: an event has to be put, got and
received, and the consumer has to ask for it. -/
def State.potential (state : State ρ) : ℕ :=
  (match state.producer with
    | .putting _ => 6
    | _ => 0) +
  5 * state.sink.queue.length +
  (match state.getter with
    | .got _ => 4
    | _ => 0) +
  match state.phase with
    | .suspended _ => 3
    | .waiting => 2
    | .awaitingEvent | .awaitingProducer => 1
    | .returned | .raised | .closed => 0

theorem Producer.start_of_isEnded {producer : Producer ρ} (isEnded : producer.isEnded = true) :
    producer.start = producer := by
  apply Producer.start_eq
  rintro rfl
  cases isEnded

/-- Every step after the end of the run lowers the bound. -/
theorem Moves.potential (moves : Moves state next) (isEnded : state.producer.isEnded = true) :
    next.producer.isEnded = true ∧ next.potential < state.potential := by
  cases moves with
  | started _ isRunning | emit _ isRunning | runEnds _ isRunning =>
    simp [isRunning, Producer.isEnded] at isEnded
  | putTerminal isPutting =>
    refine ⟨rfl, ?_⟩
    simp only [State.potential, AgentStreamSink.putTerminal, isPutting, List.length_append,
      List.length_singleton]
    omega
  | get isWaiting isQueue =>
    refine ⟨isEnded, ?_⟩
    simp only [State.potential, isWaiting, isQueue, List.length_cons]
    omega
  | read inPhase =>
    have same := Producer.start_of_isEnded isEnded
    refine ⟨by rw [same]; exact isEnded, ?_⟩
    simp only [State.potential, same, inPhase]
    split <;> omega
  | readEnd inPhase | wakeEnd inPhase | wake inPhase | returned inPhase | raised inPhase =>
    refine ⟨isEnded, ?_⟩
    simp only [State.potential, State.finish, inPhase]
    omega
  | receive inPhase isGot =>
    refine ⟨isEnded, ?_⟩
    simp only [State.potential, inPhase, isGot]
    omega
  | close notOver =>
    refine ⟨isEnded, ?_⟩
    simp only [State.potential, State.finish]
    cases inPhase : state.phase with
    | suspended | waiting | awaitingEvent | awaitingProducer =>
      simp only
      omega
    | returned | raised | closed => simp [inPhase, Phase.isOver] at notOver

/-- A step with which reading goes on. -/
def ReadsOn (state next : State ρ) : Prop :=
  (∃ action, step state action = some next) ∧ next.phase ≠ .closed ∧
    (state.producer ≠ .cancelled → next.producer ≠ .cancelled ∧ next.phase ≠ .raised)

/-- While the stream is read after the end of the run, reading can go on. -/
theorem exists_readsOn (live : Live state) (notOver : state.phase.isOver = false)
    (isEnded : state.producer.isEnded = true) :
    ∃ next, ReadsOn state next := by
  obtain ⟨sink, producer, getter, phase, delivered⟩ := state
  have getOn : ∀ phase, phase ≠ .closed → phase ≠ .raised → sink.queue ≠ [] →
      ∃ next, ReadsOn ⟨sink, producer, .waiting, phase, delivered⟩ next := by
    intro phase notClosed notRaised queued
    cases isQueue : sink.queue with
    | nil => exact absurd isQueue queued
    | cons event rest =>
      refine ⟨⟨{ sink with queue := rest }, producer, .got event, phase, delivered⟩,
        ⟨.get, ?_⟩, notClosed, fun kept => ⟨kept, notRaised⟩⟩
      simp only [step, isQueue]
  cases phase with
  | suspended afterTerminal =>
    cases afterTerminal with
    | true => exact ⟨_, ⟨.read, rfl⟩, by simp, fun kept => ⟨kept, by simp⟩⟩
    | false =>
      refine ⟨_, ⟨.read, rfl⟩, by simp, fun kept => ⟨?_, by simp⟩⟩
      show producer.start ≠ .cancelled
      rw [Producer.start_of_isEnded isEnded]
      exact kept
  | waiting =>
    by_cases someDone : (!getter.isDone && !producer.isDone) = true
    · simp only [Bool.and_eq_true, Bool.not_eq_true'] at someDone
      cases getter with
      | absent => exact absurd rfl (live.phase.getting (Or.inl rfl))
      | got event => cases someDone.1
      | waiting =>
        by_cases isEmpty : sink.queue = []
        · cases producer with
          | absent | running => cases isEnded
          | done | cancelled => cases someDone.2
          | putting event =>
            refine ⟨⟨sink.putTerminal event, .done, .waiting, .waiting, delivered⟩,
              ⟨.putTerminal, ?_⟩, by simp, fun _ => ⟨by simp, by simp⟩⟩
            simp [step, AgentStreamSink.isFull, isEmpty, capacity]
        · exact getOn _ (by simp) (by simp) isEmpty
    · by_cases nothing : (!getter.isDone && sink.queue.isEmpty) = true
      · refine ⟨⟨sink, producer, getter, .awaitingProducer, delivered⟩, ⟨.wake, ?_⟩, by simp,
          fun kept => ⟨kept, by simp⟩⟩
        simp only [step]
        rw [if_neg someDone, if_pos nothing]
      · refine ⟨⟨sink, producer, getter, .awaitingEvent, delivered⟩, ⟨.wake, ?_⟩, by simp,
          fun kept => ⟨kept, by simp⟩⟩
        simp only [step]
        rw [if_neg someDone, if_neg nothing]
  | awaitingEvent =>
    cases getter with
    | absent => exact absurd rfl (live.phase.getting (Or.inr rfl))
    | waiting => exact getOn _ (by simp) (by simp) (live.phase.queued rfl rfl)
    | got event => exact ⟨_, ⟨.receive, rfl⟩, by simp, fun kept => ⟨kept, by simp⟩⟩
  | awaitingProducer =>
    cases producer with
    | absent | running => cases isEnded
    | done =>
      exact ⟨_, ⟨.join, rfl⟩, by simp [State.finish],
        fun kept => ⟨kept, by simp [State.finish]⟩⟩
    | cancelled => exact ⟨_, ⟨.join, rfl⟩, by simp [State.finish], fun kept => absurd rfl kept⟩
    | putting event =>
      -- A terminal event cannot have been delivered before it is put.
      obtain ⟨progress, last, isDelivered, terminal⟩ :=
        (live.phase.joining rfl).resolve_right (by simp)
      have isProgress := live.shape.progress (by simp) last
      rw [isProgress (by simp [State.events, show delivered = _ from isDelivered])] at terminal
      cases terminal
  | returned | raised | closed => cases notOver

/-- Once the run has ended, other than by a cancellation of the producer, reading on leads
to the end of the stream. -/
theorem exists_returned (inv : Inv state) (notOver : state.phase.isOver = false)
    (isEnded : state.producer.isEnded = true) (notCancelled : state.producer ≠ .cancelled) :
    ∃ actions later, Stream.run actions state = some later ∧ later.phase = .returned := by
  induction bound : state.potential using Nat.strong_induction_on generalizing state with
  | _ bound ih =>
    have live := inv
    rw [Inv, if_neg (by simp [notOver])] at live
    obtain ⟨next, ⟨action, stepped⟩, notClosed, kept⟩ := exists_readsOn live notOver isEnded
    obtain ⟨stillEnded, lower⟩ := (moves_of_step stepped).potential isEnded
    obtain ⟨stillKept, notRaised⟩ := kept notCancelled
    by_cases nowOver : next.phase.isOver = true
    · refine ⟨[action], next, by simp [Stream.run, stepped], ?_⟩
      cases inPhase : next.phase with
      | returned => rfl
      | raised => exact absurd inPhase notRaised
      | closed => exact absurd inPhase notClosed
      | suspended _ | waiting | awaitingEvent | awaitingProducer =>
        rw [inPhase] at nowOver
        cases nowOver
    · obtain ⟨actions, later, ran, returned⟩ := ih next.potential
        (bound ▸ lower) (inv.step stepped) (Bool.eq_false_iff.mpr nowOver) stillEnded stillKept
        rfl
      exact ⟨action :: actions, later, by simp [Stream.run, stepped, ran], returned⟩

/-! ## Every stream -/

/-- The events received of a stream are numbered without a gap; a stream read to its end has
one terminal event, its last, which is an error if any progress was dropped; nothing is
received after the end or a close; and once the run has ended, other than by a cancellation
of the producer itself, the stream can be read to its end. -/
theorem stream_is_numbered_and_ends_once (requestId traceId : String) (actions : List (Action ρ))
    (state : State ρ) (ran : run actions (initial requestId traceId) = some state) :
    state.delivered.map (·.sequence) = List.range state.delivered.length ∧
    (state.phase = .returned → ∃ progress last, state.delivered = progress ++ [last] ∧
      last.data.isTerminal = true ∧ (∀ event ∈ progress, event.data.isTerminal = false) ∧
      (0 < state.sink.dropped → last.data.isError = true)) ∧
    (state.phase.isOver = true → ∀ more later, run more state = some later →
      later.delivered = state.delivered) ∧
    (state.phase.isOver = false → state.producer.isEnded = true → state.producer ≠ .cancelled →
      ∃ more later, run more state = some later ∧ later.phase = .returned) := by
  have inv := (inv_initial requestId traceId).run ran
  have sound := inv.sound
  refine ⟨sound.numbered, ?_, fun isOver more later => inv.delivered_of_over isOver,
    exists_returned inv⟩
  intro isReturned
  obtain ⟨progress, last, isDelivered, terminal⟩ := sound.returned isReturned
  refine ⟨progress, last, isDelivered, terminal, ?_, ?_⟩
  · have onlyLast := sound.onlyLast
    rw [isDelivered, List.dropLast_concat] at onlyLast
    exact onlyLast
  · apply sound.overflowed last _ terminal
    rw [isDelivered]
    exact List.mem_append_right _ List.mem_cons_self

/-- A run that puts its first event and then ends with a response, read to the end. -/
def shortStream : List (Action Unit) :=
  [.read, .started "run", .get, .wake, .receive, .read, .runEnds (.returned ()), .putTerminal,
    .get, .wake, .receive, .read, .join]

theorem stream_is_numbered_and_ends_once_short :
    ∃ state, run shortStream (initial "request" "trace") = some state ∧ state.phase = .returned ∧
      state.delivered.length = 2 ∧
      state.delivered.map (·.sequence) = List.range state.delivered.length := by
  refine ⟨_, rfl, rfl, rfl, ?_⟩
  exact (stream_is_numbered_and_ends_once "request" "trace" shortStream _ rfl).1

end AegisRag.Agent.RunService.Stream
