import Mathlib.Data.List.Basic
import Mathlib.Data.List.Range
import Mathlib.Logic.Function.Basic

/-!
# Chat history numbering

Requests that append messages to one active chat session, each through its own
database session (`packages/memory/storage/repositories.py`). An append locks the session
row, reads the largest number, and increments the counter of the row object it was given.
The identity map keeps that object only while a running method refers to it, so an append
reloads the row.
-/

namespace AegisRag.Memory

/-- A stored message: its number and its other columns. -/
structure ChatMessage (Body : Type) where
  sequenceNo : Nat
  body : Body

/-- The rows of one chat session. -/
structure ChatRows (Body : Type) where
  messages : List (ChatMessage Body)
  messageCount : Nat

/-- `_next_sequence_no`: `int(current or 0) + 1` for the largest number stored. -/
def ChatRows.nextSequenceNo (rows : ChatRows Body) : Nat :=
  (rows.messages.map (·.sequenceNo)).max?.getD 0 + 1

/-- Where a database session stands, with the counter of the row object that its running
method refers to. -/
inductive Place where
  | idle
  | reading (counter : Nat)
  | appending (counter : Nat)
deriving DecidableEq

/-- The counter of the row object in the identity map: between two methods there is none. -/
def Place.loaded : Place → Option Nat
  | .idle => none
  | .reading counter => some counter
  | .appending counter => some counter

/-- The database and the requests' database sessions. -/
structure World (Body : Type) where
  committed : ChatRows Body
  /-- The session that holds the row lock, and the rows as it has written them. -/
  writer : Option (Nat × ChatRows Body)
  place : Nat → Place

/-- What a database session can do; the methods return by `returns` and `appendMessage`. -/
inductive Step (Body : Type) where
  | getActiveSession (session : Nat)
  | returns (session : Nat)
  | lockSession (session : Nat)
  | appendMessage (session : Nat) (body : Body)
  | commit (session : Nat)
  | rollback (session : Nat)

namespace World

/-- A new chat session, before any request. -/
def initial : World Body := ⟨⟨[], 0⟩, none, fun _ => .idle⟩

/-- The rows a statement of a session reads. -/
def visible (world : World Body) (session : Nat) : ChatRows Body :=
  match world.writer with
  | some (holder, rows) => if holder = session then rows else world.committed
  | none => world.committed

/-- The counter of the object a select of the session row returns: one that is in the
identity map is returned as it is. -/
def selected (world : World Body) (session : Nat) : Nat :=
  (world.place session).loaded.getD (world.visible session).messageCount

/-- A session goes on to another place. -/
def move (world : World Body) (session : Nat) (place : Place) : World Body :=
  { world with place := Function.update world.place session place }

theorem move_place_self (world : World Body) (goal : Place) :
    (world.move session goal).place session = goal :=
  Function.update_self ..

theorem move_place_of_ne (world : World Body) (goal : Place) (apart : other ≠ session) :
    (world.move session goal).place other = world.place other :=
  Function.update_of_ne apart ..

/-- The rows with one more message, and the incremented counter. -/
def appended (world : World Body) (session counter : Nat) (body : Body) : ChatRows Body where
  messages := (world.visible session).messages ++
    [⟨(world.visible session).nextSequenceNo, body⟩]
  messageCount := counter + 1

/-- One step, when it is possible; the locking select waits while another session holds the
row lock. -/
def step (world : World Body) : Step Body → Option (World Body)
  | .getActiveSession session =>
    if world.place session = .idle then
      some (world.move session (.reading (world.selected session)))
    else none
  | .returns session =>
    match world.place session with
    | .reading _ => some (world.move session .idle)
    | _ => none
  | .lockSession session =>
    if world.place session = .idle ∧ world.writer.all (·.1 = session) then
      some ({ world with writer := some (session, world.visible session) }.move session
        (.appending (world.selected session)))
    else none
  | .appendMessage session body =>
    match world.place session with
    | .appending counter =>
      some ({ world with writer := some (session, world.appended session counter body) }.move
        session .idle)
    | _ => none
  | .commit session =>
    if world.place session = .idle then
      if world.writer.any (·.1 = session) then
        some { world with committed := world.visible session, writer := none }
      else some world
    else none
  | .rollback session =>
    some ({ world with writer := world.writer.filter (·.1 ≠ session) }.move session .idle)

end World

/-- The worlds that any interleaving of steps leads to. -/
inductive Reachable : World Body → Prop
  | initial : Reachable .initial
  | step {world next : World Body} (step : Step Body) (reachable : Reachable world)
      (moves : world.step step = some next) : Reachable next

/-! ## What every step keeps -/

/-- The messages carry the numbers from 1 to their count, which the session row holds. -/
structure ChatRows.Numbered (rows : ChatRows Body) : Prop where
  numbers : rows.messages.map (·.sequenceNo) = List.range' 1 rows.messages.length
  count : rows.messageCount = rows.messages.length

theorem ChatRows.Numbered.next {rows : ChatRows Body} (numbered : rows.Numbered) :
    rows.nextSequenceNo = rows.messages.length + 1 := by
  unfold ChatRows.nextSequenceNo
  rw [numbered.numbers]
  cases rows.messages.length with
  | zero => rfl
  | succ last =>
    have largest : (List.range' 1 (last + 1)).max? = some (last + 1) := by
      rw [List.max?_eq_some_iff]
      refine ⟨by simp [List.mem_range'_1], fun number stored => ?_⟩
      have bounds := List.mem_range'_1.mp stored
      omega
    rw [largest, Option.getD_some]

/-- The rows are numbered, committed or not, and an append holds the lock and the counter of
the row it locked. -/
structure World.Sound (world : World Body) : Prop where
  committed : world.committed.Numbered
  written : ∀ held ∈ world.writer, held.2.Numbered
  locked : ∀ session counter, world.place session = .appending counter →
    ∃ rows, world.writer = some (session, rows) ∧ rows.messageCount = counter

variable {world : World Body}

theorem World.Sound.visible (sound : world.Sound) (session : Nat) :
    (world.visible session).Numbered := by
  unfold World.visible
  split
  · rename_i held
    split
    · exact sound.written _ held
    · exact sound.committed
  · exact sound.committed

/-- An append that increments the counter of the row it reads numbers its message. -/
theorem World.appended_numbered (numbered : (world.visible session).Numbered) (body : Body) :
    (world.appended session (world.visible session).messageCount body).Numbered := by
  constructor
  · simp only [World.appended, List.map_append, numbered.numbers, numbered.next,
      List.length_append, List.length_singleton, List.range'_concat]
    simp [Nat.add_comm]
  · simp [World.appended, numbered.count]

/-- A session that is not appending and moves to a place where it is not either. -/
theorem World.Sound.move {place : Place} (sound : world.Sound) (session : Nat)
    (apart : ∀ counter, place ≠ .appending counter) : (world.move session place).Sound := by
  refine ⟨sound.committed, sound.written, fun other counter isAppending => ?_⟩
  by_cases same : other = session
  · subst same
    rw [World.move_place_self] at isAppending
    exact absurd isAppending (apart counter)
  · rw [World.move_place_of_ne _ _ same] at isAppending
    exact sound.locked other counter isAppending

theorem World.Sound.step {step : Step Body} (sound : world.Sound)
    (moves : world.step step = some next) : next.Sound := by
  cases step with
  | getActiveSession session =>
    simp only [World.step, Option.ite_none_right_eq_some, Option.some.injEq] at moves
    obtain ⟨-, rfl⟩ := moves
    exact sound.move session (by simp)
  | returns session =>
    simp only [World.step] at moves
    split at moves
    · cases moves
      exact sound.move session (by simp)
    · cases moves
  | lockSession session =>
    simp only [World.step, Option.ite_none_right_eq_some, Option.some.injEq] at moves
    obtain ⟨⟨isIdle, isFree⟩, rfl⟩ := moves
    refine ⟨sound.committed, ?_, fun other counter isAppending => ?_⟩
    · rintro _ ⟨⟩
      exact sound.visible session
    · by_cases same : other = session
      · -- Nothing is in the identity map, so the counter is that of the locked row.
        subst same
        rw [World.move_place_self, World.selected, isIdle] at isAppending
        cases isAppending
        exact ⟨_, rfl, rfl⟩
      · rw [World.move_place_of_ne _ _ same] at isAppending
        obtain ⟨rows, isWriter, -⟩ := sound.locked other counter isAppending
        rw [isWriter, Option.all_some, decide_eq_true_eq] at isFree
        exact absurd isFree same
  | appendMessage session body =>
    simp only [World.step] at moves
    split at moves
    · rename_i counter isAppending
      cases moves
      obtain ⟨rows, isWriter, rfl⟩ := sound.locked session counter isAppending
      have isVisible : world.visible session = rows := by simp [World.visible, isWriter]
      refine ⟨sound.committed, ?_, fun other counter isOther => ?_⟩
      · rintro _ ⟨⟩
        rw [← isVisible]
        exact World.appended_numbered (sound.visible session) body
      · by_cases same : other = session
        · rw [same, World.move_place_self] at isOther
          cases isOther
        · rw [World.move_place_of_ne _ _ same] at isOther
          obtain ⟨_, otherWriter, -⟩ := sound.locked other counter isOther
          rw [isWriter, Option.some.injEq, Prod.mk.injEq] at otherWriter
          exact absurd otherWriter.1.symm same
    · cases moves
  | commit session =>
    simp only [World.step, Option.ite_none_right_eq_some] at moves
    obtain ⟨isIdle, moves⟩ := moves
    split at moves
    · rename_i isWriter
      cases moves
      refine ⟨sound.visible session, by simp, fun other counter isAppending => ?_⟩
      obtain ⟨_, otherWriter, -⟩ := sound.locked other counter isAppending
      rw [otherWriter, Option.any_some, decide_eq_true_eq] at isWriter
      subst isWriter
      exact absurd (isIdle.symm.trans isAppending) (by simp)
    · cases moves
      exact sound
  | rollback session =>
    cases moves
    refine ⟨sound.committed, fun held kept => ?_, fun other counter isAppending => ?_⟩
    · exact sound.written held (Option.filter_eq_some_iff.mp kept).1
    · by_cases same : other = session
      · rw [same, World.move_place_self] at isAppending
        cases isAppending
      · rw [World.move_place_of_ne _ _ same] at isAppending
        obtain ⟨rows, isWriter, isCounter⟩ := sound.locked other counter isAppending
        exact ⟨rows, by simp [World.move, isWriter, same], isCounter⟩

theorem Reachable.sound (reachable : Reachable world) : world.Sound := by
  induction reachable with
  | initial => exact ⟨⟨rfl, rfl⟩, by simp [World.initial], by simp [World.initial]⟩
  | step _ _ moves ih => exact ih.step moves

/-- On every interleaving the committed messages are numbered from 1 without gap or
duplicate, and the session's counter is their number. -/
theorem chat_history_numbered (reachable : Reachable world) :
    world.committed.messages.map (·.sequenceNo) =
        List.range' 1 world.committed.messages.length ∧
      world.committed.messageCount = world.committed.messages.length :=
  ⟨reachable.sound.committed.numbers, reachable.sound.committed.count⟩

/-- Two requests read the session row and then append one after the other. -/
theorem chat_history_numbered_twice : ∃ world : World Unit, Reachable world ∧
    world.committed.messages.length = 2 ∧ world.committed.messageCount = 2 := by
  have opened : Reachable (.initial : World Unit) := .initial
  have read := (opened.step (.getActiveSession 0) rfl).step (.getActiveSession 1) rfl
  have read := (read.step (.returns 0) rfl).step (.returns 1) rfl
  have first := ((read.step (.lockSession 0) rfl).step (.appendMessage 0 ()) rfl).step
    (.commit 0) rfl
  have second := ((first.step (.lockSession 1) rfl).step (.appendMessage 1 ()) rfl).step
    (.commit 1) rfl
  exact ⟨_, second, rfl, (chat_history_numbered second).2⟩

end AegisRag.Memory
