import AegisRag.Semantics.Task

/-!
# Watching one task

How a task ends can depend on how its own calls are answered. A monitor reads the answers
that a schedule gives to one task and may refuse them. `Discipline.watched` is the machine
as that task meets it, and `Discipline.Sound.watched` brings what is verified there back to
every schedule whose answers the monitor admits.
-/

namespace AegisRag.Semantics

open Relation

/-- What is remembered of the answers to one task, as long as they are admitted. -/
structure Monitor (m : Machine) where
  State : Type
  start : State
  accept : State → m.Answer → Option State

variable {m : Machine}

namespace Monitor

/-- A monitor hears only the answers given to its task. -/
def hear (monitor : Monitor m) (index : Nat) (state : monitor.State) :
    Move m → Option monitor.State
  | .run other answer => if other = index then monitor.accept state answer else some state
  | _ => some state

/-- How answers may have moved the monitor. -/
def Heard (monitor : Monitor m) : monitor.State → monitor.State → Prop :=
  ReflTransGen fun state next => ∃ answer, monitor.accept state answer = some next

theorem heard_of_hear {monitor : Monitor m} {move : Move m}
    {state following : monitor.State}
    (heard : monitor.hear index state move = some following) : monitor.Heard state following := by
  unfold hear at heard
  split at heard
  · split at heard
    · exact .single ⟨_, heard⟩
    · cases heard
      exact .refl
  · cases heard
    exact .refl

end Monitor

namespace Discipline

variable {d : Discipline m} {monitor : Monitor m} {last : m.World} {index : Nat}

/-- What any of the tasks may have done to the world since. -/
def Later (d : Discipline m) : m.World → m.World → Prop :=
  ReflTransGen fun world next => ∃ actor, d.Inv world ∧ d.Guar actor world next

/-- What every task keeps holds later on. -/
theorem Persistent.later (persistent : d.Persistent property) (later : d.Later world next)
    (holds : property world) : property next := by
  induction later with
  | refl => exact holds
  | tail _ step ih =>
    obtain ⟨actor, inv, guar⟩ := step
    exact persistent actor _ _ inv guar ih

open Classical in
/-- The machine as a watched task meets it: its calls are made in worlds of the invariant
that lead to `last`, and are answered as the monitor admits. -/
noncomputable abbrev watched (d : Discipline m) (monitor : Monitor m) (last : m.World) :
    Machine where
  sig := m.sig
  Outcome := m.Outcome
  World := m.World × monitor.State
  Answer := m.Answer
  initial := (m.initial, monitor.start)
  body := m.body
  request := m.request
  execute index op answer world :=
    match m.execute index op answer world.1, monitor.accept world.2 answer with
    | some (reply, after), some state =>
      if d.Inv world.1 ∧ d.Later world.1 after ∧ d.Later after last then
        some (reply, (after, state))
      else none
    | _, _ => none

/-- The discipline of the watched task alone: the others only take the world further. -/
abbrev watching (d : Discipline m) (monitor : Monitor m) (last : m.World) (index : Nat) :
    Discipline (d.watched monitor last) where
  Inv _ := True
  Guar actor world next :=
    actor.index = index ∨ d.Later world.1 next.1 ∧ monitor.Heard world.2 next.2
  Pre _ _ := True
  Post _ _ _ := True
  initial := trivial
  preserved _ _ := trivial

theorem watched_execute {world final : m.World × monitor.State}
    (executed : (d.watched monitor last).execute index op answer world = some (reply, final)) :
    m.execute index op answer world.1 = some (reply, final.1) ∧
      monitor.accept world.2 answer = some final.2 ∧ d.Inv world.1 ∧ d.Later world.1 final.1 ∧
      d.Later final.1 last := by
  cases performed : m.execute index op answer world.1 with
  | none => simp [performed] at executed
  | some pair =>
    cases admitted : monitor.accept world.2 answer with
    | none => simp [performed, admitted] at executed
    | some following =>
      simp only [performed, admitted, Option.ite_none_right_eq_some, Option.some.injEq] at executed
      obtain ⟨facts, same⟩ := executed
      cases same
      exact ⟨rfl, rfl, facts⟩

theorem watching_rely {code : m.sig.Code} {world next : m.World × monitor.State}
    (rely : (d.watching monitor last index).Rely ⟨index, code⟩ world next) :
    d.Later world.1 next.1 ∧ monitor.Heard world.2 next.2 := by
  induction rely with
  | refl => exact ⟨.refl, .refl⟩
  | tail _ step ih =>
    obtain ⟨other, differs, _, own | ⟨later, heard⟩⟩ := step
    · exact absurd own differs
    · exact ⟨ih.1.trans later, ih.2.trans heard⟩

/-- Interference, as the watched task sees it. -/
theorem rely_of_later {code : m.sig.Code} (later : d.Later world next)
    (heard : monitor.Heard state following) :
    (d.watching monitor last index).Rely ⟨index, code⟩ (world, state) (next, following) :=
  .single ⟨⟨index + 1, code⟩, Nat.succ_ne_self index, trivial, Or.inr ⟨later, heard⟩⟩

/-- A task may do what it likes where every end will do. -/
theorem wp_watchedAny {code : m.sig.Code} {program : Program m.sig α}
    {world : m.World × monitor.State} {post : α → m.World × monitor.State → Prop}
    (holds : ∀ value final, monitor.Heard world.2 final.2 → post value final) :
    (d.watching monitor last index).wp ⟨index, code⟩ program post world := by
  induction program generalizing world with
  | done value => exact holds value world .refl
  | call op next ih =>
    intro current rely _ answer reply after executed
    refine ⟨Or.inl rfl, ih reply fun value final heard => holds value final ?_⟩
    have admitted := (watched_execute executed).2.1
    exact ((watching_rely rely).2.tail ⟨answer, admitted⟩).trans heard
  | fork code next ih =>
    intro current rely _
    exact ⟨trivial, ih fun value final heard =>
      holds value final ((watching_rely rely).2.trans heard)⟩

section

variable {post : m.sig.Code → m.Outcome → monitor.State → Prop} {pool next : Pool m}
  {state following : monitor.State}

/-- A program of the watched task is verified where it stands. -/
private abbrev Fits (d : Discipline m) (last : m.World) (index : Nat)
    (post : m.sig.Code → m.Outcome → monitor.State → Prop) (code : m.sig.Code)
    (program : Program m.sig m.Outcome) (world : m.World) (state : monitor.State) : Prop :=
  (d.watching monitor last index).wp ⟨index, code⟩ program
    (fun outcome final => post code outcome final.2) (world, state)

/-- The watched task of a pool is verified where it stands. -/
private def Watches (d : Discipline m) (last : m.World) (index : Nat)
    (post : m.sig.Code → m.Outcome → monitor.State → Prop) (threads : List (Thread m))
    (world : m.World) (state : monitor.State) : Prop :=
  ∀ code program, threads[index]? = some ⟨code, some program⟩ →
    Fits d last index post code program world state

variable (bodies : ∀ code world state, monitor.Heard monitor.start state →
  Fits d last index post code (m.body code) world state)

include bodies

private theorem Watches.move {move : Move m} (inv : d.Inv pool.world)
    (stepped : d.Later pool.world next.world) (leads : d.Later next.world last)
    (heard : monitor.Heard monitor.start following)
    (watches : Watches d last index post pool.threads pool.world state)
    (moved : pool.move move = some next) (admits : monitor.hear index state move = some following) :
    Watches d last index post next.threads next.world following := by
  -- What is not to move is verified in the new world as well.
  have kept (same : some state = some following) :
      Watches d last index post pool.threads next.world following := by
    cases same
    intro code program found
    refine wp_stable ?_ (rely_of_later stepped .refl) (watches code program found)
    exact fun _ holds => holds
  intro code program found
  cases Pool.moved_of_move moved with
  | arrived _ =>
    rcases getElem?_of_append found with old | ⟨_, isNew⟩
    · exact kept admits code program old
    · cases isNew
      exact bodies _ _ _ heard
  | crashed _ =>
    rcases getElem?_of_set found with ⟨_, dead⟩ | ⟨_, old⟩
    · cases dead
    · exact kept admits code program old
  | called atOther executed =>
    rcases getElem?_of_set found with ⟨rfl, same⟩ | ⟨differs, old⟩
    · cases same
      rename_i answer _ after _
      rw [Monitor.hear, if_pos rfl] at admits
      refine (watches _ _ atOther (pool.world, state) .refl trivial answer _ (after, following)
        ?_).2
      simp only [executed, admits]
      exact if_pos ⟨inv, stepped, leads⟩
    · rw [Monitor.hear, if_neg (Ne.symm differs)] at admits
      exact kept admits code program old
  | forked atOther =>
    rcases getElem?_of_append found with found | ⟨_, isNew⟩
    · rcases getElem?_of_set found with ⟨rfl, same⟩ | ⟨differs, old⟩
      · cases same
        rw [Monitor.hear, if_pos rfl] at admits
        exact (watches _ _ atOther (pool.world, following)
          (rely_of_later .refl (.single ⟨_, admits⟩)) trivial).2
      · rw [Monitor.hear, if_neg (Ne.symm differs)] at admits
        exact kept admits code program old
    · cases isNew
      exact bodies _ _ _ heard

end

/-- A task that is verified under the monitor ends as verified in every schedule whose
answers to the task the monitor admits. -/
theorem Sound.watched (sound : d.Sound) {pool : Pool m}
    (post : m.sig.Code → m.Outcome → monitor.State → Prop)
    (bodies : ∀ code world state, monitor.Heard monitor.start state →
      (d.watching monitor pool.world index).wp ⟨index, code⟩ (m.body code)
        (fun outcome final => post code outcome final.2) (world, state))
    (performed : Pool.run moves (Pool.initial m) = some pool)
    (admitted : moves.foldlM (monitor.hear index) monitor.start = some finish)
    (found : pool.threads[index]? = some ⟨code, some (.done outcome)⟩) :
    post code outcome finish := by
  have general : ∀ (moves : List (Move m)) (from_ : Pool m) (state : monitor.State),
      d.Holds from_ → monitor.Heard monitor.start state →
      Watches d pool.world index post from_.threads from_.world state →
      Pool.run moves from_ = some pool → moves.foldlM (monitor.hear index) state = some finish →
      Watches d pool.world index post pool.threads pool.world finish := by
    intro moves
    induction moves with
    | nil =>
      intro from_ state _ _ watches performed admitted
      cases performed
      cases admitted
      exact watches
    | cons move rest ih =>
      intro from_ state held heard watches performed admitted
      obtain ⟨middle, moved, performed⟩ := Option.bind_eq_some_iff.mp performed
      rw [List.foldlM_cons] at admitted
      obtain ⟨following, admits, admitted⟩ := Option.bind_eq_some_iff.mp admitted
      have heldNext := (held.move sound moved).1
      have further : ∀ {first : m.World}, d.Persistent (d.Later first) :=
        fun actor _ _ inv guar later => later.tail ⟨actor, inv, guar⟩
      have stepped : Pool.run [move] from_ = some middle := by simp [Pool.run, moved]
      have leads := heldNext.keeps sound further .refl performed
      have next := heard.trans (Monitor.heard_of_hear admits)
      exact ih middle following heldNext next (watches.move bodies held.inv
        (held.keeps sound further .refl stepped) leads next moved admits) performed admitted
  exact general moves _ monitor.start ⟨d.initial, by simp [Pool.initial]⟩ .refl
    (by simp [Watches, Pool.initial]) performed admitted code _ found

end Discipline

/-- One call of the watched task. -/
theorem Task.wp_watched {d : Discipline m} {monitor : Monitor m} {code : m.sig.Code}
    {world : m.World × monitor.State} {ok : m.sig.Reply op → σ → m.World × monitor.State → Prop}
    {fail : ε → σ → m.World × monitor.State → Prop}
    (holds : ∀ current answer reply after before following, d.Later world.1 current →
      monitor.Heard world.2 before → d.Inv current → d.Later current after →
      d.Later after last → monitor.accept before answer = some following →
      m.execute index op answer current = some (reply, after) → ok reply state (after, following)) :
    wp (d.watching monitor last index) ⟨index, code⟩ (Task.perform op) ok fail state world := by
  refine wp_perform ?_
  intro current rely _ answer reply final executed
  obtain ⟨later, heard⟩ := Discipline.watching_rely rely
  obtain ⟨performed, admitted, inv, stepped, leads⟩ := Discipline.watched_execute executed
  exact ⟨Or.inl rfl, holds current.1 answer reply final.1 current.2 final.2 later heard inv stepped
    leads admitted performed⟩

end AegisRag.Semantics
