import AegisRag.Semantics.Task

/-!
# A task on its own

One program, run by itself against an environment whose answers are given as a list.
`Discipline.alone` specialises the rules for interleaved tasks to this case: no other task
interferes, and an invariant of the world is all that a call has to keep. What the rules
establish holds at every point of every run, finished or not.
-/

namespace AegisRag.Semantics

open Relation

variable {m : Machine} {α : Type}

/-- Run a program on its own, one answer for each of its calls, as far as the answers
reach. -/
def Program.perform (m : Machine) :
    List m.Answer → Program m.sig α → m.World → Option (Program m.sig α × m.World)
  | [], program, world => some (program, world)
  | answer :: rest, .call op next, world =>
    match m.execute 0 op answer world with
    | some (reply, after) => perform m rest (next reply) after
    | none => none
  | _ :: _, _, _ => none

namespace Discipline

/-- The discipline of a single task: its calls keep an invariant. -/
def alone (m : Machine) (Inv : m.World → Prop) (initial : Inv m.initial) : Discipline m where
  Inv := Inv
  Guar actor _ next := actor.index = 0 ∧ Inv next
  Pre _ _ := True
  Post _ _ _ := True
  initial := initial
  preserved := fun _ guar => guar.2

variable {Inv : m.World → Prop} {initial : Inv m.initial} {actor : Actor m}

theorem alone_rely (isOnly : actor.index = 0) (rely : (alone m Inv initial).Rely actor world next) :
    next = world := by
  induction rely with
  | refl => rfl
  | tail _ step ih =>
    obtain ⟨_, differs, _, isZero, _⟩ := step
    exact absurd (isZero.trans isOnly.symm) differs

/-- The invariant holds wherever a verified program has got to, and what is left of the
program is verified there. -/
theorem perform_alone (isOnly : actor.index = 0) (inv : Inv world)
    (verified : (alone m Inv initial).wp actor program post world)
    (performed : program.perform m answers world = some (rest, after)) :
    Inv after ∧ (alone m Inv initial).wp actor rest post after := by
  induction answers generalizing program world with
  | nil =>
    cases performed
    exact ⟨inv, verified⟩
  | cons answer answers ih =>
    cases program with
    | done value => cases performed
    | fork code next => cases performed
    | call op next =>
      simp only [Program.perform] at performed
      split at performed
      · rename_i reply middle executed
        rw [← isOnly] at executed
        obtain ⟨guar, verified⟩ := verified world .refl inv answer reply middle executed
        exact ih guar.2 verified performed
      · cases performed

end Discipline

theorem Task.wp_aloneCall {Inv : m.World → Prop} {initial : Inv m.initial}
    (isOnly : actor.index = 0)
    (holds : Inv world → ∀ answer reply after, m.execute 0 op answer world = some (reply, after) →
      Inv after ∧ ok reply state after) :
    Task.wp (Discipline.alone m Inv initial) actor (Task.perform op) ok fail state world := by
  apply Task.wp_perform
  intro current rely inv answer reply after executed
  cases Discipline.alone_rely isOnly rely
  rw [isOnly] at executed
  obtain ⟨kept, established⟩ := holds inv answer reply after executed
  exact ⟨⟨isOnly, kept⟩, established⟩

end AegisRag.Semantics
