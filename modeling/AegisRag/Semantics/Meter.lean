import Mathlib

/-!
# Metered leases

A meter charges the time during which a window is open and a lease is held, up
to a limit, and learns of it only when somebody commits a charge. A `Book` is
what an observer with a clock knows. `Covers` says that nothing leased is lost to
the meter, `Justified` that nothing else is charged.
-/

namespace AegisRag.Semantics

variable {K : Type} [Field K] [LinearOrder K]

/-- A metered allowance with an open window and a lease, where present. -/
structure Meter (K : Type) where
  used : K
  limit : K
  since : Option K
  observed : K
  leaseUntil : Option K
  deadline : K
  expires : K

namespace Meter

/-- Charge an amount at `now` and open a new window or none. -/
def commit (meter : Meter K) (amount now : K) (reopen : Bool) (leaseUntil : Option K) : Meter K :=
  let used := min (meter.used + amount) meter.limit
  { meter with
    used
    since := if reopen then some now else none
    observed := now
    leaseUntil
    deadline := min (now + meter.limit - used) meter.expires }

/-- Move or drop the lease and leave everything else. -/
def relet (meter : Meter K) (leaseUntil : Option K) : Meter K := { meter with leaseUntil }

/-- Leased time between two instants while the window is open. -/
def leased (meter : Meter K) (start finish : K) : K :=
  match meter.since, meter.leaseUntil with
  | some _, some lease => max (min finish lease - start) 0
  | _, _ => 0

/-- Leased time of the open window up to an instant. -/
def openTime (meter : Meter K) (clock : K) : K :=
  match meter.since with
  | some since => meter.leased since clock
  | none => 0

variable {clock now : K} {meter : Meter K} {amount lease : K}

theorem leased_nonneg (meter : Meter K) (start finish : K) : 0 ≤ meter.leased start finish := by
  unfold leased
  split
  · exact le_max_right _ _
  · exact le_refl _

theorem openTime_nonneg (meter : Meter K) (clock : K) : 0 ≤ meter.openTime clock := by
  unfold openTime
  split
  · exact leased_nonneg _ _ _
  · exact le_refl _

/-- A well-formed meter: within its limit, and an open window starts where it
was last observed. -/
structure Sound (meter : Meter K) (clock : K) : Prop where
  within : meter.used ≤ meter.limit
  window : ∀ since, meter.since = some since → since = meter.observed ∧ since ≤ clock
  deadline : ∀ since, meter.since = some since →
    meter.deadline = min (meter.observed + meter.limit - meter.used) meter.expires

/-- What is left of the lease while the window is open. -/
def leaseLeft (meter : Meter K) (clock : K) : K :=
  match meter.since, meter.leaseUntil with
  | some _, some lease => max (lease - clock) 0
  | _, _ => 0

theorem commit_sound (meter : Meter K) (amount now : K) (reopen : Bool)
    (leaseUntil : Option K) : (meter.commit amount now reopen leaseUntil).Sound now := by
  refine ⟨min_le_right _ _, ?_, ?_⟩
  · intro since opened
    cases reopen with
    | false => simp [Meter.commit] at opened
    | true =>
      obtain rfl : now = since := by simpa [Meter.commit] using opened
      exact ⟨rfl, le_refl _⟩
  · intro since opened
    rfl

theorem Sound.relet (sound : meter.Sound clock) (leaseUntil : Option K) :
    (meter.relet leaseUntil).Sound clock :=
  ⟨sound.within, sound.window, sound.deadline⟩

theorem Sound.later (sound : meter.Sound clock) (forward : clock ≤ now) : meter.Sound now := by
  refine ⟨sound.within, ?_, sound.deadline⟩
  intro since opened
  have window := sound.window since opened
  exact ⟨window.1, le_trans window.2 forward⟩

theorem relet_none_openTime : (meter.relet none).openTime now = 0 := by
  unfold openTime leased relet
  cases meter.since <;> rfl

/-- Renewing a live lease changes nothing for the window so far. -/
theorem relet_openTime (held : meter.leaseUntil = some lease) (live : now ≤ lease)
    (longer : now ≤ renewed) :
    (meter.relet (some renewed)).openTime now = meter.openTime now := by
  unfold openTime leased relet
  cases meter.since with
  | none => rfl
  | some since => simp [held, min_eq_left live, min_eq_left longer]

variable [IsStrictOrderedRing K]

theorem leaseLeft_advance (meter : Meter K) (forward : clock ≤ now) :
    meter.leaseLeft clock = meter.leased clock now + meter.leaseLeft now := by
  unfold leaseLeft leased
  cases meter.since with
  | none => simp
  | some since =>
    cases meter.leaseUntil with
    | none => simp
    | some lease =>
      simp only [min_def, max_def]
      split_ifs <;> linarith

/-- Time passes for the open window and for the lease alike. -/
theorem openTime_advance (sound : meter.Sound clock) (forward : clock ≤ now) :
    meter.openTime now = meter.openTime clock + meter.leased clock now := by
  unfold openTime leased
  cases opened : meter.since with
  | none => simp
  | some since =>
    have started := (sound.window since opened).2
    cases lease : meter.leaseUntil with
    | none => simp
    | some until_ =>
      simp only [min_def, max_def]
      split_ifs <;> linarith

@[simp] theorem commit_openTime (meter : Meter K) (amount now : K) (reopen : Bool)
    (leaseUntil : Option K) : (meter.commit amount now reopen leaseUntil).openTime now = 0 := by
  unfold openTime leased commit
  cases reopen with
  | false => rfl
  | true =>
    cases leaseUntil with
    | none => rfl
    | some lease =>
      have capped : min now lease ≤ now := min_le_left _ _
      simp only [if_true]
      exact max_eq_right (by linarith)

/-- A commit never lowers the charge. -/
theorem le_commit_used (sound : meter.Sound clock) (charged : 0 ≤ amount) (now : K) (reopen : Bool)
    (leaseUntil : Option K) :
    meter.used ≤ (meter.commit amount now reopen leaseUntil).used := by
  have within := sound.within
  simp only [Meter.commit]
  refine le_min ?_ within
  linarith

/-- The allowance left at `t`, computed from what was used. -/
def remaining (meter : Meter K) (t : K) : K :=
  let elapsed := match meter.since with
    | some since => max (t - since) 0
    | none => 0
  max (min (meter.limit - meter.used - elapsed) (meter.expires - t)) 0

/-- While a window is open, the allowance left is the time to the deadline. -/
theorem Sound.remaining_eq {since t : K} (sound : meter.Sound clock)
    (opened : meter.since = some since) (later : meter.observed ≤ t) :
    meter.remaining t = max (meter.deadline - t) 0 := by
  have start := (sound.window since opened).1
  have deadline := sound.deadline since opened
  have elapsed : max (t - since) 0 = t - since := max_eq_left (by linarith)
  have shifted : min (meter.limit - meter.used - (t - since)) (meter.expires - t) =
      min (meter.observed + meter.limit - meter.used) meter.expires - t := by
    rw [← min_sub_sub_right]
    congr 1
    linarith
  simp only [remaining, opened, elapsed, shifted, deadline]

end Meter

/-! ## The observer's book -/

/-- What an observer knows of a meter's past. -/
structure Book (K : Type) where
  clock : K
  /-- Leased time while a window was open. -/
  held : K
  /-- The part of it during which the holder was working. -/
  worked : K
  /-- Claims that found a window unsettled. -/
  interrupted : Nat
  working : Bool

namespace Book

/-- Let the clock reach `now`. -/
def elapse (book : Book K) (meter : Meter K) (now : K) : Book K :=
  let leased := meter.leased book.clock now
  { book with
    clock := now
    held := book.held + leased
    worked := if book.working then book.worked + leased else book.worked }

/-- Nothing leased is lost: what is charged and what is still open cover it. -/
def Covers (book : Book K) (meter : Meter K) : Prop :=
  min meter.limit book.held ≤ meter.used + meter.openTime book.clock

/-- Nothing but leased time is charged. -/
def Justified (book : Book K) (meter : Meter K) : Prop :=
  meter.used + meter.openTime book.clock ≤ book.held

variable [IsStrictOrderedRing K] {book : Book K}

theorem Covers.elapse (covers : book.Covers meter) (sound : meter.Sound book.clock)
    (forward : book.clock ≤ now) :
    (book.elapse meter now).Covers meter := by
  have advanced := Meter.openTime_advance sound forward
  have leased := meter.leased_nonneg book.clock now
  unfold Covers at covers ⊢
  simp only [Book.elapse, advanced]
  have grows : min meter.limit (book.held + meter.leased book.clock now) ≤
      min meter.limit book.held + meter.leased book.clock now := by
    simp only [min_def]
    split_ifs <;> linarith
  linarith

/-- A commit keeps the cover if it charges at least the open time. -/
theorem Covers.commit (covers : book.Covers meter) (enough : meter.openTime book.clock ≤ amount) :
    min meter.limit book.held ≤ (meter.commit amount book.clock reopen leaseUntil).used := by
  unfold Covers at covers
  simp only [Meter.commit]
  refine le_min ?_ (min_le_left _ _)
  linarith

theorem Justified.elapse (justified : book.Justified meter) (sound : meter.Sound book.clock)
    (forward : book.clock ≤ now) :
    (book.elapse meter now).Justified meter := by
  have advanced := Meter.openTime_advance sound forward
  unfold Justified at justified ⊢
  simp only [Book.elapse, advanced]
  linarith

/-- A commit stays justified if it charges at most the open time. -/
theorem Justified.commit (justified : book.Justified meter)
    (atMost : amount ≤ meter.openTime book.clock) :
    book.Justified (meter.commit amount book.clock reopen leaseUntil) := by
  unfold Justified at justified ⊢
  rw [Meter.commit_openTime]
  have capped : (meter.commit amount book.clock reopen leaseUntil).used ≤ meter.used + amount :=
    min_le_left _ _
  linarith

/-- Charges exceed working time by at most one lease for each interruption. A
holder that stopped working may still have the rest of its lease charged. -/
structure Tolerated (book : Book K) (meter : Meter K) (lease : K) : Prop where
  charged : meter.used ≤ book.worked + lease * book.interrupted
  working : book.working = true → book.held ≤ book.worked + lease * book.interrupted
  stopped : book.working = false → book.held + meter.leaseLeft book.clock ≤
    book.worked + lease * book.interrupted + if meter.since.isSome then lease else 0
  ends : ∀ finish, meter.leaseUntil = some finish → finish ≤ book.clock + lease

theorem Tolerated.elapse (tolerated : book.Tolerated meter lease) (forward : book.clock ≤ now) :
    (book.elapse meter now).Tolerated meter lease := by
  have leased := meter.leased_nonneg book.clock now
  have left := meter.leaseLeft_advance forward
  refine ⟨?_, ?_, ?_, ?_⟩
  · have charged := tolerated.charged
    simp only [Book.elapse]
    split_ifs <;> linarith
  · intro working
    have held := tolerated.working working
    simp only [Book.elapse] at working ⊢
    simp only [working, if_true]
    linarith
  · intro stopped
    have held := tolerated.stopped stopped
    simp only [Book.elapse] at stopped ⊢
    simp only [stopped, Bool.false_eq_true, if_false]
    linarith
  · intro finish held
    have bound := tolerated.ends finish held
    simp only [Book.elapse]
    linarith

/-- The holder stops working at once; its lease runs on. -/
theorem Tolerated.halt (tolerated : book.Tolerated meter lease) (positive : 0 < lease) :
    Tolerated { book with working := false } meter lease := by
  refine ⟨tolerated.charged, ?_, ?_, tolerated.ends⟩
  · intro working
    simp at working
  · intro _
    cases working : book.working with
    | false => exact tolerated.stopped working
    | true =>
      have held := tolerated.working working
      unfold Meter.leaseLeft
      cases since : meter.since with
      | none => simpa using held
      | some start =>
        cases finishFound : meter.leaseUntil with
        | none =>
          simp only [Option.isSome_some, if_true]
          linarith
        | some finish =>
          have bound := tolerated.ends finish finishFound
          simp only [Option.isSome_some, if_true]
          have left : max (finish - book.clock) 0 ≤ lease :=
            max_le (by linarith) (le_of_lt positive)
          linarith

/-- What a claim leaves: the claimant is working, and a window it found
unsettled counts as one interruption. -/
def claim (book : Book K) (unsettled : Bool) : Book K :=
  { book with
    working := true
    interrupted := if unsettled then book.interrupted + 1 else book.interrupted }

/-- All leased time is tolerated once the claim has counted its interruption. -/
theorem Tolerated.claim_held (tolerated : book.Tolerated meter lease) (positive : 0 < lease) :
    book.held ≤ (book.claim meter.since.isSome).worked +
      lease * (book.claim meter.since.isSome).interrupted := by
  have left : 0 ≤ meter.leaseLeft book.clock := by
    unfold Meter.leaseLeft
    split
    · exact le_max_right _ _
    · exact le_refl _
  cases working : book.working with
  | true =>
    have held := tolerated.working working
    cases since : meter.since.isSome with
    | false => simpa [claim] using held
    | true =>
      simp only [claim, if_true, Nat.cast_add, Nat.cast_one]
      linarith
  | false =>
    have held := tolerated.stopped working
    cases since : meter.since.isSome with
    | false =>
      simp only [since, Bool.false_eq_true, if_false] at held
      simp only [claim, Bool.false_eq_true, if_false]
      linarith
    | true =>
      simp only [since, if_true] at held
      simp only [claim, if_true, Nat.cast_add, Nat.cast_one]
      linarith

end Book

end AegisRag.Semantics
