import AegisRag.Semantics.Rounding
import AegisRag.Semantics.Text

/-!
# The rate limiter of the tools

`InMemoryToolRateLimiter` keeps, for each key, the readings of the calls it allowed and
forgets those that have left the window. The rounding of floating-point readings is a
parameter. `Within` and `Since` are the half-open intervals of one window's length, as the
limiter itself computes it.
-/

namespace AegisRag.Agent

open Semantics

/-! ## The limiter -/

/-- `ToolRateLimit`. -/
structure ToolRateLimit where
  maxCalls : ℕ
  windowSeconds : ℚ
  maxCallsPositive : 0 < maxCalls
  windowPositive : 0 < windowSeconds

/-- `ToolRateLimitKey`; its validator trims the identifiers and refuses blank ones. -/
structure ToolRateLimitKey where
  tenantId : String
  userId : String
  toolName : String
  tenantIdIsText : IsText tenantId
  userIdIsText : IsText userId
  toolNameIsText : IsText toolName
deriving DecidableEq

/-- `ToolRateLimitDecision`. -/
structure ToolRateLimitDecision where
  allowed : Bool
  remaining : ℕ
  resetAfterSeconds : ℚ
deriving DecidableEq

section

variable (round : ℚ → ℚ) (limit : ToolRateLimit)

/-- The reading at which the window that ends at `now` starts. -/
def windowStart (now : ℚ) : ℚ := round (now - limit.windowSeconds)

/-- The kept readings that are still in the window. -/
def recent (now : ℚ) (stamps : List ℚ) : List ℚ :=
  stamps.filter (windowStart round limit now < ·)

/-- The least of the readings; a denial finds at least one. -/
def oldest (stamps : List ℚ) : ℚ := stamps.min?.getD 0

/-- What `acquire` answers and keeps for one key. -/
def acquireKey (now : ℚ) (stamps : List ℚ) : ToolRateLimitDecision × List ℚ :=
  let calls := recent round limit now stamps
  if limit.maxCalls ≤ calls.length then
    (⟨false, 0, max (round (round (oldest calls + limit.windowSeconds) - now)) 0⟩, calls)
  else
    (⟨true, limit.maxCalls - (calls.length + 1), limit.windowSeconds⟩, calls ++ [now])

end

/-- The readings kept for every key. -/
abbrev Limiter := ToolRateLimitKey → List ℚ

/-- `InMemoryToolRateLimiter.acquire`. -/
def Limiter.acquire (round : ℚ → ℚ) (limiter : Limiter) (key : ToolRateLimitKey)
    (limit : ToolRateLimit) (now : ℚ) : ToolRateLimitDecision × Limiter :=
  let answer := acquireKey round limit now (limiter key)
  (answer.1, Function.update limiter key answer.2)

/-! ## Runs -/

/-- One call and its answer. -/
structure Acquisition where
  key : ToolRateLimitKey
  now : ℚ
  decision : ToolRateLimitDecision

/-- The limiter and its answers after a sequence of calls, each with the limit of its key. -/
def Limiter.run (round : ℚ → ℚ) (limits : ToolRateLimitKey → ToolRateLimit) :
    List (ToolRateLimitKey × ℚ) → Limiter × List Acquisition :=
  List.foldl (fun state call =>
      let answer := state.1.acquire round call.1 (limits call.1) call.2
      (answer.2, state.2 ++ [⟨call.1, call.2, answer.1⟩]))
    (fun _ => [], [])

/-- The readings at which calls of a key were allowed. -/
def allowedAt (key : ToolRateLimitKey) (history : List Acquisition) : List ℚ :=
  (history.filter fun acquired => acquired.key = key ∧ acquired.decision.allowed).map (·.now)

/-- A reading in the interval that starts with `start` and is one window long. -/
def Within (round : ℚ → ℚ) (limit : ToolRateLimit) (start reading : ℚ) : Prop :=
  start ≤ reading ∧ windowStart round limit reading < start

/-- A reading in the interval that starts after `start` and is one window long. -/
def Since (round : ℚ → ℚ) (limit : ToolRateLimit) (start reading : ℚ) : Prop :=
  start < reading ∧ windowStart round limit reading ≤ start

instance (round : ℚ → ℚ) (limit : ToolRateLimit) (start reading : ℚ) :
    Decidable (Within round limit start reading) :=
  inferInstanceAs (Decidable (_ ∧ _))

instance (round : ℚ → ℚ) (limit : ToolRateLimit) (start reading : ℚ) :
    Decidable (Since round limit start reading) :=
  inferInstanceAs (Decidable (_ ∧ _))

section

variable {round : ℚ → ℚ} {limits : ToolRateLimitKey → ToolRateLimit}
  {calls : List (ToolRateLimitKey × ℚ)} {key other : ToolRateLimitKey} {now : ℚ}

def answerAfter (round : ℚ → ℚ) (limits : ToolRateLimitKey → ToolRateLimit)
    (calls : List (ToolRateLimitKey × ℚ)) (key : ToolRateLimitKey) (now : ℚ) :
    ToolRateLimitDecision :=
  (acquireKey round (limits key) now ((Limiter.run round limits calls).1 key)).1

theorem run_append_call :
    Limiter.run round limits (calls ++ [(key, now)]) =
      (Function.update (Limiter.run round limits calls).1 key
          (acquireKey round (limits key) now ((Limiter.run round limits calls).1 key)).2,
        (Limiter.run round limits calls).2 ++
          [⟨key, now, answerAfter round limits calls key now⟩]) := by
  rw [Limiter.run, List.foldl_append]
  rfl

theorem allowedAt_append_call (history : List Acquisition) (acquired : Acquisition) :
    allowedAt key (history ++ [acquired]) =
      allowedAt key history ++
        if acquired.key = key ∧ acquired.decision.allowed then [acquired.now] else [] := by
  rw [allowedAt, List.filter_append, List.map_append, allowedAt]
  congr 1
  by_cases counts : acquired.key = key ∧ acquired.decision.allowed
  · simp [counts]
  · rw [if_neg counts, List.filter_cons_of_neg (by simpa using counts)]
    rfl

theorem acquireKey_cases (round : ℚ → ℚ) (limit : ToolRateLimit) (now : ℚ) (stamps : List ℚ) :
    (limit.maxCalls ≤ (recent round limit now stamps).length ∧
      (acquireKey round limit now stamps).1.allowed = false ∧
      (acquireKey round limit now stamps).2 = recent round limit now stamps) ∨
    ((recent round limit now stamps).length < limit.maxCalls ∧
      (acquireKey round limit now stamps).1.allowed = true ∧
      (acquireKey round limit now stamps).2 = recent round limit now stamps ++ [now]) := by
  unfold acquireKey
  dsimp only
  split
  · rename_i full
    exact .inl ⟨full, rfl, rfl⟩
  · rename_i free
    exact .inr ⟨Nat.lt_of_not_le free, rfl, rfl⟩

end

/-! ## The invariant -/

/-- What is kept for a key after calls at `readings`: in every window that starts no
earlier than theirs exactly the allowed calls, and never more than the limit. -/
structure Tracks (round : ℚ → ℚ) (limit : ToolRateLimit) (readings stamps allowed : List ℚ) :
    Prop where
  kept : ∀ cut, (∀ reading ∈ readings, windowStart round limit reading ≤ cut) →
    stamps.filter (cut < ·) = allowed.filter (cut < ·)
  few : stamps.length ≤ limit.maxCalls
  within : ∀ start, allowed.countP (Within round limit start ·) ≤ limit.maxCalls
  since : ∀ start, allowed.countP (Since round limit start ·) ≤ limit.maxCalls

section

variable {round : ℚ → ℚ} {now : ℚ}

theorem tracks_nil : Tracks round limit [] [] [] where
  kept _ _ := rfl
  few := Nat.zero_le _
  within _ := Nat.zero_le _
  since _ := Nat.zero_le _

theorem Tracks.recent_eq (tracks : Tracks round limit readings stamps allowed)
    (monotone : Monotone round) (later : ∀ reading ∈ readings, reading ≤ now) :
    recent round limit now stamps = allowed.filter (windowStart round limit now < ·) := by
  apply tracks.kept
  intro reading isEarlier
  apply monotone
  have := later reading isEarlier
  linarith

/-- A window of the history counts at most one call more than those before the new one,
and no more at all unless the new call is in it. -/
theorem countP_append_le (before : allowed.countP counts ≤ bound)
    (room : counts now = true → allowed.countP counts < bound) :
    (allowed ++ [now]).countP counts ≤ bound := by
  rw [List.countP_append, List.countP_singleton]
  split
  · rename_i isIn
    have := room isIn
    omega
  · exact before

section

variable (tracks : Tracks round limit readings stamps allowed) (monotone : Monotone round)
  (later : ∀ reading ∈ readings, reading ≤ now)

include tracks monotone later

theorem Tracks.acquire :
    Tracks round limit (readings ++ [now]) (acquireKey round limit now stamps).2
      (allowed ++ if (acquireKey round limit now stamps).1.allowed then [now] else []) := by
  have isRecent := tracks.recent_eq monotone later
  have keptRecent : ∀ cut, windowStart round limit now ≤ cut →
      (recent round limit now stamps).filter (cut < ·) = allowed.filter (cut < ·) := by
    intro cut above
    rw [isRecent, List.filter_filter]
    apply List.filter_congr
    intro reading _
    by_cases isAbove : cut < reading
    · simp [isAbove, lt_of_le_of_lt above isAbove]
    · simp [isAbove]
  rcases acquireKey_cases round limit now stamps with
    ⟨_, denied, kept⟩ | ⟨free, granted, kept⟩
  · rw [denied, kept]
    simp only [Bool.false_eq_true, if_false, List.append_nil]
    constructor
    · intro cut above
      exact keptRecent cut (above now (List.mem_append_right _ List.mem_cons_self))
    · exact (List.length_filter_le _ _).trans tracks.few
    · exact tracks.within
    · exact tracks.since
  · rw [granted, kept]
    rw [isRecent] at free
    simp only [if_true]
    -- every call of a window that has the new call in it is still kept
    have room : ∀ {counts : ℚ → Bool},
        (∀ reading, counts reading = true → windowStart round limit now < reading) →
          allowed.countP counts < limit.maxCalls := by
      intro counts inWindow
      rw [← List.countP_eq_length_filter] at free
      apply lt_of_le_of_lt (List.countP_mono_left _) free
      intro reading _ isIn
      exact decide_eq_true (inWindow reading isIn)
    constructor
    · intro cut above
      rw [List.filter_append, List.filter_append,
        keptRecent cut (above now (List.mem_append_right _ List.mem_cons_self))]
    · rw [List.length_append, isRecent]
      exact free
    · intro start
      apply countP_append_le (tracks.within start)
      intro isIn
      apply room
      intro reading counted
      exact lt_of_lt_of_le (of_decide_eq_true isIn).2 (of_decide_eq_true counted).1
    · intro start
      apply countP_append_le (tracks.since start)
      intro isIn
      apply room
      intro reading counted
      exact lt_of_le_of_lt (of_decide_eq_true isIn).2 (of_decide_eq_true counted).1

theorem Tracks.full_of_denied (denied : (acquireKey round limit now stamps).1.allowed = false) :
    (allowed.filter (windowStart round limit now < ·)).length = limit.maxCalls := by
  rw [← tracks.recent_eq monotone later]
  rcases acquireKey_cases round limit now stamps with
    ⟨full, -, -⟩ | ⟨-, granted, -⟩
  · exact le_antisymm ((List.length_filter_le _ _).trans tracks.few) full
  · rw [granted] at denied
    contradiction

end

end

/-! ## After a denial -/

section

variable {round : ℚ → ℚ} {limit : ToolRateLimit}

theorem oldest_mem (nonempty : stamps ≠ []) : oldest stamps ∈ stamps := by
  cases least : stamps.min? with
  | none => exact absurd (List.min?_eq_none_iff.mp least) nonempty
  | some first =>
    rw [oldest, least]
    exact List.min?_mem least

theorem recent_ne_nil (full : limit.maxCalls ≤ (recent round limit now stamps).length) :
    recent round limit now stamps ≠ [] :=
  List.ne_nil_of_length_pos (limit.maxCallsPositive.trans_le full)

theorem acquireKey_denied (denied : (acquireKey round limit now stamps).1.allowed = false) :
    limit.maxCalls ≤ (recent round limit now stamps).length ∧
      acquireKey round limit now stamps =
        (⟨false, 0, max (round (round (oldest (recent round limit now stamps) +
          limit.windowSeconds) - now)) 0⟩, recent round limit now stamps) := by
  unfold acquireKey at denied ⊢
  dsimp only at denied ⊢
  split at denied
  · rename_i full
    exact ⟨full, if_pos full⟩
  · contradiction

/-- Once the oldest kept call has left the window, a call is allowed. -/
theorem acquireKey_allowed_of_oldest (few : stamps.length ≤ limit.maxCalls)
    (nonempty : stamps ≠ []) (left : oldest stamps ≤ windowStart round limit later) :
    (acquireKey round limit later stamps).1.allowed = true := by
  have shorter : (recent round limit later stamps).length < stamps.length := by
    apply List.length_filter_lt_length_iff_exists.mpr
    refine ⟨oldest stamps, oldest_mem nonempty, ?_⟩
    simpa using left
  rcases acquireKey_cases round limit later stamps with
    ⟨full, -, -⟩ | ⟨-, granted, -⟩
  · omega
  · exact granted

/-- Without rounding, the oldest kept call has left the window when the reported time
has passed. -/
theorem oldest_le_windowStart (reset : now + max (oldest stamps + limit.windowSeconds - now) 0
    ≤ later) : oldest stamps ≤ windowStart id limit later := by
  have := le_max_left (oldest stamps + limit.windowSeconds - now) 0
  rw [windowStart, id]
  linarith

end

/-! ## Whole runs -/

section

variable {round : ℚ → ℚ} {limits : ToolRateLimitKey → ToolRateLimit}
  {calls : List (ToolRateLimitKey × ℚ)} {key : ToolRateLimitKey} {now : ℚ}

def callsOf (key : ToolRateLimitKey) (calls : List (ToolRateLimitKey × ℚ)) :
    List (ToolRateLimitKey × ℚ) :=
  calls.filter (·.1 = key)

theorem callsOf_append_same :
    callsOf key (calls ++ [(key, now)]) = callsOf key calls ++ [(key, now)] := by
  simp [callsOf]

theorem callsOf_append_other (different : other ≠ key) :
    callsOf key (calls ++ [(other, now)]) = callsOf key calls := by
  simp [callsOf, different]

/-- What is kept and answered for a key depends on the calls of that key only. -/
theorem run_callsOf (calls : List (ToolRateLimitKey × ℚ)) :
    (Limiter.run round limits calls).1 key =
        (Limiter.run round limits (callsOf key calls)).1 key ∧
      (Limiter.run round limits calls).2.filter (·.key = key) =
        (Limiter.run round limits (callsOf key calls)).2 := by
  induction calls using List.reverseRecOn with
  | nil => exact ⟨rfl, rfl⟩
  | append_singleton calls call ih =>
    obtain ⟨other, _⟩ := call
    obtain ⟨sameKept, sameAnswers⟩ := ih
    by_cases same : other = key
    · subst same
      rw [callsOf_append_same, run_append_call, run_append_call, answerAfter, answerAfter,
        ← sameKept, ← sameAnswers]
      constructor
      · simp
      · simp
    · rw [callsOf_append_other same, run_append_call]
      constructor
      · rw [← sameKept]
        exact Function.update_of_ne (Ne.symm same) _ _
      · rw [List.filter_append, sameAnswers, List.filter_cons_of_neg (by simpa using same)]
        simp

theorem readings_le (last : ∀ call ∈ calls, call.2 ≤ now) :
    ∀ reading ∈ (callsOf key calls).map (·.2), reading ≤ now := by
  intro reading isReading
  obtain ⟨call, isCall, rfl⟩ := List.mem_map.mp isReading
  exact last call (List.mem_of_mem_filter isCall)

theorem run_tracks (monotone : Monotone round)
    (ordered : calls.Pairwise fun earlier later => earlier.2 ≤ later.2) :
    Tracks round (limits key) ((callsOf key calls).map (·.2))
      ((Limiter.run round limits calls).1 key)
      (allowedAt key (Limiter.run round limits calls).2) := by
  induction calls using List.reverseRecOn with
  | nil => exact tracks_nil
  | append_singleton calls call ih =>
    obtain ⟨other, now⟩ := call
    obtain ⟨orderedBefore, -, before⟩ := List.pairwise_append.mp ordered
    have tracks := ih orderedBefore
    rw [run_append_call, allowedAt_append_call]
    by_cases same : other = key
    · subst same
      rw [callsOf_append_same, List.map_append]
      have later : ∀ call ∈ calls, call.2 ≤ now := fun call isCall =>
        before call isCall _ List.mem_cons_self
      simpa [answerAfter] using tracks.acquire monotone (readings_le later)
    · rw [callsOf_append_other same, if_neg (fun isKey => same isKey.1), List.append_nil]
      dsimp only
      rw [Function.update_of_ne (Ne.symm same)]
      exact tracks

theorem full_of_denied (monotone : Monotone round)
    (ordered : calls.Pairwise fun earlier later => earlier.2 ≤ later.2)
    (last : ∀ call ∈ calls, call.2 ≤ now)
    (denied : (answerAfter round limits calls key now).allowed = false) :
    ((allowedAt key (Limiter.run round limits calls).2).filter
      (windowStart round (limits key) now < ·)).length = (limits key).maxCalls := by
  exact (run_tracks monotone ordered).full_of_denied monotone (readings_le last) denied

/-- What a key's calls keep is not changed by calls of other keys. -/
theorem run_append_others (isOther : ∀ call ∈ others, call.1 ≠ key) :
    (Limiter.run round limits (calls ++ others)).1 key =
      (Limiter.run round limits calls).1 key := by
  have same : callsOf key (calls ++ others) = callsOf key calls := by
    have none : others.filter (·.1 = key) = [] := by
      apply List.filter_eq_nil_iff.mpr
      simpa using fun other reading isCall => isOther (other, reading) isCall
    rw [callsOf, List.filter_append, none, List.append_nil, callsOf]
  rw [(run_callsOf (calls ++ others)).1, same, ← (run_callsOf calls).1]

/-- After a denial the next call of the key is allowed once the oldest kept call has left
the window. -/
theorem allowed_of_oldest (monotone : Monotone round)
    (ordered : calls.Pairwise fun earlier later => earlier.2 ≤ later.2)
    (isOther : ∀ call ∈ others, call.1 ≠ key)
    (denied : (answerAfter round limits calls key now).allowed = false)
    (left : oldest (recent round (limits key) now ((Limiter.run round limits calls).1 key)) ≤
      windowStart round (limits key) later) :
    (answerAfter round limits (calls ++ (key, now) :: others) key later).allowed = true := by
  obtain ⟨full, answer⟩ := acquireKey_denied denied
  rw [answerAfter, List.append_cons, run_append_others isOther, run_append_call, answer]
  dsimp only
  rw [Function.update_self]
  apply acquireKey_allowed_of_oldest _ (recent_ne_nil full) left
  exact (List.length_filter_le _ _).trans (run_tracks monotone ordered).few

theorem oldest_isAllowed (monotone : Monotone round)
    (ordered : calls.Pairwise fun earlier later => earlier.2 ≤ later.2)
    (last : ∀ call ∈ calls, call.2 ≤ now)
    (denied : (answerAfter round limits calls key now).allowed = false) :
    oldest (recent round (limits key) now ((Limiter.run round limits calls).1 key)) ∈
      allowedAt key (Limiter.run round limits calls).2 := by
  have tracks : Tracks round (limits key) _ _ _ := run_tracks monotone ordered
  have isKept := oldest_mem (recent_ne_nil (acquireKey_denied denied).1)
  rw [tracks.recent_eq monotone (readings_le last)] at isKept ⊢
  exact List.mem_of_mem_filter isKept

end

/-- For every rounding that keeps the order: no interval of one window's length holds more
allowed calls than the limit; a denial finds the window full; the next call is allowed once
the oldest one has left the window; and each key is answered as if it were alone. -/
theorem rate_limiter_guarantees (round : ℚ → ℚ) (monotone : Monotone round)
    (limits : ToolRateLimitKey → ToolRateLimit) (calls : List (ToolRateLimitKey × ℚ))
    (ordered : calls.Pairwise fun earlier later => earlier.2 ≤ later.2) (key : ToolRateLimitKey) :
    (∀ start, (allowedAt key (Limiter.run round limits calls).2).countP
        (Within round (limits key) start ·) ≤ (limits key).maxCalls) ∧
    (∀ start, (allowedAt key (Limiter.run round limits calls).2).countP
        (Since round (limits key) start ·) ≤ (limits key).maxCalls) ∧
    (∀ now, (∀ call ∈ calls, call.2 ≤ now) →
      (answerAfter round limits calls key now).allowed = false →
        ((allowedAt key (Limiter.run round limits calls).2).filter
          (windowStart round (limits key) now < ·)).length = (limits key).maxCalls ∧
        ∃ first ∈ allowedAt key (Limiter.run round limits calls).2,
          (answerAfter round limits calls key now).resetAfterSeconds =
            max (round (round (first + (limits key).windowSeconds) - now)) 0 ∧
          ∀ others : List (ToolRateLimitKey × ℚ), (∀ call ∈ others, call.1 ≠ key) →
            ∀ later,
              (first ≤ windowStart round (limits key) later ∨ (round = id ∧
                now + (answerAfter round limits calls key now).resetAfterSeconds ≤ later)) →
              (answerAfter round limits (calls ++ (key, now) :: others) key later).allowed =
                true) ∧
    (Limiter.run round limits calls).2.filter (·.key = key) =
      (Limiter.run round limits (callsOf key calls)).2 := by
  have tracks : Tracks round (limits key) _ _ _ := run_tracks monotone ordered
  refine ⟨tracks.within, tracks.since, ?_, (run_callsOf calls).2⟩
  intro now last denied
  have reset : (answerAfter round limits calls key now).resetAfterSeconds =
      max (round (round (oldest (recent round (limits key) now
        ((Limiter.run round limits calls).1 key)) + (limits key).windowSeconds) - now)) 0 := by
    rw [answerAfter, (acquireKey_denied denied).2]
  refine ⟨full_of_denied monotone ordered last denied, _,
    oldest_isAllowed monotone ordered last denied, reset, ?_⟩
  intro others isOther later afterwards
  apply allowed_of_oldest monotone ordered isOther denied
  rcases afterwards with left | ⟨rfl, passed⟩
  · exact left
  · rw [reset] at passed
    exact oldest_le_windowStart passed

/-- The search calls of one user. -/
def searchKey : ToolRateLimitKey where
  tenantId := "acme"
  userId := "ada"
  toolName := "rag_search"
  tenantIdIsText := by decide +kernel
  userIdIsText := by decide +kernel
  toolNameIsText := by decide +kernel

/-- One call in the time that is the floating-point number nearest to 0.3 seconds. -/
def oncePerThirdOfASecond : ToolRateLimit where
  maxCalls := 1
  windowSeconds := 5404319552844595 / 18014398509481984
  maxCallsPositive := by decide
  windowPositive := by norm_num

/-- Two calls in double precision, at 2 seconds and near 2.03 seconds, the second denied. -/
theorem rate_limiter_guarantees_two_calls :
    Monotone (roundBinary 53) ∧
      (answerAfter (roundBinary 53) (fun _ => oncePerThirdOfASecond) [(searchKey, 2)] searchKey
        (4571153621781053 / 2251799813685248)).allowed = false ∧
      ((allowedAt searchKey (Limiter.run (roundBinary 53) (fun _ => oncePerThirdOfASecond)
        [(searchKey, 2)]).2).filter (windowStart (roundBinary 53) oncePerThirdOfASecond
          (4571153621781053 / 2251799813685248) < ·)).length = 1 := by
  have denied : (answerAfter (roundBinary 53) (fun _ => oncePerThirdOfASecond)
      [(searchKey, 2)] searchKey (4571153621781053 / 2251799813685248)).allowed = false := by
    decide +kernel
  have monotone := roundBinary_monotone (show 0 < 53 by decide)
  refine ⟨monotone, denied, ?_⟩
  have guarantees := rate_limiter_guarantees (roundBinary 53) monotone
    (fun _ => oncePerThirdOfASecond) [(searchKey, 2)] (List.pairwise_singleton _ _) searchKey
  exact (guarantees.2.2.1 _ (by norm_num) denied).1

/-- In double precision the reported time can be too short: a call near 2.3 seconds is
denied, more than the reported 0.27 seconds after a denial near 2.03 seconds. -/
theorem reset_time_is_too_short :
    let limits := fun _ : ToolRateLimitKey => oncePerThirdOfASecond
    let now : ℚ := 4571153621781053 / 2251799813685248
    let later : ℚ := 2589569785738035 / 1125899906842624
    let denial := answerAfter (roundBinary 53) limits [(searchKey, 2)] searchKey now
    denial.allowed = false ∧ now + denial.resetAfterSeconds ≤ later ∧
      (answerAfter (roundBinary 53) limits [(searchKey, 2), (searchKey, now)] searchKey
        later).allowed = false := by
  decide +kernel

end AegisRag.Agent
