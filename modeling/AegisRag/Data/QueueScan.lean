import Mathlib

/-!
# Scans of the job queues

`RQQueueOperations._scan` and `_decode_cursor` of `packages/data/queue/operations.py`: a page
reads job ids from the registries of the ingestion queue and then of the embedding queue, and
its cursor names the registry and the offset at which the next page goes on.
-/

namespace AegisRag.Data.Queue

inductive JobKind where
  | ingestion
  | embedding
deriving DecidableEq

/-- A job id and the queue it is read from. -/
structure JobRef where
  kind : JobKind
  jobId : String
deriving DecidableEq

/-- `_REGISTRIES`, in the order of a scan. -/
inductive Registry where
  | failed
  | started
  | queued
  | scheduled
  | canceled
deriving DecidableEq

def registries : List Registry := [.failed, .started, .queued, .scheduled, .canceled]

/-- The ten sources of a scan with the ids that each holds. -/
def sources (registered : JobKind → Registry → List String) : List (Registry × List JobRef) :=
  [JobKind.ingestion, .embedding].flatMap fun kind =>
    registries.map fun registry => (registry, (registered kind registry).map (JobRef.mk kind))

/-- `LRANGE` and `ZRANGE`, whose end is included. -/
def range (ids : List JobRef) (start stop : ℕ) : List JobRef :=
  (ids.drop start).take (stop + 1 - start)

/-- `get_job_ids`: a queue is asked by a length, any other registry by an end. -/
def jobIds (registry : Registry) (ids : List JobRef) (offset remaining : ℕ) : List JobRef :=
  if registry = .queued then
    let length := remaining + 1
    range ids offset (offset + (length - 1))
  else
    range ids offset (offset + remaining)

theorem jobIds_eq (registry : Registry) (ids : List JobRef) (offset remaining : ℕ) :
    jobIds registry ids offset remaining = (ids.drop offset).take (remaining + 1) := by
  have length : offset + remaining + 1 - offset = remaining + 1 := by omega
  unfold jobIds range
  split <;> simp only [Nat.add_sub_cancel, length]

/-! ## Cursors -/

/-- How `int` reads a text. -/
structure IntText where
  parse : String → Option ℤ
  parse_repr : ∀ number : ℕ, parse number.repr = some (number : ℤ)

def maxCursorOffset : ℕ := 1000000

def cursorText (position : ℕ × ℕ) : String :=
  String.ofList (position.1.repr.toList ++ ':' :: position.2.repr.toList)

/-- `_decode_cursor`; `none` for a cursor that is refused. -/
def decodeCursor (text : IntText) : Option String → Option (ℕ × ℕ)
  | none => some (0, 0)
  | some cursor =>
    match (cursor.toList.splitOn ':').map fun part => text.parse (String.ofList part) with
    | [some source, some offset] =>
      if (0 ≤ source ∧ source < 2 * registries.length) ∧ 0 ≤ offset ∧ offset ≤ maxCursorOffset then
        some (source.toNat, offset.toNat)
      else
        none
    | _ => none

theorem colon_not_mem_repr (number : ℕ) : ':' ∉ number.repr.toList := by
  intro isIn
  rw [Nat.toList_repr] at isIn
  exact absurd (Nat.isDigit_of_mem_toDigits (by decide) (by decide) isIn) (by decide)

theorem decode_cursorText (text : IntText) {source offset : ℕ} (isSource : source < 10)
    (isOffset : offset ≤ maxCursorOffset) :
    decodeCursor text (some (cursorText (source, offset))) = some (source, offset) := by
  have parts : (cursorText (source, offset)).toList.splitOn ':' =
      [source.repr.toList, offset.repr.toList] := by
    have joined : (cursorText (source, offset)).toList =
        [':'].intercalate [source.repr.toList, offset.repr.toList] := by
      simp [cursorText, List.intercalate]
    rw [joined]
    apply List.splitOn_intercalate
    · intro part isPart
      obtain rfl | rfl := List.mem_pair.mp isPart <;> exact colon_not_mem_repr _
    · exact List.cons_ne_nil _ _
  have isTen : registries.length = 5 := rfl
  rw [decodeCursor, parts]
  simp only [List.map_cons, List.map_nil, String.ofList_toList, text.parse_repr]
  rw [if_pos (by rw [isTen]; omega)]
  simp

/-! ## Pages -/

/-- `QueueScan`, with the ids that were read. -/
structure QueueScan (δ : Type) where
  read : List JobRef
  deliveries : List δ
  nextCursor : Option String
  ownScanned : ℕ

/-- The ids that a page reads from the sources left, and where it stops. -/
def scanIds : List (Registry × List JobRef) → ℕ → ℕ → ℕ → List JobRef × Option (ℕ × ℕ)
  | [], _, _, _ => ([], none)
  | (registry, registered) :: rest, source, offset, remaining =>
    if remaining = 0 then ([], some (source, offset))
    else
      let ids := jobIds registry registered offset remaining
      if remaining < ids.length then (ids.take remaining, some (source, offset + remaining))
      else
        let (later, next) := scanIds rest (source + 1) 0 (remaining - ids.length)
        (ids ++ later, next)

/-- What `_read` makes of an id: an error, nothing for a job that is gone or of another
tenant, otherwise the delivery if the job has a state to show. -/
inductive Reading (δ : Type) where
  | raised
  | missing
  | found (delivery : Option δ)

/-- The deliveries of the tenant. -/
def Reading.own {δ : Type} : Reading δ → Option (Option δ)
  | .found delivery => some delivery
  | _ => none

variable {δ : Type}

/-- `_scan`; `none` for a cursor that is refused and where a read raises. -/
def scan (text : IntText) (readJob : JobRef → Reading δ)
    (registered : JobKind → Registry → List String) (cursor : Option String) (limit : ℕ) :
    Option (QueueScan δ) := do
  let (source, offset) ← decodeCursor text cursor
  let (ids, next) := scanIds ((sources registered).drop source) source offset limit
  guard (ids.all fun job => !(readJob job matches .raised))
  let own := ids.filterMap fun job => (readJob job).own
  some
    { read := ids
      deliveries := own.filterMap id
      nextCursor := next.map cursorText
      ownScanned := own.length }

def idsFrom (queues : List (Registry × List JobRef)) (position : ℕ × ℕ) : List JobRef :=
  match queues.drop position.1 with
  | [] => []
  | (_, ids) :: rest => ids.drop position.2 ++ rest.flatMap Prod.snd

/-- A position at which a page may go on. -/
def IsPosition (queues : List (Registry × List JobRef)) (position : ℕ × ℕ) : Prop :=
  ∃ source ∈ queues[position.1]?, position.2 = 0 ∨ position.2 < source.2.length

/-- What a page of the sources left reads and where it says to go on. -/
structure PageSpec (queues : List (Registry × List JobRef)) (position : ℕ × ℕ) (limit : ℕ)
    (page : List JobRef × Option (ℕ × ℕ)) : Prop where
  short : page.1.length ≤ limit
  last : page.2 = none → page.1 = idsFrom queues position
  full : ∀ next ∈ page.2, page.1.length = limit
  goesOn : ∀ next ∈ page.2, page.1 ++ idsFrom queues next = idsFrom queues position
  isPosition : (position.2 = 0 ∨ IsPosition queues position) → ∀ next ∈ page.2,
    IsPosition queues next

theorem scanIds_spec (queues : List (Registry × List JobRef)) (source offset limit : ℕ) :
    PageSpec queues (source, offset) limit (scanIds (queues.drop source) source offset limit) := by
  induction left : queues.drop source generalizing source offset limit with
  | nil =>
    constructor <;> simp [scanIds, idsFrom, left]
  | cons first rest ih =>
    obtain ⟨registry, ids⟩ := first
    have isFirst : queues[source]? = some (registry, ids) := by
      rw [← Nat.add_zero source, ← List.getElem?_drop, left]
      rfl
    have isRest : queues.drop (source + 1) = rest := by
      rw [← List.drop_drop, left]
      rfl
    have here : idsFrom queues (source, offset) = ids.drop offset ++ rest.flatMap Prod.snd := by
      rw [idsFrom, left]
    have isRead := jobIds_eq registry ids offset limit
    rw [scanIds]
    split
    case isTrue isZero =>
      constructor
      case isPosition =>
        rintro (isStart | isPosition) next ⟨rfl⟩
        · exact ⟨_, isFirst, .inl isStart⟩
        · exact isPosition
      all_goals simp [isZero]
    case isFalse isPositive =>
      dsimp only
      split
      case isTrue isMore =>
        rw [isRead, List.length_take, List.length_drop] at isMore
        have isPage : (jobIds registry ids offset limit).take limit =
            (ids.drop offset).take limit := by
          rw [isRead, List.take_take, min_eq_left (Nat.le_succ _)]
        rw [isPage]
        constructor
        case short => exact List.length_take_le _ _
        case last => simp
        case full =>
          rintro next ⟨rfl⟩
          rw [List.length_take, List.length_drop]
          omega
        case goesOn =>
          rintro next ⟨rfl⟩
          rw [here, idsFrom, left]
          dsimp only
          rw [← List.append_assoc, ← List.drop_drop, List.take_append_drop]
        case isPosition =>
          rintro - next ⟨rfl⟩
          exact ⟨_, isFirst, .inr (by dsimp only; omega)⟩
      case isFalse isAll =>
        have isWhole : jobIds registry ids offset limit = ids.drop offset := by
          rw [isRead, List.length_take] at isAll
          rw [isRead, List.take_of_length_le (by omega)]
        rw [isWhole] at isAll ⊢
        have later := ih (source + 1) 0 (limit - (ids.drop offset).length) isRest
        have start : idsFrom queues (source + 1, 0) = rest.flatMap Prod.snd := by
          rw [idsFrom, isRest]
          cases rest <;> rfl
        rw [← start] at here
        generalize scanIds rest (source + 1) 0 _ = page at later ⊢
        constructor
        case short =>
          have isShort := later.short
          rw [List.length_append]
          omega
        case last => intro isLast; rw [here, later.last isLast]
        case full =>
          intro next isNext
          have isFull := later.full next isNext
          rw [List.length_append]
          omega
        case goesOn =>
          intro next isNext
          rw [here, List.append_assoc, later.goesOn next isNext]
        case isPosition => exact fun _ => later.isPosition (.inl rfl)

/-! ## Whole scans -/

/-- Follow `next_cursor` until there is none, with a limit for each page; `none` where a
page fails or the pages do not end. -/
def follow (text : IntText) (readJob : JobRef → Reading δ)
    (registered : JobKind → Registry → List String) :
    ℕ → (ℕ → ℕ) → Option String → Option (List (QueueScan δ))
  | 0, _, _ => none
  | fuel + 1, limits, cursor => do
    let page ← scan text readJob registered cursor (limits 0)
    match page.nextCursor with
    | none => some [page]
    | some next =>
      let later ← follow text readJob registered fuel (fun index => limits (index + 1)) (some next)
      some (page :: later)

/-- What a run of pages reads. -/
structure Complete (readJob : JobRef → Reading δ) (limits : ℕ → ℕ) (ids : List JobRef)
    (pages : List (QueueScan δ)) : Prop where
  reads : pages.flatMap QueueScan.read = ids
  delivers : pages.flatMap QueueScan.deliveries =
    (ids.filterMap fun job => (readJob job).own).filterMap id
  limited : ∀ index page, pages[index]? = some page → page.read.length ≤ limits index

/-- The cursor of a position at which a page may go on is accepted again. -/
theorem decode_position (text : IntText) {registered : JobKind → Registry → List String}
    (bounded : ∀ kind registry, (registered kind registry).length ≤ 1000001)
    (isPosition : IsPosition (sources registered) position) :
    decodeCursor text (some (cursorText position)) = some position := by
  obtain ⟨source, isSource, offset⟩ := isPosition
  have isBounded : source.2.length ≤ 1000001 := by
    have isIn := List.mem_of_getElem? isSource
    simp only [sources, List.mem_flatMap, List.mem_map] at isIn
    obtain ⟨kind, -, registry, -, rfl⟩ := isIn
    simpa using bounded kind registry
  apply decode_cursorText
  · obtain ⟨isLess, -⟩ := List.getElem?_eq_some_iff.mp isSource
    exact isLess
  · unfold maxCursorOffset
    omega

theorem follow_from (text : IntText) (readJob : JobRef → Reading δ)
    (registered : JobKind → Registry → List String)
    (bounded : ∀ kind registry, (registered kind registry).length ≤ 1000001) (fuel : ℕ) :
    ∀ (limits : ℕ → ℕ) (cursor : Option String) (position : ℕ × ℕ), (∀ index, 1 ≤ limits index) →
      decodeCursor text cursor = some position → IsPosition (sources registered) position →
      (∀ job ∈ idsFrom (sources registered) position, readJob job ≠ .raised) →
      (idsFrom (sources registered) position).length < fuel →
      ∃ pages, follow text readJob registered fuel limits cursor = some pages ∧
        Complete readJob limits (idsFrom (sources registered) position) pages := by
  -- the induction is on a bound for the ids left: a page that names a cursor has read some
  induction fuel with
  | zero => intro limits cursor position positive decodes isPosition answers isLess; omega
  | succ fuel ih =>
    intro limits cursor position positive decodes isPosition answers isLess
    have spec := scanIds_spec (sources registered) position.1 position.2 (limits 0)
    rw [follow, scan, decodes]
    simp only [Option.bind_eq_bind, Option.bind_some]
    generalize scanIds ((sources registered).drop position.1) position.1 position.2 (limits 0) =
      page at spec ⊢
    obtain ⟨read, next⟩ := page
    have quiet (isRead : ∀ job ∈ read, job ∈ idsFrom (sources registered) position) :
        read.all (fun job => !(readJob job matches .raised)) = true := by
      refine List.all_eq_true.mpr fun job isIn => ?_
      have answered := answers job (isRead job isIn)
      cases reading : readJob job <;> simp_all
    cases next with
    | none =>
      have reads : read = _ := spec.last rfl
      have passes := quiet fun job isIn => reads ▸ isIn
      simp only [passes, guard_true, Option.pure_def, Option.bind_some]
      refine ⟨_, rfl, ?_⟩
      constructor
      · simp [reads]
      · simp [reads]
      · intro index page isPage
        obtain ⟨rfl, rfl⟩ : index = 0 ∧ _ = page := by
          simpa [List.getElem?_singleton] using isPage
        exact spec.short
    | some next =>
      have isNext := spec.isPosition (.inr isPosition) next rfl
      have goesOn : read ++ idsFrom (sources registered) next =
          idsFrom (sources registered) position := spec.goesOn next rfl
      have isFull : read.length = limits 0 := spec.full next rfl
      have isShorter : (idsFrom (sources registered) next).length < fuel := by
        have isPositive := positive 0
        rw [← goesOn, List.length_append, isFull] at isLess
        omega
      have answersLater : ∀ job ∈ idsFrom (sources registered) next, readJob job ≠ .raised :=
        fun job isIn => answers job (goesOn ▸ List.mem_append_right _ isIn)
      obtain ⟨later, follows, complete⟩ := ih (fun index => limits (index + 1)) _ next
        (fun index => positive (index + 1)) (decode_position text bounded isNext) isNext
        answersLater isShorter
      have passes := quiet fun job isIn => goesOn ▸ List.mem_append_left _ isIn
      simp only [passes, guard_true, Option.pure_def, Option.map_some, follows, Option.bind_some]
      refine ⟨_, rfl, ?_⟩
      constructor
      · rw [List.flatMap_cons, complete.reads, goesOn]
      · rw [List.flatMap_cons, complete.delivers, ← goesOn, List.filterMap_append,
          List.filterMap_append]
      · intro index page isPage
        cases index with
        | zero =>
          cases isPage
          exact spec.short
        | succ index => exact complete.limited index page isPage

/-- Following the cursors of a scan ends unless a read raises, and the pages together read
every id of every registry of both queues once and in order, with no page over its limit. -/
theorem scan_is_complete (text : IntText) (readJob : JobRef → Reading δ)
    (registered : JobKind → Registry → List String)
    (bounded : ∀ kind registry, (registered kind registry).length ≤ 1000001)
    (answers : ∀ job ∈ (sources registered).flatMap Prod.snd, readJob job ≠ .raised)
    (limits : ℕ → ℕ) (positive : ∀ index, 1 ≤ limits index) :
    ∃ fuel pages, follow text readJob registered fuel limits none = some pages ∧
      Complete readJob limits ((sources registered).flatMap Prod.snd) pages := by
  have start : idsFrom (sources registered) (0, 0) = (sources registered).flatMap Prod.snd := rfl
  rw [← start]
  obtain ⟨pages, follows, complete⟩ := follow_from text readJob registered bounded _ limits none
    (0, 0) positive rfl ⟨_, rfl, .inl rfl⟩ answers (Nat.lt_succ_self _)
  exact ⟨_, pages, follows, complete⟩

/-- Digits read by `String.toNat?`. -/
def digitText : IntText where
  parse text := text.toNat?.map Int.ofNat
  parse_repr number := by simp

theorem scan_is_complete_two_queues :
    let registered : JobKind → Registry → List String
      | .ingestion, .queued => ["first", "second"]
      | .embedding, .failed => ["third"]
      | _, _ => []
    ∃ fuel pages, follow digitText (fun job => .found (some job.jobId)) registered fuel
        (fun _ => 1) none = some pages ∧
      Complete (fun job => .found (some job.jobId)) (fun _ => 1)
        ((sources registered).flatMap Prod.snd) pages :=
  scan_is_complete digitText _ _ (by intro kind registry; cases kind <;> cases registry <;> decide)
    (by intro job _ isRaised; cases isRaised) _ (fun _ => le_rfl)

end AegisRag.Data.Queue
