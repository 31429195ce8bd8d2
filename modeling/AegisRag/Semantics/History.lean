import Mathlib.Data.List.Basic

/-!
# Histories that only grow

A history lists what happened, newest first. `Along` says that each entry had a
property of what stood before it when it was added, so it is proved one entry at
a time and read back at any later time. `since` is the part of a history after
the last entry of a kind.
-/

namespace AegisRag.Semantics

variable {α : Type}

/-- Every entry satisfies a fact about the entries before it. -/
def Along (fact : α → List α → Prop) : List α → Prop
  | [] => True
  | entry :: older => fact entry older ∧ Along fact older

variable {fact : α → List α → Prop} {newer older : List α} {entry : α} {history : List α}
  {kind : α → Bool}

theorem Along.at (along : Along fact (newer ++ entry :: older)) : fact entry older := by
  induction newer with
  | nil => exact along.1
  | cons _ _ ih => exact ih along.2

theorem Along.past (along : Along fact (newer ++ older)) : Along fact older := by
  induction newer with
  | nil => exact along
  | cons _ _ ih => exact ih along.2

theorem Along.of_mem (along : Along fact history) (isIn : entry ∈ history) :
    ∃ newer older, history = newer ++ entry :: older ∧ fact entry older := by
  obtain ⟨newer, older, rfl⟩ := List.append_of_mem isIn
  exact ⟨newer, older, rfl, along.at⟩

/-- What happened after the last entry of a kind. -/
def since (kind : α → Bool) (history : List α) : List α :=
  history.takeWhile fun entry => !kind entry

theorem mem_of_mem_since (isIn : entry ∈ since kind history) : entry ∈ history :=
  (List.takeWhile_sublist _).subset isIn

@[simp] theorem since_nil (kind : α → Bool) : since kind [] = [] := rfl

theorem since_cons_of_kind (stops : kind entry = true) : since kind (entry :: history) = [] := by
  simp [since, stops]

theorem since_cons_of_not (passes : kind entry = false) :
    since kind (entry :: history) = entry :: since kind history := by
  simp [since, passes]

/-- An entry that no longer counts as recent has one of the kind after it. -/
theorem exists_kind_between (passes : kind entry = false)
    (past : entry ∉ since kind (newer ++ entry :: older)) :
    ∃ between ∈ newer, kind between = true := by
  induction newer with
  | nil =>
    rw [List.nil_append, since_cons_of_not passes] at past
    exact absurd List.mem_cons_self past
  | cons first rest ih =>
    cases kindOf : kind first with
    | true => exact ⟨first, List.mem_cons_self, kindOf⟩
    | false =>
      rw [List.cons_append, since_cons_of_not kindOf, List.mem_cons, not_or] at past
      obtain ⟨between, isIn, stops⟩ := ih past.2
      exact ⟨between, List.mem_cons_of_mem _ isIn, stops⟩

/-- What is recent while an older entry is not lies after that entry. -/
theorem mem_newer_of_mem_since (passes : kind entry = false)
    (past : entry ∉ since kind (newer ++ entry :: older))
    (isRecent : recent ∈ since kind (newer ++ entry :: older)) : recent ∈ newer := by
  induction newer with
  | nil =>
    rw [List.nil_append, since_cons_of_not passes] at past
    exact absurd List.mem_cons_self past
  | cons first rest ih =>
    cases kindOf : kind first with
    | true =>
      rw [List.cons_append, since_cons_of_kind kindOf] at isRecent
      simp at isRecent
    | false =>
      rw [List.cons_append, since_cons_of_not kindOf] at past isRecent
      rw [List.mem_cons, not_or] at past
      rcases List.mem_cons.mp isRecent with rfl | later
      · exact List.mem_cons_self
      · exact List.mem_cons_of_mem _ (ih past.2 later)

/-- Entries told apart by what a partial function reads off them. -/
theorem eq_of_nodup_filterMap {read : α → Option β} (distinct : (history.filterMap read).Nodup)
    (hasFirst : first ∈ history) (hasSecond : second ∈ history)
    (readFirst : read first = some value) (readSecond : read second = some value) :
    first = second := by
  induction history with
  | nil => simp at hasFirst
  | cons entry older ih =>
    -- The value can be read off the head or off the tail, not off both.
    have notBoth : ∀ other ∈ older, read entry = some value → read other ≠ some value := by
      intro other isIn readEntry readOther
      rw [List.filterMap_cons_some readEntry, List.nodup_cons] at distinct
      exact distinct.1 (List.mem_filterMap.mpr ⟨other, isIn, readOther⟩)
    have tail : (older.filterMap read).Nodup := by
      refine distinct.sublist ?_
      exact (List.sublist_cons_self entry older).filterMap read
    rcases List.mem_cons.mp hasFirst with rfl | firstOlder <;>
      rcases List.mem_cons.mp hasSecond with rfl | secondOlder
    · rfl
    · exact absurd readSecond (notBoth second secondOlder readFirst)
    · exact absurd readFirst (notBoth first firstOlder readSecond)
    · exact ih tail firstOlder secondOlder

end AegisRag.Semantics
