import Mathlib.Data.List.Dedup
import Mathlib.Data.List.Perm.Basic
import Mathlib.Algebra.BigOperators.Group.List.Basic

/-!
# Loops over lists

Rules for a loop whose body may raise, written as `foldlM` in `Except`, and for the
grouping of a list by a key.
-/

namespace AegisRag.Semantics

section

universe u

variable {α β : Type u}

theorem bind_eq_ok {rest : α → Except ε β} :
    first >>= rest = .ok result ↔ ∃ value, first = .ok value ∧ rest value = .ok result := by
  cases first with
  | error raised => simp [bind, Except.bind]
  | ok value => simp [bind, Except.bind]

theorem ite_error_eq_ok [Decidable condition] {raised : ε} {rest : Except ε α} :
    (if condition then .error raised else rest) = .ok result ↔
      ¬ condition ∧ rest = .ok result := by
  split <;> simp [*]

theorem mapError_eq_ok {attempt : Except ε α} :
    attempt.mapError rename = .ok value ↔ attempt = .ok value := by
  cases attempt with
  | error raised => simp [Except.mapError]
  | ok result => simp [Except.mapError]

/-- A result that was computed, with a property that was decided. -/
theorem exists_ok_of_any {attempt : Except ε α} {property : α → Bool}
    (holds : attempt.toOption.any property = true) :
    ∃ value, attempt = .ok value ∧ property value = true := by
  cases attempt with
  | error raised => cases holds
  | ok value => exact ⟨value, rfl, holds⟩

/-- A computation on every element gives each element a result, and no result besides. -/
theorem mapM_eq_ok {compute : α → Except ε β} {items : List α}
    (ran : items.mapM compute = .ok results) :
    (∀ item ∈ items, ∃ result ∈ results, compute item = .ok result) ∧
      ∀ result ∈ results, ∃ item ∈ items, compute item = .ok result := by
  induction items generalizing results with
  | nil =>
    cases ran
    simp
  | cons item rest ih =>
    rw [List.mapM_cons, bind_eq_ok] at ran
    obtain ⟨result, first, ran⟩ := ran
    rw [bind_eq_ok] at ran
    obtain ⟨_, ran, ended⟩ := ran
    cases ended
    obtain ⟨forward, backward⟩ := ih ran
    constructor
    · intro other isIn
      rcases List.mem_cons.mp isIn with rfl | isIn
      · exact ⟨result, by simp, first⟩
      · obtain ⟨value, isValue, computed⟩ := forward other isIn
        exact ⟨value, List.mem_cons_of_mem result isValue, computed⟩
    · intro value isIn
      rcases List.mem_cons.mp isIn with rfl | isIn
      · exact ⟨item, by simp, first⟩
      · obtain ⟨other, isOther, computed⟩ := backward value isIn
        exact ⟨other, List.mem_cons_of_mem item isOther, computed⟩

theorem forM_eq_ok {visit : α → Except ε PUnit} {items : List α} :
    items.forM visit = .ok () ↔ ∀ item ∈ items, visit item = .ok () := by
  induction items with
  | nil => simp [List.forM_nil, pure, Except.pure]
  | cons item rest ih =>
    change (visit item >>= fun _ => rest.forM visit) = .ok () ↔ _
    rw [bind_eq_ok, List.forall_mem_cons, ← ih]
    exact ⟨fun ⟨_, visited, others⟩ => ⟨visited, others⟩, fun all => ⟨_, all⟩⟩

variable {items : List α} {body : σ → α → Except ε σ}

/-- What the body establishes about the elements visited so far holds of all of them at
the end. -/
theorem loop_keeps (invariant : List α → σ → Prop)
    (step : ∀ visited state item next, invariant visited state → body state item = .ok next →
      invariant (visited ++ [item]) next) (initial : invariant [] start)
    (ran : items.foldlM body start = .ok final) : invariant items final := by
  suffices general : ∀ visited state, invariant visited state →
      items.foldlM body state = .ok final → invariant (visited ++ items) final from
    general [] start initial ran
  clear initial ran
  induction items with
  | nil =>
    intro visited state holds ran
    rw [List.foldlM_nil] at ran
    cases ran
    simpa using holds
  | cons item rest ih =>
    intro visited state holds ran
    rw [List.foldlM_cons, bind_eq_ok] at ran
    obtain ⟨next, first, rest⟩ := ran
    simpa using ih (visited ++ [item]) next (step visited state item next holds first) rest

end

section

variable {α κ : Type*} [DecidableEq κ]

/-- The keys of a list, each once and where it first occurs. -/
def labels (key : α → κ) (items : List α) : List κ := (items.map key).reverse.dedup.reverse

/-- The elements of a list by their key, the groups in the order in which their keys
first occur. -/
def groupsBy (key : α → κ) (items : List α) : List (List α) :=
  (labels key items).map fun label => items.filter fun item => key item = label

variable {key : α → κ} {items : List α}

/-- The elements of one group share their key. -/
theorem key_eq_of_mem_groupsBy {group : List α} (isGroup : group ∈ groupsBy key items)
    {left right : α} (isLeft : left ∈ group) (isRight : right ∈ group) : key left = key right := by
  obtain ⟨_, _, rfl⟩ := List.mem_map.mp isGroup
  have leftKey := (List.mem_filter.mp isLeft).2
  have rightKey := (List.mem_filter.mp isRight).2
  rw [decide_eq_true_iff] at leftKey rightKey
  rw [leftKey, rightKey]

/-- Filtering by each label in turn splits the elements whose label occurs. -/
theorem flatMap_filter_perm (key : α → κ) {names : List κ} (distinct : names.Nodup)
    (items : List α) :
    (names.flatMap fun label => items.filter fun item => key item = label).Perm
      (items.filter fun item => key item ∈ names) := by
  induction names with
  | nil => simp
  | cons label names ih =>
    rw [List.nodup_cons] at distinct
    rw [List.flatMap_cons]
    refine (List.Perm.append_left _ (ih distinct.2)).trans ?_
    have split := List.filter_append_perm (fun item => decide (key item = label))
      (items.filter fun item => key item ∈ label :: names)
    rw [List.filter_filter, List.filter_filter] at split
    refine List.Perm.trans (List.Perm.of_eq ?_) split
    congr 1
    · apply List.filter_congr
      intro item _
      by_cases same : key item = label <;> simp [same]
    · apply List.filter_congr
      intro item _
      by_cases same : key item = label <;> simp [same, distinct.1]

/-- Grouping loses no element and repeats none. -/
theorem groupsBy_flatten_perm (key : α → κ) (items : List α) :
    (groupsBy key items).flatten.Perm items := by
  have distinct : (labels key items).Nodup := List.nodup_reverse.mpr (List.nodup_dedup _)
  have split := flatMap_filter_perm key distinct items
  rw [List.filter_eq_self.mpr] at split
  · rwa [List.flatMap_def] at split
  · intro item isIn
    simpa [labels] using ⟨item, isIn, rfl⟩

/-- What the groups weigh together is what the elements weigh. -/
theorem sum_groupsBy [AddCommMonoid M] (key : α → κ) (weight : α → M) (items : List α) :
    ((groupsBy key items).map fun group => (group.map weight).sum).sum =
      (items.map weight).sum := by
  rw [← ((groupsBy_flatten_perm key items).map weight).sum_eq, List.map_flatten, List.sum_flatten,
    List.map_map]
  rfl

end

end AegisRag.Semantics
