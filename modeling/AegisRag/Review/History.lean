import AegisRag.Review.Service

/-!
# The status history of a review item

As long as no two calls on one item are open at the same time, the stored history
consists of one entry for each call that reported success, and every status follows
from the one before by an allowed transition. Two calls that overlap break both: each
writes the history it has read.
-/

namespace AegisRag.Review

open Semantics Auth

/-! ## One call alone -/

/-- What a successful call writes over the item it finds. -/
inductive Writes (call : ReviewCall) (found : Option ReviewItem) (written : ReviewItem) : Prop where
  | created (absent : found = none) (status : written.status = call.entry.status)
      (history : written.statusHistory = [call.entry])
  | changed {record : ReviewItem} (isFound : found = some record)
      (allowed : call.entry.status ∈ allowedTransitions record.status)
      (status : written.status = call.entry.status)
      (history : written.statusHistory = record.statusHistory ++ [call.entry])

section

variable {rows pending : AList fun _ : String => ReviewItem} {call : ReviewCall}

theorem change_eq_some
    (ran : (change tenantId itemId entry candidate).alone (fun _ _ => true) rows ∅ =
      some (result, pending)) :
    result = .succeeded ∧ ∃ record written, rows.lookup itemId = some record ∧
      entry.status ∈ allowedTransitions record.status ∧ written.status = entry.status ∧
      written.statusHistory = record.statusHistory ++ [entry] ∧
      pending = AList.insert itemId written ∅ := by
  simp only [change, Transaction.alone, AList.empty_union] at ran
  cases found : rows.lookup itemId with
  | none =>
    rw [found] at ran
    cases ran
  | some record =>
    rw [found] at ran
    dsimp only at ran
    split at ran
    · cases ran
    · rename_i tenant
      split at ran
      · rename_i allowed
        simp only [repositoryUpdateStatus, Transaction.alone, AList.empty_union, found,
          if_neg tenant, Option.bind_some, if_true, Option.some.injEq, Prod.mk.injEq] at ran
        obtain ⟨rfl, rfl⟩ := ran
        exact ⟨rfl, record, _, rfl, allowed, rfl, rfl, rfl⟩
      · cases ran

theorem transaction_eq_some
    (ran : call.transaction.alone (fun _ _ => true) rows ∅ = some (result, pending)) :
    ∃ written, Writes call (rows.lookup call.itemId) written ∧
      pending = AList.insert call.itemId written ∅ := by
  cases call with
  | createItem auth itemId now itemType severity requestId traceId sourceView safeIdentifiers
      safeSummary =>
      simp only [ReviewCall.transaction] at ran
      split at ran
      · simp only [Transaction.alone, AList.empty_union] at ran
        split at ran
        · cases ran
        · rename_i absent
          simp only [if_true, Option.some.injEq, Prod.mk.injEq] at ran
          obtain ⟨-, rfl⟩ := ran
          exact ⟨_, .created (AList.lookup_eq_none.mpr absent) rfl rfl, rfl⟩
      · cases ran
  | updateStatus | convertToEvalCandidate =>
    simp only [ReviewCall.transaction] at ran
    split at ran
    · obtain ⟨-, _, written, found, allowed, status, history, isPending⟩ :=
        change_eq_some ran
      exact ⟨written, .changed found allowed status history, isPending⟩
    · cases ran

/-- A call touches the row of its item only. -/
def sameItem (call : ReviewCall) (itemId : String) : Prop := itemId = call.itemId

theorem change_touches : (change tenantId itemId entry candidate).Touches (· = itemId) := by
  refine ⟨rfl, ?_⟩
  rintro (_ | record)
  · trivial
  · dsimp only
    split
    · trivial
    · split
      · refine ⟨rfl, ?_⟩
        rintro (_ | model)
        · trivial
        · dsimp only
          split
          · trivial
          · refine ⟨rfl, ?_⟩
            rintro (_ | row) <;> trivial
      · trivial

theorem transaction_touches (call : ReviewCall) : call.transaction.Touches (sameItem call) := by
  cases call with
  | createItem auth itemId now itemType severity requestId traceId sourceView safeIdentifiers
      safeSummary =>
      simp only [ReviewCall.transaction]
      split
      · refine ⟨rfl, ?_⟩
        rintro (_ | _) <;> trivial
      · trivial
  | updateStatus | convertToEvalCandidate =>
    simp only [ReviewCall.transaction]
    split
    · exact change_touches
    · trivial

end

/-! ## Runs without overlap -/

/-- The entry a session has promised by reporting success on an item. -/
def promised (itemId : String) (session : reviewQueue.Session) : Option HistoryEntry :=
  match session.phase with
  | .committed _ => if session.code.itemId = itemId then some session.code.entry else none
  | _ => none

/-- The entries of all calls on an item that reported success. -/
def reported (database : reviewQueue.Database) (itemId : String) : List HistoryEntry :=
  database.sessions.filterMap (promised itemId)

/-- The stored history of an item, which is empty before the item exists. -/
def historyOf (rows : AList fun _ : String => ReviewItem) (itemId : String) : List HistoryEntry :=
  ((rows.lookup itemId).map (·.statusHistory)).getD []

section

variable {database next : reviewQueue.Database}

/-- A session that takes the place of one without a promise adds its own. -/
theorem filterMap_set_perm (itemId : String) (new : reviewQueue.Session)
    (isThere : database.sessions[index]? = some old) (nothing : promised itemId old = none) :
    ((database.sessions.set index new).filterMap (promised itemId)).Perm
      (database.sessions.filterMap (promised itemId) ++ (promised itemId new).toList) := by
  generalize database.sessions = sessions at isThere
  induction sessions generalizing index with
  | nil => cases isThere
  | cons first rest ih =>
    cases index with
    | zero =>
      obtain rfl : first = old := by simpa using isThere
      rw [List.set_cons_zero, List.filterMap_cons_none nothing]
      cases promise : promised itemId new with
      | none => simp [List.filterMap_cons_none promise]
      | some entry =>
        rw [List.filterMap_cons_some promise]
        exact (List.perm_append_singleton entry _).symm
    | succ index =>
      rw [List.set_cons_succ, List.filterMap_cons, List.filterMap_cons]
      have rest := ih (by simpa using isThere)
      split
      · exact rest
      · exact rest.cons _

/-- A commit adds the entry of its call to the history of its item. -/
theorem historyOf_commit (writes : Writes call (rows.lookup call.itemId) written) :
    historyOf (AList.insert call.itemId written ∅ ∪ rows) itemId =
      historyOf rows itemId ++ if call.itemId = itemId then [call.entry] else [] := by
  rw [← AList.insert_union, AList.empty_union]
  by_cases mine : call.itemId = itemId
  · subst mine
    rw [if_pos rfl, historyOf, AList.lookup_insert, historyOf]
    cases writes with
    | created absent status history => rw [absent]; exact history
    | changed isFound allowed status history => rw [isFound]; exact history
  · rw [if_neg mine, List.append_nil, historyOf, AList.lookup_insert_ne (Ne.symm mine), historyOf]

/-- Without overlap, the stored history is made of what was reported. -/
theorem historyOf_perm_reported (run : Schema.Database.ExclusiveRun sameItem database) :
    (historyOf database.rows itemId).Perm (reported database itemId) := by
  induction run with
  | initial => exact List.Perm.refl []
  | @move database next decision run moved exclusive ih =>
    cases Schema.Database.moved_of_move moved with
    | started code =>
      rw [reported, List.filterMap_append, List.filterMap_cons_none rfl, List.filterMap_nil,
        List.append_nil]
      exact ih
    | @entered index code rest pending isThere phase notCommitted =>
      apply ih.trans
      have kept := filterMap_set_perm itemId ⟨code, phase⟩ isThere rfl
      have nothing : promised itemId ⟨code, phase⟩ = none := by
        cases phase with
        | committed result => exact absurd rfl (notCommitted result)
        | active => rfl
        | rolledBack => rfl
        | aborted => rfl
      rw [nothing, Option.toList_none, List.append_nil] at kept
      exact kept.symm
    | @committed index code result pending isThere =>
      obtain ⟨_, writes, rfl⟩ :=
        transaction_eq_some (run.commits transaction_touches isThere)
      have added := filterMap_set_perm itemId ⟨code, .committed result⟩ isThere rfl
      rw [historyOf_commit writes]
      apply List.Perm.trans _ added.symm
      apply ih.append
      apply List.Perm.of_eq
      by_cases mine : code.itemId = itemId
      · simp [promised, mine]
      · simp [promised, mine]

/-- One commit moves an item by an allowed transition, and its history grows. -/
theorem item_of_commit {rows : AList fun _ : String => ReviewItem}
    (writes : Writes call (rows.lookup call.itemId) written)
    (stored : rows.lookup itemId = some before) :
    ∃ after, (AList.insert call.itemId written ∅ ∪ rows).lookup itemId = some after ∧
      before.statusHistory <+: after.statusHistory ∧
      (after.status = before.status ∨ after.status ∈ allowedTransitions before.status) := by
  rw [← AList.insert_union, AList.empty_union]
  by_cases mine : itemId = call.itemId
  · subst mine
    rw [AList.lookup_insert]
    cases writes with
    | created absent status history =>
      rw [stored] at absent
      cases absent
    | changed isFound allowed status history =>
      rw [stored] at isFound
      cases isFound
      refine ⟨written, rfl, ?_, .inr (by rwa [status])⟩
      rw [history]
      exact List.prefix_append _ _
  · rw [AList.lookup_insert_ne mine]
    exact ⟨before, stored, List.prefix_rfl, .inl rfl⟩

/-- As long as no two calls on one item overlap, its stored history consists of the
entries of the calls that reported success, it only grows, and consecutive statuses are
related by the allowed transitions. -/
theorem history_is_faithful_without_overlap (run : Schema.Database.ExclusiveRun sameItem database) :
    (∀ itemId, (historyOf database.rows itemId).Perm (reported database itemId)) ∧
    ∀ decision next, database.move decision = some next → ∀ itemId before,
      database.rows.lookup itemId = some before → ∃ after,
        next.rows.lookup itemId = some after ∧
          before.statusHistory <+: after.statusHistory ∧
          (after.status = before.status ∨ after.status ∈ allowedTransitions before.status) := by
  refine ⟨fun itemId => historyOf_perm_reported run, ?_⟩
  intro decision next moved itemId before stored
  rcases (Schema.Database.moved_of_move moved).rows with
    same | ⟨_, _, _, _, isThere, changed⟩
  · rw [same]
    exact ⟨before, stored, List.prefix_rfl, .inl rfl⟩
  · obtain ⟨_, writes, rfl⟩ := transaction_eq_some (run.commits transaction_touches isThere)
    rw [changed]
    exact item_of_commit writes stored

end

namespace Desk

def reviewer (name : String) (isText : IsText name) : AuthContext where
  userId := name
  tenantId := "tenant"
  roles := []
  department := none
  permissions := ["review:write"]
  userId_isText := isText
  tenantId_isText := by decide
  roles_areTexts := List.forall_mem_nil IsText
  department_isText := none_isText
  permissions_areTexts := by decide

def creating : ReviewCall :=
  .createItem (reviewer "author" (by decide)) "item" 0 "no_answer" "low" "request" "trace"
    "audit_explorer" [] []

def rejecting : ReviewCall := .updateStatus (reviewer "first" (by decide)) "item" 1 .rejected none

def accepting : ReviewCall := .updateStatus (reviewer "second" (by decide)) "item" 2 .accepted none

/-- Both reviewers read the open item; the second one is about to commit. -/
def overlap : List reviewQueue.Move :=
  [.start creating, .step 0, .step 0, .start rejecting, .start accepting, .step 1, .step 2,
    .step 1, .step 1, .step 1, .step 2, .step 2]

/-- The item is sent back first and rejected afterwards. -/
def oneByOne : List reviewQueue.Move :=
  [.start creating, .step 0, .step 0,
    .start (.updateStatus (reviewer "first" (by decide)) "item" 1 .needsFollowup none),
    .step 1, .step 1, .step 1, .step 1, .start rejecting, .step 2, .step 2, .step 2, .step 2]

end Desk

/-- Two reviewers one after the other leave both entries. -/
theorem history_is_faithful_one_by_one :
    ∃ database : reviewQueue.Database, Schema.Database.ExclusiveRun sameItem database ∧
      (historyOf database.rows "item").length = 3 ∧
      ∀ itemId, (historyOf database.rows itemId).Perm (reported database itemId) := by
  obtain ⟨database, run, three⟩ := Schema.Database.exists_of_runOneByOne
    (fun database : reviewQueue.Database => (historyOf database.rows "item").length = 3)
    Desk.oneByOne (by decide +kernel)
  exact ⟨database, run, three, (history_is_faithful_without_overlap run).1⟩

/-- Two reviewers read the same open item. Both report success, the item goes from
rejected to accepted, which is no allowed transition, and the rejection is lost from the
history. -/
theorem overlapping_reviews_lose_history :
    ∃ database : reviewQueue.Database, database.Reachable ∧
      (database.rows.lookup "item").map (·.status) = some .rejected ∧
      ReviewStatus.accepted ∉ allowedTransitions .rejected ∧
      ((database.move (.step 2)).map fun next => (next.rows.lookup "item").map (·.status)) =
        some (some .accepted) ∧
      ((database.move (.step 2)).map fun next => reported next "item") =
        some [Desk.creating.entry, Desk.rejecting.entry, Desk.accepting.entry] ∧
      ((database.move (.step 2)).map fun next => historyOf next.rows "item") =
        some [Desk.creating.entry, Desk.accepting.entry] :=
  Schema.Database.exists_of_run _ Desk.overlap (by decide +kernel)

end AegisRag.Review
