import AegisRag.Agent.Durable.Dispatch

/-!
# Approvals

A dispatch that needs approval was authorised: a resume with `approve=true` named
the approval of an awaiting snapshot before it expired, and its grant was saved
against that very snapshot. A call that must not replay uses its authorisation
up: the next dispatch that needs one was authorised after it.
-/

namespace AegisRag.Agent.Durable

open Semantics

/-! ## What a resume checks -/

/-- What `resume` checked before it went on with an approval. -/
structure ApprovalFact (codec : Codec) (snapshot : DurableSnapshot) (approval : ApprovalRequest)
    (command : DurableResumeCommand) (now : Seconds) : Prop where
  awaiting : snapshot.status = .awaitingApproval
  requested : snapshot.approval = some approval
  named : command.approvalId = some approval.approvalId
  unexpired : now < approval.expiresAt
  action : ∃ decision, snapshot.decision = some decision ∧
    codec.decisionDigest decision = approval.actionDigest

variable {previous saved : DurableSnapshot}

theorem RunReachable.approvalFacts (reachable : RunReachable codec Origin state) :
    Along (fun event _ => ∀ checker snapshot approval command now,
      event = .approvalChecked checker snapshot approval command now →
        ApprovalFact codec snapshot approval command now) state.log := by
  refine reachable.along _ ?_
  rintro task state next event reached effect logged checker snapshot approval command now rfl
  cases effect.noted_of_log logged rfl with
  | approvalChecked known awaiting requested named unexpired decided action _ =>
    exact ⟨awaiting, requested, named, unexpired, _, decided, action⟩

/-- An approving save follows a check of the same approval with `approve=true`. -/
theorem RunReachable.approveFacts (reachable : RunReachable codec Origin state) :
    Along (fun event older => ∀ approver before after,
      event = .saved approver .approve before after → ∃ approval, before.approval = some approval ∧
        ∃ checker snapshot command now,
          .approvalChecked checker snapshot approval command now ∈ older ∧
            command.approve = some true ∧ Reclaimed snapshot before) state.log := by
  refine reachable.along _ ?_
  rintro task state next event reached effect logged approver before after rfl
  obtain ⟨_, _, _, snapshot, _, now, admissible, _⟩ := effect.saved_of_log logged
  cases admissible with
  | approve _ requested checked => exact ⟨_, requested, checked⟩

/-! ## Revisions along the log -/

/-- The committed snapshot an event is about. -/
def Event.subject : Event → Option DurableSnapshot
  | .approvalChecked _ snapshot _ _ _ => some snapshot
  | .saved _ _ _ after => some after
  | _ => none

section

variable {codec : Codec}

theorem RunReachable.subject_committed (reachable : RunReachable codec Origin state)
    (isIn : event ∈ state.log) (subject : event.subject = some snapshot) :
    snapshot ∈ state.committed := by
  refine reachable.invariant (fun state => ∀ event ∈ state.log, ∀ snapshot,
    event.subject = some snapshot → snapshot ∈ state.committed) ?_ ?_ event isIn snapshot subject
  · simp [RunState.initial]
  · intro task state next reached holds effect event isIn snapshot subject
    obtain ⟨_, logged⟩ := effect.logs
    rw [logged, List.mem_cons] at isIn
    rcases isIn with rfl | earlier
    · cases event with
      | approvalChecked checker checked approval command now =>
        cases subject
        cases effect.noted_of_log logged rfl with
        | approvalChecked known => exact effect.committed_kept known
      | saved owner site previous saved =>
        cases subject
        cases effect with
        | saved _ _ _ _ _ _ leaves =>
          cases leaves.event_eq logged
          rw [leaves.committed]
          exact List.mem_cons_self
        | noted noted leaves =>
          cases leaves.event_eq logged
          cases noted
        | created _ _ leaves | claimed _ _ _ _ leaves | leased leaves | cancelled _ _ _ leaves
        | purged leaves => cases leaves.event_eq logged
      | _ => cases subject
    · exact effect.committed_kept (holds event earlier snapshot subject)

/-- A save replaces the newest of the snapshots named before it. -/
structure SaveFact (previous saved : DurableSnapshot) (older : List Event) : Prop where
  revision : saved.revision = previous.revision + 1
  newest : ∀ event ∈ older, ∀ snapshot, event.subject = some snapshot →
    snapshot = previous ∨ snapshot.revision < previous.revision

theorem RunReachable.saveFacts (reachable : RunReachable codec Origin state) :
    Along (fun event older => ∀ owner site previous saved,
      event = .saved owner site previous saved → SaveFact previous saved older) state.log := by
  refine reachable.along _ ?_
  rintro task state next event reached effect logged owner site previous saved rfl
  obtain ⟨_, stored, _, _, _, _, _, settled⟩ := effect.saved_of_log logged
  constructor
  · obtain ⟨_, _, rfl⟩ := savedSnapshot_eq settled
    rfl
  · intro event isIn named subject
    have known := reached.subject_committed isIn subject
    obtain ⟨row, isRow, isPrevious⟩ := Option.map_eq_some_iff.mp stored
    have isHead := (reached.fenced.stored row isRow).1
    rw [isPrevious] at isHead
    obtain ⟨_, committed⟩ := List.head?_eq_some_iff.mp isHead
    have descends := Chronicle.revisions_descend reached.fenced.chain
    rw [committed, List.pairwise_cons] at descends
    rw [RunState.committed, committed] at known
    exact (List.mem_cons.mp known).imp id (descends.1 named)

/-! ## Authorised dispatches -/

/-- A resume approved exactly this action of the run, under the approval it named and
before that expired, and the grant was saved against the snapshot it had checked. -/
def Authorised (codec : Codec) (decision : AgentStepDecision) (definition : ToolDefinition)
    (events : List Event) : Prop :=
  ∃ checker checked approval command now approver before after,
    .approvalChecked checker checked approval command now ∈ events ∧
      ApprovalFact codec checked approval command now ∧ command.approve = some true ∧
      .saved approver .approve before after ∈ events ∧ Reclaimed checked before ∧
      approval.actionDigest = codec.decisionDigest decision ∧
      approval.definitionDigest = codec.definitionDigest definition

theorem RunReachable.checked_of_approve (reachable : RunReachable codec Origin state)
    (log : state.log = newer ++ .saved approver .approve before after :: older) :
    ∃ checker checked approval command now,
      .approvalChecked checker checked approval command now ∈ older ∧
        ApprovalFact codec checked approval command now ∧ command.approve = some true ∧
        before.approval = some approval ∧ Reclaimed checked before := by
  have grants := reachable.approveFacts
  have checks := reachable.approvalFacts
  rw [log] at grants checks
  obtain ⟨approval, requested, checker, checked, command, now, isIn, approves, reclaimed⟩ :=
    grants.at approver before after rfl
  obtain ⟨_, _, _, fact⟩ := checks.past.2.of_mem isIn
  exact ⟨checker, checked, approval, command, now, isIn, fact checker checked approval
    command now rfl,
    approves, requested, reclaimed⟩

/-- A dispatch that needs approval has one, granted since the last decision. -/
theorem RunReachable.dispatch_authorised (fresh : Origin ≤ Fresh)
    (reachable : RunReachable codec Origin state)
    (log : state.log = newer ++ .saved owner (.beforeDispatch definition) previous saved :: older)
    (needs : definition.needsApproval previous = true) :
    ∃ decision, previous.decision = some decision ∧ Authorised codec decision definition older ∧
      Granted older (codec.decisionDigest decision) (some (codec.definitionDigest definition)) := by
  have dispatches := reachable.dispatchFacts fresh
  rw [log] at dispatches
  obtain ⟨decision, decided, granted⟩ :=
    (dispatches.at owner definition previous saved rfl).approved needs
  refine ⟨decision, decided, ?_, granted⟩
  obtain ⟨approver, before, after, approval, recent, requested, action, defined⟩ := granted
  obtain ⟨between, oldest, rfl⟩ := List.append_of_mem (mem_of_mem_since recent)
  have splits : state.log = (newer ++ .saved owner (.beforeDispatch definition) previous saved ::
      between) ++ .saved approver .approve before after :: oldest := by
    rw [log]
    simp
  obtain ⟨checker, checked, _, command, now, isIn, fact, approves, isNamed, reclaimed⟩ :=
    reachable.checked_of_approve splits
  cases requested.symm.trans isNamed
  exact ⟨checker, checked, approval, command, now, approver, before, after,
    List.mem_append_right _ (List.mem_cons_of_mem _ isIn), fact, approves,
    List.mem_append_right _ List.mem_cons_self, reclaimed, action, (Option.some.inj defined).symm⟩

theorem Reclaimed.revision_le (reclaimed : Reclaimed checked snapshot) :
    snapshot.revision ≤ checked.revision + 1 := by
  rcases reclaimed with rfl | ⟨_, _, _, _, rfl⟩
  · exact Nat.le_succ _
  · exact Nat.le_refl _

/-- A check behind a grant that followed a dispatch was itself made after the
dispatch: the snapshot it named is awaiting, and newer than the one dispatched. -/
theorem RunReachable.checked_after_dispatch (fresh : Origin ≤ Fresh)
    (reachable : RunReachable codec Origin state)
    (log : state.log = newer ++ .saved approver .approve before after ::
      (between ++ .saved owner (.beforeDispatch definition) previous saved :: older))
    (isIn : .approvalChecked checker checked approval command now ∈
      between ++ .saved owner (.beforeDispatch definition) previous saved :: older)
    (awaiting : checked.status = .awaitingApproval) (reclaimed : Reclaimed checked before) :
    .approvalChecked checker checked approval command now ∈ between := by
  have saves := reachable.saveFacts
  have dispatches := reachable.dispatchFacts fresh
  rw [log] at saves dispatches
  have granted := saves.at approver .approve before after rfl
  have dispatched := saves.past.2.at owner (.beforeDispatch definition) previous saved rfl
  have running := (dispatches.past.2.at owner definition previous saved rfl).running
  rcases List.mem_append.mp isIn with recent | earlier
  · exact recent
  exfalso
  rcases List.mem_cons.mp earlier with isDispatch | isOlder
  · cases isDispatch
  have replaced : saved.revision ≤ before.revision := by
    have inLog : Event.saved owner (.beforeDispatch definition) previous saved ∈
        between ++ .saved owner (.beforeDispatch definition) previous saved :: older :=
      List.mem_append_right _ List.mem_cons_self
    rcases granted.newest _ inLog saved rfl with rfl | isLower
    · exact Nat.le_refl _
    · exact Nat.le_of_lt isLower
  have lower : checked.revision < previous.revision := by
    rcases dispatched.newest _ isOlder checked rfl with rfl | isLower
    · rw [running] at awaiting
      cases awaiting
    · exact isLower
  have next := dispatched.revision
  have nearly := reclaimed.revision_le
  omega

/-- After the dispatch of a call that must not replay, a dispatch that needs approval
was authorised anew. -/
theorem RunReachable.authorised_between (fresh : Origin ≤ Fresh)
    (reachable : RunReachable codec Origin state)
    (log : state.log = newer ++ .saved second (.beforeDispatch later) laterPrevious laterSaved ::
      (between ++ .saved first (.beforeDispatch earlier) previous saved :: older))
    (never : earlier.durableReplayPolicy = .never)
    (needs : later.needsApproval laterPrevious = true) :
    ∃ decision, laterPrevious.decision = some decision ∧
      Authorised codec decision later between := by
  have dispatches := reachable.dispatchFacts fresh
  rw [log] at dispatches
  have fact := dispatches.at second later laterPrevious laterSaved rfl
  obtain ⟨decision, decided, approver, before, after, approval, recent, requested,
    action, defined⟩ :=
    fact.approved needs
  refine ⟨decision, decided, ?_⟩
  have passes : Event.decides (.saved first (.beforeDispatch earlier) previous saved) = false := rfl
  have granted := mem_newer_of_mem_since passes
    (fun isRecent => fact.alone first earlier previous saved isRecent never) recent
  obtain ⟨above, below, rfl⟩ := List.append_of_mem granted
  have splits : state.log =
      (newer ++ .saved second (.beforeDispatch later) laterPrevious laterSaved ::
      above) ++ .saved approver .approve before after ::
        (below ++ .saved first (.beforeDispatch earlier) previous saved :: older) := by
    rw [log]
    simp
  obtain ⟨checker, checked, _, command, now, isIn, checkedFact, approves, isNamed, reclaimed⟩ :=
    reachable.checked_of_approve splits
  cases requested.symm.trans isNamed
  have checkedLater := reachable.checked_after_dispatch fresh splits isIn checkedFact.awaiting
    reclaimed
  exact ⟨checker, checked, approval, command, now, approver, before, after,
    List.mem_append_right _ (List.mem_cons_of_mem _ checkedLater), checkedFact, approves,
    List.mem_append_right _ List.mem_cons_self, reclaimed, action, (Option.some.inj defined).symm⟩

end

end AegisRag.Agent.Durable
