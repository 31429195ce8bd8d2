import AegisRag.Billing.Conservation

/-!
# Metrics report the account

Over exactly one calendar month, the charges that `metrics` adds up are those of the
month's account. The grouped query splits the same charges, so its rows add up to the
totals.
-/

namespace AegisRag.Billing

open Semantics

/-! ## Totals and breakdown -/

/-- The rows of the breakdown add up to the totals. -/
structure BusinessMetrics.SumsUp (report : BusinessMetrics) : Prop where
  calls : (report.breakdown.map (·.calls)).sum = report.calls
  inputTokens : (report.breakdown.map (·.inputTokens)).sum = report.inputTokens
  outputTokens : (report.breakdown.map (·.outputTokens)).sum = report.outputTokens
  totalTokens : (report.breakdown.map (·.totalTokens)).sum = report.totalTokens
  pricedCost : (report.breakdown.map (·.pricedCost)).sum = report.pricedCost
  unpricedCalls : (report.breakdown.map (·.unpricedCalls)).sum = report.unpricedCalls

/-- A column that is a sum over the charges of a group adds up over the groups. -/
theorem sum_breakdown [AddCommMonoid M] {weight : UsageCharge → M}
    (isSum : ∀ key charges, column (breakdownRow key charges) = (charges.map weight).sum)
    (charges : List UsageCharge) :
    ((breakdown charges).map column).sum = (charges.map weight).sum := by
  rw [← sum_groupsBy UsageCharge.breakdownKey weight charges, breakdown, groupsBy, List.map_map,
    List.map_map]
  congr 1
  apply List.map_congr_left
  intro key _
  exact isSum key _

theorem countP_eq_sum (test : α → Bool) (items : List α) :
    items.countP test = (items.map fun item => if test item then 1 else 0).sum := by
  induction items with
  | nil => rfl
  | cons item rest ih =>
    rw [List.countP_cons, List.map_cons, List.sum_cons, ih, Nat.add_comm]

theorem summarize_sumsUp (decimal : DecimalContext) (charges : List UsageCharge) :
    (summarize decimal charges charges).SumsUp where
  calls := by
    have counts : ∀ items : List UsageCharge, items.length = (items.map fun _ => 1).sum := by simp
    exact (sum_breakdown (fun _ items => counts items) charges).trans (counts charges).symm
  inputTokens := sum_breakdown (fun _ _ => rfl) charges
  outputTokens := sum_breakdown (fun _ _ => rfl) charges
  totalTokens := sum_breakdown (fun _ _ => rfl) charges
  pricedCost := by
    have costs : ∀ items : List UsageCharge, nanosToMoney (items.map UsageCharge.spent).sum =
        (items.map fun charge => nanosToMoney charge.spent).sum := by
      intro items
      rw [nanosToMoney_sum, List.map_map]
      rfl
    exact (sum_breakdown (fun _ items => costs items) charges).trans (costs charges).symm
  unpricedCalls := (sum_breakdown (fun _ items => countP_eq_sum _ items) charges).trans
    (countP_eq_sum _ charges).symm

/-! ## The charges of an account -/

/-- The charges of the account of a tenant, a currency and a month. -/
def accountCharges (rows : AList LedgerRow) (tenantId currency : String) (period : Period) :
    List UsageCharge :=
  (chargesOf rows).filter (·.account = .account tenantId currency period)

theorem total_weigh (measure : UsageCharge → ℤ) (rows : AList LedgerRow)
    (tenantId currency : String) (period : Period) :
    total (weigh measure (.account tenantId currency period)) rows =
      ((accountCharges rows tenantId currency period).map measure).sum := by
  rw [total, accountCharges, chargesOf]
  induction rows.entries with
  | nil => rfl
  | cons entry rest ih =>
    obtain ⟨key, row⟩ := entry
    rw [List.map_cons, List.sum_cons, ih]
    cases key with
    | account => simp [weigh]
    | charge id =>
      simp only [List.filterMap_cons, List.filter_cons, weigh]
      by_cases mine : UsageCharge.account row = .account tenantId currency period
      · simp [mine]
      · simp [mine]

theorem exists_lookup_of_mem_chargesOf (isIn : charge ∈ chargesOf rows) :
    ∃ id, rows.lookup (.charge id) = some charge := by
  obtain ⟨⟨key, _⟩, isEntry, isCharge⟩ := List.mem_filterMap.mp isIn
  cases key with
  | account => cases isCharge
  | charge id =>
    cases isCharge
    exact ⟨id, AList.mem_lookup_iff.mpr isEntry⟩

/-- What `metrics` looks at over one month is the charges of the month's account. -/
theorem Conserved.inScope_month (conserved : Conserved rows) (tenantId currency : String)
    (period : Period) :
    (chargesOf rows).filter (·.inScope tenantId currency period.start period.next.start) =
      accountCharges rows tenantId currency period := by
  apply List.filter_congr
  intro charge isIn
  obtain ⟨_, stored⟩ := exists_lookup_of_mem_chargesOf isIn
  have month := (conserved.sound stored).period
  have within := period.within_iff charge.createdAt
  rw [← month] at within
  rw [UsageCharge.inScope, decide_eq_decide, within]
  simp

/-! ## Reconciliation -/

/-- An account agrees with its charges and with what `metrics` reports of its month. -/
structure Reconciled (decimal : DecimalContext) (rows : AList LedgerRow)
    (tenantId currency : String) (period : Period) : Prop where
  spent : balance (·.spentNanos) rows tenantId currency period =
    ((accountCharges rows tenantId currency period).map fun charge =>
      charge.amountNanos.getD 0).sum
  reserved : balance (·.reservedNanos) rows tenantId currency period =
    (((accountCharges rows tenantId currency period).filter (·.amountNanos = none)).map
      (·.reservedNanos)).sum
  spentNonneg : 0 ≤ balance (·.spentNanos) rows tenantId currency period
  reservedNonneg : 0 ≤ balance (·.reservedNanos) rows tenantId currency period
  pricedCost : (metrics decimal rows rows tenantId currency period.start
    period.next.start).pricedCost =
      nanosToMoney (balance (·.spentNanos) rows tenantId currency period)
  pendingCost : (metrics decimal rows rows tenantId currency period.start
    period.next.start).pendingReservedCost =
      nanosToMoney (balance (·.reservedNanos) rows tenantId currency period)
  breakdown : (metrics decimal rows rows tenantId currency period.start period.next.start).SumsUp

/-- Only charges without an amount still hold what they reserved. -/
theorem sum_held (charges : List UsageCharge) :
    (charges.map UsageCharge.held).sum =
      ((charges.filter (·.amountNanos = none)).map (·.reservedNanos)).sum := by
  induction charges with
  | nil => rfl
  | cons charge rest ih =>
    rw [List.map_cons, List.sum_cons, ih, List.filter_cons, UsageCharge.held]
    cases amount : charge.amountNanos <;> simp

/-- Books that agree are reconciled with the metrics of each month. -/
theorem Conserved.reconciled (conserved : Conserved rows) (decimal : DecimalContext)
    (tenantId currency : String) (period : Period) :
    Reconciled decimal rows tenantId currency period := by
  have sound : ∀ charge ∈ accountCharges rows tenantId currency period, charge.Sound := by
    intro charge isIn
    obtain ⟨_, stored⟩ := exists_lookup_of_mem_chargesOf (List.mem_filter.mp isIn).1
    exact conserved.sound stored
  have spent := conserved.spent tenantId currency period
  have reserved := conserved.reserved tenantId currency period
  rw [total_weigh] at spent reserved
  have month := conserved.inScope_month tenantId currency period
  constructor
  · exact spent
  · rw [reserved, sum_held]
  · rw [spent]
    apply List.sum_nonneg
    intro amount isIn
    obtain ⟨charge, isCharge, rfl⟩ := List.mem_map.mp isIn
    rw [UsageCharge.spent]
    cases isAmount : charge.amountNanos with
    | none => exact le_refl 0
    | some amount => exact (sound charge isCharge).amount amount isAmount
  · rw [reserved]
    apply List.sum_nonneg
    intro amount isIn
    obtain ⟨charge, isCharge, rfl⟩ := List.mem_map.mp isIn
    rw [UsageCharge.held]
    split
    · exact (sound charge isCharge).reserved
    · exact le_refl 0
  · rw [metrics, month, spent, summarize]
  · rw [metrics, month, reserved, summarize]
  · rw [metrics, month]
    exact summarize_sumsUp decimal _

/-! ## A call is booked once -/

section

variable {id : String} {charge : UsageCharge}

/-- A settled charge is never touched again. -/
theorem Applies.settled_stays (applies : Applies call result rows next)
    (stored : rows.lookup (.charge id) = some charge) (settled : charge.status ≠ .reserved) :
    next.lookup (.charge id) = some charge := by
  have away : ∀ {settlement : Settlement} {other claimed : UsageCharge},
      rows.lookup (.charge settlement.callId) = some other →
        settlement.claim other = some claimed →
          LedgerKey.charge id ≠ .charge settlement.callId := by
    intro settlement other claimed isOther claims same
    obtain rfl := LedgerKey.charge.inj same
    cases stored.symm.trans isOther
    exact settled (Settlement.claims_of_claim claims).wasReserved
  cases applies with
  | reserved finds within absent valid =>
    rename_i other charge isNew limitNanos account taken
    have differs : LedgerKey.charge id ≠ .charge other := by
      intro same
      obtain rfl := LedgerKey.charge.inj same
      cases stored.symm.trans (AList.lookup_eq_none.mpr absent)
    rw [AList.lookup_insert_ne differs, AList.lookup_insert_ne (by simp), stored]
  | unchanged => exact stored
  | unpriced isOther claims noAmount =>
    rw [AList.lookup_insert_ne (away isOther claims), stored]
  | booked isOther claims priced valid finds =>
    rw [AList.lookup_insert_ne (by simp), AList.lookup_insert_ne (away isOther claims), stored]

/-- A settlement that reports a change has found its charge reserved and leaves it settled. -/
theorem Applies.settles (applies : Applies (.settle settlement) (.settled true) rows next) :
    (∃ charge : UsageCharge, rows.lookup (.charge settlement.callId) = some charge ∧
      charge.status = .reserved) ∧
    ∃ charge : UsageCharge, next.lookup (.charge settlement.callId) = some charge ∧
      charge.status ≠ .reserved := by
  cases applies with
  | unpriced stored claims noAmount =>
    have claim := Settlement.claims_of_claim claims
    refine ⟨⟨_, stored, claim.wasReserved⟩, _, AList.lookup_insert _, ?_⟩
    simp [claim.isSettled]
  | @booked _ _ _ claimed _ _ stored claims priced valid finds =>
    have claim := Settlement.claims_of_claim claims
    refine ⟨⟨_, stored, claim.wasReserved⟩, claimed, ?_, by simp [claim.isSettled]⟩
    rw [AList.lookup_insert_ne (by simp), AList.lookup_insert]

end

/-- The session is a settlement of the call that reported a change. -/
def Settled (database : (ledger id).Database) (index : Nat) (callId : String) : Prop :=
  ∃ settlement : Settlement, settlement.callId = callId ∧
    database.sessions[index]? = some ⟨.settle settlement, .committed (.settled true)⟩

section

variable {database next : (ledger id).Database} {callId : String}

/-- The books of the ledger under any calls of the repository. -/
def books : (ledger id).Contract :=
  ledgerContract id (fun _ => True) trivial fun _ _ _ => trivial

/-- A settled charge survives every later decision. -/
theorem settled_stays_of_move (reachable : database.Reachable)
    (moved : Schema.Database.Moved database next)
    (stored : database.rows.lookup (.charge callId) = some charge)
    (settled : charge.status ≠ .reserved) : next.rows.lookup (.charge callId) = some charge := by
  rcases moved.rows with same | ⟨_, _, _, _, isThere, changed⟩
  · rw [same, stored]
  · rw [changed]
    exact (reachable.commits books isThere).settled_stays stored settled

/-- What a reported settlement has settled is settled, and no other settlement of the
call has reported a change. -/
theorem settled_once (reachable : database.Reachable) :
    (∀ index callId, Settled database index callId → ∃ charge : UsageCharge,
      database.rows.lookup (.charge callId) = some charge ∧ charge.status ≠ .reserved) ∧
    ∀ first second callId, Settled database first callId → Settled database second callId →
      first = second := by
  apply reachable.induction
  · constructor
    · rintro index callId ⟨settlement, -, isThere⟩
      cases isThere
    · rintro first second callId ⟨settlement, -, isThere⟩
      cases isThere
  · rintro database next decision reachable ⟨settled, once⟩ moved
    have moved := Schema.Database.moved_of_move moved
    have now : ∀ {index callId}, Settled next index callId → Settled database index callId ∨
        (∃ charge : UsageCharge, database.rows.lookup (.charge callId) = some charge ∧
          charge.status = .reserved) ∧
        (∃ charge : UsageCharge, next.rows.lookup (.charge callId) = some charge ∧
          charge.status ≠ .reserved) ∧
        ∀ other ≠ index, ¬ Settled database other callId → ¬ Settled next other callId := by
      rintro index callId ⟨settlement, rfl, isThere⟩
      rcases moved.committed_session isThere with wasThere | ⟨_, wasThere, changed, others⟩
      · exact .inl ⟨settlement, rfl, wasThere⟩
      · obtain ⟨before, after⟩ := Applies.settles (reachable.commits books wasThere)
        rw [← changed] at after
        refine .inr ⟨before, after, ?_⟩
        rintro other differs wasNot ⟨same, sameCall, isOther⟩
        rw [others other differs] at isOther
        exact wasNot ⟨same, sameCall, isOther⟩
    constructor
    · intro index callId isSettled
      rcases now isSettled with was | ⟨-, after, -⟩
      · obtain ⟨charge, stored, isDone⟩ := settled index callId was
        exact ⟨charge, settled_stays_of_move reachable moved stored isDone, isDone⟩
      · exact after
    · intro first second callId isFirst isSecond
      have unsettled : (∃ charge : UsageCharge, database.rows.lookup (.charge callId) =
          some charge ∧ charge.status = .reserved) → ∀ index, ¬ Settled database index callId := by
        rintro ⟨charge, stored, reserved⟩ index was
        obtain ⟨other, isOther, isDone⟩ := settled index callId was
        cases stored.symm.trans isOther
        exact isDone reserved
      by_contra differs
      rcases now isFirst with wasFirst | ⟨before, -, others⟩
      · rcases now isSecond with wasSecond | ⟨before, -, -⟩
        · exact differs (once first second callId wasFirst wasSecond)
        · exact unsettled before first wasFirst
      · exact others second (Ne.symm differs) (unsettled before second) isSecond

/-- Under every interleaving of reservations and settlements, each account agrees with its
charges and with the metrics of its month, and each call is settled once. -/
theorem ledger_is_conserved (decimal : DecimalContext) (reachable : database.Reachable) :
    (∀ tenantId currency period, Reconciled decimal database.rows tenantId currency period) ∧
    (∀ first second callId, Settled database first callId → Settled database second callId →
      first = second) ∧
    ∀ decision next, database.move decision = some next → ∀ callId (charge : UsageCharge),
      database.rows.lookup (.charge callId) = some charge → charge.amountNanos ≠ none →
        next.rows.lookup (.charge callId) = some charge := by
  have conserved : Conserved database.rows := (reachable.holds books).1
  refine ⟨conserved.reconciled decimal, (settled_once reachable).2, ?_⟩
  intro decision next moved callId charge stored booked
  apply settled_stays_of_move reachable (Schema.Database.moved_of_move moved) stored
  intro isReserved
  exact booked ((conserved.sound stored).pending isReserved)

end

namespace January

def period : Period := ⟨2026, 0⟩

/-- A call of the first days of the month that holds fifty nanounits. -/
def charge : UsageCharge where
  createdAt := ⟨period, 5⟩
  tenantId := "tenant"
  userId := "user"
  status := .reserved
  requestId := "request"
  traceId := "trace"
  provider := "provider"
  model := "model"
  operation := "llm"
  providerVersion := none
  currency := "USD"
  period := period
  priceVersion := none
  priceSnapshot := none
  usageKnown := false
  inputTokens := none
  outputTokens := none
  totalTokens := none
  amountNanos := none
  reservedNanos := 50
  latencyMs := none

def reserving (callId : String) : LedgerCall := .reserve callId charge ⟨rfl, rfl, rfl⟩ (some 100)

def settling (callId : String) (amount : Option ℤ) : LedgerCall :=
  .settle ⟨callId, "tenant", .completed, some ⟨3, 4, 7⟩, amount, true, none, none, none, none⟩

/-- Two calls open the month at the same time; the first is settled twice. -/
def schedule : List (ledger id).Move :=
  [.start (reserving "a"), .start (reserving "b"), .step 0, .step 1, .step 0, .step 0, .step 0,
    .step 0, .step 1, .step 1, .step 1, .step 1, .step 1, .start (settling "a" (some 40)),
    .start (settling "a" (some 40)), .step 2, .step 2, .step 2, .step 3, .step 3]

def noRounding : DecimalContext := ⟨fun value => value, fun _ _ le => le, rfl⟩

end January

/-- Of two calls that open a month together, one is settled twice and booked once. -/
theorem ledger_is_conserved_january :
    ∃ database : (ledger id).Database, database.Reachable ∧
      balance (·.spentNanos) database.rows "tenant" "USD" January.period = 40 ∧
      balance (·.reservedNanos) database.rows "tenant" "USD" January.period = 50 ∧
      (∀ tenantId currency period,
        Reconciled January.noRounding database.rows tenantId currency period) ∧
      ∀ first second callId, Settled database first callId → Settled database second callId →
        first = second := by
  obtain ⟨database, reachable, spent, reserved⟩ := Schema.Database.exists_of_run
    (fun database : (ledger id).Database =>
      balance (·.spentNanos) database.rows "tenant" "USD" January.period = 40 ∧
        balance (·.reservedNanos) database.rows "tenant" "USD" January.period = 50)
    January.schedule (by decide +kernel)
  have holds := ledger_is_conserved January.noRounding reachable
  exact ⟨database, reachable, spent, reserved, holds.1, holds.2.1⟩

end AegisRag.Billing
