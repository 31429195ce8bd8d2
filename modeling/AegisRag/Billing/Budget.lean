import AegisRag.Billing.Metrics
import AegisRag.Billing.Service

/-!
# The monthly budget

A reservation is accepted only within the budget, so an account can exceed it only by
what settled calls cost beyond their reservation. A call whose usage stays within its
forecast, at the price it was forecast with, costs no more than it reserved.
-/

namespace AegisRag.Billing

open Semantics

/-! ## Calls of the service -/

/-- A call of the service that reaches its transaction. Each call id belongs to the one
ticket that was issued under it. -/
inductive AccountingCall (service : CostAccounting) (issued : String → ChargeTicket) where
  | begin (operation callId : String) (call : LedgerCall)
      (begins : service.begin operation callId (issued callId) = .ok call)
  | finish (callId : String) (metadata : Option GenerationMetadata) (outcome : Outcome)
      (call : LedgerCall)
      (finishes : service.finish callId (issued callId) metadata outcome = .ok call)

/-- The call of the repository that a call of the service makes. -/
def AccountingCall.perform {service : CostAccounting} {issued : String → ChargeTicket} :
    AccountingCall service issued → LedgerCall
  | .begin _ _ call _ => call
  | .finish _ _ _ call _ => call

/-- The ledger under calls of the service. -/
abbrev accountingLedger (service : CostAccounting) (issued : String → ChargeTicket) : Schema :=
  ledger (@AccountingCall.perform service issued)

section

variable {service : CostAccounting} {issued : String → ChargeTicket}

variable {callId : String}

theorem begin_eq_ok (begins : service.begin operation callId ticket = .ok call) :
    ∃ reserved, service.reservation ticket = .ok reserved ∧
      call = .reserve callId (service.newCharge operation ticket reserved)
        (service.newCharge_isNew operation ticket reserved) service.limit := by
  rw [CostAccounting.begin, bind_eq_ok] at begins
  obtain ⟨reserved, reserves, returned⟩ := begins
  cases returned
  exact ⟨reserved, reserves, rfl⟩

theorem finish_eq_ok (finishes : service.finish callId ticket metadata outcome = .ok call) :
    call = .settle (service.settlement callId ticket metadata outcome) := by
  rw [CostAccounting.finish] at finishes
  split at finishes
  · cases finishes
  · cases finishes
    rfl

end

/-! ## What a stored charge says about its call -/

/-- A charge reserves what its ticket forecasts, and its amount is the cost of the usage
it records at the price it records. -/
structure Charged (service : CostAccounting) (ticket : ChargeTicket) (charge : UsageCharge) :
    Prop where
  reserved : service.reservation ticket = .ok charge.reservedNanos
  priced : ∀ amount, charge.amountNanos = some amount → ∃ price usage,
    charge.priceSnapshot = some price ∧ charge.inputTokens = some usage.inputTokens ∧
      charge.outputTokens = some usage.outputTokens ∧
      amount = price.costNanos service.decimal usage

/-- The call was settled at the price it was forecast with and used no more than forecast. -/
structure WithinForecast (service : CostAccounting) (ticket : ChargeTicket)
    (charge : UsageCharge) : Prop where
  price : charge.priceSnapshot = service.beginPrice ticket
  input : ∀ tokens, charge.inputTokens = some tokens →
    tokens ≤ service.inputEstimate ticket.request
  output : ∀ tokens cap, charge.outputTokens = some tokens →
    ticket.request.maxOutputTokens = some cap → tokens ≤ cap

section

variable {service : CostAccounting} {ticket : ChargeTicket} {charge : UsageCharge} {limit : ℤ}

/-- Under a budget, a call is forecast with a price and a cap on its output. -/
theorem reservation_eq_ok (limited : service.limit = some limit)
    (reserves : service.reservation ticket = .ok reserved) :
    ∃ price cap, service.beginPrice ticket = some price ∧
      ticket.request.maxOutputTokens = some cap ∧
      price.costNanos service.decimal ⟨service.inputEstimate ticket.request, cap, 0⟩ ≤
        reserved := by
  rw [CostAccounting.reservation, limited] at reserves
  dsimp only at reserves
  split at reserves
  · cases reserves
  · cases reserves
  · rename_i price cap isPrice isCap
    cases reserves
    exact ⟨price, cap, isPrice, isCap, le_max_right _ _⟩

/-- A call within its forecast costs no more than it reserved. -/
theorem Charged.amount_le (charged : Charged service ticket charge)
    (limited : service.limit = some limit) (within : WithinForecast service ticket charge)
    (isAmount : charge.amountNanos = some amount) :
    amount ≤ charge.reservedNanos := by
  obtain ⟨price, usage, snapshot, input, output, rfl⟩ := charged.priced amount isAmount
  obtain ⟨forecast, cap, isForecast, isCap, covers⟩ := reservation_eq_ok limited charged.reserved
  have samePrice : price = forecast := by
    rw [within.price, isForecast] at snapshot
    exact (Option.some.inj snapshot).symm
  subst samePrice
  calc price.costNanos service.decimal usage
      ≤ price.costNanos service.decimal ⟨service.inputEstimate ticket.request, cap, 0⟩ :=
        price.costNanos_mono service.decimal (within.input _ input) (within.output _ _ output isCap)
    _ ≤ charge.reservedNanos := covers

/-- Only a priced and reported usage has an amount, which is its cost. -/
theorem amount_eq_some (isAmount : service.amount price metadata = some amount) :
    ∃ rate report, price = some rate ∧ metadata = some report ∧
      amount = rate.costNanos service.decimal report.usage := by
  unfold CostAccounting.amount at isAmount
  cases price with
  | none => cases isAmount
  | some rate =>
    cases metadata with
    | none => cases isAmount
    | some report =>
      dsimp only at isAmount
      split at isAmount
      · cases isAmount
        exact ⟨rate, report, rfl, rfl, rfl⟩
      · cases isAmount

/-- The amount `finish` settles with is a cost of the usage and price it stores. -/
theorem Charged.settle (charged : Charged service ticket charge)
    (claims : (service.settlement callId ticket metadata outcome).claim charge = some claimed) :
    Charged service ticket claimed := by
  rw [Settlement.claim] at claims
  split at claims
  · cases claims
    constructor
    · exact charged.reserved
    · intro amount isAmount
      obtain ⟨rate, report, isRate, rfl, rfl⟩ := amount_eq_some isAmount
      exact ⟨rate, report.usage, isRate, rfl, rfl, rfl⟩
  · cases claims

end

/-! ## The bound -/

/-- What a settled call cost beyond its reservation. -/
def UsageCharge.overage (charge : UsageCharge) : ℤ :=
  match charge.amountNanos with
  | none => 0
  | some amount => max 0 (amount - charge.reservedNanos)

theorem UsageCharge.overage_nonneg (charge : UsageCharge) : 0 ≤ charge.overage := by
  unfold UsageCharge.overage
  split
  · exact le_refl 0
  · exact le_max_left _ _

/-- An account exceeds the limit by no more than its settled calls cost beyond their
reservations. -/
def Bounded (limit : ℤ) (rows : AList LedgerRow) : Prop :=
  ∀ tenantId currency period,
    total (weigh UsageCharge.spent (.account tenantId currency period)) rows +
        total (weigh UsageCharge.held (.account tenantId currency period)) rows ≤
      limit + total (weigh UsageCharge.overage (.account tenantId currency period)) rows

section

variable {rows next : AList LedgerRow} {limit : ℤ} {id : String} {charge claimed : UsageCharge}
  {measure : UsageCharge → ℤ}

theorem total_reserve (absent : .charge id ∉ rows) :
    total (weigh measure owner)
        ((rows.insert charge.account taken).insert (.charge id) charge) =
      (if charge.account = owner then measure charge else 0) +
        total (weigh measure owner) rows := by
  have stillAbsent : .charge id ∉ rows.insert charge.account taken := by
    intro isIn
    rcases (AList.mem_insert _).mp isIn with same | isIn
    · cases same
    · exact absent isIn
  rw [total_insert_of_absent _ _ stillAbsent, total_insert_account]
  rfl

theorem total_claim (stored : rows.lookup (.charge id) = some charge)
    (same : claimed.account = charge.account) :
    total (weigh measure owner) (rows.insert (.charge id) claimed) =
      total (weigh measure owner) rows +
        if charge.account = owner then measure claimed - measure charge else 0 := by
  have changed := total_insert_of_lookup (weigh measure owner) claimed stored
  simp only [weigh, same] at changed
  split at changed <;> rename_i mine <;> simp only [mine, if_true, if_false] <;> linarith

theorem total_overage_nonneg (owner : LedgerKey) (rows : AList LedgerRow) :
    0 ≤ total (weigh UsageCharge.overage owner) rows := by
  apply List.sum_nonneg
  intro value isIn
  obtain ⟨⟨key, row⟩, -, rfl⟩ := List.mem_map.mp isIn
  cases key with
  | account => exact le_refl 0
  | charge id =>
    simp only [weigh]
    split
    · exact UsageCharge.overage_nonneg row
    · exact le_refl 0

/-- Right after an accepted reservation its account is within the limit. -/
theorem within_of_reserve (rows : AList LedgerRow) (id : String)
    (within : takeReservation charge (some limit) account = some taken) :
    balance (·.spentNanos) ((rows.insert charge.account taken).insert (.charge id) charge)
        charge.tenantId charge.currency charge.period +
      balance (·.reservedNanos) ((rows.insert charge.account taken).insert (.charge id) charge)
        charge.tenantId charge.currency charge.period ≤ limit := by
  rw [balance_insert_charge, balance_insert_charge, balance, balance, AList.lookup_insert]
  exact (takeReservation_eq_some within).1 limit rfl

/-- Every call made under the limit keeps the bound. -/
theorem Bounded.apply (bounded : Bounded limit rows) (conserved : Conserved rows)
    (applies : Applies call result rows next)
    (limited : ∀ id charge isNew limitNanos, call = .reserve id charge isNew limitNanos →
      limitNanos = some limit) : Bounded limit next := by
  have kept := conserved.apply applies
  intro tenantId currency period
  have before := bounded tenantId currency period
  cases applies with
  | @reserved id charge isNew limitNanos _ account taken finds within absent valid =>
    obtain rfl := limited id charge isNew limitNanos rfl
    by_cases mine : charge.account = .account tenantId currency period
    · -- the account was just checked against the limit
      cases mine
      rw [← kept.spent, ← kept.reserved]
      have now := within_of_reserve rows id within
      have overage := total_overage_nonneg charge.account
        ((rows.insert charge.account taken).insert (.charge id) charge)
      linarith
    · rw [total_reserve absent, total_reserve absent, total_reserve absent, if_neg mine,
        if_neg mine, if_neg mine]
      linarith
  | unchanged => exact before
  | @unpriced settlement _ charge claimed stored claims noAmount =>
    have claim := Settlement.claims_of_claim claims
    have same := UsageCharge.account_of_claims claim
    have wasNone := (conserved.sound stored).pending claim.wasReserved
    have isNone : claimed.amountNanos = none := by rw [claim.amount, noAmount]
    rw [total_claim stored same, total_claim stored same, total_claim stored same]
    simp only [UsageCharge.spent, UsageCharge.held, UsageCharge.overage, wasNone, isNone,
      claim.sameReserved]
    simpa using before
  | @booked settlement _ charge claimed amount account stored claims priced valid finds =>
    have claim := Settlement.claims_of_claim claims
    have same := UsageCharge.account_of_claims claim
    have wasNone := (conserved.sound stored).pending claim.wasReserved
    have isSome : claimed.amountNanos = some amount := by rw [claim.amount, priced]
    rw [total_insert_account, total_insert_account, total_insert_account,
      total_claim stored same, total_claim stored same, total_claim stored same]
    simp only [UsageCharge.spent, UsageCharge.held, UsageCharge.overage, wasNone, isSome,
      claim.sameReserved]
    split
    · have covers := le_max_right 0 (amount - charge.reservedNanos)
      simp only [Option.getD_none, Option.getD_some, Option.isNone_none, Option.isNone_some,
        if_true, Bool.false_eq_true, if_false]
      linarith
    · linarith

end

/-! ## Every run of the service -/

section

variable {service : CostAccounting} {issued : String → ChargeTicket} {limit : ℤ}
  {rows next : AList LedgerRow}

theorem limit_nonneg (limited : service.limit = some limit) : 0 ≤ limit := by
  obtain ⟨budget, isBudget, rfl⟩ := Option.map_eq_some_iff.mp limited
  exact moneyToNanos_nonneg _ (service.budgetNonneg budget isBudget)

/-- What the calls of the service keep beside the books. -/
structure Accounted (service : CostAccounting) (issued : String → ChargeTicket) (limit : ℤ)
    (rows : AList LedgerRow) : Prop where
  bounded : Bounded limit rows
  charged : ∀ {id} {charge : UsageCharge}, rows.lookup (.charge id) = some charge →
    Charged service (issued id) charge

theorem Accounted.apply (limited : service.limit = some limit)
    (accounted : Accounted service issued limit rows) (conserved : Conserved rows)
    {call : AccountingCall service issued} (applies : Applies call.perform result rows next) :
    Accounted service issued limit next := by
  cases call with
  | begin operation callId call begins =>
    obtain ⟨reserved, reserves, rfl⟩ := begin_eq_ok begins
    constructor
    · apply accounted.bounded.apply conserved applies
      intro id charge isNew limitNanos same
      cases same
      exact limited
    · intro id charge stored
      cases applies with
      | reserved finds within absent valid =>
        rcases lookup_charge_of_insert stored with ⟨rfl, rfl⟩ | wasStored
        · refine ⟨reserves, ?_⟩
          intro amount isAmount
          cases isAmount
        · rw [AList.lookup_insert_ne (by simp)] at wasStored
          exact accounted.charged wasStored
  | finish callId metadata outcome call finishes =>
    obtain rfl := finish_eq_ok finishes
    constructor
    · apply accounted.bounded.apply conserved applies
      intro id charge isNew limitNanos same
      cases same
    · intro id charge stored
      cases applies with
      | unchanged => exact accounted.charged stored
      | unpriced wasStored claims noAmount =>
        rcases lookup_charge_of_insert stored with ⟨rfl, rfl⟩ | untouched
        · exact (accounted.charged wasStored).settle claims
        · exact accounted.charged untouched
      | booked wasStored claims priced valid finds =>
        rw [AList.lookup_insert_ne (by simp)] at stored
        rcases lookup_charge_of_insert stored with ⟨rfl, rfl⟩ | untouched
        · exact (accounted.charged wasStored).settle claims
        · exact accounted.charged untouched

/-- The bound in terms of the account and its charges. -/
theorem Accounted.bound (accounted : Accounted service issued limit rows)
    (conserved : Conserved rows) (tenantId currency : String) (period : Period) :
    balance (·.spentNanos) rows tenantId currency period +
        balance (·.reservedNanos) rows tenantId currency period ≤
      limit + ((accountCharges rows tenantId currency period).map UsageCharge.overage).sum := by
  have bounded := accounted.bounded tenantId currency period
  rwa [← conserved.spent, ← conserved.reserved, total_weigh] at bounded

/-- The books and the bound, under calls of a service with a budget. -/
def budgetContract (limited : service.limit = some limit) :
    (accountingLedger service issued).Contract :=
  ledgerContract _ (Accounted service issued limit)
    ⟨fun _ _ _ => by simpa using limit_nonneg limited, fun stored => by cases stored⟩
    fun conserved accounted applies => accounted.apply limited conserved applies

/-- Calls that stay within their forecast cost nothing beyond their reservation. -/
theorem sum_overage_of_within
    (covered : ∀ {id} {charge : UsageCharge}, rows.lookup (.charge id) = some charge →
      charge.account = .account tenantId currency period →
        ∀ amount, charge.amountNanos = some amount → amount ≤ charge.reservedNanos) :
    ((accountCharges rows tenantId currency period).map UsageCharge.overage).sum = 0 := by
  apply List.sum_eq_zero
  intro value isIn
  obtain ⟨charge, isCharge, rfl⟩ := List.mem_map.mp isIn
  obtain ⟨isStored, mine⟩ := List.mem_filter.mp isCharge
  obtain ⟨id, stored⟩ := exists_lookup_of_mem_chargesOf isStored
  rw [UsageCharge.overage]
  split
  · rfl
  · rename_i amount isAmount
    have le := covered stored (by simpa using mine) amount isAmount
    exact max_eq_left (by linarith)

/-- An accepted reservation leaves its account within the limit; an account exceeds it by no
more than its settled calls cost beyond their reservations; and an account all of whose
settled calls stayed within their forecast is within the limit. -/
theorem budget_is_kept (limited : service.limit = some limit)
    {database : (accountingLedger service issued).Database} (reachable : database.Reachable) :
    (∀ index operation callId call begins pending next,
      database.sessions[index]? = some ⟨.begin operation callId call begins,
        .active (.commit .reserved) pending⟩ →
      database.move (.step index) = some next →
        balance (·.spentNanos) next.rows (issued callId).request.tenantId service.currency
            (issued callId).startedAt.period +
          balance (·.reservedNanos) next.rows (issued callId).request.tenantId service.currency
            (issued callId).startedAt.period ≤ limit) ∧
    (∀ tenantId currency period,
      balance (·.spentNanos) database.rows tenantId currency period +
          balance (·.reservedNanos) database.rows tenantId currency period ≤
        limit +
          ((accountCharges database.rows tenantId currency period).map UsageCharge.overage).sum) ∧
    (∀ callId (charge : UsageCharge), database.rows.lookup (.charge callId) = some charge →
      WithinForecast service (issued callId) charge → ∀ amount, charge.amountNanos = some amount →
        amount ≤ charge.reservedNanos) ∧
    ∀ tenantId currency period,
      (∀ callId (charge : UsageCharge), database.rows.lookup (.charge callId) = some charge →
        charge.account = .account tenantId currency period → charge.amountNanos ≠ none →
          WithinForecast service (issued callId) charge) →
        balance (·.spentNanos) database.rows tenantId currency period +
          balance (·.reservedNanos) database.rows tenantId currency period ≤ limit := by
  obtain ⟨conserved, accounted⟩ := reachable.holds (budgetContract limited)
  have bound := accounted.bound conserved
  have covered : ∀ callId (charge : UsageCharge),
      database.rows.lookup (.charge callId) = some charge →
        WithinForecast service (issued callId) charge → ∀ amount,
          charge.amountNanos = some amount → amount ≤ charge.reservedNanos := by
    intro callId charge stored within amount isAmount
    exact (accounted.charged stored).amount_le limited within isAmount
  refine ⟨?_, bound, covered, ?_⟩
  · intro index operation callId call begins pending next isThere moved
    have applies := reachable.commits (budgetContract limited) isThere
    obtain ⟨reserved, _, rfl⟩ := begin_eq_ok begins
    have changed : next.rows = pending ∪ database.rows := by
      rw [Schema.Database.move, isThere] at moved
      cases moved
      rfl
    rw [changed]
    change Applies (.reserve _ _ _ _) _ _ _ at applies
    generalize pending ∪ database.rows = after at applies
    cases applies with
    | reserved finds within absent valid =>
      rw [limited] at within
      exact within_of_reserve database.rows callId within
  · intro tenantId currency period within
    have noOverage := sum_overage_of_within fun {id} {charge} stored mine amount isAmount =>
      covered id charge stored (within id charge stored mine (by simp [isAmount])) amount isAmount
    have bounded := bound tenantId currency period
    rw [noOverage, add_zero] at bounded
    exact bounded

end

namespace January

def price : ModelPrice :=
  ⟨"provider", "model", none, "v1", "USD", ⟨period, 0⟩, 2, 3, by decide, by decide⟩

/-- A service with a budget of a thousandth of a dollar. -/
def service : CostAccounting where
  decimal := noRounding
  dumps := fun _ => ""
  catalog := ⟨[price], by simp, by simp⟩
  currency := "USD"
  monthlyBudget := some (1 / 1000)
  minimumReservation := some (1 / 1000000)
  providerVersion := none
  budgetNonneg := by
    intro budget isBudget
    cases isBudget
    norm_num

def ticket : ChargeTicket :=
  ⟨⟨["hi"], "provider", "model", "request", "trace", "tenant", "user", some 10, none⟩, ⟨period, 5⟩⟩

def report : GenerationMetadata :=
  ⟨"request", "trace", "tenant", "user", "provider", "model", none, ⟨100, 5, 105⟩, 12, none, false⟩

theorem begins (callId : String) : service.begin "llm" callId ticket =
    .ok (.reserve callId (service.newCharge "llm" ticket 546000)
      (service.newCharge_isNew "llm" ticket 546000) service.limit) := by
  have reserves : service.reservation ticket = .ok 546000 := by decide +kernel
  rw [CostAccounting.begin, reserves]
  rfl

theorem finishes (callId : String) : service.finish callId ticket (some report) .completed =
    .ok (.settle (service.settlement callId ticket (some report) .completed)) :=
  if_neg (by decide +kernel)

def beginning (callId : String) : AccountingCall service fun _ => ticket :=
  .begin "llm" callId _ (begins callId)

/-- The first call is settled before the second, which the budget refused at first, is
tried again. -/
def budgeted : List (accountingLedger service fun _ => ticket).Move :=
  [.start (beginning "a"), .step 0, .step 0, .step 0, .step 0, .step 0,
    .start (beginning "b"), .step 1, .step 1, .step 1,
    .start (.finish "a" (some report) .completed _ (finishes "a")), .step 2, .step 2, .step 2,
    .start (beginning "c"), .step 3, .step 3, .step 3, .step 3]

end January

/-- A call that the budget refuses is accepted once an earlier one has been settled. -/
theorem budget_is_kept_january :
    January.service.limit = some 1000000 ∧
      ∃ database : (accountingLedger January.service fun _ => January.ticket).Database,
        database.Reachable ∧
        balance (·.spentNanos) database.rows "tenant" "USD" January.period = 215000 ∧
        balance (·.reservedNanos) database.rows "tenant" "USD" January.period = 546000 ∧
        ∀ callId (charge : UsageCharge), database.rows.lookup (.charge callId) = some charge →
          WithinForecast January.service January.ticket charge →
            ∀ amount, charge.amountNanos = some amount → amount ≤ charge.reservedNanos := by
  have limited : January.service.limit = some 1000000 := by decide +kernel
  obtain ⟨database, reachable, spent, reserved⟩ := Schema.Database.exists_of_run
    (fun database : (accountingLedger January.service fun _ => January.ticket).Database =>
      balance (·.spentNanos) database.rows "tenant" "USD" January.period = 215000 ∧
        balance (·.reservedNanos) database.rows "tenant" "USD" January.period = 546000)
    January.budgeted (by decide +kernel)
  have holds := budget_is_kept limited reachable
  exact ⟨limited, database, reachable, spent, reserved, holds.2.2.1⟩

end AegisRag.Billing
