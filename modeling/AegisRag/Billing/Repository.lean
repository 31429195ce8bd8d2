import AegisRag.Semantics.Database
import AegisRag.Semantics.Loop
import AegisRag.Billing.Dto

/-!
# The cost ledger

An account holds what one tenant has spent and reserved in one currency and month,
and a charge is the row of one provider call. `reserve` and `settle` are the two
transactions that touch them. `metrics` adds up charges and never looks at accounts;
its two queries may see different committed rows.
-/

namespace AegisRag.Billing

open Semantics

/-! ## Rows -/

/-- How a provider call ended. -/
inductive Outcome where
  | completed
  | failed
  | incomplete
deriving DecidableEq

inductive ChargeStatus where
  | reserved
  | settled (outcome : Outcome)
deriving DecidableEq

/-- `CostAccountModel`. -/
structure CostAccount where
  createdBy : String
  spentNanos : ℤ
  reservedNanos : ℤ
deriving DecidableEq

/-- `UsageChargeModel`. -/
structure UsageCharge where
  createdAt : Instant
  tenantId : String
  userId : String
  status : ChargeStatus
  requestId : String
  traceId : String
  provider : String
  model : String
  operation : String
  providerVersion : Option String
  currency : String
  period : Period
  priceVersion : Option String
  priceSnapshot : Option ModelPrice
  usageKnown : Bool
  inputTokens : Option ℕ
  outputTokens : Option ℕ
  totalTokens : Option ℕ
  amountNanos : Option ℤ
  reservedNanos : ℤ
  latencyMs : Option ℚ
deriving DecidableEq

/-- What a row is found by: the unique index of the accounts, the id of a charge. -/
inductive LedgerKey where
  | account (tenantId currency : String) (period : Period)
  | charge (id : String)
deriving DecidableEq

/-- The row a key leads to. -/
@[reducible] def LedgerRow : LedgerKey → Type
  | .account .. => CostAccount
  | .charge _ => UsageCharge

/-- What fits a `BigInteger` column that must not be negative. -/
def isAmount (value : ℤ) : Bool := 0 ≤ value ∧ value < 2 ^ 63

/-- The check constraints of both tables. -/
def checkRow : (key : LedgerKey) → LedgerRow key → Bool
  | .account .., (account : CostAccount) =>
    isAmount account.spentNanos && isAmount account.reservedNanos
  | .charge _, (charge : UsageCharge) =>
    isAmount charge.reservedNanos && charge.amountNanos.all isAmount

/-! ## Transactions -/

/-- What a transaction reports to its caller. -/
inductive LedgerResult where
  | reserved
  | budgetExceeded
  | conflict
  | settled (changed : Bool)
deriving DecidableEq

abbrev LedgerTransaction := Transaction LedgerRow LedgerResult

@[reducible] def UsageCharge.account (charge : UsageCharge) : LedgerKey :=
  .account charge.tenantId charge.currency charge.period

/-- The month's account as the first call opens it. -/
def openAccount (charge : UsageCharge) : CostAccount := ⟨charge.userId, 0, 0⟩

/-- The condition and the assignment of the reserving update. -/
def takeReservation (charge : UsageCharge) (limitNanos : Option ℤ) (account : CostAccount) :
    Option CostAccount :=
  if limitNanos.all (account.spentNanos + account.reservedNanos + charge.reservedNanos ≤ ·) then
    some { account with reservedNanos := account.reservedNanos + charge.reservedNanos }
  else none

/-- The rest of `reserve` once the account exists. -/
def reserveFrom (id : String) (charge : UsageCharge) (limitNanos : Option ℤ) : LedgerTransaction :=
  .update charge.account (takeReservation charge limitNanos) fun
    | none => .rollback .budgetExceeded
    | some _ => .insert (.charge id) charge fun
        | true => .commit .reserved
        | false => .rollback .conflict

/-- `CostRepository.reserve`. -/
def reserve (id : String) (charge : UsageCharge) (limitNanos : Option ℤ) : LedgerTransaction :=
  .select charge.account fun
    | some _ => reserveFrom id charge limitNanos
    | none => .insert charge.account (openAccount charge) fun
        | true => reserveFrom id charge limitNanos
        -- another call created the account in the meantime
        | false => .select charge.account fun
            | some _ => reserveFrom id charge limitNanos
            | none => .rollback .conflict

/-- The arguments of `settle`. -/
structure Settlement where
  callId : String
  tenantId : String
  outcome : Outcome
  usage : Option TokenUsage
  amountNanos : Option ℤ
  usageKnown : Bool
  providerVersion : Option String
  priceSnapshot : Option ModelPrice
  priceVersion : Option String
  latencyMs : Option ℚ

/-- The condition and the assignments of the claiming update. -/
def Settlement.claim (settlement : Settlement) (charge : UsageCharge) : Option UsageCharge :=
  if charge.tenantId = settlement.tenantId ∧ charge.status = .reserved then
    some { charge with
      status := .settled settlement.outcome
      usageKnown := settlement.usage.isSome && settlement.usageKnown
      inputTokens := settlement.usage.map (·.inputTokens)
      outputTokens := settlement.usage.map (·.outputTokens)
      totalTokens := settlement.usage.map (·.totalTokens)
      amountNanos := settlement.amountNanos
      providerVersion := settlement.providerVersion
      priceSnapshot := settlement.priceSnapshot
      priceVersion := settlement.priceVersion
      latencyMs := settlement.latencyMs }
  else none

/-- The assignments of the booking update. -/
def CostAccount.book (account : CostAccount) (amount reserved : ℤ) : CostAccount :=
  { account with
    spentNanos := account.spentNanos + amount
    reservedNanos := account.reservedNanos - reserved }

/-- `CostRepository.settle`. -/
def settle (settlement : Settlement) : LedgerTransaction :=
  .update (.charge settlement.callId) settlement.claim fun
    | none => .commit (.settled false)
    | some (charge : UsageCharge) =>
      match settlement.amountNanos with
      | none => .commit (.settled true)
      | some amount =>
        .update (.account settlement.tenantId charge.currency charge.period)
          (fun account : CostAccount => some (account.book amount charge.reservedNanos))
          fun _ => .commit (.settled true)

/-! ## Metrics -/

/-- `CostBreakdown`. -/
structure CostBreakdown where
  operation : String
  provider : String
  model : String
  priceVersion : Option String
  calls : ℕ
  inputTokens : ℕ
  outputTokens : ℕ
  totalTokens : ℕ
  pricedCost : ℚ
  unpricedCalls : ℕ
deriving DecidableEq

/-- `BusinessMetrics`, without the interval it repeats. -/
structure BusinessMetrics where
  calls : ℕ
  successfulCalls : ℕ
  failedCalls : ℕ
  incompleteCalls : ℕ
  unknownUsageCalls : ℕ
  unpricedCalls : ℕ
  inputTokens : ℕ
  outputTokens : ℕ
  totalTokens : ℕ
  pricedCost : ℚ
  pendingReservedCost : ℚ
  costComplete : Bool
  successRate : Option ℚ
  averageLatencyMs : Option ℚ
  pricedCostPerSuccess : Option ℚ
  breakdown : List CostBreakdown
deriving DecidableEq

/-- The columns one query groups by. -/
structure BreakdownKey where
  provider : String
  model : String
  priceVersion : Option String
  operation : String
deriving DecidableEq

namespace UsageCharge

variable (charge : UsageCharge)

/-- The usage is known and could not be priced. -/
def unpriced : Bool := charge.usageKnown && charge.amountNanos.isNone

/-- What a charge contributes to the spent money. -/
def spent : ℤ := charge.amountNanos.getD 0

/-- What a charge still holds. -/
def held : ℤ := if charge.amountNanos.isNone then charge.reservedNanos else 0

def breakdownKey : BreakdownKey :=
  ⟨charge.provider, charge.model, charge.priceVersion, charge.operation⟩

/-- The condition both queries of `metrics` share. -/
def inScope (tenantId currency : String) (start stop : Instant) : Bool :=
  charge.tenantId = tenantId ∧ charge.currency = currency ∧ ¬ charge.createdAt.Before start ∧
    charge.createdAt.Before stop

end UsageCharge

/-- The sum of a nullable token column. -/
def sumTokens (column : UsageCharge → Option ℕ) (charges : List UsageCharge) : ℕ :=
  (charges.map fun charge => (column charge).getD 0).sum

/-- One row of the grouped query. -/
def breakdownRow (key : BreakdownKey) (charges : List UsageCharge) : CostBreakdown where
  operation := key.operation
  provider := key.provider
  model := key.model
  priceVersion := key.priceVersion
  calls := charges.length
  inputTokens := sumTokens (·.inputTokens) charges
  outputTokens := sumTokens (·.outputTokens) charges
  totalTokens := sumTokens (·.totalTokens) charges
  pricedCost := nanosToMoney (charges.map UsageCharge.spent).sum
  unpricedCalls := charges.countP UsageCharge.unpriced

/-- The grouped query over the charges in scope. -/
def breakdown (charges : List UsageCharge) : List CostBreakdown :=
  (labels UsageCharge.breakdownKey charges).map fun key =>
    breakdownRow key (charges.filter (·.breakdownKey = key))

/-- The mean of a nullable column. -/
def average (values : List ℚ) : Option ℚ :=
  if values = [] then none else some (values.sum / values.length)

/-- The result of `metrics` from the charges its two queries saw in scope. -/
def summarize (decimal : DecimalContext) (charges grouped : List UsageCharge) : BusinessMetrics :=
  let successes := charges.countP (·.status = .settled .completed)
  let incomplete := charges.countP fun charge =>
    charge.status = .reserved ∨ charge.status = .settled .incomplete
  let unknown := charges.countP (!·.usageKnown)
  let unpriced := charges.countP UsageCharge.unpriced
  let totalCost := (charges.map UsageCharge.spent).sum
  let complete := unknown = 0 ∧ unpriced = 0 ∧ incomplete = 0
  { calls := charges.length
    successfulCalls := successes
    failedCalls := charges.countP (·.status = .settled .failed)
    incompleteCalls := incomplete
    unknownUsageCalls := unknown
    unpricedCalls := unpriced
    inputTokens := sumTokens (·.inputTokens) charges
    outputTokens := sumTokens (·.outputTokens) charges
    totalTokens := sumTokens (·.totalTokens) charges
    pricedCost := nanosToMoney totalCost
    pendingReservedCost := nanosToMoney (charges.map UsageCharge.held).sum
    costComplete := complete
    successRate := if charges.length = 0 then none else some (successes / charges.length)
    averageLatencyMs := average (charges.filterMap (·.latencyMs))
    pricedCostPerSuccess :=
      if successes ≠ 0 ∧ complete then
        some (decimal.round (nanosToMoney totalCost / successes))
      else none
    breakdown := breakdown grouped }

def chargesOf (rows : AList LedgerRow) : List UsageCharge :=
  rows.entries.filterMap fun
    | ⟨.account .., _⟩ => none
    | ⟨.charge _, charge⟩ => some charge

/-- `CostRepository.metrics`; the two queries see the rows committed at their moment. -/
def metrics (decimal : DecimalContext) (first second : AList LedgerRow)
    (tenantId currency : String) (start stop : Instant) : BusinessMetrics :=
  summarize decimal ((chargesOf first).filter (·.inScope tenantId currency start stop))
    ((chargesOf second).filter (·.inScope tenantId currency start stop))

end AegisRag.Billing
