import AegisRag.Semantics.Json
import AegisRag.Billing.Ledger

/-!
# Cost accounting around a provider call

`begin` reserves the forecast of a call before the provider is invoked and `finish`
settles it with what the provider reported. Both decide what to write before they open
their transaction.
-/

namespace AegisRag.Billing

open Semantics

/-! ## Requests and reports -/

/-- `GenerateRequest`, as far as accounting looks at it. A `DecisionRequest` also has the
object of its tools and its answer schema. -/
structure GenerateRequest where
  messages : List String
  provider : String
  model : String
  requestId : String
  traceId : String
  tenantId : String
  userId : String
  maxOutputTokens : Option ℕ
  decision : Option Json

/-- `GenerationMetadata`, as far as accounting looks at it. -/
structure GenerationMetadata where
  requestId : String
  traceId : String
  tenantId : String
  userId : String
  provider : String
  model : String
  version : Option String
  usage : TokenUsage
  latencyMs : ℚ
  errorCode : Option String
  /-- Whether the provider counted calls without usage. -/
  usageUnavailable : Bool

/-- `ChargeTicket`, apart from its call id. -/
structure ChargeTicket where
  request : GenerateRequest
  startedAt : Instant

inductive BillingError where
  | priceMissing
  | outputCapRequired
  | usageMismatch
deriving DecidableEq

/-! ## The service -/

/-- `CostAccountingService` as the settings configure it. -/
structure CostAccounting where
  decimal : DecimalContext
  /-- The text of `json.dumps`. -/
  dumps : Json → String
  catalog : PriceCatalog
  currency : String
  monthlyBudget : Option ℚ
  minimumReservation : Option ℚ
  providerVersion : Option String
  budgetNonneg : ∀ budget, monthlyBudget = some budget → 0 ≤ budget

namespace CostAccounting

variable (service : CostAccounting)

/-- The budget in nanounits. -/
def limit : Option ℤ := service.monthlyBudget.map (moneyToNanos service.decimal)

def minimum : ℤ := moneyToNanos service.decimal (service.minimumReservation.getD 0)

/-- The price a call is forecast with. -/
def beginPrice (ticket : ChargeTicket) : Option ModelPrice :=
  service.catalog.resolve ticket.request.provider ticket.request.model service.providerVersion
    service.currency ticket.startedAt

def inputEstimate (request : GenerateRequest) : ℕ :=
  (request.messages.map String.utf8ByteSize).sum + 256 +
    match request.decision with
    | none => 0
    | some payload => (service.dumps payload).utf8ByteSize

/-- What `begin` reserves. -/
def reservation (ticket : ChargeTicket) : Except BillingError ℤ :=
  match service.limit with
  | none => .ok 0
  | some _ =>
    match service.beginPrice ticket, ticket.request.maxOutputTokens with
    | none, _ => .error .priceMissing
    | some _, none => .error .outputCapRequired
    | some price, some cap =>
      .ok (max service.minimum
        (price.costNanos service.decimal ⟨service.inputEstimate ticket.request, cap, 0⟩))

/-- The charge `begin` stores. -/
def newCharge (operation : String) (ticket : ChargeTicket) (reserved : ℤ) : UsageCharge where
  createdAt := ticket.startedAt
  tenantId := ticket.request.tenantId
  userId := ticket.request.userId
  status := .reserved
  requestId := ticket.request.requestId
  traceId := ticket.request.traceId
  provider := ticket.request.provider
  model := ticket.request.model
  operation := operation
  providerVersion := service.providerVersion
  currency := service.currency
  period := ticket.startedAt.period
  priceVersion := none
  priceSnapshot := none
  usageKnown := false
  inputTokens := none
  outputTokens := none
  totalTokens := none
  amountNanos := none
  reservedNanos := reserved
  latencyMs := none

theorem newCharge_isNew (operation : String) (ticket : ChargeTicket) (reserved : ℤ) :
    (service.newCharge operation ticket reserved).IsNew := ⟨rfl, rfl, rfl⟩

/-- `CostAccountingService.begin`, up to its transaction. -/
def begin (operation callId : String) (ticket : ChargeTicket) : Except BillingError LedgerCall := do
  let reserved ← service.reservation ticket
  return .reserve callId (service.newCharge operation ticket reserved)
    (service.newCharge_isNew operation ticket reserved) service.limit

/-- The report belongs to another call. -/
def mismatches (request : GenerateRequest) (metadata : GenerationMetadata) : Bool :=
  metadata.requestId ≠ request.requestId ∨ metadata.traceId ≠ request.traceId ∨
    metadata.tenantId ≠ request.tenantId ∨ metadata.userId ≠ request.userId ∨
    metadata.provider ≠ request.provider ∨ metadata.model ≠ request.model

def finishPrice (ticket : ChargeTicket) (metadata : Option GenerationMetadata) :
    Option ModelPrice :=
  service.catalog.resolve ticket.request.provider ticket.request.model
    (match metadata with
      | some metadata => metadata.version
      | none => service.providerVersion)
    service.currency ticket.startedAt

/-- The amount of a call: none without a price, a known usage and a known split of it. -/
def amount (price : Option ModelPrice) (metadata : Option GenerationMetadata) : Option ℤ :=
  match price, metadata with
  | some price, some metadata =>
    if (metadata.usage.totalTokens = 0 ∨ metadata.usage.totalTokens =
        metadata.usage.inputTokens + metadata.usage.outputTokens) ∧ !metadata.usageUnavailable then
      some (price.costNanos service.decimal metadata.usage)
    else none
  | _, _ => none

/-- How the call is recorded to have ended. -/
def endedAs (metadata : Option GenerationMetadata) (outcome : Outcome) : Outcome :=
  match metadata with
  | some metadata => if metadata.errorCode.isSome then .failed else outcome
  | none => outcome

/-- The arguments `finish` passes to `settle`. -/
def settlement (callId : String) (ticket : ChargeTicket) (metadata : Option GenerationMetadata)
    (outcome : Outcome) : Settlement :=
  let price := service.finishPrice ticket metadata
  { callId := callId
    tenantId := ticket.request.tenantId
    outcome := endedAs metadata outcome
    usage := metadata.map (·.usage)
    amountNanos := service.amount price metadata
    usageKnown := metadata.any (!·.usageUnavailable)
    providerVersion := metadata.bind (·.version)
    priceSnapshot := price
    priceVersion := price.map (·.priceVersion)
    latencyMs := metadata.map (·.latencyMs) }

/-- `CostAccountingService.finish`, up to its transaction. -/
def finish (callId : String) (ticket : ChargeTicket) (metadata : Option GenerationMetadata)
    (outcome : Outcome) : Except BillingError LedgerCall :=
  if metadata.any (mismatches ticket.request) then .error .usageMismatch
  else .ok (.settle (service.settlement callId ticket metadata outcome))

end CostAccounting

end AegisRag.Billing
