import AegisRag.Billing.Repository

/-!
# The ledger adds up

`Applies` says what a committed transaction does to the rows that stand when it
commits, however its statements were interleaved with those of others. From it
follow the invariant `Conserved` and that a charge is booked once.
-/

namespace AegisRag.Billing

open Semantics

/-! ## Calls -/

/-- A charge as it is first stored, before anything is known about the call. -/
structure UsageCharge.IsNew (charge : UsageCharge) : Prop where
  status : charge.status = .reserved
  amount : charge.amountNanos = none
  period : charge.period = charge.createdAt.period

inductive LedgerCall where
  | reserve (id : String) (charge : UsageCharge) (isNew : charge.IsNew) (limitNanos : Option ℤ)
  | settle (settlement : Settlement)

def LedgerCall.transaction : LedgerCall → LedgerTransaction
  | .reserve id charge _ limitNanos => Billing.reserve id charge limitNanos
  | .settle settlement => Billing.settle settlement

/-- The ledger tables under calls that each perform one call of the repository. -/
abbrev ledger {Call : Type} (perform : Call → LedgerCall) : Schema where
  Key := LedgerKey
  Row := LedgerRow
  Code := Call
  Result := LedgerResult
  decKey := inferInstance
  body := fun call => (perform call).transaction
  check := checkRow

/-- The account of a charge as a reservation finds it. -/
def Finds (rows : AList LedgerRow) (charge : UsageCharge) (account : CostAccount) : Prop :=
  rows.lookup charge.account = some account ∨
    (charge.account ∉ rows ∧ account = openAccount charge)

/-- What a committed call does to the rows that stand when it commits. -/
inductive Applies : LedgerCall → LedgerResult → AList LedgerRow → AList LedgerRow → Prop where
  | reserved {id : String} {charge : UsageCharge} {isNew : charge.IsNew}
      {limitNanos : Option ℤ} {rows : AList LedgerRow} {account taken : CostAccount}
      (finds : Finds rows charge account)
      (within : takeReservation charge limitNanos account = some taken)
      (absent : .charge id ∉ rows) (valid : checkRow (.charge id) charge = true) :
      Applies (.reserve id charge isNew limitNanos) .reserved rows
        ((rows.insert charge.account taken).insert (.charge id) charge)
  | unchanged {settlement : Settlement} {rows : AList LedgerRow} :
      Applies (.settle settlement) (.settled false) rows rows
  | unpriced {settlement : Settlement} {rows : AList LedgerRow} {charge claimed : UsageCharge}
      (stored : rows.lookup (.charge settlement.callId) = some charge)
      (claims : settlement.claim charge = some claimed)
      (noAmount : settlement.amountNanos = none) :
      Applies (.settle settlement) (.settled true) rows
        (rows.insert (.charge settlement.callId) claimed)
  | booked {settlement : Settlement} {rows : AList LedgerRow} {charge claimed : UsageCharge}
      {amount : ℤ} {account : CostAccount}
      (stored : rows.lookup (.charge settlement.callId) = some charge)
      (claims : settlement.claim charge = some claimed)
      (priced : settlement.amountNanos = some amount)
      (valid : checkRow (.charge settlement.callId) claimed = true)
      (finds : rows.lookup charge.account = some account) :
      Applies (.settle settlement) (.settled true) rows
        ((rows.insert (.charge settlement.callId) claimed).insert charge.account
          (account.book amount charge.reservedNanos))

/-! ## The transactions apply as a whole -/

section

variable {inv : AList LedgerRow → Prop} {rows : AList LedgerRow}
  {post : LedgerResult → AList LedgerRow → Prop}

/-- The reserving update and the insert, from what the transaction has written so far. -/
theorem reserveFrom_safe {id : String} (single : ∀ account : LedgerRow charge.account,
      pending.insert charge.account account = AList.insert charge.account account ∅)
    (finds : ∀ account : LedgerRow charge.account,
      (pending ∪ rows).lookup charge.account = some account → Finds rows charge account)
    (done : ∀ next, Applies (.reserve id charge isNew limitNanos) .reserved rows next →
      post .reserved next) :
    (reserveFrom id charge limitNanos).Safe inv checkRow rows post pending := by
  constructor
  · intro account taken stored within _
    constructor
    · intro absent valid
      apply done
      rw [single, ← AList.insert_union, ← AList.insert_union, AList.empty_union]
      apply Applies.reserved (finds account stored) within _ valid
      intro isIn
      exact absent (AList.mem_union.mpr (.inr isIn))
    · intro _ _ _ _
      trivial
  · intro _ _ _ _
    trivial

theorem reserve_safe {id : String}
    (done : ∀ next, Applies (.reserve id charge isNew limitNanos) .reserved rows next →
      post .reserved next) :
    (reserve id charge limitNanos).Safe inv checkRow rows post ∅ := by
  have existing : (reserveFrom id charge limitNanos).Safe inv checkRow rows post ∅ := by
    apply reserveFrom_safe (fun _ => rfl) _ done
    intro account stored
    exact .inl (by rwa [AList.empty_union] at stored)
  intro earlier _ _
  cases (∅ ∪ earlier).lookup charge.account with
  | some _ => exact existing
  | none =>
    constructor
    · intro absent _
      -- the account is the one this transaction has just opened
      apply reserveFrom_safe _ _ done
      · intro account
        rw [AList.insert_insert]
      · intro account stored
        rw [← AList.insert_union, AList.lookup_insert] at stored
        rw [AList.empty_union] at absent
        exact .inr ⟨absent, (Option.some.inj stored).symm⟩
    · intro _ _ _ _ later _ _
      cases (∅ ∪ later).lookup charge.account with
      | some _ => exact existing
      | none => trivial

/-- What a claim requires of a charge and what it leaves as it is. -/
structure Settlement.Claims (settlement : Settlement) (charge claimed : UsageCharge) : Prop where
  tenant : charge.tenantId = settlement.tenantId
  wasReserved : charge.status = .reserved
  isSettled : claimed.status = .settled settlement.outcome
  amount : claimed.amountNanos = settlement.amountNanos
  sameTenant : claimed.tenantId = charge.tenantId
  sameCurrency : claimed.currency = charge.currency
  samePeriod : claimed.period = charge.period
  sameReserved : claimed.reservedNanos = charge.reservedNanos
  sameCreation : claimed.createdAt = charge.createdAt

theorem Settlement.claims_of_claim {settlement : Settlement}
    (claims : settlement.claim charge = some claimed) : settlement.Claims charge claimed := by
  rw [Settlement.claim] at claims
  split at claims
  · rename_i reserved
    cases claims
    exact ⟨reserved.1, reserved.2, rfl, rfl, rfl, rfl, rfl, rfl, rfl⟩
  · cases claims

/-- Settling books on the account that every stored charge has. -/
theorem settle_safe
    (accounts : ∀ rows, inv rows → ∀ id charge, rows.lookup (.charge id) = some charge →
      UsageCharge.account charge ∈ rows)
    (done : ∀ result next, Applies (.settle settlement) result rows next → post result next) :
    (settle settlement).Safe inv checkRow rows post ∅ := by
  constructor
  · intro charge claimed stored claims valid
    rw [AList.empty_union] at stored
    cases priced : settlement.amountNanos with
    | none =>
      rw [Transaction.Safe, ← AList.insert_union, AList.empty_union]
      exact done _ _ (.unpriced stored claims priced)
    | some amount =>
      have claim := Settlement.claims_of_claim claims
      dsimp only
      rw [claim.sameCurrency, claim.samePeriod, claim.sameReserved, ← claim.tenant]
      constructor
      · intro account booked finds changed _
        cases changed
        rw [← AList.insert_union, AList.empty_union, AList.lookup_insert_ne (by simp)] at finds
        rw [Transaction.Safe, ← AList.insert_union, ← AList.insert_union, AList.empty_union]
        exact done _ _ (.booked stored claims priced valid finds)
      · -- the charge was locked when the account was looked for, so the account was there
        intro earlier isInv same unmatched
        have charged : earlier.lookup (.charge settlement.callId) = some charge := by
          rw [same _ ((AList.mem_insert _).mpr (.inl rfl)), stored]
        have isThere := AList.lookup_isSome.mpr (accounts earlier isInv _ charge charged)
        rw [← AList.insert_union, AList.empty_union, AList.lookup_insert_ne (by simp),
          Option.bind_eq_none_iff] at unmatched
        obtain ⟨account, found⟩ := Option.isSome_iff_exists.mp isThere
        cases unmatched account found
  · intro _ _ _ _
    rw [Transaction.Safe, AList.empty_union]
    exact done _ _ .unchanged

end

end AegisRag.Billing
