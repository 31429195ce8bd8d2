import AegisRag.Billing.Ledger

/-!
# Accounts and charges agree

The spent and the reserved money of an account are running sums beside the charges they
summarize. `Off` says by how much the books of one account are off while a transaction is
being applied, so that each written row has one lemma.
-/

namespace AegisRag.Billing

open Semantics

/-! ## Books -/

/-- A field of the account, which is zero as long as there is none. -/
def balance (field : CostAccount → ℤ) (rows : AList LedgerRow) (tenantId currency : String)
    (period : Period) : ℤ :=
  ((rows.lookup (.account tenantId currency period)).map field).getD 0

/-- The measure of the charges of one account. -/
def weigh (measure : UsageCharge → ℤ) (owner : LedgerKey) : (key : LedgerKey) → LedgerRow key → ℤ
  | .account .., _ => 0
  | .charge _, (charge : UsageCharge) => if charge.account = owner then measure charge else 0

section

variable {field : CostAccount → ℤ} {measure : UsageCharge → ℤ} {rows : AList LedgerRow}
  {owner charge claimed : UsageCharge} {id : String} {delta : ℤ}

/-- A field of every account is the measure of its charges. -/
def Agree (field : CostAccount → ℤ) (measure : UsageCharge → ℤ) (rows : AList LedgerRow) : Prop :=
  ∀ tenantId currency period, balance field rows tenantId currency period =
    total (weigh measure (.account tenantId currency period)) rows

/-- The books agree, apart from one account whose charges weigh `delta` more. -/
def Off (field : CostAccount → ℤ) (measure : UsageCharge → ℤ) (owner : UsageCharge) (delta : ℤ)
    (rows : AList LedgerRow) : Prop :=
  ∀ tenantId currency period,
    balance field rows tenantId currency period +
        (if owner.account = .account tenantId currency period then delta else 0) =
      total (weigh measure (.account tenantId currency period)) rows

theorem off_zero : Off field measure owner 0 rows ↔ Agree field measure rows := by
  simp only [Off, Agree, ite_self, add_zero]

theorem total_insert_account :
    total (weigh measure key) (rows.insert (.account tenantId currency period) account) =
      total (weigh measure key) rows := by
  by_cases isIn : LedgerKey.account tenantId currency period ∈ rows
  · obtain ⟨_, stored⟩ := Option.isSome_iff_exists.mp (AList.lookup_isSome.mpr isIn)
    simpa [weigh] using total_insert_of_lookup (weigh measure key) account stored
  · simpa [weigh] using total_insert_of_absent (weigh measure key) account isIn

theorem balance_insert_charge :
    balance field (rows.insert (.charge id) charge) tenantId currency period =
      balance field rows tenantId currency period := by
  rw [balance, AList.lookup_insert_ne (by simp), balance]

theorem Off.account (off : Off field measure owner delta rows) (account : CostAccount)
    (found : balance field rows owner.tenantId owner.currency owner.period = before) :
    Off field measure owner (delta - (field account - before))
      (rows.insert owner.account account) := by
  intro tenantId currency period
  rw [total_insert_account, ← off tenantId currency period]
  by_cases same : owner.account = .account tenantId currency period
  · cases same
    rw [if_pos rfl, if_pos rfl, found, balance, AList.lookup_insert]
    simp only [Option.map_some, Option.getD_some]
    ring
  · rw [if_neg same, if_neg same, balance, AList.lookup_insert_ne (Ne.symm same), balance]

theorem Off.add (off : Off field measure owner delta rows) (absent : .charge id ∉ rows)
    (mine : charge.account = owner.account) :
    Off field measure owner (delta + measure charge) (rows.insert (.charge id) charge) := by
  intro tenantId currency period
  have agrees := off tenantId currency period
  rw [balance_insert_charge, total_insert_of_absent _ _ absent]
  simp only [weigh, mine]
  split <;> rename_i same <;> simp only [same, if_true, if_false] at agrees <;> linarith

theorem Off.change (off : Off field measure owner delta rows)
    (stored : rows.lookup (.charge id) = some charge) (mine : charge.account = owner.account)
    (kept : claimed.account = owner.account) :
    Off field measure owner (delta + (measure claimed - measure charge))
      (rows.insert (.charge id) claimed) := by
  intro tenantId currency period
  have agrees := off tenantId currency period
  have changed := total_insert_of_lookup (weigh measure (.account tenantId currency period))
    claimed stored
  rw [balance_insert_charge]
  simp only [weigh, mine, kept] at changed
  split <;> rename_i same <;> simp only [same, if_true, if_false] at agrees changed <;> linarith

end

/-! ## The invariant -/

/-- A stored charge: its month is the one it was made in, its amounts are not negative,
and it has an amount only once it is settled. -/
structure UsageCharge.Sound (charge : UsageCharge) : Prop where
  period : charge.period = charge.createdAt.period
  reserved : 0 ≤ charge.reservedNanos
  amount : ∀ amount, charge.amountNanos = some amount → 0 ≤ amount
  pending : charge.status = .reserved → charge.amountNanos = none

/-- Every account agrees with its charges. -/
structure Conserved (rows : AList LedgerRow) : Prop where
  spent : Agree (·.spentNanos) UsageCharge.spent rows
  reserved : Agree (·.reservedNanos) UsageCharge.held rows
  sound : ∀ {id} {charge : UsageCharge}, rows.lookup (.charge id) = some charge → charge.Sound
  accounts : ∀ {id} {charge : UsageCharge}, rows.lookup (.charge id) = some charge →
    charge.account ∈ rows

section

variable {rows next : AList LedgerRow} {call : LedgerCall} {result : LedgerResult}

/-- The account a reservation finds has the balances it starts from. -/
theorem Finds.balance (finds : Finds rows charge account) (opens : field (openAccount charge) = 0) :
    balance field rows charge.tenantId charge.currency charge.period = field account := by
  rcases finds with stored | ⟨absent, rfl⟩
  · rw [Billing.balance, stored]
    rfl
  · rw [Billing.balance, AList.lookup_eq_none.mpr absent, opens]
    rfl

theorem takeReservation_eq_some (takes : takeReservation charge limitNanos account = some taken) :
    (∀ limit, limitNanos = some limit → taken.spentNanos + taken.reservedNanos ≤ limit) ∧
      taken.spentNanos = account.spentNanos ∧
      taken.reservedNanos = account.reservedNanos + charge.reservedNanos := by
  rw [takeReservation] at takes
  split at takes
  · rename_i within
    cases takes
    refine ⟨?_, rfl, rfl⟩
    rintro limit rfl
    simp only [Option.all_some, decide_eq_true_eq] at within
    change account.spentNanos + (account.reservedNanos + charge.reservedNanos) ≤ limit
    omega
  · cases takes

/-- A row written under another key leaves the charges where they are. -/
theorem lookup_charge_of_insert {id other : String}
    (found : (rows.insert (.charge other) written).lookup (.charge id) = some charge) :
    (id = other ∧ charge = written) ∨ rows.lookup (.charge id) = some charge := by
  by_cases same : id = other
  · subst same
    rw [AList.lookup_insert] at found
    exact .inl ⟨rfl, (Option.some.inj found).symm⟩
  · rw [AList.lookup_insert_ne (by simpa using same)] at found
    exact .inr found

section

variable {field : CostAccount → ℤ} {measure : UsageCharge → ℤ} {charge claimed : UsageCharge}
  {id : String}

/-- A reservation is balanced when the account gains what the new charge holds. -/
theorem Agree.reserve (agree : Agree field measure rows) (finds : Finds rows charge account)
    (opens : field (openAccount charge) = 0) (absent : .charge id ∉ rows)
    (gains : field written = field account + measure charge) :
    Agree field measure ((rows.insert charge.account written).insert (.charge id) charge) := by
  have stillAbsent : .charge id ∉ rows.insert charge.account written := by
    intro isIn
    rcases (AList.mem_insert _).mp isIn with same | isIn
    · cases same
    · exact absent isIn
  have reserved := ((off_zero.mpr agree).account written (finds.balance opens)).add stillAbsent rfl
  rwa [gains, show 0 - (field account + measure charge - field account) + measure charge = 0 by
    ring, off_zero] at reserved

section

variable (agree : Agree field measure rows) (stored : rows.lookup (.charge id) = some charge)
  (same : claimed.account = charge.account)

include agree stored same

/-- A settlement is balanced when the account gains what the charge gains. -/
theorem Agree.book (finds : rows.lookup charge.account = some account)
    (gains : field written - field account = measure claimed - measure charge) :
    Agree field measure ((rows.insert (.charge id) claimed).insert charge.account written) := by
  have found : balance field (rows.insert (.charge id) claimed) charge.tenantId charge.currency
      charge.period = field account := by
    rw [balance_insert_charge, balance, finds]
    rfl
  have booked := ((off_zero.mpr agree).change stored rfl same).account written found
  rwa [gains, zero_add, sub_self, off_zero] at booked

/-- A charge may change as long as its measure stays. -/
theorem Agree.change (unchanged : measure claimed = measure charge) :
    Agree field measure (rows.insert (.charge id) claimed) := by
  have changed := (off_zero.mpr agree).change stored rfl same
  rwa [unchanged, sub_self, add_zero, off_zero] at changed

end

end

theorem UsageCharge.account_of_claims {settlement : Settlement}
    (claims : settlement.Claims charge claimed) : claimed.account = charge.account := by
  simp only [UsageCharge.account, claims.sameTenant, claims.sameCurrency, claims.samePeriod]

theorem isAmount_nonneg (valid : isAmount value = true) : 0 ≤ value := by
  simp only [isAmount, decide_eq_true_eq] at valid
  exact valid.1

theorem UsageCharge.Sound.claimed {settlement : Settlement} {charge claimed : UsageCharge}
    (sound : charge.Sound) (claims : settlement.Claims charge claimed)
    (amount : ∀ amount, settlement.amountNanos = some amount → 0 ≤ amount) : claimed.Sound where
  period := by rw [claims.samePeriod, claims.sameCreation, sound.period]
  reserved := by rw [claims.sameReserved]; exact sound.reserved
  amount := by rw [claims.amount]; exact amount
  pending := by
    intro reserved
    rw [claims.isSettled] at reserved
    cases reserved

theorem Conserved.reserve (conserved : Conserved rows) {id : String} (isNew : charge.IsNew)
    (finds : Finds rows charge account)
    (within : takeReservation charge limitNanos account = some taken) (absent : .charge id ∉ rows)
    (valid : checkRow (.charge id) charge = true) :
    Conserved ((rows.insert charge.account taken).insert (.charge id) charge) := by
  obtain ⟨-, sameSpent, gained⟩ := takeReservation_eq_some within
  have isSound : charge.Sound := by
    simp only [checkRow, Bool.and_eq_true] at valid
    refine ⟨isNew.period, isAmount_nonneg valid.1, ?_, fun _ => isNew.amount⟩
    intro amount isAmount
    rw [isNew.amount] at isAmount
    cases isAmount
  constructor
  · apply conserved.spent.reserve finds rfl absent
    rw [sameSpent, UsageCharge.spent, isNew.amount]
    simp
  · apply conserved.reserved.reserve finds rfl absent
    rw [gained, UsageCharge.held, isNew.amount]
    simp
  · intro other found isFound
    rcases lookup_charge_of_insert isFound with ⟨-, rfl⟩ | wasFound
    · exact isSound
    · rw [AList.lookup_insert_ne (by simp)] at wasFound
      exact conserved.sound wasFound
  · intro other found isFound
    rw [AList.mem_insert, AList.mem_insert]
    rcases lookup_charge_of_insert isFound with ⟨-, rfl⟩ | wasFound
    · exact .inr (.inl rfl)
    · rw [AList.lookup_insert_ne (by simp)] at wasFound
      exact .inr (.inr (conserved.accounts wasFound))

section

variable {settlement : Settlement} {id : String} {charge claimed : UsageCharge}

section

variable (conserved : Conserved rows) (stored : rows.lookup (.charge id) = some charge)
  (claims : settlement.Claims charge claimed)

include conserved stored claims

/-- A settlement without an amount keeps the hold and with it the books. -/
theorem Conserved.keepHold (noAmount : settlement.amountNanos = none) :
    Conserved (rows.insert (.charge id) claimed) := by
  have same := UsageCharge.account_of_claims claims
  have isSound := conserved.sound stored
  have amounts : claimed.amountNanos = charge.amountNanos := by
    rw [claims.amount, noAmount, isSound.pending claims.wasReserved]
  constructor
  · apply conserved.spent.change stored same
    rw [UsageCharge.spent, amounts, UsageCharge.spent]
  · apply conserved.reserved.change stored same
    rw [UsageCharge.held, amounts, claims.sameReserved, UsageCharge.held]
  · intro other found isFound
    rcases lookup_charge_of_insert isFound with ⟨-, rfl⟩ | wasFound
    · apply isSound.claimed claims
      intro amount priced
      rw [noAmount] at priced
      cases priced
    · exact conserved.sound wasFound
  · intro other found isFound
    rw [AList.mem_insert]
    rcases lookup_charge_of_insert isFound with ⟨-, rfl⟩ | wasFound
    · rw [same]
      exact .inr (conserved.accounts stored)
    · exact .inr (conserved.accounts wasFound)

/-- A settlement with an amount moves the hold to the spent money. -/
theorem Conserved.book {amount : ℤ} (priced : settlement.amountNanos = some amount)
    (valid : checkRow (.charge id) claimed = true)
    (finds : rows.lookup charge.account = some account) :
    Conserved ((rows.insert (.charge id) claimed).insert charge.account
      (account.book amount charge.reservedNanos)) := by
  have same := UsageCharge.account_of_claims claims
  have isSound := conserved.sound stored
  have noAmount := isSound.pending claims.wasReserved
  constructor
  · apply conserved.spent.book stored same finds
    simp [CostAccount.book, UsageCharge.spent, claims.amount, priced, noAmount]
  · apply conserved.reserved.book stored same finds
    simp [CostAccount.book, UsageCharge.held, claims.amount, priced, noAmount]
  · intro other found isFound
    rw [AList.lookup_insert_ne (by simp)] at isFound
    rcases lookup_charge_of_insert isFound with ⟨-, rfl⟩ | wasFound
    · apply isSound.claimed claims
      intro booked isBooked
      simp only [checkRow, claims.amount, isBooked, Option.all_some, Bool.and_eq_true] at valid
      exact isAmount_nonneg valid.2
    · exact conserved.sound wasFound
  · intro other found isFound
    rw [AList.lookup_insert_ne (by simp)] at isFound
    rw [AList.mem_insert, AList.mem_insert]
    rcases lookup_charge_of_insert isFound with ⟨-, rfl⟩ | wasFound
    · exact .inl same
    · exact .inr (.inr (conserved.accounts wasFound))

end

end

theorem Conserved.apply (conserved : Conserved rows) (applies : Applies call result rows next) :
    Conserved next := by
  cases applies with
  | @reserved _ _ isNew _ _ _ _ finds within absent valid =>
    exact conserved.reserve isNew finds within absent valid
  | unchanged => exact conserved
  | unpriced stored claims noAmount =>
    exact conserved.keepHold stored (Settlement.claims_of_claim claims) noAmount
  | booked stored claims priced valid finds =>
    exact conserved.book stored (Settlement.claims_of_claim claims) priced valid finds

end

theorem conserved_empty : Conserved ∅ where
  spent _ _ _ := by simp [balance]
  reserved _ _ _ := by simp [balance]
  sound isFound := by cases isFound
  accounts isFound := by cases isFound

/-- Whatever else is shown of the ledger, it is shown of what the calls apply. -/
def ledgerContract {Call : Type} (perform : Call → LedgerCall)
    (extra : AList LedgerRow → Prop) (initial : extra ∅)
    (preserved : ∀ {call result rows next}, Conserved rows → extra rows →
      Applies (perform call) result rows next → extra next) :
    (ledger perform).Contract where
  Inv rows := Conserved rows ∧ extra rows
  Commits call result rows next := Applies (perform call) result rows next
  initial := ⟨conserved_empty, initial⟩
  preserved := by
    intro call result rows next holds applies
    exact ⟨holds.1.apply applies, preserved holds.1 holds.2 applies⟩
  safe := by
    intro call rows _
    change (perform call).transaction.Safe _ _ _ _ _
    cases perform call with
    | reserve id charge isNew limitNanos => exact reserve_safe fun next applies => applies
    | settle settlement =>
      apply settle_safe
      · intro rows holds id charge stored
        exact holds.1.accounts stored
      · intro result next applies
        exact applies

end AegisRag.Billing
