import Mathlib.Algebra.Order.Floor.Ring
import Mathlib.Data.Rat.Floor
import Mathlib.Tactic.Positivity
import Mathlib.Tactic.GCongr

/-!
# Prices, usage and calendar months

Money is kept in whole nanounits of a currency, rounded upward once per call. The
decimal arithmetic in between rounds to a precision; all that matters about that
rounding is that it is monotone and keeps zero. An instant is a calendar month in UTC
and an offset into it, which is how the ledger looks at time.
-/

namespace AegisRag.Billing

/-- The rounding that decimal arithmetic applies to each result. -/
structure DecimalContext where
  round : ℚ → ℚ
  monotone : Monotone round
  zero : round 0 = 0

/-- `money_to_nanos`. -/
def moneyToNanos (decimal : DecimalContext) (value : ℚ) : ℤ :=
  ⌈decimal.round (value * 1000000000)⌉

/-- `nanos_to_money`, which is exact on what a column can hold. -/
def nanosToMoney (value : ℤ) : ℚ := value / 1000000000

theorem nanosToMoney_add (left right : ℤ) :
    nanosToMoney (left + right) = nanosToMoney left + nanosToMoney right := by
  rw [nanosToMoney, nanosToMoney, nanosToMoney, Int.cast_add, add_div]

@[simp] theorem nanosToMoney_zero : nanosToMoney 0 = 0 := by simp [nanosToMoney]

theorem nanosToMoney_sum (values : List ℤ) :
    nanosToMoney values.sum = (values.map nanosToMoney).sum := by
  induction values with
  | nil => simp
  | cons value rest ih =>
    rw [List.sum_cons, nanosToMoney_add, ih, List.map_cons, List.sum_cons]

theorem moneyToNanos_mono (decimal : DecimalContext) {left right : ℚ} (le : left ≤ right) :
    moneyToNanos decimal left ≤ moneyToNanos decimal right := by
  apply Int.ceil_mono
  apply decimal.monotone
  gcongr

theorem moneyToNanos_nonneg (decimal : DecimalContext) {value : ℚ} (nonneg : 0 ≤ value) :
    0 ≤ moneyToNanos decimal value := by
  have zero : moneyToNanos decimal 0 = 0 := by simp [moneyToNanos, decimal.zero]
  rw [← zero]
  exact moneyToNanos_mono decimal nonneg

/-! ## Time -/

instance neZeroMonths : NeZero 12 := ⟨by decide⟩

/-- A calendar month, which `strftime("%Y-%m")` writes out. -/
structure Period where
  year : ℕ
  month : Fin 12
deriving DecidableEq

namespace Period

/-- Months counted through all years. -/
def ordinal (period : Period) : ℕ := 12 * period.year + period.month

def next (period : Period) : Period :=
  if last : period.month.val + 1 < 12 then ⟨period.year, period.month.val + 1, last⟩
  else ⟨period.year + 1, 0⟩

theorem ordinal_next (period : Period) : period.next.ordinal = period.ordinal + 1 := by
  unfold next ordinal
  split
  · rfl
  · rename_i last
    change 12 * (period.year + 1) + 0 = _
    have := period.month.isLt
    omega

theorem ordinal_injective : Function.Injective ordinal := by
  intro left right same
  unfold ordinal at same
  have leftMonth := left.month.isLt
  have rightMonth := right.month.isLt
  have year : left.year = right.year := by omega
  have month : left.month = right.month := Fin.ext (by omega)
  cases left
  cases right
  cases year
  cases month
  rfl

end Period

/-- A moment in UTC. -/
structure Instant where
  period : Period
  offset : ℕ
deriving DecidableEq

def Instant.Before (left right : Instant) : Prop :=
  left.period.ordinal < right.period.ordinal ∨
    (left.period.ordinal = right.period.ordinal ∧ left.offset < right.offset)

instance (left right : Instant) : Decidable (left.Before right) :=
  inferInstanceAs (Decidable (_ ∨ _))

def Period.start (period : Period) : Instant := ⟨period, 0⟩

/-- The moments of a month are those from its start up to the start of the next. -/
theorem Period.within_iff (period : Period) (moment : Instant) :
    ¬ moment.Before period.start ∧ moment.Before period.next.start ↔ moment.period = period := by
  have next := period.ordinal_next
  rw [← Period.ordinal_injective.eq_iff]
  simp only [Instant.Before, Period.start]
  omega

/-! ## Prices -/

/-- `TokenUsage`. -/
structure TokenUsage where
  inputTokens : ℕ
  outputTokens : ℕ
  totalTokens : ℕ
deriving DecidableEq

/-- `ModelPrice`. -/
structure ModelPrice where
  provider : String
  model : String
  providerVersion : Option String
  priceVersion : String
  currency : String
  effectiveFrom : Instant
  inputPerMillion : ℚ
  outputPerMillion : ℚ
  inputNonneg : 0 ≤ inputPerMillion
  outputNonneg : 0 ≤ outputPerMillion
deriving DecidableEq

namespace ModelPrice

variable (decimal : DecimalContext) (price : ModelPrice)

/-- `ModelPrice.cost_nanos`. -/
def costNanos (usage : TokenUsage) : ℤ :=
  moneyToNanos decimal (decimal.round
    (decimal.round (decimal.round (price.inputPerMillion * usage.inputTokens) +
      decimal.round (price.outputPerMillion * usage.outputTokens)) / 1000000))

/-- More tokens never cost less. -/
theorem costNanos_mono {left right : TokenUsage} (input : left.inputTokens ≤ right.inputTokens)
    (output : left.outputTokens ≤ right.outputTokens) :
    price.costNanos decimal left ≤ price.costNanos decimal right := by
  have inputCost : price.inputPerMillion * left.inputTokens ≤
      price.inputPerMillion * right.inputTokens :=
    mul_le_mul_of_nonneg_left (Nat.cast_le.mpr input) price.inputNonneg
  have outputCost : price.outputPerMillion * left.outputTokens ≤
      price.outputPerMillion * right.outputTokens :=
    mul_le_mul_of_nonneg_left (Nat.cast_le.mpr output) price.outputNonneg
  apply moneyToNanos_mono
  apply decimal.monotone
  apply div_le_div_of_nonneg_right _ (by norm_num)
  apply decimal.monotone
  exact add_le_add (decimal.monotone inputCost) (decimal.monotone outputCost)

/-- The key under which a price version must be unique. -/
def versionKey : String × String × Option String × String × String :=
  (price.provider, price.model, price.providerVersion, price.currency, price.priceVersion)

/-- The key under which an effective date must be unique. -/
def dateKey : String × String × Option String × String × Instant :=
  (price.provider, price.model, price.providerVersion, price.currency, price.effectiveFrom)

/-- The key `resolve` prefers: an exact provider version, then the later date. -/
def precedes (other : ModelPrice) : Bool :=
  if price.providerVersion.isSome = other.providerVersion.isSome then
    price.effectiveFrom.Before other.effectiveFrom
  else other.providerVersion.isSome

end ModelPrice

/-- `PriceCatalog`. -/
structure PriceCatalog where
  prices : List ModelPrice
  versions : (prices.map ModelPrice.versionKey).Nodup
  dates : (prices.map ModelPrice.dateKey).Nodup

/-- `PriceCatalog.resolve`; the first of several greatest prices is taken. -/
def PriceCatalog.resolve (catalog : PriceCatalog) (provider model : String)
    (version : Option String) (currency : String) (moment : Instant) : Option ModelPrice :=
  let eligible := catalog.prices.filter fun price =>
    price.provider = provider ∧ price.model = model ∧ price.currency = currency ∧
      ¬ moment.Before price.effectiveFrom ∧
      (price.providerVersion = none ∨ price.providerVersion = version)
  match eligible with
  | [] => none
  | first :: rest =>
    some (rest.foldl (fun best price => if best.precedes price then price else best) first)

end AegisRag.Billing
