import Cl8yDexBots.CosmWasm.Pair

/-! Pair messages and price arithmetic that the two swapping vaults have in common. -/

namespace Cl8yDexBots.SwapVault.Pricing

open Foundation.Checked Foundation.Words CosmWasm.Std CosmWasm.Pair

structure ObserveResponse where
  priceACumulatives : List Uint128

structure HybridSwapParams where
  poolInput : Uint128
  bookInput : Uint128
  maxMakerFills : ℕ
  bookStartHint : Option ℕ
  deriving DecidableEq

def HybridSwapParams.poolOnly (amount : Uint128) : HybridSwapParams :=
  { poolInput := amount, bookInput := 0, maxMakerFills := 1, bookStartHint := none }

structure HybridSimulationResponse where
  returnAmount : Uint128

structure PendingSwap where
  capturedTwap : Decimal
  balances : Fin 2 → Uint128
  preDeviationBps : ℕ
  offerIndex : Fin 2
  amount : Uint128
  minReturn : Uint128
  deriving DecidableEq

variable {ε : Type} [StdFailure ε]

def checkedRatio (value numerator denominator : Uint128) : Except ε Uint128 :=
  checkedRatioOr value numerator denominator (genericErr "arithmetic denominator is zero")
    (genericErr "arithmetic result overflow")

def expectedReturn (amount : Uint128) (offerIndex : Fin 2) (price : Decimal) : Except ε Uint128 :=
  if offerIndex = 0 then checkedRatio amount price.atomics Decimal.one.atomics
  else checkedRatio amount Decimal.one.atomics price.atomics

def twapFromObservation (newer older : Uint128) (window : ℕ) : Except ε Decimal := do
  let difference ← subOrPanic newer older
  ensure (window != 0) (ofArithmetic .divideByZero)
  let atomics ← narrow (ofArithmetic .overflow) (difference.val / window)
  let price := Decimal.mk atomics
  ensure (!price.isZero) (genericErr "empty TWAP price")
  .ok price

def observedPrice (response : ObserveResponse) (window : ℕ) : Except ε Decimal :=
  match response.priceACumulatives with
  | [newer, older] =>
    if newer ≤ older then .error (genericErr "empty TWAP history")
    else twapFromObservation newer older window
  | _ => .error (genericErr "empty TWAP history")

def distance (a b : ℕ) : ℕ := (a - b) + (b - a)

lemma distance_lt (a b : Uint256) : distance a.val b.val < 2 ^ 256 := by
  have ha := a.lt
  have hb := b.lt
  rw [distance]
  omega

def deviationFrom (actual expected : Uint256) : Except ε ℕ :=
  if expected.val ≤ distance actual.val expected.val then .ok 10000
  else do
    let value ← withError (genericErr "deviation overflow")
      (checkedMultiplyRatio (⟨distance actual.val expected.val, distance_lt actual expected⟩ : Uint256)
        10000 expected.val : Except StdError Uint256)
    .ok (min value.val 10000)

def afterBps (amount : Uint128) (bps : ℕ) : Except ε Uint128 :=
  if 10000 < bps then .error (ofArithmetic .panicked) else multiplyRatio amount (10000 - bps) 10000

def validatePoolSafety (relativeDeviation : Decimal → Decimal → Except ε ℕ) (pool : PoolResponse)
    (twap : Decimal) (offerIndex : Fin 2) (amount : Uint128) (maxSpotTwapDeviationBps maxTradePoolBps : ℕ)
    (shallow mispriced : ε) : Except ε Unit := do
  let reserves := fun i => (pool.assets i).amount
  ensure (!isZero (reserves 0) && !isZero (reserves 1)) shallow
  let spotAtomics ← checkedRatio (reserves 1) Decimal.one.atomics (reserves 0)
  let deviation ← relativeDeviation ⟨spotAtomics⟩ twap
  ensure (deviation ≤ maxSpotTwapDeviationBps) mispriced
  ensure (amount.val * 10000 ≤ (reserves offerIndex).val * maxTradePoolBps) shallow

def validateSettlement (pending : PendingSwap) (settled : Fin 2 → Uint128) (rejected : ε) :
    Except ε Unit := do
  let offer := pending.offerIndex
  let ask := 1 - offer
  let expectedOffer ← checkedSub (pending.balances offer) pending.amount
  let minimumAsk ← checkedAdd (pending.balances ask) pending.minReturn
  ensure (settled offer = expectedOffer ∧ minimumAsk ≤ settled ask) rejected

def validateRebalanceOutcome (previous current tolerance : ℕ) (rejected : ε) : Except ε Bool := do
  ensure (¬ (previous ≤ current ∧ tolerance < current)) rejected
  .ok (current ≤ tolerance)

def validateRiskControls (maxTradeBps maxExecutionDeviationBps quoteSlippageBps
    maxSpotTwapDeviationBps maxTradePoolBps : ℕ) (maxSpread : Decimal) (rejected : ε) :
    Except ε Unit :=
  ensure (¬ (maxTradeBps = 0 ∨ 5000 < maxTradeBps ∨ 1000 < maxExecutionDeviationBps
    ∨ 500 < quoteSlippageBps ∨ maxSpotTwapDeviationBps = 0 ∨ 1000 < maxSpotTwapDeviationBps
    ∨ maxTradePoolBps = 0 ∨ 2000 < maxTradePoolBps ∨ maxSpread.isZero
    ∨ Decimal.percent 10 Decimal.ten_percent_lt < maxSpread)) rejected

def deviationBps (actual expected : ℕ) : ℕ := min (distance actual expected * 10000 / expected) 10000

lemma deviationFrom_eq {actual expected : Uint256} (h : expected.val ≠ 0) :
    (deviationFrom actual expected : Except ε ℕ) = .ok (deviationBps actual.val expected.val) := by
  rw [deviationFrom, deviationBps]
  split
  · rename_i hle
    have hb : 10000 ≤ distance actual.val expected.val * 10000 / expected.val := by
      rw [Nat.le_div_iff_mul_le (Nat.pos_of_ne_zero h), Nat.mul_comm]
      exact Nat.mul_le_mul_right _ hle
    rw [min_eq_right hb]
  · rename_i hlt
    have hb : distance actual.val expected.val * 10000 / expected.val < 2 ^ 256 := by
      have hq : distance actual.val expected.val * 10000 / expected.val ≤ 10000 := by
        refine Nat.div_le_of_le_mul ?_
        exact Nat.mul_le_mul_right _ (by omega)
      omega
    have hv : (checkedMultiplyRatio (⟨_, distance_lt actual expected⟩ : Uint256) 10000 expected.val :
        Except StdError Uint256) = .ok ⟨_, hb⟩ := checkedMultiplyRatio_eq_ok.mpr ⟨h, rfl⟩
    rw [hv]
    rfl

@[simp] lemma checkedRatio_eq_ok {value numerator denominator c : Uint128} :
    (checkedRatio value numerator denominator : Except ε _) = .ok c ↔
      denominator.val ≠ 0 ∧ c.val = value.val * numerator.val / denominator.val :=
  checkedRatioOr_eq_ok

lemma decimalFractional_pos : 0 < decimalFractional := by decide

lemma afterBps_le {amount floored : Uint128} {bps : ℕ}
    (h : (afterBps amount bps : Except ε _) = .ok floored) : floored.val ≤ amount.val := by
  rw [afterBps] at h
  split at h
  · cases h
  · rw [(multiplyRatio_eq_ok.mp h).2]
    exact Nat.div_le_of_le_mul (by rw [Nat.mul_comm]; exact Nat.mul_le_mul_right _ (Nat.sub_le _ _))

omit [StdFailure ε] in
@[simp] lemma validateRiskControls_eq_ok {a b c d e : ℕ} {m : Decimal} {err : ε} {u : Unit} :
    validateRiskControls a b c d e m err = .ok u ↔
      (1 ≤ a ∧ a ≤ 5000) ∧ b ≤ 1000 ∧ c ≤ 500 ∧ (1 ≤ d ∧ d ≤ 1000) ∧ (1 ≤ e ∧ e ≤ 2000) ∧
        m.isZero = false ∧ m ≤ .percent 10 Decimal.ten_percent_lt := by
  simp only [validateRiskControls, ensure_eq_ok, decide_eq_true_eq, not_or, not_lt,
    Bool.not_eq_true, Nat.one_le_iff_ne_zero]
  tauto

lemma validateSettlement_of_paid {settled : Fin 2 → Uint128} {pending : PendingSwap} {returned : Uint128}
    {rejected : ε}
    (hoffer : (settled pending.offerIndex).val + pending.amount.val
      = (pending.balances pending.offerIndex).val)
    (hask : (settled (1 - pending.offerIndex)).val
      = (pending.balances (1 - pending.offerIndex)).val + returned.val)
    (hleast : pending.minReturn.val ≤ returned.val) :
    validateSettlement pending settled rejected = .ok () := by
  have hbound := (settled (1 - pending.offerIndex)).lt
  simp only [validateSettlement, bind_eq_ok, checkedSub_eq_ok, checkedAdd_eq_ok, ensure_eq_ok,
    decide_eq_true_eq]
  refine ⟨settled pending.offerIndex, ⟨by omega, by omega⟩,
    ⟨(pending.balances (1 - pending.offerIndex)).val + pending.minReturn.val, by omega⟩, rfl, rfl, ?_⟩
  rw [le_iff]
  dsimp only
  omega

end Cl8yDexBots.SwapVault.Pricing
