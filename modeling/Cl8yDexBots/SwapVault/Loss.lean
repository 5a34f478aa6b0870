import Cl8yDexBots.SwapVault.Pricing

/-! What a swapping vault can lose in one settled rebalance, at the price it captured. -/

namespace Cl8yDexBots.SwapVault.Loss

open Foundation.Checked Foundation.Words CosmWasm.Std CosmWasm.Pair Pricing

variable {ε : Type} [StdFailure ε] {price : Decimal} {offer : Fin 2} {held settled : Fin 2 → Uint128}

def twapValue (price : Decimal) (offer : Fin 2) (amount : ℕ) : ℚ :=
  if offer = 0 then amount * price.atomics.val / decimalFractional
  else amount * decimalFractional / price.atomics.val

def nav (price : Decimal) (offer : Fin 2) (held : Fin 2 → Uint128) : ℚ :=
  (held (1 - offer)).val + twapValue price offer (held offer).val

structure LossBounded (price : Decimal) (offer : Fin 2) (amount maxTradeBps maxTradePoolBps
    maxExecutionDeviationBps : ℕ) (reserves held settled : Fin 2 → Uint128) : Prop where
  spent : (settled offer).val + amount = (held offer).val
  capped : amount ≤ (held offer).val * maxTradeBps / 10000
  pooled : amount * 10000 ≤ (reserves offer).val * maxTradePoolBps
  received : (held (1 - offer)).val +
    twapValue price offer amount * (1 - maxExecutionDeviationBps / 10000) - 2 ≤ (settled (1 - offer)).val
  kept : nav price offer held - (twapValue price offer amount * (maxExecutionDeviationBps / 10000) + 2)
    ≤ nav price offer settled

lemma div_lt_succ (n d : ℕ) : (n : ℚ) / d < ((n / d : ℕ) : ℚ) + 1 := by
  rw [← Nat.floor_div_eq_div (K := ℚ)]
  exact Nat.lt_floor_add_one _

lemma twapValue_add (a b : ℕ) : twapValue price offer (a + b) = twapValue price offer a + twapValue price offer b := by
  simp only [twapValue]
  split <;> push_cast <;> ring

lemma expectedReturn_lt {amount returned : Uint128}
    (h : (expectedReturn amount offer price : Except ε _) = .ok returned) :
    twapValue price offer amount.val < returned.val + 1 := by
  rw [expectedReturn] at h
  rw [twapValue]
  split at h <;> rename_i hoffer
  · rw [if_pos hoffer]
    obtain ⟨-, hval⟩ := checkedRatio_eq_ok.mp h
    rw [hval, Decimal.one_atomics_val]
    exact_mod_cast div_lt_succ (amount.val * price.atomics.val) decimalFractional
  · rw [if_neg hoffer]
    obtain ⟨-, hval⟩ := checkedRatio_eq_ok.mp h
    rw [hval, Decimal.one_atomics_val]
    exact_mod_cast div_lt_succ (amount.val * decimalFractional) price.atomics.val

lemma afterBps_lt {amount floored : Uint128} {bps : ℕ}
    (h : (afterBps amount bps : Except ε _) = .ok floored) :
    bps ≤ 10000 ∧ (amount.val : ℚ) * (1 - bps / 10000) < floored.val + 1 := by
  rw [afterBps] at h
  split at h
  · cases h
  · rename_i hbps
    have hle : bps ≤ 10000 := Nat.le_of_not_lt hbps
    obtain ⟨-, hval⟩ := multiplyRatio_eq_ok.mp h
    refine ⟨hle, ?_⟩
    have hdiv := div_lt_succ (amount.val * (10000 - bps)) 10000
    rw [← hval] at hdiv
    push_cast [Nat.cast_sub hle] at hdiv
    calc (amount.val : ℚ) * (1 - bps / 10000) = amount.val * (10000 - bps) / 10000 := by ring
      _ < floored.val + 1 := hdiv

lemma floors_lt {amount returned floored : Uint128} {bps : ℕ}
    (hreturned : (expectedReturn amount offer price : Except ε _) = .ok returned)
    (hfloored : (afterBps returned bps : Except ε _) = .ok floored) :
    twapValue price offer amount.val * (1 - bps / 10000) - 2 ≤ floored.val := by
  have hvalue := expectedReturn_lt hreturned
  obtain ⟨hbps, hkept⟩ := afterBps_lt hfloored
  have hfraction : (bps : ℚ) / 10000 ≤ 1 := by
    rw [div_le_one (by norm_num)]
    exact_mod_cast hbps
  have hnonneg : (0 : ℚ) ≤ 1 - bps / 10000 := by linarith
  have hshrunk : twapValue price offer amount.val * (1 - bps / 10000)
      ≤ (returned.val + 1) * (1 - bps / 10000) := mul_le_mul_of_nonneg_right hvalue.le hnonneg
  have hunit : (0 : ℚ) ≤ (bps : ℚ) / 10000 := by positivity
  nlinarith

lemma validateSettlement_ok {pending : PendingSwap} {rejected : ε} {u : Unit}
    (h : validateSettlement pending settled rejected = .ok u) :
    (settled pending.offerIndex).val + pending.amount.val = (pending.balances pending.offerIndex).val ∧
      (pending.balances (1 - pending.offerIndex)).val + pending.minReturn.val
        ≤ (settled (1 - pending.offerIndex)).val := by
  simp only [validateSettlement, bind_eq_ok, checkedSub_eq_ok, checkedAdd_eq_ok, ensure_eq_ok,
    decide_eq_true_eq] at h
  obtain ⟨expected, ⟨hle, hexpected⟩, least, hleast, hoffer, hask⟩ := h
  rw [le_iff] at hask
  rw [hoffer]
  exact ⟨by omega, by omega⟩

lemma validatePoolSafety_ok {relativeDeviation : Decimal → Decimal → Except ε ℕ} {pool : PoolResponse}
    {amount : Uint128} {maxSpotTwapDeviationBps maxTradePoolBps : ℕ} {shallow mispriced : ε} {u : Unit}
    (h : validatePoolSafety relativeDeviation pool price offer amount maxSpotTwapDeviationBps
      maxTradePoolBps shallow mispriced = .ok u) :
    amount.val * 10000 ≤ (pool.assets offer).amount.val * maxTradePoolBps := by
  simp only [validatePoolSafety, bind_eq_ok, ensure_eq_ok, decide_eq_true_eq] at h
  obtain ⟨_, -, _, -, _, -, _, -, hdepth⟩ := h
  exact hdepth

/-- The checks of the plan, of the pool and of the settlement, put together. -/
theorem lossBounded_of_settled {pending : PendingSwap} {returned floored : Uint128} {rejected : ε} {u : Unit}
    {maxTradeBps maxTradePoolBps maxExecutionDeviationBps : ℕ} {reserves : Fin 2 → Uint128}
    (hcapped : pending.amount.val ≤ (pending.balances pending.offerIndex).val * maxTradeBps / 10000)
    (hpooled : pending.amount.val * 10000 ≤ (reserves pending.offerIndex).val * maxTradePoolBps)
    (hreturned : (expectedReturn pending.amount pending.offerIndex pending.capturedTwap : Except ε _)
      = .ok returned)
    (hfloored : (afterBps returned maxExecutionDeviationBps : Except ε _) = .ok floored)
    (hleast : floored.val ≤ pending.minReturn.val)
    (hsettled : validateSettlement pending settled rejected = .ok u) :
    LossBounded pending.capturedTwap pending.offerIndex pending.amount.val maxTradeBps maxTradePoolBps
      maxExecutionDeviationBps reserves pending.balances settled := by
  obtain ⟨hspent, hpaid⟩ := validateSettlement_ok hsettled
  have hfloors := floors_lt hreturned hfloored
  have hreceived : (pending.balances (1 - pending.offerIndex)).val +
      twapValue pending.capturedTwap pending.offerIndex pending.amount.val
        * (1 - maxExecutionDeviationBps / 10000) - 2 ≤ ((settled (1 - pending.offerIndex)).val : ℚ) := by
    have hpaid' : ((pending.balances (1 - pending.offerIndex)).val : ℚ) + pending.minReturn.val
        ≤ (settled (1 - pending.offerIndex)).val := by exact_mod_cast hpaid
    have hleast' : (floored.val : ℚ) ≤ pending.minReturn.val := by exact_mod_cast hleast
    linarith
  refine ⟨hspent, hcapped, hpooled, hreceived, ?_⟩
  rw [nav, nav, ← hspent, twapValue_add]
  linarith

end Cl8yDexBots.SwapVault.Loss
