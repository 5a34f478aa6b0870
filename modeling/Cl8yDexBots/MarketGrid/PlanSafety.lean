import Cl8yDexBots.MarketGrid.GridCells
import Cl8yDexBots.MarketGrid.RebalanceLiveness

/-! The unchecked arithmetic of a plan stays in range wherever the checked one before it does. -/

namespace Cl8yDexBots.MarketGrid.PlanSafety

open Foundation.Checked Foundation.Words CosmWasm.Std SwapVault.Pricing SwapVault.Deviation
open State Planning Vault Runs RebalanceLiveness

variable {holdings : Fin 2 → Uint128} {price : Decimal} {config : Config} {cell gridCount maxTradeBps : ℕ}

lemma afterBps_ok {bps : ℕ} (h : bps ≤ 10000) (amount : Uint128) :
    ∃ floored, (afterBps amount bps : Result Uint128) = .ok floored := by
  obtain ⟨floored, hfloored, -⟩ :
      ∃ c : Uint128, (multiplyRatio amount (10000 - bps) 10000 : Result Uint128) = .ok c ∧ _ :=
    multiplyRatio_of_le (by decide) (Nat.sub_le _ _)
  exact ⟨floored, by rw [afterBps, if_neg (not_lt.mpr h), hfloored]⟩

lemma fromRatio_ok {numerator denominator : ℕ} (some_parts : denominator ≠ 0) (le : numerator ≤ denominator) :
    ∃ weight : Decimal, (Decimal.fromRatio numerator denominator : Result Decimal) = .ok weight ∧
      weight.atomics.val = numerator * decimalFractional / denominator := by
  have hfits := (weight_le le).trans_lt (show decimalFractional < 2 ^ 128 by decide)
  exact ⟨⟨⟨_, hfits⟩⟩, Decimal.fromRatio_eq_ok.mpr ⟨some_parts, rfl⟩, rfl⟩

lemma targetWeightBps_ok (some_cells : config.gridCount ≠ 0) (le : cell ≤ config.gridCount) :
    ∃ weightBps, (targetWeightBps cell config : Result ℕ) = .ok weightBps := by
  obtain ⟨weight, hweight, hweightValue⟩ := fromRatio_ok some_cells le
  obtain ⟨scale, hscale, hscaleValue⟩ : ∃ scale : Decimal, (Decimal.fromRatio 10000 1 : Result Decimal) = .ok scale ∧
      scale.atomics.val = 10000 * decimalFractional :=
    ⟨⟨⟨10000 * decimalFractional, by decide⟩⟩, rfl, rfl⟩
  have hone : weight.atomics.val ≤ decimalFractional := hweightValue ▸ weight_le le
  have hfits : weight.atomics.val * scale.atomics.val / decimalFractional < 2 ^ 128 := by
    refine (Nat.div_le_of_le_mul ?_).trans_lt (show 10000 * decimalFractional < 2 ^ 128 by decide)
    rw [hscaleValue]
    exact Nat.mul_le_mul_right _ hone
  obtain ⟨scaled, hscaled⟩ : ∃ scaled, (weight.mul scale : Result Decimal) = .ok scaled :=
    ⟨⟨⟨_, hfits⟩⟩, by rw [Decimal.mul, narrow_of_lt hfits, ok_bind]⟩
  refine ⟨min scaled.toUintFloor 10000, ?_⟩
  rw [targetWeightBps, if_neg some_cells, hweight, ok_bind, hscale, ok_bind, hscaled, ok_bind]

lemma uncappedOffer_ok {value target : Uint256} (some_price : price.atomics.val ≠ 0) :
    ∃ index uncapped, (plannedOffer.uncappedOffer price value target : Result (Fin 2 × Uint256)) =
      .ok (index, uncapped) := by
  have hunit : (to256 Decimal.one.atomics).val ≠ 0 := decimalFractional_pos.ne'
  by_cases hlt : target < value
  · obtain ⟨excess, hexcess⟩ : ∃ c : Uint256, (subOrPanic value target : Result Uint256) = .ok c :=
      ⟨⟨_, (Nat.sub_le _ _).trans_lt value.lt⟩, subOrPanic_eq_ok.mpr ⟨hlt.le, rfl⟩⟩
    obtain ⟨amount, hamount⟩ :
        ∃ c : Uint256, (divOrPanic excess (to256 Decimal.one.atomics) : Result Uint256) = .ok c :=
      ⟨⟨_, (Nat.div_le_self _ _).trans_lt excess.lt⟩, divOrPanic_eq_ok.mpr ⟨hunit, rfl⟩⟩
    refine ⟨1, amount, ?_⟩
    rw [plannedOffer.uncappedOffer, if_pos hlt, hexcess, ok_bind, hamount, ok_bind]
  · obtain ⟨deficit, hdeficit⟩ : ∃ c : Uint256, (subOrPanic target value : Result Uint256) = .ok c :=
      ⟨⟨_, (Nat.sub_le _ _).trans_lt target.lt⟩, subOrPanic_eq_ok.mpr ⟨not_lt.mp hlt, rfl⟩⟩
    obtain ⟨amount, hamount⟩ : ∃ c : Uint256, (divOrPanic deficit (to256 price.atomics) : Result Uint256) = .ok c :=
      ⟨⟨_, (Nat.div_le_self _ _).trans_lt deficit.lt⟩, divOrPanic_eq_ok.mpr ⟨some_price, rfl⟩⟩
    refine ⟨0, amount, ?_⟩
    rw [plannedOffer.uncappedOffer, if_neg hlt, hdeficit, ok_bind, hamount, ok_bind]

lemma plannedOffer_total (some_price : price.atomics.val ≠ 0) (some_cells : gridCount ≠ 0) (le : cell ≤ gridCount)
    (capped : maxTradeBps ≤ 10000)
    (hvalue : (holdings 0).val * price.atomics.val + (holdings 1).val * decimalFractional < 2 ^ 256)
    (hweighted : ((holdings 0).val * price.atomics.val + (holdings 1).val * decimalFractional)
      * (cell * decimalFractional / gridCount) < 2 ^ 256) :
    (∃ offer, (plannedOffer holdings price cell gridCount maxTradeBps : Result _) = .ok offer) ∨
      (plannedOffer holdings price cell gridCount maxTradeBps : Result _) =
        .error (genericErr "rebalance amount overflow") := by
  have hmax : max gridCount 1 = gridCount := max_eq_left (Nat.pos_of_ne_zero some_cells)
  obtain ⟨weight, hweight, hweightValue⟩ := fromRatio_ok some_cells le
  obtain ⟨value0, hvalue0⟩ : ∃ c : Uint256, c.val = (holdings 0).val * price.atomics.val :=
    ⟨⟨_, (Nat.le_add_right _ _).trans_lt hvalue⟩, rfl⟩
  obtain ⟨value1, hvalue1⟩ : ∃ c : Uint256, c.val = (holdings 1).val * decimalFractional :=
    ⟨⟨_, (Nat.le_add_left _ _).trans_lt hvalue⟩, rfl⟩
  obtain ⟨total, htotal⟩ : ∃ c : Uint256, c.val = value0.val + value1.val :=
    ⟨⟨_, by rw [hvalue0, hvalue1]; exact hvalue⟩, rfl⟩
  obtain ⟨weighted, hweightedValue⟩ : ∃ c : Uint256, c.val = total.val * weight.atomics.val :=
    ⟨⟨_, by rw [htotal, hvalue0, hvalue1, hweightValue]; exact hweighted⟩, rfl⟩
  obtain ⟨target, htarget⟩ : ∃ c : Uint256, c.val = weighted.val / decimalFractional :=
    ⟨⟨_, (Nat.div_le_self _ _).trans_lt weighted.lt⟩, rfl⟩
  have h0 : (mulOrPanic (to256 (holdings 0)) (to256 price.atomics) : Result Uint256) = .ok value0 :=
    mulOrPanic_eq_ok.mpr hvalue0
  have h1 : (mulOrPanic (to256 (holdings 1)) (to256 Decimal.one.atomics) : Result Uint256) = .ok value1 :=
    mulOrPanic_eq_ok.mpr hvalue1
  have h2 : (addOrPanic value0 value1 : Result Uint256) = .ok total := addOrPanic_eq_ok.mpr htotal
  have h3 : (mulOrPanic total (to256 weight.atomics) : Result Uint256) = .ok weighted :=
    mulOrPanic_eq_ok.mpr hweightedValue
  have h4 : (divOrPanic weighted (to256 Decimal.one.atomics) : Result Uint256) = .ok target :=
    divOrPanic_eq_ok.mpr ⟨decimalFractional_pos.ne', htarget⟩
  obtain ⟨index, uncapped, huncapped⟩ := @uncappedOffer_ok price value1 target some_price
  obtain ⟨cap, hcap, -⟩ :
      ∃ c : Uint128, (multiplyRatio (holdings index) maxTradeBps 10000 : Result Uint128) = .ok c ∧ _ :=
    multiplyRatio_of_le (by decide) capped
  rw [plannedOffer, hmax, hweight, ok_bind, h0, ok_bind, h1, ok_bind, h2, ok_bind, h3, ok_bind, h4, ok_bind]
  by_cases heq : value1 = target
  · rw [if_pos heq]
    exact .inl ⟨none, rfl⟩
  · rw [if_neg heq, huncapped, ok_bind]
    dsimp only
    rw [hcap, ok_bind]
    by_cases hfits : uncapped.val < 2 ^ 128
    · rw [narrow_of_lt hfits, ok_bind]
      exact .inl ⟨_, rfl⟩
    · rw [narrow, dif_neg hfits, error_bind]
      exact .inr rfl

/-- Of an accepted configuration, at any holdings and any price but zero: wherever the allocation deviation is computed
without an error, so are the cell, its weight and, unless its amount is reported not to fit, the offer; and the floors
that follow it are always computed. -/
theorem planning_never_panics {config : Config} {holdings : Fin 2 → Uint128} {price : Decimal} {deviation : ℕ}
    (valid : Valid config) (some_price : price.isZero = false)
    (deviates : (allocationDeviation holdings price config : Result ℕ) = .ok deviation) :
    ∃ cell, (configCell price config : Result ℕ) = .ok cell ∧
      (∃ weightBps, (targetWeightBps cell config : Result ℕ) = .ok weightBps) ∧
      ((∃ offer, (plannedOffer holdings price cell config.gridCount config.maxTradeBps : Result _) = .ok offer) ∨
        (plannedOffer holdings price cell config.gridCount config.maxTradeBps : Result _) =
          .error (genericErr "rebalance amount overflow")) ∧
      ∀ amount, (∃ executionFloor, (afterBps amount config.maxExecutionDeviationBps : Result _) = .ok executionFloor) ∧
        ∃ quoteFloor, (afterBps amount config.quoteSlippageBps : Result _) = .ok quoteFloor := by
  obtain ⟨some_cells, few⟩ := valid.gridCount
  have hcell := @GridCells.gridCell_eq price config.lowerPrice config.upperPrice config.gridCount some_cells few
  have hle := gridCell_le hcell
  obtain ⟨hvalue, hweighted, -⟩ := allocationDeviation_ok hcell deviates
  have hprice : price.atomics.val ≠ 0 := by simpa [Decimal.isZero, isZero] using some_price
  have htrade : config.maxTradeBps ≤ 10000 := valid.maxTrade.2.trans (by decide)
  have hcells : config.gridCount ≠ 0 := Nat.ne_of_gt some_cells
  refine ⟨_, hcell, targetWeightBps_ok hcells hle, plannedOffer_total hprice hcells hle htrade hvalue hweighted,
    fun amount => ⟨afterBps_ok (valid.execution.trans (by decide)) amount,
      afterBps_ok (valid.quote.trans (by decide)) amount⟩⟩

theorem planning_at_mid_price : ∃ cell, (configCell midPrice midStorage.config : Result ℕ) = .ok cell ∧
    ((∃ offer, (plannedOffer midHoldings midPrice cell 10 2500 : Result _) = .ok offer) ∨
      (plannedOffer midHoldings midPrice cell 10 2500 : Result _) =
        .error (genericErr "rebalance amount overflow")) := by
  have hdeviation : (allocationDeviation midHoldings midPrice midStorage.config : Result ℕ) = .ok 5000 := by
    decide +kernel
  have hvalid : Valid midStorage.config := (freshStorage_reachable midPrice 5 rfl).valid
  obtain ⟨cell, hcell, -, hoffer, -⟩ := planning_never_panics hvalid rfl hdeviation
  exact ⟨cell, hcell, hoffer⟩

end Cl8yDexBots.MarketGrid.PlanSafety
