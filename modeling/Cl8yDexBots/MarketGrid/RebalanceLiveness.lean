import Cl8yDexBots.MarketGrid.Runs
import Cl8yDexBots.SwapVault.Deviation

/-! When a rebalance that executes exactly at the TWAP price passes its own outcome check. -/

namespace Cl8yDexBots.MarketGrid.RebalanceLiveness

open Foundation.Checked Foundation.Words Foundation.SubMessages CosmWasm.Std
open CosmWasm.Pair SwapVault.Pricing SwapVault.Deviation State Planning Vault Runs

section Arithmetic

variable {d : ℕ}

def targetValue (d p w h0 h1 : ℕ) : ℕ := (h0 * p + h1 * d) * w / d

lemma targetValue_le_of_value_le {p w h0 h1 h0' h1' : ℕ}
    (h : h0' * p + h1' * d ≤ h0 * p + h1 * d) :
    targetValue d p w h0' h1' ≤ targetValue d p w h0 h1 :=
  Nat.div_le_div_right (Nat.mul_le_mul_right _ h)

lemma targetValue_le_add {p w h0 h1 h0' h1' spent : ℕ} (hd : 0 < d)
    (h : h0 * p + h1 * d ≤ h0' * p + h1' * d + spent * d) :
    targetValue d p w h0 h1 ≤ targetValue d p w h0' h1' + spent * w := by
  simp only [targetValue]
  rw [← Nat.add_mul_div_right _ _ hd]
  refine Nat.div_le_div_right ?_
  calc (h0 * p + h1 * d) * w
      ≤ (h0' * p + h1' * d + spent * d) * w := Nat.mul_le_mul_right _ h
    _ = (h0' * p + h1' * d) * w + spent * w * d := by ring

lemma mul_le_targetValue (hd : 0 < d) (p w h0 h1 : ℕ) : h1 * w ≤ targetValue d p w h0 h1 := by
  rw [targetValue]
  rw [Nat.le_div_iff_mul_le hd]
  calc h1 * w * d = h1 * d * w := by ring
    _ ≤ (h0 * p + h1 * d) * w := Nat.mul_le_mul_right _ (Nat.le_add_left _ _)

/-- Selling no more than the excess of token 1, and not all of it, never raises the deviation. Where the
target follows the sale closely it falls less than the holding; otherwise what is left is already below it. -/
lemma deviates_of_sellToken1 {k p w h0 h1 sold bought : ℕ} (hd : 0 < d)
    (hover : targetValue d p w h0 h1 < h1 * d)
    (hsold : sold * d ≤ h1 * d - targetValue d p w h0 h1)
    (hrest : sold < h1) (hbought : bought * p ≤ sold * d)
    (h : Deviates k ((h1 - sold) * d) (targetValue d p w (h0 + bought) (h1 - sold))) :
    Deviates k (h1 * d) (targetValue d p w h0 h1) := by
  have hleft : (h1 - sold) * d + sold * d = h1 * d := by
    rw [← Nat.add_mul, Nat.sub_add_cancel hrest.le]
  have hvalue : (h0 + bought) * p = h0 * p + bought * p := Nat.add_mul _ _ _
  have hfall : targetValue d p w (h0 + bought) (h1 - sold) ≤ targetValue d p w h0 h1 :=
    targetValue_le_of_value_le (by omega)
  have hfollow : targetValue d p w h0 h1 ≤ targetValue d p w (h0 + bought) (h1 - sold) + sold * w :=
    targetValue_le_add hd (by omega)
  have hkept := mul_le_targetValue hd p w (h0 + bought) (h1 - sold)
  rw [deviates_above_iff (by omega)] at h ⊢
  refine ⟨hover, ?_⟩
  rcases Nat.lt_or_ge (10000 * d) ((k + 10000) * w) with hw | hw
  · exfalso
    have hpos : 0 < h1 - sold := by omega
    have hbig : 10000 * ((h1 - sold) * d)
        < (k + 10000) * targetValue d p w (h0 + bought) (h1 - sold) := by
      calc 10000 * ((h1 - sold) * d)
          = (h1 - sold) * (10000 * d) := by ring
        _ < (h1 - sold) * ((k + 10000) * w) := Nat.mul_lt_mul_of_pos_left hw hpos
        _ = (k + 10000) * ((h1 - sold) * w) := by ring
        _ ≤ (k + 10000) * targetValue d p w (h0 + bought) (h1 - sold) := Nat.mul_le_mul_left _ hkept
    omega
  · calc (k + 10000) * targetValue d p w h0 h1
        ≤ (k + 10000) * (targetValue d p w (h0 + bought) (h1 - sold) + sold * w) :=
          Nat.mul_le_mul_left _ hfollow
      _ = (k + 10000) * targetValue d p w (h0 + bought) (h1 - sold) + sold * ((k + 10000) * w) := by ring
      _ ≤ 10000 * ((h1 - sold) * d) + sold * (10000 * d) :=
          Nat.add_le_add h.2 (Nat.mul_le_mul_left _ hw)
      _ = 10000 * ((h1 - sold) * d + sold * d) := by ring
      _ = 10000 * (h1 * d) := by rw [hleft]

lemma deviates_of_buyToken1 {k p w h0 h1 sold bought : ℕ} (hd : 0 < d) (hk : k ≤ 10000) (hw : w ≤ d)
    (hsold : sold * p ≤ targetValue d p w h0 h1 - h1 * d)
    (hunder : h1 * d < targetValue d p w h0 h1)
    (hrest : sold ≤ h0) (hbought : bought * d ≤ sold * p)
    (h : Deviates k ((h1 + bought) * d) (targetValue d p w (h0 - sold) (h1 + bought))) :
    Deviates k (h1 * d) (targetValue d p w h0 h1) := by
  have hleft : (h0 - sold) * p + sold * p = h0 * p := by
    rw [← Nat.add_mul, Nat.sub_add_cancel hrest]
  have hgain : (h1 + bought) * d = h1 * d + bought * d :=
    Nat.add_mul _ _ _
  have hfall : targetValue d p w (h0 - sold) (h1 + bought) ≤ targetValue d p w h0 h1 :=
    targetValue_le_of_value_le (by omega)
  have hreach : (h1 + bought) * d ≤ targetValue d p w (h0 - sold) (h1 + bought) := by
    have htarget : targetValue d p w h0 h1 * d
        ≤ (h0 * p + h1 * d) * w := Nat.div_mul_le_self _ _
    have hlost : (sold * p - bought * d) * w
        ≤ (sold * p - bought * d) * d := Nat.mul_le_mul_left _ hw
    have hsum : (h0 - sold) * p + (h1 + bought) * d
        + (sold * p - bought * d) = h0 * p + h1 * d := by omega
    rw [targetValue]
    rw [Nat.le_div_iff_mul_le hd]
    have hcover : (h1 + bought) * d * d
        + (sold * p - bought * d) * d
        ≤ targetValue d p w h0 h1 * d := by
      rw [← Nat.add_mul]
      exact Nat.mul_le_mul_right _ (by omega)
    have hexpand : (h0 * p + h1 * d) * w
        = ((h0 - sold) * p + (h1 + bought) * d) * w
          + (sold * p - bought * d) * w := by
      rw [← Nat.add_mul, hsum]
    omega
  rw [deviates_below_iff hk hreach] at h
  rw [deviates_below_iff hk hunder.le]
  refine ⟨hunder, ?_⟩
  calc 10000 * (h1 * d) ≤ 10000 * ((h1 + bought) * d) := by omega
    _ ≤ (10000 - k) * targetValue d p w (h0 - sold) (h1 + bought) := h.2
    _ ≤ (10000 - k) * targetValue d p w h0 h1 := Nat.mul_le_mul_left _ hfall

/-- The holdings after the planned trade, when the pair takes and pays exactly what the price says. -/
def afterPerfectTrade (d p w maxTradeBps h0 h1 : ℕ) : ℕ × ℕ :=
  let target := targetValue d p w h0 h1
  if target < h1 * d then
    let sold := min ((h1 * d - target) / d) (h1 * maxTradeBps / 10000)
    (h0 + sold * d / p, h1 - sold)
  else
    let sold := min ((target - h1 * d) / p) (h0 * maxTradeBps / 10000)
    (h0 - sold, h1 + sold * p / d)

lemma afterPerfectTrade_spec {w maxTradeBps : ℕ} (p h0 h1 : ℕ) (hd : 0 < d) (hw : w ≤ d)
    (hm : maxTradeBps ≤ 5000) :
    let after := afterPerfectTrade d p w maxTradeBps h0 h1
    after.1 * p + after.2 * d ≤ h0 * p + h1 * d ∧
      ∀ k ≤ 10000, Deviates k (after.2 * d) (targetValue d p w after.1 after.2) →
        Deviates k (h1 * d) (targetValue d p w h0 h1) := by
  rw [afterPerfectTrade]
  dsimp only
  split
  · rename_i hover
    set target := targetValue d p w h0 h1 with ht
    set sold := min ((h1 * d - target) / d) (h1 * maxTradeBps / 10000)
      with hsold
    have hpos : 0 < h1 := by
      rcases Nat.eq_zero_or_pos h1 with hz | hpos
      · simp [hz] at hover
      · exact hpos
    have hcap : h1 * maxTradeBps ≤ h1 * 5000 := Nat.mul_le_mul_left _ hm
    have hrest : sold < h1 := by omega
    have hexcess : sold * d ≤ h1 * d - target :=
      (Nat.mul_le_mul_right _ (min_le_left _ _)).trans (Nat.div_mul_le_self _ _)
    have hbought : sold * d / p * p ≤ sold * d := Nat.div_mul_le_self _ _
    refine ⟨?_, fun k _ => deviates_of_sellToken1 hd hover hexcess hrest hbought⟩
    have hleft : (h1 - sold) * d + sold * d = h1 * d := by
      rw [← Nat.add_mul, Nat.sub_add_cancel hrest.le]
    dsimp only
    rw [Nat.add_mul h0]
    omega
  · rename_i hover
    set target := targetValue d p w h0 h1 with ht
    set sold := min ((target - h1 * d) / p) (h0 * maxTradeBps / 10000) with hsold
    have hcap : h0 * maxTradeBps ≤ h0 * 5000 := Nat.mul_le_mul_left _ hm
    have hrest : sold ≤ h0 := by omega
    have hdeficit : sold * p ≤ target - h1 * d :=
      (Nat.mul_le_mul_right _ (min_le_left _ _)).trans (Nat.div_mul_le_self _ _)
    have hbought : sold * p / d * d ≤ sold * p := Nat.div_mul_le_self _ _
    constructor
    · have hleft : (h0 - sold) * p + sold * p = h0 * p := by
        rw [← Nat.add_mul, Nat.sub_add_cancel hrest]
      dsimp only
      rw [Nat.add_mul h1]
      omega
    · intro k hk h
      rcases Nat.lt_or_eq_of_le (Nat.le_of_not_lt hover) with hunder | heq
      · exact deviates_of_buyToken1 hd hk hw hdeficit hunder hrest hbought h
      · have hz : sold = 0 := by
          rw [hsold, ← heq]
          simp
        simpa [hz] using h

lemma targetValue_zero (p h0 h1 : ℕ) : targetValue d p 0 h0 h1 = 0 := by
  simp [targetValue]

lemma afterPerfectTrade_zero_weight {maxTradeBps h1 : ℕ} (p h0 : ℕ) (hd : 0 < d)
    (hm : maxTradeBps ≤ 5000) (h : h1 ≠ 0) : (afterPerfectTrade d p 0 maxTradeBps h0 h1).2 ≠ 0 := by
  have hcap : h1 * maxTradeBps ≤ h1 * 5000 := Nat.mul_le_mul_left _ hm
  rw [afterPerfectTrade]
  rw [targetValue_zero, if_pos (Nat.mul_pos (Nat.pos_of_ne_zero h) hd)]
  dsimp only
  omega

end Arithmetic

def cellWeight (config : Config) (price : Decimal) : ℕ :=
  match (configCell price config : Result ℕ) with
  | .ok cell => cell * decimalFractional / config.gridCount
  | .error _ => 0

/-- Either the allocation is within tolerance before the trade, or the trade takes the deviation below
some whole number of basis points, at most 10000, that it is not below before. -/
def MakesProgress (config : Config) (price : Decimal) (h0 h1 : ℕ) : Prop :=
  let p := price.atomics.val
  let w := cellWeight config price
  let after := afterPerfectTrade decimalFractional p w config.maxTradeBps h0 h1
  ¬ Deviates (config.allocationToleranceBps + 1) (h1 * decimalFractional) (targetValue decimalFractional p w h0 h1) ∨
    ∃ k, 1 ≤ k ∧ k ≤ 10000 ∧ Deviates k (h1 * decimalFractional) (targetValue decimalFractional p w h0 h1) ∧
      ¬ Deviates k (after.2 * decimalFractional) (targetValue decimalFractional p w after.1 after.2)

section Planned

variable {held : Fin 2 → Uint128} {price : Decimal} {config : Config} {cell gridCount maxTradeBps : ℕ}

lemma gridCell_le {lower upper : Decimal} {n : ℕ}
    (h : (gridCell price lower upper n : Result ℕ) = .ok cell) : cell ≤ n := by
  rw [gridCell] at h
  split at h
  · cases h; omega
  · split at h
    · cases h; exact le_rfl
    · simp only [bind_eq_ok] at h
      obtain ⟨_, -, _, -, _, -, h⟩ := h
      split at h
      · cases h; omega
      · cases h; exact min_le_right _ _

lemma plannedOffer_ok {i : Fin 2} {amount : Uint128}
    (h : (plannedOffer held price cell gridCount maxTradeBps : Result _) = .ok (some (i, amount))) :
    let target := targetValue decimalFractional price.atomics.val (cell * decimalFractional / max gridCount 1)
      (held 0).val (held 1).val
    let actual := (held 1).val * decimalFractional
    (i = 1 ∧ target < actual ∧ amount.val =
        min ((actual - target) / decimalFractional) ((held 1).val * maxTradeBps / 10000)) ∨
      (i = 0 ∧ actual < target ∧ amount.val =
        min ((target - actual) / price.atomics.val) ((held 0).val * maxTradeBps / 10000)) := by
  simp only [plannedOffer, bind_eq_ok, Decimal.fromRatio_eq_ok, mulOrPanic_eq_ok, addOrPanic_eq_ok,
    divOrPanic_eq_ok, to256_val, Decimal.one_atomics_val] at h
  obtain ⟨weight, ⟨-, hweight⟩, value0, hvalue0, value1, hvalue1, total, htotal, weighted, hweighted,
    target, ⟨-, htarget⟩, h⟩ := h
  have ht : target.val = targetValue decimalFractional price.atomics.val (cell * decimalFractional / max gridCount 1)
      (held 0).val (held 1).val := by
    rw [htarget, hweighted, htotal, hvalue0, hvalue1, hweight, targetValue]
  dsimp only
  rw [← ht, ← hvalue1]
  split at h
  · simp at h
  · rename_i hne
    simp only [bind_eq_ok] at h
    obtain ⟨⟨j, uncapped⟩, hoffer, cap, hcap, narrowed, hnarrowed, h⟩ := h
    simp only [multiplyRatio_eq_ok, narrow_eq_ok] at hcap hnarrowed
    split at h
    · simp at h
    · simp only [Except.ok.injEq, Option.some.injEq, Prod.mk.injEq] at h
      obtain ⟨rfl, rfl⟩ := h
      rw [min_val, hnarrowed, hcap.2]
      rw [plannedOffer.uncappedOffer] at hoffer
      split at hoffer
      · rename_i hlt
        simp only [bind_eq_ok, subOrPanic_eq_ok, divOrPanic_eq_ok, to256_val, Decimal.one_atomics_val,
          Except.ok.injEq, Prod.mk.injEq] at hoffer
        obtain ⟨excess, ⟨-, hexcess⟩, sold, ⟨-, hsold⟩, rfl, rfl⟩ := hoffer
        exact .inl ⟨rfl, hlt, by rw [hsold, hexcess]⟩
      · rename_i hlt
        simp only [bind_eq_ok, subOrPanic_eq_ok, divOrPanic_eq_ok, to256_val,
          Except.ok.injEq, Prod.mk.injEq] at hoffer
        obtain ⟨deficit, ⟨hle, hdeficit⟩, sold, ⟨-, hsold⟩, rfl, rfl⟩ := hoffer
        have hval : value1.val ≠ target.val := fun he => hne (eq_iff.mpr he)
        exact .inr ⟨rfl, by omega, by rw [hsold, hdeficit]⟩

lemma configCell_weight (h : (configCell price config : Result ℕ) = .ok cell) :
    cellWeight config price = cell * decimalFractional / config.gridCount := by
  simp only [cellWeight, h]

lemma weight_le {n : ℕ} (hcell : cell ≤ n) : cell * decimalFractional / n ≤ decimalFractional :=
  Nat.div_le_of_le_mul (Nat.mul_le_mul_right _ hcell)

lemma allocationDeviation_ok {d : ℕ} (hcell : (configCell price config : Result ℕ) = .ok cell)
    (h : (allocationDeviation held price config : Result ℕ) = .ok d) :
    let w := cell * decimalFractional / config.gridCount
    let value := (held 0).val * price.atomics.val + (held 1).val * decimalFractional
    value < 2 ^ 256 ∧ value * w < 2 ^ 256 ∧
      d = allocationBps ((held 1).val * decimalFractional)
        (targetValue decimalFractional price.atomics.val w (held 0).val (held 1).val) := by
  rw [allocationDeviation] at h
  split at h
  · rename_i hz
    simp only [Bool.and_eq_true, isZero_iff] at hz
    cases h
    simp [hz.1, hz.2, targetValue, allocationBps]
  · simp only [bind_eq_ok, hcell, Decimal.fromRatio_eq_ok, checkedMul_eq_ok, checkedAdd_eq_ok,
      checkedDiv_eq_ok, to256_val, Decimal.one_atomics_val, Except.ok.injEq] at h
    obtain ⟨_, rfl, weight, ⟨-, hweight⟩, value0, hvalue0, value1, hvalue1, total, htotal, weighted,
      hweighted, target, ⟨-, htarget⟩, actual, hactual, h⟩ := h
    have ht : target.val = targetValue decimalFractional price.atomics.val (cell * decimalFractional / config.gridCount)
        (held 0).val (held 1).val := by
      rw [htarget, hweighted, htotal, hvalue0, hvalue1, hweight, targetValue]
    dsimp only
    rw [← hweight, ← hvalue0, ← hvalue1, ← htotal, ← hweighted]
    refine ⟨total.lt, weighted.lt, ?_⟩
    rw [hvalue1, hweight, ← ht, ← hactual, allocationBps]
    split at h
    · rename_i hz
      cases h
      simp only [isZero_iff.mp hz, if_true, isZero_iff]
    · rename_i hz
      have hne : target.val ≠ 0 := fun he => hz (isZero_iff.mpr he)
      rw [ratioDeviation, if_neg hz, deviationFrom_eq hne] at h
      cases h
      rw [if_neg hne]

lemma allocationDeviation_of_bounds (hn : config.gridCount ≠ 0) (hle : cell ≤ config.gridCount)
    (hcell : (configCell price config : Result ℕ) = .ok cell)
    (hvalue : (held 0).val * price.atomics.val + (held 1).val * decimalFractional < 2 ^ 256)
    (hweighted : ((held 0).val * price.atomics.val + (held 1).val * decimalFractional)
      * (cell * decimalFractional / config.gridCount) < 2 ^ 256) :
    (allocationDeviation held price config : Result ℕ) = .ok
      (allocationBps ((held 1).val * decimalFractional) (targetValue decimalFractional price.atomics.val
        (cell * decimalFractional / config.gridCount) (held 0).val (held 1).val)) := by
  have hw := weight_le hle
  obtain ⟨weight, hweight⟩ : ∃ weight : Decimal,
      weight.atomics.val = cell * decimalFractional / config.gridCount :=
    ⟨⟨⟨_, hw.trans_lt (by decide)⟩⟩, rfl⟩
  obtain ⟨value0, hvalue0⟩ : ∃ c : Uint256, c.val = (held 0).val * price.atomics.val :=
    ⟨⟨_, (Nat.le_add_right _ _).trans_lt hvalue⟩, rfl⟩
  obtain ⟨value1, hvalue1⟩ : ∃ c : Uint256, c.val = (held 1).val * decimalFractional :=
    ⟨⟨_, (Nat.le_add_left _ _).trans_lt hvalue⟩, rfl⟩
  obtain ⟨total, htotal⟩ : ∃ c : Uint256, c.val = value0.val + value1.val :=
    ⟨⟨_, by rw [hvalue0, hvalue1]; exact hvalue⟩, rfl⟩
  obtain ⟨weighted, hweighted'⟩ : ∃ c : Uint256, c.val = total.val * weight.atomics.val :=
    ⟨⟨_, by rw [htotal, hvalue0, hvalue1, hweight]; exact hweighted⟩, rfl⟩
  obtain ⟨target, htarget⟩ : ∃ c : Uint256, c.val = weighted.val / decimalFractional :=
    ⟨⟨_, (Nat.div_le_self _ _).trans_lt weighted.lt⟩, rfl⟩
  have ht : target.val = targetValue decimalFractional price.atomics.val (cell * decimalFractional / config.gridCount)
      (held 0).val (held 1).val := by
    rw [htarget, hweighted', htotal, hvalue0, hvalue1, hweight, targetValue]
  rw [← ht, ← hvalue1]
  rw [allocationDeviation]
  split
  · rename_i hz
    simp only [Bool.and_eq_true, isZero_iff] at hz
    have hz1 : value1.val = 0 := by rw [hvalue1, hz.2, Nat.zero_mul]
    have hzt : target.val = 0 := by simp [ht, hz.1, hz.2, targetValue]
    rw [hz1, hzt]
    rfl
  · simp only [bind_eq_ok, hcell, Decimal.fromRatio_eq_ok, checkedMul_eq_ok, checkedAdd_eq_ok,
      checkedDiv_eq_ok, to256_val, Decimal.one_atomics_val, Except.ok.injEq]
    refine ⟨cell, rfl, weight, ⟨hn, hweight⟩, value0, hvalue0, value1, hvalue1, total, htotal, weighted,
      hweighted', target, ⟨decimalFractional_pos.ne', htarget⟩, value1, hvalue1, ?_⟩
    rw [allocationBps]
    split
    · rename_i hz
      simp only [isZero_iff.mp hz, if_true, isZero_iff]
    · rename_i hz
      have hne : target.val ≠ 0 := fun he => hz (isZero_iff.mpr he)
      rw [ratioDeviation, if_neg hz, deviationFrom_eq hne, if_neg hne]

lemma rebalancePlan_ok {q : Querier} {env : Env} {plan : GridStatusResponse} {token : Addr}
    (hprice : (referencePrice q config.pair config.twapWindowSeconds : Result _) = .ok price)
    (hheld : (balances q env.contract config : Result _) = .ok held)
    (h : (rebalancePlan q env config : Result _) = .ok plan) (htoken : plan.offerToken = some token) :
    ∃ cell i amount least, (configCell price config : Result ℕ) = .ok cell ∧
      (allocationDeviation held price config : Result ℕ) = .ok plan.allocationDeviationBps ∧
      (plannedOffer held price cell config.gridCount config.maxTradeBps : Result _)
        = .ok (some (i, amount)) ∧
      (minReturn q config price i amount : Result _) = .ok least ∧
      plan.capturedTwap = price ∧ plan.balances = held ∧ token = config.assetTokens i ∧
      plan.amount = some amount ∧ plan.minReturn = some least := by
  simp only [rebalancePlan, bind_eq_ok, hprice, hheld, Except.ok.injEq] at h
  obtain ⟨_, -, _, rfl, _, rfl, cell, hcell, d, hd, offer, hoffer, ⟨token', amount', least'⟩, hterms, _, -,
    rfl⟩ := h
  dsimp only at htoken hoffer
  cases offer with
  | none =>
    cases hterms
    cases htoken
  | some offer =>
    obtain ⟨i, amount⟩ := offer
    simp only [offerTerms, bind_eq_ok, Except.ok.injEq, Prod.mk.injEq] at hterms
    obtain ⟨least, hleast, rfl, rfl, rfl⟩ := hterms
    cases htoken
    split at hoffer
    · exact ⟨cell, i, amount, least, hcell, hd, hoffer, hleast, rfl, rfl, rfl, rfl, rfl⟩
    · cases hoffer

lemma executeRebalance_ok {q : Querier} {env : Env} {st st₁ : Storage} {info : MessageInfo}
    {deadline : ℕ} {r : Response WasmMsg} (hv : Valid st.config)
    (hprice : (referencePrice q st.config.pair st.config.twapWindowSeconds : Result _) = .ok price)
    (hheld : (balances q env.contract st.config : Result _) = .ok held)
    (h : executeRebalance q env st info deadline = .ok (st₁, r)) :
    ∃ cell d i amount least pool, (configCell price st.config : Result ℕ) = .ok cell ∧
      (allocationDeviation held price st.config : Result ℕ) = .ok d ∧
      (plannedOffer held price cell st.config.gridCount st.config.maxTradeBps : Result _)
        = .ok (some (i, amount)) ∧
      (minReturn q st.config price i amount : Result _) = .ok least ∧
      q.pool st.config.pair = .ok pool ∧
      validatePoolSafety relativeDeviation pool price i amount st.config.maxSpotTwapDeviationBps
        st.config.maxTradePoolBps ContractError.insufficientPoolDepth .unsafePoolPrice = .ok () ∧
      st₁ = { st with pendingSwap := some ⟨price, held, d, i, amount, least⟩ } := by
  simp only [executeRebalance, bind_eq_ok, orError_eq_ok, liftStd_eq_ok, Except.ok.injEq, Prod.mk.injEq] at h
  obtain ⟨_, -, _, -, _, -, _, -, _, -, plan, hplan, _, -, token, htoken, amount', hamount, least', hleast,
    pool, hpool, _, hsafe, rfl, -⟩ := h
  obtain ⟨cell, i, amount, least, hcell, hd, hoffer, hleast', htwap, hbalances, rfl, hamount', hmin⟩ :=
    rebalancePlan_ok hprice hheld hplan htoken
  rw [hamount'] at hamount
  rw [hmin] at hleast
  cases hamount
  cases hleast
  have hi : (if st.config.assetTokens i = st.config.assetTokens 0 then (0 : Fin 2) else 1) = i := by
    have hne := hv.tokens
    fin_cases i
    · simp
    · simp [Ne.symm hne]
  rw [hi, htwap] at hsafe
  refine ⟨cell, _, i, amount', least', pool, hcell, hd, hoffer, hleast', hpool, hsafe, ?_⟩
  rw [hi, htwap, hbalances]

lemma executeRebalance_reads {q : Querier} {env : Env} {st st₁ : Storage} {info : MessageInfo}
    {deadline : ℕ} {r : Response WasmMsg} (h : executeRebalance q env st info deadline = .ok (st₁, r)) :
    ∃ price held,
      (referencePrice q st.config.pair st.config.twapWindowSeconds : Result _) = .ok price ∧
      (balances q env.contract st.config : Result _) = .ok held := by
  simp only [executeRebalance, rebalancePlan, bind_eq_ok] at h
  obtain ⟨_, -, _, -, _, -, _, -, _, -, plan, ⟨_, -, price, hprice, held, hheld, -⟩, -⟩ := h
  exact ⟨price, held, hprice, hheld⟩

lemma minReturn_le {q : Querier} {i : Fin 2} {amount least returned : Uint128}
    (hreturned : (expectedReturn amount i price : Result _) = .ok returned)
    (hsim : q.hybridSimulation config.pair ⟨.token (config.assetTokens i), amount⟩ (.poolOnly amount)
      = .ok ⟨returned⟩)
    (h : (minReturn q config price i amount : Result _) = .ok least) : least.val ≤ returned.val := by
  simp only [minReturn, bind_eq_ok, hreturned, hsim, liftStd_eq_ok, Except.ok.injEq] at h
  obtain ⟨_, rfl, floor, hfloor, _, rfl, quote, hquote, rfl⟩ := h
  rw [max_val]
  exact max_le (afterBps_le hfloor) (afterBps_le hquote)

lemma settled_eq_afterPerfectTrade {settled : Fin 2 → Uint128} {i : Fin 2} {amount returned : Uint128}
    (hplan : (plannedOffer held price cell gridCount maxTradeBps : Result _) = .ok (some (i, amount)))
    (hn : gridCount ≠ 0)
    (hreturned : (expectedReturn amount i price : Result _) = .ok returned)
    (hoffer : (settled i).val + amount.val = (held i).val)
    (hask : (settled (1 - i)).val = (held (1 - i)).val + returned.val) :
    afterPerfectTrade decimalFractional price.atomics.val (cell * decimalFractional / gridCount) maxTradeBps
      (held 0).val (held 1).val = ((settled 0).val, (settled 1).val) := by
  have hmax : max gridCount 1 = gridCount := max_eq_left (Nat.one_le_iff_ne_zero.mpr hn)
  have hoffered := plannedOffer_ok hplan
  rw [hmax] at hoffered
  rw [afterPerfectTrade, expectedReturn] at *
  rcases hoffered with ⟨rfl, hover, hamount⟩ | ⟨rfl, hunder, hamount⟩
  · rw [if_pos hover, ← hamount]
    simp only [Fin.isValue, one_ne_zero, if_false, checkedRatio_eq_ok, Decimal.one_atomics_val,
      sub_self] at hreturned hask
    rw [hask, hreturned.2]
    simp only [Prod.mk.injEq, true_and]
    omega
  · rw [if_neg (Nat.not_lt.mpr hunder.le), ← hamount]
    simp only [if_true, checkedRatio_eq_ok, Decimal.one_atomics_val, Fin.isValue, sub_zero]
      at hreturned hask
    rw [hask, hreturned.2]
    simp only [Prod.mk.injEq, and_true]
    omega

end Planned

lemma settledDeviation_ok_iff {config : Config} {pending : PendingSwap} {settled : Fin 2 → Uint128}
    {current : ℕ}
    (hsettled : validateSettlement pending settled ContractError.allocationDidNotImprove = .ok ())
    (hcurrent : (allocationDeviation settled pending.capturedTwap config : Result ℕ) = .ok current) :
    (∃ outcome, settledDeviation config pending settled = .ok outcome) ↔
      ¬ (pending.preDeviationBps ≤ current ∧ config.allocationToleranceBps < current) := by
  simp only [settledDeviation, hsettled, hcurrent, ok_bind, bind_eq_ok, validateRebalanceOutcome,
    ensure_eq_ok, decide_eq_true_eq, Except.ok.injEq]
  constructor
  · rintro ⟨_, _, ⟨_, h, -⟩, -⟩
    exact h
  · exact fun h => ⟨_, _, ⟨(), h, rfl⟩, rfl⟩

section Settlement

variable {q : Querier} {env : Env} {st st₁ : Storage} {info : MessageInfo} {deadline : ℕ}
  {r : Response WasmMsg} {price : Decimal} {held settled : Fin 2 → Uint128} {pending : PendingSwap}
  {returned : Uint128}

/-- A rebalance executed exactly at the TWAP price passes the reply's checks exactly when the
allocation was within tolerance or the trade makes progress by a whole basis point. -/
theorem perfect_rebalance_settles_iff (hreach : Reachable st)
    (hprice : (referencePrice q st.config.pair st.config.twapWindowSeconds : Result _) = .ok price)
    (hheld : (balances q env.contract st.config : Result _) = .ok held)
    (h : executeRebalance q env st info deadline = .ok (st₁, r)) (hpending : st₁.pendingSwap = some pending)
    (hreturned : (expectedReturn pending.amount pending.offerIndex price : Result _) = .ok returned)
    (hsim : q.hybridSimulation st.config.pair
      ⟨.token (st.config.assetTokens pending.offerIndex), pending.amount⟩ (.poolOnly pending.amount)
        = .ok ⟨returned⟩)
    (hoffer : (settled pending.offerIndex).val + pending.amount.val = (held pending.offerIndex).val)
    (hask : (settled (1 - pending.offerIndex)).val
      = (held (1 - pending.offerIndex)).val + returned.val) :
    (∃ outcome, settledDeviation st₁.config pending settled = .ok outcome) ↔
      MakesProgress st.config price (held 0).val (held 1).val := by
  have hv := hreach.valid
  obtain ⟨cell, d, i, amount, least, -, hcell, hd, hplan, hleast, -, -, rfl⟩ :=
    executeRebalance_ok hv hprice hheld h
  obtain rfl : _ = pending := Option.some.inj hpending
  have hn : st.config.gridCount ≠ 0 := Nat.one_le_iff_ne_zero.mp hv.gridCount.1
  have hle : cell ≤ st.config.gridCount := gridCell_le hcell
  obtain ⟨hvalue, hweighted, hd⟩ := allocationDeviation_ok hcell hd
  have hafter := settled_eq_afterPerfectTrade hplan hn hreturned hoffer hask
  obtain ⟨hfall, hmono⟩ := afterPerfectTrade_spec price.atomics.val (held 0).val (held 1).val
    decimalFractional_pos (weight_le hle) hv.maxTrade.2
  rw [hafter] at hfall hmono
  have hcurrent := allocationDeviation_of_bounds hn hle hcell (hfall.trans_lt hvalue)
    ((Nat.mul_le_mul_right _ hfall).trans_lt hweighted)
  have hnever := allocationBps_le_iff.mpr fun k _ => hmono k
  have hsettled : validateSettlement ⟨price, held, d, i, amount, least⟩ settled
      ContractError.allocationDidNotImprove = .ok () :=
    validateSettlement_of_paid hoffer hask (minReturn_le hreturned hsim hleast)
  rw [settledDeviation_ok_iff hsettled hcurrent]
  rw [MakesProgress]
  dsimp only
  rw [configCell_weight hcell, hafter, hd]
  have htol : 1 ≤ st.config.allocationToleranceBps + 1 := Nat.le_add_left _ _
  have htol' : st.config.allocationToleranceBps + 1 ≤ 10000 := by
    have := hv.tolerance.2
    omega
  rw [← le_allocationBps_iff htol htol', ← allocationBps_lt_iff]
  dsimp only at hnever ⊢
  omega

theorem not_makesProgress_of_zero_weight {config : Config} {h0 h1 : ℕ} (hv : Valid config)
    (hw : cellWeight config price = 0) (h : h1 ≠ 0) : ¬ MakesProgress config price h0 h1 := by
  unfold MakesProgress
  dsimp only
  rw [hw, targetValue_zero, targetValue_zero]
  have hrest := afterPerfectTrade_zero_weight price.atomics.val h0 decimalFractional_pos hv.maxTrade.2 h
  rintro (htolerance | ⟨k, -, -, -, hafter⟩)
  · exact htolerance (deviates_zero_target decimalFractional_pos h)
  · exact hafter (deviates_zero_target decimalFractional_pos hrest)

end Settlement

def twoPrice : Decimal := ⟨u128 (2 * 10 ^ 18)⟩

def midPrice : Decimal := ⟨u128 (15 * 10 ^ 17)⟩

def deepReserves (price : Uint128) : Fin 2 → Uint128 := ![u128 (10 ^ 18), price]

lemma freshStorage_reachable (price : Decimal) (cell : ℕ)
    (h : instantiate (fixedChain 0 price 0) ⟨"admin", []⟩ (fixedMsg .one twoPrice 10)
      = .ok (freshStorage (fixedConfig .one twoPrice 10 price cell),
        ⟨[], [("action", "instantiate"), ("owner", "admin"), ("pair", "pair")]⟩)) :
    Reachable (freshStorage (fixedConfig .one twoPrice 10 price cell)) := .instantiated h

def midHoldings : Fin 2 → Uint128 := ![u128 100, u128 50]

def midChain : Querier := fixedChain midHoldings midPrice (deepReserves midPrice.atomics)

def midStorage : Storage := freshStorage (fixedConfig .one twoPrice 10 midPrice 5)

def midPending : PendingSwap := ⟨midPrice, midHoldings, 5000, 0, u128 25, u128 36⟩

theorem perfect_rebalance_settles_iff_midPrice : ∃ st₁ r,
    executeRebalance midChain ⟨0, 0, "vault"⟩ midStorage ⟨"keeper", []⟩ 0 = .ok (st₁, r) ∧
    ((∃ outcome, settledDeviation st₁.config midPending ![⟨75, by decide⟩, ⟨87, by decide⟩] = .ok outcome) ↔
      MakesProgress midStorage.config midPrice (midHoldings 0).val (midHoldings 1).val) := by
  obtain ⟨⟨st₁, r⟩, h, hpending⟩ := okAnd_iff.mp (show okAnd
    (executeRebalance midChain ⟨0, 0, "vault"⟩ midStorage ⟨"keeper", []⟩ 0)
    (fun x => decide (x.1.pendingSwap = some midPending)) = true by decide +kernel)
  have hreach : Reachable midStorage := freshStorage_reachable midPrice 5 rfl
  have hprice : (referencePrice midChain midStorage.config.pair midStorage.config.twapWindowSeconds :
      Result _) = .ok midPrice := rfl
  have hheld : (balances midChain "vault" midStorage.config : Result _) = .ok midHoldings := rfl
  have hreturned : (expectedReturn midPending.amount midPending.offerIndex midPrice : Result _)
      = .ok ⟨37, by decide⟩ := rfl
  have hsim : midChain.hybridSimulation midStorage.config.pair
      ⟨.token (midStorage.config.assetTokens midPending.offerIndex), midPending.amount⟩
      (.poolOnly midPending.amount) = .ok ⟨⟨37, by decide⟩⟩ := rfl
  exact ⟨st₁, r, h, perfect_rebalance_settles_iff hreach hprice hheld h (of_decide_eq_true hpending)
    hreturned hsim rfl rfl⟩

def lowHoldings : Fin 2 → Uint128 := ![u128 10, u128 20]

def lowSettled : Fin 2 → Uint128 := ![u128 15, u128 15]

def lowChain : Querier := fixedChain lowHoldings .one (deepReserves Decimal.one.atomics)

def lowStorage : Storage := freshStorage (fixedConfig .one twoPrice 10 .one 0)

def lowPending : PendingSwap := ⟨.one, lowHoldings, 10000, 1, u128 5, u128 4⟩

/-- At the lower price, 10 against 20: five units of token 1 are sold for five of token 0, exactly as
planned and simulated, and the reply rejects it. -/
theorem perfect_rebalance_rejected_at_lower_price : ∃ st₁ r, Reachable lowStorage ∧
    (referencePrice lowChain lowStorage.config.pair lowStorage.config.twapWindowSeconds : Result _)
      = .ok .one ∧
    (balances lowChain "vault" lowStorage.config : Result _) = .ok lowHoldings ∧
    executeRebalance lowChain ⟨0, 0, "vault"⟩ lowStorage ⟨"keeper", []⟩ 0 = .ok (st₁, r) ∧
    st₁.pendingSwap = some lowPending ∧
    (expectedReturn lowPending.amount lowPending.offerIndex .one : Result _) = .ok ⟨5, by decide⟩ ∧
    lowChain.hybridSimulation lowStorage.config.pair
      ⟨.token (lowStorage.config.assetTokens lowPending.offerIndex), lowPending.amount⟩
      (.poolOnly lowPending.amount) = .ok ⟨⟨5, by decide⟩⟩ ∧
    (lowSettled 1).val + lowPending.amount.val = (lowHoldings 1).val ∧
    (lowSettled 0).val = (lowHoldings 0).val + 5 ∧
    settledDeviation st₁.config lowPending lowSettled = .error .allocationDidNotImprove := by
  obtain ⟨⟨st₁, r⟩, h, hst⟩ := okAnd_iff.mp (show okAnd
    (executeRebalance lowChain ⟨0, 0, "vault"⟩ lowStorage ⟨"keeper", []⟩ 0)
    (fun x => decide (x.1.pendingSwap = some lowPending
      ∧ settledDeviation x.1.config lowPending lowSettled = .error .allocationDidNotImprove)) = true
      by decide)
  obtain ⟨hpending, hrejected⟩ := of_decide_eq_true hst
  exact ⟨st₁, r, freshStorage_reachable .one 0 rfl, rfl, rfl, h, hpending, rfl, rfl, rfl, rfl, hrejected⟩

end Cl8yDexBots.MarketGrid.RebalanceLiveness
