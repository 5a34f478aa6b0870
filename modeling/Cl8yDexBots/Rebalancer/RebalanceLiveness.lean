import Cl8yDexBots.Rebalancer.Runs
import Cl8yDexBots.SwapVault.Deviation

/-! When a bot-vault rebalance that executes exactly at the TWAP price passes its own outcome check. -/

namespace Cl8yDexBots.Rebalancer.RebalanceLiveness

open Foundation.Checked Foundation.Words Foundation.SubMessages CosmWasm.Std CosmWasm.Pair
open SwapVault.Pricing SwapVault.Deviation State Planning Vault Runs

section Arithmetic

variable {d p h0 h1 sold bought k : ℕ}

lemma deviates_of_sellToken1 (hover : h0 * p < h1 * d) (hsold : 2 * (sold * d) ≤ h1 * d - h0 * p)
    (hrest : sold ≤ h1) (hbought : bought * p ≤ sold * d)
    (h : Deviates k ((h1 - sold) * d) ((h0 + bought) * p)) : Deviates k (h1 * d) (h0 * p) := by
  have hleft : (h1 - sold) * d + sold * d = h1 * d := by
    rw [← Nat.add_mul, Nat.sub_add_cancel hrest]
  have hgain : (h0 + bought) * p = h0 * p + bought * p := Nat.add_mul _ _ _
  rw [deviates_above_iff (by omega)] at h ⊢
  refine ⟨hover, ?_⟩
  calc (k + 10000) * (h0 * p) ≤ (k + 10000) * ((h0 + bought) * p) := Nat.mul_le_mul_left _ (by omega)
    _ ≤ 10000 * ((h1 - sold) * d) := h.2
    _ ≤ 10000 * (h1 * d) := Nat.mul_le_mul_left _ (by omega)

lemma deviates_of_sellToken0 (hk : k ≤ 10000) (hunder : h1 * d < h0 * p)
    (hsold : 2 * (sold * p) ≤ h0 * p - h1 * d) (hrest : sold ≤ h0) (hbought : bought * d ≤ sold * p)
    (h : Deviates k ((h1 + bought) * d) ((h0 - sold) * p)) : Deviates k (h1 * d) (h0 * p) := by
  have hleft : (h0 - sold) * p + sold * p = h0 * p := by
    rw [← Nat.add_mul, Nat.sub_add_cancel hrest]
  have hgain : (h1 + bought) * d = h1 * d + bought * d := Nat.add_mul _ _ _
  rw [deviates_below_iff hk (by omega)] at h ⊢
  refine ⟨hunder, ?_⟩
  calc 10000 * (h1 * d) ≤ 10000 * ((h1 + bought) * d) := Nat.mul_le_mul_left _ (by omega)
    _ ≤ (10000 - k) * ((h0 - sold) * p) := h.2
    _ ≤ (10000 - k) * (h0 * p) := Nat.mul_le_mul_left _ (by omega)

def afterPerfectTrade (d p maxTradeBps h0 h1 : ℕ) : ℕ × ℕ :=
  if h0 * p < h1 * d then
    let sold := min ((h1 * d - h0 * p) / d / 2) (h1 * maxTradeBps / 10000)
    (h0 + sold * d / p, h1 - sold)
  else
    let sold := min ((h0 * p - h1 * d) / p / 2) (h0 * maxTradeBps / 10000)
    (h0 - sold, h1 + sold * p / d)

lemma half_mul_le (excess unit cap : ℕ) :
    2 * (min (excess / unit / 2) cap * unit) ≤ excess := by
  have hhalf : min (excess / unit / 2) cap * 2 ≤ excess / unit :=
    (Nat.mul_le_mul_right _ (min_le_left _ _)).trans (Nat.div_mul_le_self _ _)
  calc 2 * (min (excess / unit / 2) cap * unit) = min (excess / unit / 2) cap * 2 * unit := by ring
    _ ≤ excess / unit * unit := Nat.mul_le_mul_right _ hhalf
    _ ≤ excess := Nat.div_mul_le_self _ _

lemma capped_le {holding uncapped maxTradeBps : ℕ} (hm : maxTradeBps ≤ 5000) :
    min uncapped (holding * maxTradeBps / 10000) ≤ holding := by
  have hcap : holding * maxTradeBps ≤ holding * 5000 := Nat.mul_le_mul_left _ hm
  omega

lemma afterPerfectTrade_deviates {maxTradeBps : ℕ} (hm : maxTradeBps ≤ 5000) (hk : k ≤ 10000)
    (h : Deviates k ((afterPerfectTrade d p maxTradeBps h0 h1).2 * d)
      ((afterPerfectTrade d p maxTradeBps h0 h1).1 * p)) : Deviates k (h1 * d) (h0 * p) := by
  by_cases hover : h0 * p < h1 * d
  · rw [afterPerfectTrade, if_pos hover] at h
    exact deviates_of_sellToken1 hover (half_mul_le _ _ _) (capped_le hm) (Nat.div_mul_le_self _ _) h
  · rw [afterPerfectTrade, if_neg hover] at h
    rcases Nat.lt_or_eq_of_le (Nat.le_of_not_lt hover) with hunder | heq
    · exact deviates_of_sellToken0 hk hunder (half_mul_le _ _ _) (capped_le hm)
        (Nat.div_mul_le_self _ _) h
    · simpa [heq] using h

lemma afterPerfectTrade_onesided {maxTradeBps : ℕ} (hm : maxTradeBps ≤ 3333) (hd : 0 < d) (h : h1 ≠ 0) :
    2 * ((afterPerfectTrade d p maxTradeBps 0 h1).1 * p)
      ≤ (afterPerfectTrade d p maxTradeBps 0 h1).2 * d := by
  have hpos : 0 * p < h1 * d := by
    rw [Nat.zero_mul]
    exact Nat.mul_pos (Nat.pos_of_ne_zero h) hd
  have hcap : h1 * maxTradeBps ≤ h1 * 3333 := Nat.mul_le_mul_left _ hm
  rw [afterPerfectTrade, if_pos hpos]
  dsimp only
  generalize hs : min ((h1 * d - 0 * p) / d / 2) (h1 * maxTradeBps / 10000) = sold
  have hsold : 3 * sold ≤ h1 := by omega
  have hbought : sold * d / p * p ≤ sold * d := Nat.div_mul_le_self _ _
  rw [Nat.zero_add]
  calc 2 * (sold * d / p * p) ≤ 2 * (sold * d) := Nat.mul_le_mul_left _ hbought
    _ = 2 * sold * d := by ring
    _ ≤ (h1 - sold) * d := Nat.mul_le_mul_right _ (by omega)

end Arithmetic

/-- Either the allocation is within tolerance before the trade, or the trade takes the deviation below
some whole number of basis points, at most 10000, that it is not below before. -/
def MakesProgress (config : Config) (price : Decimal) (h0 h1 : ℕ) : Prop :=
  let p := price.atomics.val
  let after := afterPerfectTrade decimalFractional p config.maxTradeBps h0 h1
  ¬ Deviates (config.allocationToleranceBps + 1) (h1 * decimalFractional) (h0 * p) ∨
    ∃ k, 1 ≤ k ∧ k ≤ 10000 ∧ Deviates k (h1 * decimalFractional) (h0 * p) ∧
      ¬ Deviates k (after.2 * decimalFractional) (after.1 * p)

section Planned

variable {q : Querier} {config : Config} {price : Decimal} {held settled : Fin 2 → Uint128}
  {maxTradeBps : ℕ} {i : Fin 2} {amount returned : Uint128}

lemma queryPrice_ne_zero (h : (queryPrice q config : Result _) = .ok price) : price.atomics.val ≠ 0 := by
  simp only [queryPrice, bind_eq_ok] at h
  obtain ⟨response, -, h⟩ := h
  simp only [observedPrice] at h
  split at h
  · split at h
    · cases h
    · simp only [twapFromObservation, bind_eq_ok, ensure_eq_ok, exists_const, Except.ok.injEq] at h
      obtain ⟨_, -, -, atomics, -, hne, rfl⟩ := h
      simpa [Decimal.isZero, isZero] using hne
  · cases h

lemma mul256_eq (a b : Uint128) :
    ∃ c, (mulOrPanic (to256 a) (to256 b) : Result Uint256) = .ok c ∧ c.val = a.val * b.val := by
  have hlt : a.val * b.val < 2 ^ 256 := by
    calc a.val * b.val < 2 ^ 128 * 2 ^ 128 := Nat.mul_lt_mul'' a.lt b.lt
      _ = 2 ^ 256 := by norm_num
  exact ⟨⟨_, hlt⟩, mulOrPanic_eq_ok.mpr rfl, rfl⟩

lemma allocationDeviation_eq (hp : price.atomics.val ≠ 0) :
    (allocationDeviation held price : Result ℕ)
      = .ok (allocationBps ((held 1).val * decimalFractional) ((held 0).val * price.atomics.val)) := by
  have hd := decimalFractional_pos
  by_cases h0 : (held 0).val = 0 <;> by_cases h1 : (held 1).val = 0
  · simp [allocationDeviation, isZero, h0, h1, allocationBps]
  · simp [allocationDeviation, isZero, h0, h1, allocationBps, hd.ne']
  · have hpos : 0 < (held 0).val * price.atomics.val := by positivity
    simp [allocationDeviation, isZero, h0, h1, allocationBps, deviationBps, distance, hp,
      Nat.mul_div_cancel_left _ hpos]
  · obtain ⟨expected, hexpected, hexpectedVal⟩ := mul256_eq price.atomics (held 0)
    obtain ⟨actual, hactual, hactualVal⟩ := mul256_eq (held 1) Decimal.one.atomics
    have hne : expected.val ≠ 0 := by
      rw [hexpectedVal]
      exact Nat.mul_ne_zero hp h0
    have hne' : (held 0).val * price.atomics.val ≠ 0 := Nat.mul_ne_zero h0 hp
    simp only [allocationDeviation, isZero, h0, h1, beq_iff_eq, Bool.and_eq_true, and_self, if_false,
      Bool.or_eq_true, or_self, hexpected, hactual, ok_bind, ratioDeviation, hne, deviationFrom_eq hne]
    rw [allocationBps, if_neg hne', hactualVal, hexpectedVal, Nat.mul_comm price.atomics.val]
    rfl

lemma plannedOffer_ok (h : (plannedOffer held price maxTradeBps : Result _) = .ok (some (i, amount))) :
    let value0 := (held 0).val * price.atomics.val
    let value1 := (held 1).val * decimalFractional
    (i = 1 ∧ value0 < value1 ∧ amount.val = min ((value1 - value0) / decimalFractional / 2)
        ((held 1).val * maxTradeBps / 10000)) ∨
      (i = 0 ∧ value1 < value0 ∧ amount.val = min ((value0 - value1) / price.atomics.val / 2)
        ((held 0).val * maxTradeBps / 10000)) := by
  simp only [plannedOffer, bind_eq_ok, mulOrPanic_eq_ok, to256_val, Decimal.one_atomics_val] at h
  obtain ⟨value0, hvalue0, value1, hvalue1, h⟩ := h
  dsimp only
  rw [← hvalue0, ← hvalue1]
  split at h
  · simp at h
  · rename_i hne
    simp only [bind_eq_ok] at h
    obtain ⟨⟨j, uncapped⟩, hoffer, cap, hcap, narrowed, hnarrowed, h⟩ := h
    simp only [multiplyRatio_eq_ok, narrow_eq_ok] at hcap hnarrowed
    split at h
    · simp at h
    · simp only [Except.ok.injEq, Option.some.injEq, Prod.mk.injEq] at h
      obtain ⟨rfl, rfl⟩ := h
      rw [min_val, hnarrowed, hcap.2]
      simp only [plannedOffer.uncappedOffer] at hoffer
      split at hoffer
      · rename_i hlt
        simp only [bind_eq_ok, subOrPanic_eq_ok, divOrPanic_eq_ok, to256_val, Decimal.one_atomics_val,
          Except.ok.injEq, Prod.mk.injEq] at hoffer
        obtain ⟨excess, ⟨-, hexcess⟩, worth, ⟨-, hworth⟩, sold, ⟨-, hsold⟩, rfl, rfl⟩ := hoffer
        exact .inl ⟨rfl, hlt, by rw [hsold, hworth, hexcess]⟩
      · rename_i hlt
        simp only [bind_eq_ok, subOrPanic_eq_ok, divOrPanic_eq_ok, to256_val,
          Except.ok.injEq, Prod.mk.injEq] at hoffer
        obtain ⟨excess, ⟨hle, hexcess⟩, worth, ⟨-, hworth⟩, sold, ⟨-, hsold⟩, rfl, rfl⟩ := hoffer
        have hval : value1.val ≠ value0.val := fun he => hne (eq_iff.mpr he)
        exact .inr ⟨rfl, by omega, by rw [hsold, hworth, hexcess]⟩

lemma settled_eq_afterPerfectTrade
    (hplan : (plannedOffer held price maxTradeBps : Result _) = .ok (some (i, amount)))
    (hreturned : (expectedReturn amount i price : Result _) = .ok returned)
    (hoffer : (settled i).val + amount.val = (held i).val)
    (hask : (settled (1 - i)).val = (held (1 - i)).val + returned.val) :
    afterPerfectTrade decimalFractional price.atomics.val maxTradeBps (held 0).val (held 1).val
      = ((settled 0).val, (settled 1).val) := by
  simp only [expectedReturn] at hreturned
  rcases plannedOffer_ok hplan with ⟨rfl, hover, hamount⟩ | ⟨rfl, hunder, hamount⟩
  · simp only [Fin.isValue, one_ne_zero, if_false, checkedRatio_eq_ok, Decimal.one_atomics_val,
      sub_self] at hreturned hask
    rw [afterPerfectTrade, if_pos hover, ← hamount, hask, hreturned.2]
    simp only [Prod.mk.injEq, true_and]
    omega
  · simp only [if_true, checkedRatio_eq_ok, Decimal.one_atomics_val, Fin.isValue, sub_zero]
      at hreturned hask
    rw [afterPerfectTrade, if_neg (Nat.not_lt.mpr hunder.le), ← hamount, hask, hreturned.2]
    simp only [Prod.mk.injEq, and_true]
    omega

lemma rebalancePlan_ok {vault : Addr} {plan : RebalancePlanResponse} {token : String}
    (h : (rebalancePlan q vault config : Result _) = .ok plan) (htoken : plan.offerToken = some token) :
    ∃ i amount least,
      (queryPrice q config : Result _) = .ok plan.capturedTwap ∧
      (balances q vault config : Result _) = .ok plan.balances ∧
      (allocationDeviation plan.balances plan.capturedTwap : Result ℕ)
        = .ok plan.allocationDeviationBps ∧
      (plannedOffer plan.balances plan.capturedTwap config.maxTradeBps : Result _)
        = .ok (some (i, amount)) ∧
      (minReturn q config plan.capturedTwap i amount : Result _) = .ok least ∧
      token = config.assetTokens i ∧ plan.amount = some amount ∧ plan.minReturn = some least := by
  simp only [rebalancePlan, bind_eq_ok, Except.ok.injEq] at h
  obtain ⟨price, hprice, held, hheld, _, -, deviation, hdeviation, offer, hoffer,
    ⟨token', amount', least'⟩, hterms, rfl⟩ := h
  dsimp only at htoken hoffer ⊢
  cases offer with
  | none =>
    cases hterms
    cases htoken
  | some offer =>
    obtain ⟨i, amount⟩ := offer
    simp only [offerTerms, bind_eq_ok, Except.ok.injEq, Prod.mk.injEq] at hterms
    obtain ⟨least, hleast, rfl, rfl, rfl⟩ := hterms
    cases htoken
    split at hoffer
    · exact ⟨i, amount, least, hprice, hheld, hdeviation, hoffer, hleast, rfl, rfl, rfl⟩
    · cases hoffer

lemma executeRebalance_ok {env : Env} {st st₁ : Storage} {info : MessageInfo} {deadline : ℕ}
    {r : Response WasmMsg} (hv : Valid st.config)
    (h : executeRebalance q env st info deadline = .ok (st₁, r)) :
    ∃ pending pool,
      (queryPrice q st.config : Result _) = .ok pending.capturedTwap ∧
      (balances q env.contract st.config : Result _) = .ok pending.balances ∧
      (allocationDeviation pending.balances pending.capturedTwap : Result ℕ)
        = .ok pending.preDeviationBps ∧
      (plannedOffer pending.balances pending.capturedTwap st.config.maxTradeBps : Result _)
        = .ok (some (pending.offerIndex, pending.amount)) ∧
      (minReturn q st.config pending.capturedTwap pending.offerIndex pending.amount : Result _)
        = .ok pending.minReturn ∧
      q.pool st.config.pair = .ok pool ∧
      validatePoolSafety relativeDeviation pool pending.capturedTwap pending.offerIndex pending.amount
        st.config.maxSpotTwapDeviationBps st.config.maxTradePoolBps
        ContractError.insufficientPoolDepth .unsafePoolPrice = .ok () ∧
      st₁ = { st with pendingRebalance := some pending } ∧
      r.messages = [.replyOnSuccess (proxySwapMessage st.config ⟨st.config.assetTokens pending.offerIndex,
        pending.amount, pending.minReturn, st.config.maxSpread, deadline⟩) rebalanceReplyId] := by
  simp only [executeRebalance, bind_eq_ok, orError_eq_ok, liftStd_eq_ok, Except.ok.injEq,
    Prod.mk.injEq] at h
  obtain ⟨_, -, _, -, _, -, _, -, _, -, _, -, plan, hplan, _, -, token, htoken, amount', hamount,
    least', hleast, pool, hpool, _, hsafe, rfl, rfl⟩ := h
  obtain ⟨i, amount, least, hprice, hheld, hdeviation, hoffer, hmin, rfl, hamount', hleast'⟩ :=
    rebalancePlan_ok hplan htoken
  cases hamount.symm.trans hamount'
  cases hleast.symm.trans hleast'
  have hi : (if st.config.assetTokens i = st.config.assetTokens 0 then (0 : Fin 2) else 1) = i := by
    have hne := hv.tokens
    fin_cases i
    · simp
    · simp [Ne.symm hne]
  rw [hi] at hsafe
  rw [hi]
  exact ⟨_, pool, hprice, hheld, hdeviation, hoffer, hmin, hpool, hsafe, rfl, rfl⟩

lemma minReturn_le {least : Uint128}
    (hreturned : (expectedReturn amount i price : Result _) = .ok returned)
    (hsim : q.hybridSimulation config.pair ⟨.token (config.assetTokens i), amount⟩ (.poolOnly amount)
      (some config.proxy) = .ok ⟨returned⟩)
    (h : (minReturn q config price i amount : Result _) = .ok least) : least.val ≤ returned.val := by
  simp only [minReturn, bind_eq_ok, hreturned, hsim, liftStd_eq_ok, Except.ok.injEq] at h
  obtain ⟨_, rfl, floor, hfloor, _, rfl, quote, hquote, rfl⟩ := h
  rw [max_val]
  exact max_le (afterBps_le hfloor) (afterBps_le hquote)

end Planned

lemma settledDeviation_ok_iff {config : Config} {pending : PendingRebalance} {settled : Fin 2 → Uint128}
    {current : ℕ}
    (hsettled : validateSettlement pending settled ContractError.allocationDidNotImprove = .ok ())
    (hcurrent : (allocationDeviation settled pending.capturedTwap : Result ℕ) = .ok current) :
    (∃ outcome, settledDeviation config pending settled = .ok outcome) ↔
      ¬ (pending.preDeviationBps ≤ current ∧ config.allocationToleranceBps < current) := by
  simp only [settledDeviation, hsettled, hcurrent, ok_bind, bind_eq_ok, validateRebalanceOutcome,
    ensure_eq_ok, decide_eq_true_eq, Except.ok.injEq]
  constructor
  · rintro ⟨_, _, ⟨_, h, -⟩, -⟩
    exact h
  · exact fun h => ⟨_, _, ⟨(), h, rfl⟩, rfl⟩

section Settlement

variable {q : Querier} {env : Env} {st st₁ : Storage} {info : MessageInfo} {deadline : ℕ}
  {r : Response WasmMsg} {settled : Fin 2 → Uint128} {pending : PendingRebalance} {returned : Uint128}

/-- A rebalance executed exactly at the TWAP price passes the reply's checks exactly when the
allocation was within tolerance or the trade makes progress by a whole basis point. -/
theorem equal_value_rebalance_settles_iff (hreach : Reachable st)
    (h : executeRebalance q env st info deadline = .ok (st₁, r))
    (hpending : st₁.pendingRebalance = some pending)
    (hreturned : (expectedReturn pending.amount pending.offerIndex pending.capturedTwap : Result _)
      = .ok returned)
    (hsim : q.hybridSimulation st.config.pair
      ⟨.token (st.config.assetTokens pending.offerIndex), pending.amount⟩ (.poolOnly pending.amount)
        (some st.config.proxy) = .ok ⟨returned⟩)
    (hoffer : (settled pending.offerIndex).val + pending.amount.val
      = (pending.balances pending.offerIndex).val)
    (hask : (settled (1 - pending.offerIndex)).val
      = (pending.balances (1 - pending.offerIndex)).val + returned.val) :
    (∃ outcome, settledDeviation st₁.config pending settled = .ok outcome) ↔
      MakesProgress st.config pending.capturedTwap (pending.balances 0).val (pending.balances 1).val := by
  have hv := hreach.valid
  obtain ⟨pending', pool, hprice, -, hdeviation, hplan, hleast, -, -, rfl, -⟩ := executeRebalance_ok hv h
  obtain rfl : pending' = pending := Option.some.inj hpending
  have hp := queryPrice_ne_zero hprice
  rw [allocationDeviation_eq hp, Except.ok.injEq] at hdeviation
  have hafter := settled_eq_afterPerfectTrade hplan hreturned hoffer hask
  have hsettled : validateSettlement pending' settled ContractError.allocationDidNotImprove = .ok () :=
    validateSettlement_of_paid hoffer hask (minReturn_le hreturned hsim hleast)
  rw [settledDeviation_ok_iff hsettled (allocationDeviation_eq hp)]
  have hnever : allocationBps ((settled 1).val * decimalFractional)
      ((settled 0).val * pending'.capturedTwap.atomics.val) ≤ pending'.preDeviationBps := by
    rw [← hdeviation]
    refine allocationBps_le_iff.mpr fun k _ hk hd => ?_
    refine afterPerfectTrade_deviates hv.maxTrade.2 hk ?_
    rwa [hafter]
  have htol : 1 ≤ st.config.allocationToleranceBps + 1 := Nat.le_add_left _ _
  have htol' : st.config.allocationToleranceBps + 1 ≤ 10000 := by
    have := hv.tolerance.2
    omega
  simp only [MakesProgress, hafter]
  rw [← le_allocationBps_iff htol htol', ← allocationBps_lt_iff, hdeviation]
  omega

theorem not_makesProgress_of_onesided {config : Config} {price : Decimal} {h1 : ℕ} (hv : Valid config)
    (hm : config.maxTradeBps ≤ 3333) (h : h1 ≠ 0) : ¬ MakesProgress config price 0 h1 := by
  have hd := decimalFractional_pos
  have hafter := afterPerfectTrade_onesided (p := price.atomics.val) hm hd h
  generalize hrest : afterPerfectTrade decimalFractional price.atomics.val config.maxTradeBps 0 h1 = after
    at hafter
  have hcap : h1 * config.maxTradeBps ≤ h1 * 5000 := Nat.mul_le_mul_left _ hv.maxTrade.2
  have hkept : after.2 ≠ 0 := by
    rw [← hrest, afterPerfectTrade, if_pos (by simpa using ⟨Nat.pos_of_ne_zero h, hd⟩)]
    dsimp only
    omega
  have hleft : 0 < after.2 * decimalFractional := Nat.mul_pos (Nat.pos_of_ne_zero hkept) hd
  rintro (htolerance | ⟨k, -, hk, -, hnot⟩)
  · exact htolerance (by simpa using deviates_zero_target hd h)
  · rw [hrest] at hnot
    refine hnot ((deviates_above_iff (by omega)).mpr ⟨by omega, ?_⟩)
    calc (k + 10000) * (after.1 * price.atomics.val)
        ≤ 20000 * (after.1 * price.atomics.val) := Nat.mul_le_mul_right _ (by omega)
      _ = 10000 * (2 * (after.1 * price.atomics.val)) := by ring
      _ ≤ 10000 * (after.2 * decimalFractional) := Nat.mul_le_mul_left _ hafter

end Settlement

def deepReserves : Fin 2 → Uint128 := ![u128 (10 ^ 18), u128 (10 ^ 18)]

def unitStorage : Storage := freshStorage (fixedConfig .one)

lemma unitStorage_reachable : Reachable unitStorage :=
  .instantiated (show instantiate (fixedChain 0 .one 0) ⟨0, 0, "vault"⟩ fixedMsg
    = .ok (unitStorage, ⟨[], [("action", "instantiate"), ("vault", "vault")]⟩) from rfl)

def leaningHoldings : Fin 2 → Uint128 := ![u128 100, u128 60]

def leaningChain : Querier := fixedChain leaningHoldings .one deepReserves

def leaningPending : PendingRebalance := ⟨.one, leaningHoldings, 4000, 0, u128 20, u128 19⟩

theorem equal_value_rebalance_settles_iff_leaning : ∃ st₁ r,
    executeRebalance leaningChain ⟨0, 0, "vault"⟩ unitStorage ⟨"keeper", []⟩ 0 = .ok (st₁, r) ∧
    ((∃ outcome, settledDeviation st₁.config leaningPending ![⟨80, by decide⟩, ⟨80, by decide⟩]
        = .ok outcome) ↔
      MakesProgress unitStorage.config .one (leaningHoldings 0).val (leaningHoldings 1).val) := by
  obtain ⟨⟨st₁, r⟩, h, hpending⟩ := okAnd_iff.mp (show okAnd
    (executeRebalance leaningChain ⟨0, 0, "vault"⟩ unitStorage ⟨"keeper", []⟩ 0)
    (fun x => decide (x.1.pendingRebalance = some leaningPending)) = true by decide +kernel)
  have hreturned : (expectedReturn leaningPending.amount leaningPending.offerIndex
      leaningPending.capturedTwap : Result _) = .ok ⟨20, by decide⟩ := rfl
  have hsim : leaningChain.hybridSimulation unitStorage.config.pair
      ⟨.token (unitStorage.config.assetTokens leaningPending.offerIndex), leaningPending.amount⟩
      (.poolOnly leaningPending.amount) (some unitStorage.config.proxy) = .ok ⟨⟨20, by decide⟩⟩ := rfl
  exact ⟨st₁, r, h, equal_value_rebalance_settles_iff unitStorage_reachable h (of_decide_eq_true hpending)
    hreturned hsim rfl rfl⟩

def lopsidedHoldings : Fin 2 → Uint128 := ![u128 10, u128 100]

def lopsidedSettled : Fin 2 → Uint128 := ![u128 35, u128 75]

def lopsidedChain : Querier := fixedChain lopsidedHoldings .one deepReserves

def lopsidedPending : PendingRebalance :=
  ⟨.one, lopsidedHoldings, 10000, 1, u128 25, u128 24⟩

/-- 10 against 100 at price 1: a quarter of token 1 is sold for just as much of token 0, exactly as
planned and simulated, and the reply rejects it, the deviation being 100% before and after. -/
theorem perfect_rebalance_rejected_when_lopsided : ∃ st₁ r, Reachable unitStorage ∧
    executeRebalance lopsidedChain ⟨0, 0, "vault"⟩ unitStorage ⟨"keeper", []⟩ 0 = .ok (st₁, r) ∧
    st₁.pendingRebalance = some lopsidedPending ∧
    (expectedReturn lopsidedPending.amount lopsidedPending.offerIndex lopsidedPending.capturedTwap :
      Result _) = .ok ⟨25, by decide⟩ ∧
    lopsidedChain.hybridSimulation unitStorage.config.pair
      ⟨.token (unitStorage.config.assetTokens lopsidedPending.offerIndex), lopsidedPending.amount⟩
      (.poolOnly lopsidedPending.amount) (some unitStorage.config.proxy) = .ok ⟨⟨25, by decide⟩⟩ ∧
    (lopsidedSettled 1).val + lopsidedPending.amount.val = (lopsidedHoldings 1).val ∧
    (lopsidedSettled 0).val = (lopsidedHoldings 0).val + 25 ∧
    settledDeviation st₁.config lopsidedPending lopsidedSettled = .error .allocationDidNotImprove := by
  obtain ⟨⟨st₁, r⟩, h, hst⟩ := okAnd_iff.mp (show okAnd
    (executeRebalance lopsidedChain ⟨0, 0, "vault"⟩ unitStorage ⟨"keeper", []⟩ 0)
    (fun x => decide (x.1.pendingRebalance = some lopsidedPending ∧
      settledDeviation x.1.config lopsidedPending lopsidedSettled = .error .allocationDidNotImprove))
      = true by decide)
  obtain ⟨hpending, hrejected⟩ := of_decide_eq_true hst
  exact ⟨st₁, r, unitStorage_reachable, h, hpending, rfl, rfl, rfl, rfl, hrejected⟩

end Cl8yDexBots.Rebalancer.RebalanceLiveness
