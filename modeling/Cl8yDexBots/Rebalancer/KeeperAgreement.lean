import Cl8yDexBots.Rebalancer.RebalanceLiveness
import Cl8yDexBots.Services.RebalancerKeeper

/-! When the vault accepts the message that the keeper builds from its plan. -/

namespace Cl8yDexBots.Rebalancer.KeeperAgreement

open Foundation.Checked Foundation.Words Foundation.SubMessages CosmWasm.Std CosmWasm.Pair
open SwapVault.Pricing SwapVault.Deviation State Planning Vault Runs RebalanceLiveness
open Services.Values Services.RebalancerKeeper

/-- `build_message` of the rebalance protocol and `build_rebalance` of the keeper. -/
def buildMessage (plan : RebalancePlanResponse) (deadline : ℕ) : Option VaultExecuteMsg :=
  if plan.shouldRebalance then
    match plan.offerToken with
    | none => some .syncReference
    | some _ => some (.rebalance deadline)
  else none

def messageJson : VaultExecuteMsg → Json
  | .syncReference => .obj [("sync_reference", .obj [])]
  | .rebalance deadline => .obj [("rebalance", .obj [("deadline", .int deadline)])]
  | _ => .null

def offerJson : Option String → Json
  | none => .null
  | some token => .str token

/-- What the vault's answer to the plan query says of the plan. -/
structure Reports (plan : RebalancePlanResponse) (report : Json) : Prop where
  should : field report "should_rebalance" = .ok (.bool plan.shouldRebalance)
  offer : report.get "offer_token" = .ok (offerJson plan.offerToken)

lemma buildRebalance_eq {plan : RebalancePlanResponse} {report : Json} (reports : Reports plan report) (deadline : ℕ) :
    buildRebalance report deadline = .ok ((buildMessage plan deadline).map messageJson) := by
  simp only [buildRebalance, reports.should, reports.offer, ok_bind, buildMessage, Json.truthy]
  cases plan.shouldRebalance with
  | false => rfl
  | true =>
    cases plan.offerToken with
    | none => rfl
    | some token => rfl

lemma messageJson_buildMessage {plan : RebalancePlanResponse} {deadline : ℕ} {msg built : VaultExecuteMsg}
    (hbuilt : buildMessage plan deadline = some built) (h : messageJson built = messageJson msg) : built = msg := by
  simp only [buildMessage] at hbuilt
  split at hbuilt
  · split at hbuilt
    all_goals
      cases hbuilt
      cases msg <;> simp_all [messageJson]
  · cases hbuilt

/-- The message that one of the two keepers sends for a plan, if any. -/
inductive Built (plan : RebalancePlanResponse) (deadline : ℕ) : Option VaultExecuteMsg → Prop
  | buildMessage : Built plan deadline (buildMessage plan deadline)
  | buildRebalance {report msg} (reports : Reports plan report)
      (h : buildRebalance report deadline = .ok (msg.map messageJson)) : Built plan deadline msg

lemma Built.eq {plan : RebalancePlanResponse} {deadline : ℕ} {msg : Option VaultExecuteMsg}
    (h : Built plan deadline msg) : msg = KeeperAgreement.buildMessage plan deadline := by
  cases h with
  | buildMessage => rfl
  | buildRebalance reports h =>
    rw [buildRebalance_eq reports, Except.ok.injEq] at h
    cases hbuilt : KeeperAgreement.buildMessage plan deadline with
    | none =>
      rw [hbuilt] at h
      exact Option.map_eq_none_iff.mp h.symm
    | some built =>
      rw [hbuilt] at h
      obtain ⟨sent, rfl, hsent⟩ := Option.map_eq_some_iff.mp h.symm
      rw [messageJson_buildMessage hbuilt hsent.symm]

section Conditions

variable (config : Config) (price : Decimal) (h0 h1 : ℕ)

def Moved : Prop := config.rebalanceThresholdBps ≤ deviationBps price.atomics.val config.referencePrice.atomics.val

def Drifted : Prop :=
  Deviates (config.allocationToleranceBps + 1) (h1 * decimalFractional) (h0 * price.atomics.val)

/-- Half of the excess is a unit of the token to sell, and a trade may sell one unit of the holdings. -/
def Tradable : Prop :=
  h0 * price.atomics.val + 2 * decimalFractional ≤ h1 * decimalFractional ∧ 10000 ≤ h1 * config.maxTradeBps ∨
  h1 * decimalFractional + 2 * price.atomics.val ≤ h0 * price.atomics.val ∧ 10000 ≤ h0 * config.maxTradeBps

def tradeSize : Fin 2 × ℕ :=
  if h0 * price.atomics.val < h1 * decimalFractional then
    (1, min ((h1 * decimalFractional - h0 * price.atomics.val) / decimalFractional / 2)
      (h1 * config.maxTradeBps / 10000))
  else
    (0, min ((h0 * price.atomics.val - h1 * decimalFractional) / price.atomics.val / 2)
      (h0 * config.maxTradeBps / 10000))

structure SafePool (pool : PoolResponse) (i : Fin 2) (amount : ℕ) : Prop where
  filled : ∀ j, (pool.assets j).amount.val ≠ 0
  spot : (pool.assets 1).amount.val * decimalFractional / (pool.assets 0).amount.val < 2 ^ 128
  near : deviationBps ((pool.assets 1).amount.val * decimalFractional / (pool.assets 0).amount.val)
    price.atomics.val ≤ config.maxSpotTwapDeviationBps
  deep : amount * 10000 ≤ (pool.assets i).amount.val * config.maxTradePoolBps

end Conditions

def PairReady (q : Querier) (st : Storage) (price : Decimal) (h0 h1 : ℕ) : Prop :=
  st.pendingRebalance = none ∧ (assertPairCode q st.config : Result _) = .ok () ∧
    ∃ pool, q.pool st.config.pair = .ok pool ∧
      SafePool st.config price pool (tradeSize st.config price h0 h1).1 (tradeSize st.config price h0 h1).2

section Plans

variable {q : Querier} {env : Env} {st : Storage} {config : Config} {price : Decimal} {held : Fin 2 → Uint128}
  {plan : RebalancePlanResponse} {maxTradeBps : ℕ}

lemma halved_pos {difference unit holding : ℕ} (hunit : 0 < unit) :
    min (difference / unit / 2) (holding * maxTradeBps / 10000) ≠ 0 ↔
      2 * unit ≤ difference ∧ 10000 ≤ holding * maxTradeBps := by
  rw [← Nat.pos_iff_ne_zero, Nat.lt_min, Nat.div_div_eq_div_mul, Nat.div_pos_iff, Nat.div_pos_iff, Nat.mul_comm unit]
  omega

lemma plannedOffer_eq {offer : Option (Fin 2 × Uint128)} (hp : price.atomics.val ≠ 0)
    (h : (plannedOffer held price config.maxTradeBps : Result _) = .ok offer) :
    (offer ≠ none ↔ Tradable config price (held 0).val (held 1).val) ∧
    ∀ i amount, offer = some (i, amount) → tradeSize config price (held 0).val (held 1).val = (i, amount.val) := by
  constructor
  · simp only [plannedOffer, bind_eq_ok, mulOrPanic_eq_ok, to256_val, Decimal.one_atomics_val] at h
    obtain ⟨value0, hvalue0, value1, hvalue1, h⟩ := h
    have hunit := decimalFractional_pos
    rw [Tradable, ← hvalue0, ← hvalue1]
    split at h
    · rename_i heq
      cases h
      have hval := congrArg Uint.val heq
      simp only [ne_eq, not_true_eq_false, false_iff]
      omega
    · rename_i hne
      have hval : value1.val ≠ value0.val := fun he => hne (eq_iff.mpr he)
      simp only [bind_eq_ok, multiplyRatio_eq_ok, narrow_eq_ok, Except.ok.injEq, Prod.exists] at h
      obtain ⟨i, uncapped, hoffer, cap, ⟨-, hcap⟩, narrowed, hnarrowed, rfl⟩ := h
      have hsome : (if isZero (min narrowed cap) then none else some (i, min narrowed cap)) ≠ none ↔
          min uncapped.val ((held i).val * config.maxTradeBps / 10000) ≠ 0 := by
        rw [← hnarrowed, ← hcap, ← min_val, ne_eq, ne_eq, ← isZero_iff]
        split <;> simp [*]
      rw [hsome]
      simp only [plannedOffer.uncappedOffer] at hoffer
      split at hoffer
      · rename_i hlt
        simp only [bind_eq_ok, subOrPanic_eq_ok, divOrPanic_eq_ok, to256_val, Decimal.one_atomics_val,
          Except.ok.injEq, Prod.mk.injEq] at hoffer
        obtain ⟨excess, ⟨-, hexcess⟩, worth, ⟨-, hworth⟩, sold, ⟨-, hsold⟩, rfl, rfl⟩ := hoffer
        have hlt : value0.val < value1.val := hlt
        rw [hsold, hworth, hexcess, halved_pos hunit]
        omega
      · simp only [bind_eq_ok, subOrPanic_eq_ok, divOrPanic_eq_ok, to256_val, Except.ok.injEq,
          Prod.mk.injEq] at hoffer
        obtain ⟨excess, ⟨hle, hexcess⟩, worth, ⟨-, hworth⟩, sold, ⟨-, hsold⟩, rfl, rfl⟩ := hoffer
        rw [hsold, hworth, hexcess, halved_pos (Nat.pos_of_ne_zero hp)]
        omega
  · rintro i amount rfl
    rcases plannedOffer_ok h with ⟨rfl, hover, hamount⟩ | ⟨rfl, hunder, hamount⟩
    · rw [tradeSize, if_pos hover, hamount]
    · rw [tradeSize, if_neg (Nat.not_lt.mpr hunder.le), hamount]

lemma relativeDeviation_eq {current reference : Decimal} {d : ℕ}
    (h : (relativeDeviation current reference : Result ℕ) = .ok d) :
    reference.atomics.val ≠ 0 ∧ d = deviationBps current.atomics.val reference.atomics.val := by
  simp only [relativeDeviation, ratioDeviation] at h
  split at h
  · cases h
  · rename_i hz
    have hne : (to256 reference.atomics).val ≠ 0 := fun he => hz (isZero_iff.mpr he)
    rw [deviationFrom_eq hne] at h
    cases h
    exact ⟨hne, rfl⟩

lemma validatePoolSafety_eq_ok {pool : PoolResponse} {i : Fin 2} {amount : Uint128} (hp : price.atomics.val ≠ 0) :
    validatePoolSafety relativeDeviation pool price i amount config.maxSpotTwapDeviationBps config.maxTradePoolBps
      ContractError.insufficientPoolDepth .unsafePoolPrice = .ok () ↔ SafePool config price pool i amount.val := by
  simp only [validatePoolSafety, bind_eq_ok, ensure_eq_ok, exists_const, decide_eq_true_eq, Bool.and_eq_true,
    Bool.not_eq_true', checkedRatio_eq_ok, Decimal.one_atomics_val]
  have hnear : ∀ spot : Uint128, (relativeDeviation ⟨spot⟩ price : Result ℕ)
      = .ok (deviationBps spot.val price.atomics.val) := by
    intro spot
    have hne : (to256 price.atomics).val ≠ 0 := hp
    simp only [relativeDeviation, ratioDeviation, isZero, beq_iff_eq, hne, if_false, deviationFrom_eq hne]
    rfl
  constructor
  · rintro ⟨⟨hfilled0, hfilled1⟩, spot, ⟨-, hspot⟩, d, hd, hclose, hdeep⟩
    rw [hnear] at hd
    cases hd
    refine ⟨?_, hspot ▸ spot.lt, hspot ▸ hclose, hdeep⟩
    intro j
    fin_cases j
    · exact fun hz => Bool.false_ne_true (hfilled0.symm.trans (isZero_iff.mpr hz))
    · exact fun hz => Bool.false_ne_true (hfilled1.symm.trans (isZero_iff.mpr hz))
  · rintro ⟨hfilled, hspot, hclose, hdeep⟩
    refine ⟨⟨by simpa [isZero] using hfilled 0, by simpa [isZero] using hfilled 1⟩, ⟨_, hspot⟩, ⟨hfilled 0, rfl⟩, _,
      hnear _, hclose, hdeep⟩

structure Planned (config : Config) (price : Decimal) (held : Fin 2 → Uint128) (plan : RebalancePlanResponse) :
    Prop where
  deviation : plan.allocationDeviationBps
    = allocationBps ((held 1).val * decimalFractional) ((held 0).val * price.atomics.val)
  should : plan.shouldRebalance = true ↔ Moved config price ∨ Drifted config price (held 0).val (held 1).val
  offer : plan.shouldRebalance = true → (plan.offerToken ≠ none ↔ Tradable config price (held 0).val (held 1).val)
  terms : ∀ token, plan.offerToken = some token → ∃ i amount least, token = config.assetTokens i ∧
    plan.amount = some amount ∧ plan.minReturn = some least ∧
    tradeSize config price (held 0).val (held 1).val = (i, amount.val)
  twap : plan.capturedTwap = price

lemma drifted_iff (hv : Valid config) :
    config.allocationToleranceBps < allocationBps ((held 1).val * decimalFractional)
      ((held 0).val * price.atomics.val) ↔ Drifted config price (held 0).val (held 1).val := by
  have htolerance := hv.tolerance.2
  exact le_allocationBps_iff (Nat.succ_pos _) (by omega)

lemma rebalancePlan_planned {vault : Addr} (hv : Valid config)
    (hprice : (queryPrice q config : Result _) = .ok price) (hheld : (balances q vault config : Result _) = .ok held)
    (h : (rebalancePlan q vault config : Result _) = .ok plan) : Planned config price held plan := by
  have hp := queryPrice_ne_zero hprice
  simp only [rebalancePlan, bind_eq_ok, hprice, hheld, Except.ok.injEq] at h
  obtain ⟨_, rfl, _, rfl, d, hd, a, ha, offer, hoffer, ⟨token, amount, least⟩, hterms, rfl⟩ := h
  rw [allocationDeviation_eq hp, Except.ok.injEq] at ha
  obtain ⟨-, hd⟩ := relativeDeviation_eq hd
  have hnamed : token ≠ none ↔ offer ≠ none := by
    cases offer with
    | none =>
      cases hterms
      simp
    | some offer =>
      simp only [offerTerms, bind_eq_ok, Except.ok.injEq, Prod.mk.injEq] at hterms
      obtain ⟨_, -, rfl, rfl, rfl⟩ := hterms
      simp
  refine ⟨ha.symm, ?_, ?_, ?_, rfl⟩
  · rw [rebalanceRequired, decide_eq_true_eq, ← ha, hd, drifted_iff hv]
    rfl
  · intro hshould
    dsimp only at hshould hoffer ⊢
    rw [hshould] at hoffer
    rw [hnamed]
    exact (plannedOffer_eq hp hoffer).1
  · intro name hname
    dsimp only at hname hoffer ⊢
    cases offer with
    | none =>
      cases hterms
      cases hname
    | some offer =>
      obtain ⟨i, size⟩ := offer
      simp only [offerTerms, bind_eq_ok, Except.ok.injEq, Prod.mk.injEq] at hterms
      obtain ⟨least, -, rfl, rfl, rfl⟩ := hterms
      cases hname
      split at hoffer
      · exact ⟨i, size, least, rfl, rfl, rfl, (plannedOffer_eq hp hoffer).2 i size rfl⟩
      · cases hoffer

lemma rebalanceStatus_plan {vault : Addr} (h : (rebalancePlan q vault config : Result _) = .ok plan) :
    ∃ status, (rebalanceStatus q vault config : Result _) = .ok status ∧
      status.shouldRebalance = plan.shouldRebalance ∧
      status.allocationDeviationBps = plan.allocationDeviationBps := by
  simp only [rebalancePlan, bind_eq_ok, Except.ok.injEq] at h
  obtain ⟨price, hprice, held, hheld, d, hd, a, ha, _, -, _, -, rfl⟩ := h
  simp only [rebalanceStatus, hprice, hheld, hd, ha, ok_bind]
  exact ⟨_, rfl, rfl, rfl⟩

lemma executeSyncReference_accepts_iff (hpaused : st.paused = false)
    (hidle : ensureNoLiquidityOperation q st.config = .ok ())
    (hplan : (rebalancePlan q env.contract st.config : Result _) = .ok plan) (hshould : plan.shouldRebalance = true) :
    (∃ outcome, executeSyncReference q env st ⟨st.config.keeper, []⟩ = .ok outcome) ↔
      plan.allocationDeviationBps ≤ st.config.allocationToleranceBps := by
  obtain ⟨status, hstatus, hstatusShould, hstatusDeviation⟩ := rebalanceStatus_plan hplan
  simp only [executeSyncReference, bind_eq_ok, hstatus, hidle, assertKeeper, assertNotPaused, ensure_eq_ok,
    decide_eq_true_eq, Except.ok.injEq, exists_const, hpaused, Bool.not_false, true_and, exists_eq_left',
    hstatusShould, hshould, hstatusDeviation]
  constructor
  · rintro ⟨_, h, -⟩
    exact h
  · exact fun h => ⟨_, h, rfl⟩

lemma executeRebalance_accepts_iff {deadline : ℕ} (hv : Valid st.config) (hpaused : st.paused = false)
    (hidle : ensureNoLiquidityOperation q st.config = .ok ()) (hdeadline : env.blockTime ≤ deadline)
    (hp : price.atomics.val ≠ 0) (hplan : (rebalancePlan q env.contract st.config : Result _) = .ok plan)
    (hplanned : Planned st.config price held plan) (hshould : plan.shouldRebalance = true)
    (htoken : plan.offerToken ≠ none) :
    (∃ outcome, executeRebalance q env st ⟨st.config.keeper, []⟩ deadline = .ok outcome) ↔
      PairReady q st price (held 0).val (held 1).val := by
  obtain ⟨token, htoken⟩ := Option.ne_none_iff_exists'.mp htoken
  obtain ⟨i, amount, least, rfl, hamount, hleast, hsize⟩ := hplanned.terms token htoken
  have hi : (if st.config.assetTokens i = st.config.assetTokens 0 then (0 : Fin 2) else 1) = i := by
    have hne := hv.tokens
    fin_cases i
    · simp
    · simp [Ne.symm hne]
  have hsafe : ∀ pool, validatePoolSafety relativeDeviation pool plan.capturedTwap i amount
      st.config.maxSpotTwapDeviationBps st.config.maxTradePoolBps ContractError.insufficientPoolDepth .unsafePoolPrice
        = .ok () ↔ SafePool st.config price pool i amount.val := by
    intro pool
    rw [hplanned.twap]
    exact validatePoolSafety_eq_ok hp
  rw [PairReady, hsize]
  simp only [executeRebalance, bind_eq_ok, assertKeeper, assertNotPaused, assertNoRebalance, hidle, hplan,
    hpaused, hdeadline, hshould, htoken, hamount, hleast, hi, orError_eq_ok, liftStd_eq_ok, ensure_eq_ok,
    Except.ok.injEq, exists_const, Bool.not_false, true_and, exists_eq_left', decide_true,
    Option.isNone_iff_eq_none, Option.some.injEq]
  constructor
  · rintro ⟨_, hnone, _, hcode, pool, hpool, _, hpoolSafe, -⟩
    exact ⟨hnone, hcode, pool, hpool, (hsafe pool).mp hpoolSafe⟩
  · rintro ⟨hnone, hcode, pool, hpool, hpoolSafe⟩
    exact ⟨_, hnone, (), hcode, pool, hpool, (), (hsafe pool).mpr hpoolSafe, rfl⟩

/-- A plan without an offer is within tolerance just in case holdings out of balance can be traded; and the message
that a keeper builds is accepted just in case the pair is moreover ready for the trades there are. -/
theorem keeper_message_accepted_iff (hreach : Reachable st) (hprice : (queryPrice q st.config : Result _) = .ok price)
    (hheld : (balances q env.contract st.config : Result _) = .ok held)
    (hplan : (rebalancePlan q env.contract st.config : Result _) = .ok plan) :
    ((plan.shouldRebalance = true → plan.offerToken = none →
        plan.allocationDeviationBps ≤ st.config.allocationToleranceBps) ↔
      (Drifted st.config price (held 0).val (held 1).val → Tradable st.config price (held 0).val (held 1).val)) ∧
    ∀ deadline built, Built plan deadline built → st.paused = false → ensureNoLiquidityOperation q st.config = .ok () →
      env.blockTime ≤ deadline →
      ((∀ msg, built = some msg → ∃ outcome, execute q env st ⟨st.config.keeper, []⟩ msg = .ok outcome) ↔
        (Drifted st.config price (held 0).val (held 1).val → Tradable st.config price (held 0).val (held 1).val) ∧
        (Moved st.config price ∨ Drifted st.config price (held 0).val (held 1).val →
          Tradable st.config price (held 0).val (held 1).val → PairReady q st price (held 0).val (held 1).val)) := by
  have hv := hreach.valid
  have hp := queryPrice_ne_zero hprice
  have hplanned := rebalancePlan_planned hv hprice hheld hplan
  have hwithin : (plan.shouldRebalance = true → plan.offerToken = none →
      plan.allocationDeviationBps ≤ st.config.allocationToleranceBps) ↔
      (Drifted st.config price (held 0).val (held 1).val → Tradable st.config price (held 0).val (held 1).val) := by
    have hdrifted := @drifted_iff st.config price held hv
    rw [← hplanned.deviation] at hdrifted
    constructor
    · intro hagree hdrift
      have hshould := hplanned.should.mpr (.inr hdrift)
      by_contra hnot
      have hnone : plan.offerToken = none := by
        by_contra hsome
        exact hnot ((hplanned.offer hshould).mp hsome)
      exact absurd (hagree hshould hnone) (Nat.not_le.mpr (hdrifted.mpr hdrift))
    · intro htrade hshould hnone
      by_contra hover
      exact (hplanned.offer hshould).mpr (htrade (hdrifted.mp (Nat.not_le.mp hover))) hnone
  refine ⟨hwithin, ?_⟩
  intro deadline built hbuilt hpaused hidle hdeadline
  rw [hbuilt.eq, ← hwithin, ← hplanned.should]
  constructor
  · intro haccepted
    constructor
    · intro hshould hnone
      have hmsg : buildMessage plan deadline = some .syncReference := by simp [buildMessage, hshould, hnone]
      exact (executeSyncReference_accepts_iff hpaused hidle hplan hshould).mp (haccepted _ hmsg)
    · intro hshould htrade
      have hsome := (hplanned.offer hshould).mpr htrade
      obtain ⟨token, htoken⟩ := Option.ne_none_iff_exists'.mp hsome
      have hmsg : buildMessage plan deadline = some (.rebalance deadline) := by simp [buildMessage, hshould, htoken]
      exact (executeRebalance_accepts_iff hv hpaused hidle hdeadline hp hplan hplanned hshould hsome).mp
        (haccepted _ hmsg)
  · rintro ⟨hagree, hready⟩ msg hmsg
    simp only [buildMessage] at hmsg
    split at hmsg
    · rename_i hshould
      split at hmsg
      · rename_i hnone
        cases hmsg
        exact (executeSyncReference_accepts_iff hpaused hidle hplan hshould).mpr (hagree hshould hnone)
      · rename_i token htoken
        cases hmsg
        have hsome : plan.offerToken ≠ none := by simp [htoken]
        exact (executeRebalance_accepts_iff hv hpaused hidle hdeadline hp hplan hplanned hshould hsome).mpr
          (hready hshould ((hplanned.offer hshould).mp hsome))
    · cases hmsg

end Plans

def leaningReport : Json := .obj [("should_rebalance", .bool true), ("offer_token", .str "token0")]

theorem keeper_message_accepted_leaning : ∃ plan,
    (rebalancePlan leaningChain "vault" unitStorage.config : Result _) = .ok plan ∧
    buildRebalance leaningReport 0 = .ok (some (messageJson (.rebalance 0))) ∧
    ((∀ msg, some (VaultExecuteMsg.rebalance 0) = some msg →
        ∃ outcome, execute leaningChain ⟨0, 0, "vault"⟩ unitStorage ⟨"keeper", []⟩ msg = .ok outcome) ↔
      (Drifted unitStorage.config .one 100 60 → Tradable unitStorage.config .one 100 60) ∧
      (Moved unitStorage.config .one ∨ Drifted unitStorage.config .one 100 60 →
        Tradable unitStorage.config .one 100 60 → PairReady leaningChain unitStorage .one 100 60)) := by
  obtain ⟨plan, hplan, hfacts⟩ := okAnd_iff.mp (show okAnd
    (rebalancePlan leaningChain "vault" unitStorage.config : Result _)
    (fun plan => decide (plan.shouldRebalance = true ∧ plan.offerToken = some "token0")) = true by decide)
  obtain ⟨hshould, htoken⟩ := of_decide_eq_true hfacts
  have hprice : (queryPrice leaningChain unitStorage.config : Result _) = .ok .one := rfl
  have hheld : (balances leaningChain (⟨0, 0, "vault"⟩ : Env).contract unitStorage.config : Result _)
    = .ok leaningHoldings := rfl
  have hreports : Reports plan leaningReport := ⟨by rw [hshould]; rfl, by rw [htoken]; rfl⟩
  refine ⟨plan, hplan, rfl, ?_⟩
  exact (keeper_message_accepted_iff unitStorage_reachable hprice hheld hplan).2 0 _ (.buildRebalance hreports rfl)
    rfl rfl le_rfl

def dustHoldings : Fin 2 → Uint128 := ![u128 1, 0]

def dustChain : Querier := fixedChain dustHoldings .one deepReserves

/-- A single unit of token 0, and nothing of token 1: the plan has no offer, and what the keeper then sends is
rejected. -/
theorem dust_rejects_sync_reference : ∃ plan, Reachable unitStorage ∧
    (rebalancePlan dustChain "vault" unitStorage.config : Result _) = .ok plan ∧
    plan.shouldRebalance = true ∧ plan.offerToken = none ∧
    unitStorage.config.allocationToleranceBps < plan.allocationDeviationBps ∧
    buildMessage plan 0 = some .syncReference ∧
    execute dustChain ⟨0, 0, "vault"⟩ unitStorage ⟨"keeper", []⟩ .syncReference =
      .error .allocationOutsideTolerance := by
  obtain ⟨plan, hplan, hfacts⟩ := okAnd_iff.mp (show okAnd
    (rebalancePlan dustChain "vault" unitStorage.config : Result _)
    (fun plan => decide (plan.shouldRebalance = true ∧ plan.offerToken = none ∧
      unitStorage.config.allocationToleranceBps < plan.allocationDeviationBps)) = true by decide)
  obtain ⟨hshould, hnone, hover⟩ := of_decide_eq_true hfacts
  have hrejected : failsWith (execute dustChain ⟨0, 0, "vault"⟩ unitStorage ⟨"keeper", []⟩ .syncReference)
      .allocationOutsideTolerance = true := by decide
  exact ⟨plan, unitStorage_reachable, hplan, hshould, hnone, hover, by simp [buildMessage, hshould, hnone],
    failsWith_iff.mp hrejected⟩

end Cl8yDexBots.Rebalancer.KeeperAgreement
