import Cl8yDexBots.MarketGrid.RebalanceLiveness

/-! When a rebalance that the market-grid vault calls for has an offer to send. -/

namespace Cl8yDexBots.MarketGrid.OfferAgreement

open Foundation.Checked Foundation.Words Foundation.SubMessages CosmWasm.Std
open CosmWasm.Pair SwapVault.Pricing SwapVault.Deviation
open State Planning Vault Runs RebalanceLiveness

def gridStatus {ε : Type} [StdFailure ε] (q : Querier) (env : Env) (st : Storage) :
    Except ε GridStatusResponse := do
  assertPairCodeId q st.config
  if st.pendingSwap.isSome then
    .ok { currentCell := st.config.lastCell, targetWeightBps := 0, allocationDeviationBps := 0,
          shouldRebalance := false,
          capturedTwap := st.config.referencePrice, balances := 0, offerToken := none, amount := none,
          minReturn := none, pendingSwap := true }
  else do
    let plan ← rebalancePlan q env st.config
    let currentCell ← configCell plan.capturedTwap st.config
    let targetWeightBps ← targetWeightBps currentCell st.config
    .ok { plan with currentCell, targetWeightBps, capturedTwap := st.config.referencePrice, balances := 0 }

def cellOf (config : Config) (price : Decimal) : ℕ :=
  match (configCell price config : Result ℕ) with
  | .ok cell => cell
  | .error _ => 0

def actualValue (h1 : ℕ) : ℕ := h1 * decimalFractional

def plannedValue (config : Config) (price : Decimal) (h0 h1 : ℕ) : ℕ :=
  targetValue decimalFractional price.atomics.val (cellWeight config price) h0 h1

/-- The price has left the cell of the last rebalance, or the allocation is out of tolerance. -/
def Triggered (config : Config) (price : Decimal) (h0 h1 : ℕ) : Prop :=
  cellOf config price ≠ config.lastCell ∨
    Deviates (config.allocationToleranceBps + 1) (actualValue h1) (plannedValue config price h0 h1)

/-- The allocation is off by at least one unit of the token to sell, and a trade may sell one unit of the holdings. -/
def Tradable (config : Config) (price : Decimal) (h0 h1 : ℕ) : Prop :=
  plannedValue config price h0 h1 + decimalFractional ≤ actualValue h1 ∧ 10000 ≤ h1 * config.maxTradeBps ∨
  actualValue h1 < plannedValue config price h0 h1 ∧
    actualValue h1 + price.atomics.val ≤ plannedValue config price h0 h1 ∧ 10000 ≤ h0 * config.maxTradeBps

section Planned

variable {held : Fin 2 → Uint128} {price : Decimal} {config : Config} {cell gridCount maxTradeBps : ℕ}

lemma capped_pos {difference unit holding maxTradeBps : ℕ} (hunit : 0 < unit) :
    min (difference / unit) (holding * maxTradeBps / 10000) ≠ 0 ↔
      unit ≤ difference ∧ 10000 ≤ holding * maxTradeBps := by
  rw [← Nat.pos_iff_ne_zero, Nat.lt_min, Nat.div_pos_iff, Nat.div_pos_iff]
  simp [hunit]

lemma plannedOffer_isSome {offer : Option (Fin 2 × Uint128)}
    (h : (plannedOffer held price cell gridCount maxTradeBps : Result _) = .ok offer) :
    let target := targetValue decimalFractional price.atomics.val (cell * decimalFractional / max gridCount 1)
      (held 0).val (held 1).val
    let actual := (held 1).val * decimalFractional
    offer ≠ none ↔ target + decimalFractional ≤ actual ∧ 10000 ≤ (held 1).val * maxTradeBps ∨
      actual < target ∧ actual + price.atomics.val ≤ target ∧ 10000 ≤ (held 0).val * maxTradeBps := by
  simp only [plannedOffer, bind_eq_ok, Decimal.fromRatio_eq_ok, mulOrPanic_eq_ok, addOrPanic_eq_ok,
    divOrPanic_eq_ok, to256_val, Decimal.one_atomics_val] at h
  obtain ⟨weight, ⟨-, hweight⟩, value0, hvalue0, value1, hvalue1, total, htotal, weighted, hweighted,
    target, ⟨-, htarget⟩, h⟩ := h
  have ht : target.val = targetValue decimalFractional price.atomics.val (cell * decimalFractional / max gridCount 1)
      (held 0).val (held 1).val := by
    rw [htarget, hweighted, htotal, hvalue0, hvalue1, hweight, targetValue]
  have hunit := decimalFractional_pos
  dsimp only
  rw [← ht, ← hvalue1]
  split at h
  · rename_i heq
    cases h
    have hval := congrArg Uint.val heq
    simp only [ne_eq, not_true_eq_false, false_iff]
    omega
  · rename_i hne
    have hval : value1.val ≠ target.val := fun he => hne (eq_iff.mpr he)
    simp only [bind_eq_ok, multiplyRatio_eq_ok, narrow_eq_ok, Except.ok.injEq, Prod.exists] at h
    obtain ⟨i, uncapped, hoffer, cap, ⟨-, hcap⟩, narrowed, hnarrowed, rfl⟩ := h
    have hsome : (if isZero (min narrowed cap) then none else some (i, min narrowed cap)) ≠ none ↔
        min uncapped.val ((held i).val * maxTradeBps / 10000) ≠ 0 := by
      rw [← hnarrowed, ← hcap, ← min_val, ne_eq, ne_eq, ← isZero_iff]
      split <;> simp [*]
    rw [hsome]
    simp only [plannedOffer.uncappedOffer] at hoffer
    split at hoffer
    · rename_i hlt
      simp only [bind_eq_ok, subOrPanic_eq_ok, divOrPanic_eq_ok, to256_val, Decimal.one_atomics_val,
        Except.ok.injEq, Prod.mk.injEq] at hoffer
      obtain ⟨excess, ⟨-, hexcess⟩, sold, ⟨-, hsold⟩, rfl, rfl⟩ := hoffer
      have hlt : target.val < value1.val := hlt
      rw [hsold, hexcess, capped_pos hunit]
      omega
    · rename_i hlt
      simp only [bind_eq_ok, subOrPanic_eq_ok, divOrPanic_eq_ok, to256_val, Except.ok.injEq, Prod.mk.injEq] at hoffer
      obtain ⟨deficit, ⟨hle, hdeficit⟩, sold, ⟨hpos, hsold⟩, rfl, rfl⟩ := hoffer
      rw [hsold, hdeficit, capped_pos (Nat.pos_of_ne_zero hpos)]
      omega

end Planned

section Plans

variable {q : Querier} {env : Env} {st : Storage} {price : Decimal} {held : Fin 2 → Uint128} {plan : GridStatusResponse}

lemma plan_offer (hv : Valid st.config)
    (hprice : (referencePrice q st.config.pair st.config.twapWindowSeconds : Result _) = .ok price)
    (hheld : (balances q env.contract st.config : Result _) = .ok held)
    (h : (rebalancePlan q env st.config : Result _) = .ok plan) :
    (plan.shouldRebalance = true ↔ Triggered st.config price (held 0).val (held 1).val) ∧
    (plan.offerToken = none → plan.amount = none ∧ plan.minReturn = none) ∧
    (plan.offerToken ≠ none → plan.amount ≠ none ∧ plan.minReturn ≠ none) ∧
    (plan.shouldRebalance = true →
      (plan.offerToken ≠ none ↔ Tradable st.config price (held 0).val (held 1).val)) := by
  simp only [rebalancePlan, bind_eq_ok, hprice, hheld, Except.ok.injEq] at h
  obtain ⟨_, -, _, rfl, _, rfl, cell, hcell, d, hd, offer, hoffer, ⟨token, amount, least⟩, hterms, _, -, rfl⟩ := h
  have hone : max st.config.gridCount 1 = st.config.gridCount := max_eq_left hv.gridCount.1
  have hcells : cellOf st.config price = cell := by rw [cellOf, hcell]
  have hterms' : token ≠ none ↔ offer ≠ none := by
    cases offer with
    | none =>
      cases hterms
      simp
    | some offer =>
      simp only [offerTerms, bind_eq_ok, Except.ok.injEq, Prod.mk.injEq] at hterms
      obtain ⟨_, -, rfl, rfl, rfl⟩ := hterms
      simp
  have hwhole : (token = none → amount = none ∧ least = none) ∧ (token ≠ none → amount ≠ none ∧ least ≠ none) := by
    cases offer with
    | none =>
      cases hterms
      simp
    | some offer =>
      simp only [offerTerms, bind_eq_ok, Except.ok.injEq, Prod.mk.injEq] at hterms
      obtain ⟨_, -, rfl, rfl, rfl⟩ := hterms
      simp
  refine ⟨?_, hwhole.1, hwhole.2, ?_⟩
  · have htolerance := hv.tolerance.2
    have hdeviates : ∀ actual target, st.config.allocationToleranceBps + 1 ≤ allocationBps actual target ↔
        Deviates (st.config.allocationToleranceBps + 1) actual target :=
      fun _ _ => le_allocationBps_iff (Nat.succ_pos _) (by omega)
    dsimp only
    rw [decide_eq_true_eq, Triggered, hcells, plannedValue, actualValue, configCell_weight hcell,
      (allocationDeviation_ok hcell hd).2.2, ← hdeviates]
    rfl
  · intro hshould
    dsimp only at hshould hoffer ⊢
    rw [hshould] at hoffer
    have hplanned := plannedOffer_isSome hoffer
    dsimp only at hplanned
    rw [hone] at hplanned
    rw [hterms', hplanned, Tradable, plannedValue, actualValue, configCell_weight hcell]

lemma gridStatus_ok {status : GridStatusResponse} (h : (gridStatus q env st : Result _) = .ok status) :
    (assertPairCodeId q st.config : Result _) = .ok () ∧
    (st.pendingSwap.isSome = true ∧ status.shouldRebalance = false ∨
      st.pendingSwap.isSome = false ∧ ∃ plan, (rebalancePlan q env st.config : Result _) = .ok plan ∧
        status.shouldRebalance = plan.shouldRebalance ∧ status.offerToken = plan.offerToken) := by
  simp only [gridStatus, bind_eq_ok] at h
  obtain ⟨_, hcode, h⟩ := h
  refine ⟨hcode, ?_⟩
  split at h
  · rename_i hpending
    cases h
    exact .inl ⟨hpending, rfl⟩
  · rename_i hpending
    simp only [bind_eq_ok, Except.ok.injEq] at h
    obtain ⟨plan, hplan, _, -, _, -, rfl⟩ := h
    exact .inr ⟨by simpa using hpending, plan, hplan, rfl, rfl⟩

end Plans

section Rejections

lemma ensure_eq_error {ε : Type} {condition : Bool} {failure e : ε} :
    ensure condition failure = .error e ↔ condition = false ∧ failure = e := by
  cases condition <;> simp [ensure]

lemma liftStd_ne {α : Type} {x : Except StdError α} :
    (liftStd x : Result α) ≠ .error .invalidRebalanceSwap := by
  cases x with
  | ok a => simp [liftStd]
  | error e => simp [liftStd]

lemma checkedRatio_ne {value numerator denominator : Uint128} :
    (checkedRatio value numerator denominator : Result _) ≠ .error .invalidRebalanceSwap := by
  intro h
  simp only [checkedRatio, checkedRatioOr, bind_eq_error, ensure_eq_error, narrow] at h
  rcases h with ⟨-, h⟩ | ⟨_, -, h⟩
  · cases h
  · split at h <;> cases h

lemma relativeDeviation_ne {current reference : Decimal} :
    (relativeDeviation current reference : Result ℕ) ≠ .error .invalidRebalanceSwap := by
  intro h
  simp only [relativeDeviation, ratioDeviation] at h
  split at h
  · split at h <;> cases h
  · rename_i hz
    rw [deviationFrom_eq fun he => hz (isZero_iff.mpr he)] at h
    cases h

lemma validatePoolSafety_ne {pool : PoolResponse} {twap : Decimal} {i : Fin 2} {amount : Uint128} {spot share : ℕ} :
    validatePoolSafety relativeDeviation pool twap i amount spot share
      ContractError.insufficientPoolDepth .unsafePoolPrice ≠ .error .invalidRebalanceSwap := by
  intro h
  simp only [validatePoolSafety, bind_eq_error, ensure_eq_error] at h
  rcases h with ⟨-, h⟩ | ⟨_, -, h | ⟨_, -, h | ⟨_, -, ⟨-, h⟩ | ⟨_, -, -, h⟩⟩⟩⟩
  · cases h
  · exact checkedRatio_ne h
  · exact relativeDeviation_ne h
  · cases h
  · cases h

variable {q : Querier} {env : Env} {st : Storage} {plan : GridStatusResponse} {info : MessageInfo} {deadline : ℕ}

lemma executeRebalance_invalid_iff (hfunds : info.funds = []) (hpaused : st.paused = false)
    (hpending : st.pendingSwap.isSome = false) (hdeadline : env.blockTime ≤ deadline)
    (hcode : (assertPairCodeId q st.config : Result _) = .ok ())
    (hplan : (rebalancePlan q env st.config : Result _) = .ok plan) (hshould : plan.shouldRebalance = true)
    (hwhole : plan.offerToken ≠ none → plan.amount ≠ none ∧ plan.minReturn ≠ none) :
    executeRebalance q env st info deadline = .error .invalidRebalanceSwap ↔ plan.offerToken = none := by
  have hnone : st.pendingSwap = none := by simpa using hpending
  simp only [executeRebalance, assertNoFunds, assertNotPaused, hfunds, hpaused, hnone, hdeadline, hcode, hplan,
    hshould, ensure, List.isEmpty_nil, Option.isNone_none, Bool.not_false, decide_true, if_true, ok_bind]
  cases htoken : plan.offerToken with
  | none => simp [orError]
  | some token =>
    obtain ⟨hamount, hleast⟩ := hwhole (by simp [htoken])
    obtain ⟨amount, hamount⟩ := Option.ne_none_iff_exists'.mp hamount
    obtain ⟨least, hleast⟩ := Option.ne_none_iff_exists'.mp hleast
    simp only [hamount, hleast, orError, ok_bind, bind_eq_error, reduceCtorEq, exists_false, and_false, or_false,
      iff_false]
    rintro (h | ⟨_, -, h⟩)
    · exact liftStd_ne h
    · exact validatePoolSafety_ne h

end Rejections

def OfferReady (q : Querier) (env : Env) (st : Storage) : Prop :=
  ∀ price held, (referencePrice q st.config.pair st.config.twapWindowSeconds : Result _) = .ok price →
    (balances q env.contract st.config : Result _) = .ok held →
    Triggered st.config price (held 0).val (held 1).val → Tradable st.config price (held 0).val (held 1).val

lemma offerReady_iff {q : Querier} {env : Env} {st : Storage} {plan : GridStatusResponse} (hv : Valid st.config)
    (h : (rebalancePlan q env st.config : Result _) = .ok plan) :
    OfferReady q env st ↔ (plan.shouldRebalance = true → plan.offerToken ≠ none) := by
  obtain ⟨price, held, hprice, hheld⟩ : ∃ price held,
      (referencePrice q st.config.pair st.config.twapWindowSeconds : Result _) = .ok price ∧
      (balances q env.contract st.config : Result _) = .ok held := by
    simp only [rebalancePlan, bind_eq_ok] at h
    obtain ⟨_, -, price, hprice, held, hheld, -⟩ := h
    exact ⟨price, held, hprice, hheld⟩
  obtain ⟨htriggered, -, -, htradable⟩ := plan_offer hv hprice hheld h
  constructor
  · intro hready hshould
    exact (htradable hshould).mpr (hready price held hprice hheld (htriggered.mp hshould))
  · intro hoffer price' held' hprice' hheld' htrigger
    rw [hprice] at hprice'
    rw [hheld] at hheld'
    cases hprice'
    cases hheld'
    have hshould := htriggered.mpr htrigger
    exact (htradable hshould).mp (hoffer hshould)

/-- A status that calls for a rebalance names an offer just in case there is something to trade, and otherwise
the rebalance it asks for is rejected. -/
theorem advertised_rebalance_iff {q : Querier} {env : Env} {st : Storage} {status : GridStatusResponse}
    (hreach : Reachable st) (h : (gridStatus q env st : Result _) = .ok status) :
    ((status.shouldRebalance = true → status.offerToken ≠ none) ↔ (st.pendingSwap = none → OfferReady q env st)) ∧
    ∀ info deadline, info.funds = [] → st.paused = false → env.blockTime ≤ deadline →
      ((status.shouldRebalance = true → executeRebalance q env st info deadline ≠ .error .invalidRebalanceSwap) ↔
        (st.pendingSwap = none → OfferReady q env st)) := by
  have hv := hreach.valid
  obtain ⟨hcode, ⟨hpending, hshould⟩ | ⟨hpending, plan, hplan, hshould, htoken⟩⟩ := gridStatus_ok h
  · have hne : st.pendingSwap ≠ none := by
      intro hnone
      simp [hnone] at hpending
    simp [hshould, hne]
  · have hnone : st.pendingSwap = none := by simpa using hpending
    have hready := offerReady_iff hv hplan
    rw [hshould, htoken]
    refine ⟨by simp only [hnone, true_imp_iff, hready], ?_⟩
    intro info deadline hfunds hpaused hdeadline
    simp only [hnone, true_imp_iff, hready]
    have hwhole : plan.offerToken ≠ none → plan.amount ≠ none ∧ plan.minReturn ≠ none := by
      simp only [rebalancePlan, bind_eq_ok] at hplan
      obtain ⟨_, -, price, hprice, held, hheld, -⟩ := id hplan
      exact (plan_offer hv hprice hheld (by simpa only [rebalancePlan, bind_eq_ok] using hplan)).2.2.1
    constructor
    · intro hsent hcalled hmissing
      exact hsent hcalled
        ((executeRebalance_invalid_iff hfunds hpaused hpending hdeadline hcode hplan hcalled hwhole).mpr hmissing)
    · intro hoffer hcalled hrejected
      exact hoffer hcalled
        ((executeRebalance_invalid_iff hfunds hpaused hpending hdeadline hcode hplan hcalled hwhole).mp hrejected)

theorem advertised_rebalance_midPrice : ∃ status,
    (gridStatus midChain ⟨0, 0, "vault"⟩ midStorage : Result _) = .ok status ∧
    ((status.shouldRebalance = true → status.offerToken ≠ none) ↔
      (midStorage.pendingSwap = none → OfferReady midChain ⟨0, 0, "vault"⟩ midStorage)) := by
  obtain ⟨status, h, -⟩ := okAnd_iff.mp (show okAnd
    (gridStatus midChain ⟨0, 0, "vault"⟩ midStorage : Result _) (fun _ => true) = true by decide)
  exact ⟨status, h, (advertised_rebalance_iff (freshStorage_reachable midPrice 5 rfl) h).1⟩

/-- Nothing was deposited yet, and the price is at the lower end instead of the middle. -/
def emptyChain : Querier := fixedChain 0 .one (deepReserves Decimal.one.atomics)

theorem empty_vault_rejects_advertised_rebalance : ∃ status, Reachable midStorage ∧
    (gridStatus emptyChain ⟨0, 0, "vault"⟩ midStorage : Result _) = .ok status ∧
    status.shouldRebalance = true ∧ status.offerToken = none ∧
    executeRebalance emptyChain ⟨0, 0, "vault"⟩ midStorage ⟨"keeper", []⟩ 0 = .error .invalidRebalanceSwap := by
  obtain ⟨status, h, hstatus⟩ := okAnd_iff.mp (show okAnd
    (gridStatus emptyChain ⟨0, 0, "vault"⟩ midStorage : Result _)
    (fun status => decide (status.shouldRebalance = true ∧ status.offerToken = none)) = true by decide)
  obtain ⟨hshould, hoffer⟩ := of_decide_eq_true hstatus
  have hrejected : failsWith (executeRebalance emptyChain ⟨0, 0, "vault"⟩ midStorage ⟨"keeper", []⟩ 0)
      .invalidRebalanceSwap = true := by decide
  exact ⟨status, freshStorage_reachable midPrice 5 rfl, h, hshould, hoffer, failsWith_iff.mp hrejected⟩

end Cl8yDexBots.MarketGrid.OfferAgreement
