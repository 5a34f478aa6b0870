import Cl8yDexBots.Rebalancer.Vault

/-! Runs of the bot-vault and the bounds every configuration keeps. -/

namespace Cl8yDexBots.Rebalancer.Runs

open Foundation.Checked Foundation.Words Foundation.SubMessages CosmWasm.Std CosmWasm.Pair
open SwapVault.Pricing State Planning Vault

inductive Reachable : Storage → Prop
  | instantiated {q env msg st r} (h : instantiate q env msg = .ok (st, r)) : Reachable st
  | executed {q env st info msg st' r} (before : Reachable st)
      (h : execute q env st info msg = .ok (st', r)) : Reachable st'
  | replied {q env st id st' r} (before : Reachable st) (h : reply q env st id = .ok (st', r)) :
      Reachable st'
  | migrated {st codeId st' r} (before : Reachable st) (h : migrate st codeId = .ok (st', r)) :
      Reachable st'

structure Valid (config : Config) : Prop where
  tokens : config.assetTokens 0 ≠ config.assetTokens 1
  threshold : 1 ≤ config.rebalanceThresholdBps ∧ config.rebalanceThresholdBps ≤ 10000
  tolerance : 1 ≤ config.allocationToleranceBps ∧ config.allocationToleranceBps ≤ 2000
  maxTrade : 1 ≤ config.maxTradeBps ∧ config.maxTradeBps ≤ 5000
  execution : config.maxExecutionDeviationBps ≤ 1000
  quote : config.quoteSlippageBps ≤ 500
  spotTwap : 1 ≤ config.maxSpotTwapDeviationBps ∧ config.maxSpotTwapDeviationBps ≤ 1000
  tradePool : 1 ≤ config.maxTradePoolBps ∧ config.maxTradePoolBps ≤ 2000
  maxSpread : config.maxSpread.isZero = false ∧ config.maxSpread ≤ .percent 10 Decimal.ten_percent_lt
  twapWindow : 1 ≤ config.twapWindowSeconds ∧ config.twapWindowSeconds ≤ 86400

@[simp] lemma validateThreshold_eq_ok {n : ℕ} {u : Unit} :
    validateThreshold n = .ok u ↔ 1 ≤ n ∧ n ≤ 10000 := by
  simp only [validateThreshold, ensure_eq_ok, decide_eq_true_eq]
  omega

@[simp] lemma validateAllocationTolerance_eq_ok {n : ℕ} {u : Unit} :
    validateAllocationTolerance n = .ok u ↔ 1 ≤ n ∧ n ≤ 2000 := by
  simp only [validateAllocationTolerance, ensure_eq_ok, decide_eq_true_eq]
  omega

lemma pairTokens_ne {q : Querier} {pairInfo : PairInfo} {tokens : Fin 2 → Addr}
    (h : pairTokens q pairInfo = .ok tokens) : tokens 0 ≠ tokens 1 := by
  simp only [pairTokens, bind_eq_ok, ensure_eq_ok, exists_const, Except.ok.injEq] at h
  obtain ⟨t0, -, t1, -, hne, rfl⟩ := h
  simpa using hne

lemma checkedUpdate_ok {current next : ℕ} {check : ℕ → Result Unit} {value : Option ℕ} {P : ℕ → Prop}
    (h : checkedUpdate current check value = .ok next) (init : P current)
    (checked : ∀ n u, check n = .ok u → P n) : P next := by
  cases value with
  | none => cases h; exact init
  | some n =>
    simp only [checkedUpdate, bind_eq_ok, Except.ok.injEq] at h
    obtain ⟨u, hu, rfl⟩ := h
    exact checked _ u hu

theorem instantiate_valid {q : Querier} {env : Env} {msg : InstantiateMsg} {st : Storage}
    {r : Response WasmMsg} (h : instantiate q env msg = .ok (st, r)) : Valid st.config := by
  simp only [instantiate, bind_eq_ok, ensure_eq_ok, validateThreshold_eq_ok,
    validateAllocationTolerance_eq_ok, validateRiskControls_eq_ok, exists_const, Except.ok.injEq,
    Prod.mk.injEq] at h
  obtain ⟨-, -, _, -, _, -, -, _, -, _, -, tokens, htokens, _, -, _, -, -, hthreshold, htolerance,
    hwindow, _, -, _, -, _, -, ⟨htrade, hexec, hquote, hspot, hpool, hspread⟩, _, -, _, -, _, -, rfl,
    -⟩ := h
  simp only [decide_eq_true_eq, validTwapWindow] at hwindow
  exact ⟨pairTokens_ne htokens, hthreshold, htolerance, htrade, hexec, hquote, hspot, hpool, hspread,
    hwindow⟩

lemma updateTwapWindow_ok {q : Querier} {config next : Config} {window : Option ℕ}
    (h : updateTwapWindow q config window = .ok next) :
    ∃ referencePrice twapWindowSeconds, next = { config with referencePrice, twapWindowSeconds } ∧
      (1 ≤ config.twapWindowSeconds ∧ config.twapWindowSeconds ≤ 86400 →
        1 ≤ twapWindowSeconds ∧ twapWindowSeconds ≤ 86400) := by
  cases window with
  | none =>
    cases h
    exact ⟨_, _, rfl, fun h => h⟩
  | some seconds =>
    simp only [updateTwapWindow, bind_eq_ok, ensure_eq_ok, exists_const, Except.ok.injEq] at h
    obtain ⟨hwindow, price, -, rfl⟩ := h
    simp only [decide_eq_true_eq, validTwapWindow] at hwindow
    exact ⟨_, _, rfl, fun _ => hwindow⟩

theorem executeUpdateThresholds_valid {q : Querier} {st st' : Storage} {info : MessageInfo}
    {next : Thresholds} {r : Response WasmMsg} (hv : Valid st.config)
    (h : executeUpdateThresholds q st info next = .ok (st', r)) : Valid st'.config := by
  simp only [executeUpdateThresholds, bind_eq_ok, validateRiskControls_eq_ok, exists_const,
    Except.ok.injEq, Prod.mk.injEq] at h
  obtain ⟨_, -, threshold, hthreshold, tolerance, htolerance, config, hconfig,
    ⟨htrade, hexec, hquote, hspot, hpool, hspread⟩, rfl, -⟩ := h
  obtain ⟨_, _, rfl, hwindow⟩ := updateTwapWindow_ok hconfig
  have hthreshold' :=
    checkedUpdate_ok hthreshold hv.threshold fun _ _ => validateThreshold_eq_ok.mp
  have htolerance' :=
    checkedUpdate_ok htolerance hv.tolerance fun _ _ => validateAllocationTolerance_eq_ok.mp
  exact ⟨hv.tokens, hthreshold', htolerance', htrade, hexec, hquote, hspot, hpool, hspread,
    hwindow hv.twapWindow⟩

def SameBounds (a b : Config) : Prop :=
  ∃ admin keeper liquidityContract referencePrice feeRegistry feeCollector,
    b = { a with admin, keeper, liquidityContract, referencePrice, feeRegistry, feeCollector }

lemma SameBounds.valid {a b : Config} (h : SameBounds a b) (hv : Valid a) : Valid b := by
  obtain ⟨_, _, _, _, _, _, rfl⟩ := h
  exact ⟨hv.tokens, hv.threshold, hv.tolerance, hv.maxTrade, hv.execution, hv.quote, hv.spotTwap,
    hv.tradePool, hv.maxSpread, hv.twapWindow⟩

lemma resolveFee_storage (q : Querier) (st : Storage) (config : Config) (registry : Addr) :
    ∃ feeCache, (resolveFee q st config registry).1 = { st with feeCache } := by
  simp only [resolveFee]
  split
  · exact ⟨_, rfl⟩
  · split <;> exact ⟨_, rfl⟩

lemma chargeFee_storage {q : Querier} {st st' : Storage} {config : Config} {value nav : Uint128}
    {fee : Option FeeApplied} {mints : List WasmMsg}
    (h : chargeFee q st config value nav = .ok (st', fee, mints)) :
    ∃ feeCache, st' = { st with feeCache } := by
  simp only [chargeFee] at h
  split at h
  · rename_i registry _ _ _
    obtain ⟨feeCache, hresolve⟩ := resolveFee_storage q st config registry
    split at h
    · cases h; exact ⟨_, rfl⟩
    · split at h
      · cases h; exact ⟨_, rfl⟩
      · rw [hresolve] at h
        split at h
        · cases h; exact ⟨_, rfl⟩
        · simp only [bind_eq_ok] at h
          obtain ⟨feeValue, -, h⟩ := h
          split at h
          · cases h; exact ⟨_, rfl⟩
          · simp only [bind_eq_ok] at h
            obtain ⟨tokenInfo, -, h⟩ := h
            split at h
            · cases h; exact ⟨_, rfl⟩
            · simp only [bind_eq_ok] at h
              obtain ⟨shares, -, h⟩ := h
              split at h <;> cases h <;> exact ⟨_, rfl⟩
  · cases h; exact ⟨_, rfl⟩

lemma reply_ok {q : Querier} {env : Env} {st st' : Storage} {id : ℕ} {r : Response WasmMsg}
    (h : reply q env st id = .ok (st', r)) :
    ∃ pending settled current within referencePrice feeCache fee mints value nav,
      id = rebalanceReplyId ∧ st.pendingRebalance = some pending ∧
      (balances q env.contract st.config : Result _) = .ok settled ∧
      settledDeviation st.config pending settled = .ok (current, within) ∧
      proceedsInToken0 pending settled = .ok value ∧
      navInToken0 settled pending.capturedTwap = .ok nav ∧
      chargeFee q { st with config := { st.config with referencePrice }, pendingRebalance := none }
        { st.config with referencePrice } value nav = .ok (st', fee, mints) ∧
      st' = { st with config := { st.config with referencePrice }, pendingRebalance := none,
                      feeCache } ∧
      r.messages = mints.map .plain := by
  simp only [reply, bind_eq_ok, ensure_eq_ok, orError_eq_ok, exists_const, beq_iff_eq] at h
  obtain ⟨rfl, pending, hpending, settled, hsettled, ⟨current, within⟩, houtcome, value, hvalue, nav,
    hnav, ⟨st₁, fee, mints⟩, hfee, h⟩ := h
  simp only [Except.ok.injEq, Prod.mk.injEq] at h
  obtain ⟨rfl, rfl⟩ := h
  have hconfig : ∃ referencePrice, (if within = true
      then { st.config with referencePrice := pending.capturedTwap } else st.config)
        = { st.config with referencePrice } := by
    split
    · exact ⟨_, rfl⟩
    · exact ⟨st.config.referencePrice, rfl⟩
  obtain ⟨referencePrice, hconfig⟩ := hconfig
  rw [hconfig] at hfee
  obtain ⟨feeCache, rfl⟩ := chargeFee_storage hfee
  exact ⟨pending, settled, current, within, referencePrice, feeCache, fee, mints, value, nav, rfl,
    hpending, hsettled, houtcome, hvalue, hnav, hfee, rfl, rfl⟩

lemma execute_valid {q : Querier} {env : Env} {st st' : Storage} {info : MessageInfo}
    {msg : VaultExecuteMsg} {r : Response WasmMsg} (hv : Valid st.config)
    (h : execute q env st info msg = .ok (st', r)) : Valid st'.config := by
  cases msg with
  | setLiquidityContract liquidityContract =>
    simp only [execute, executeSetLiquidity, bind_eq_ok, Except.ok.injEq, Prod.mk.injEq] at h
    obtain ⟨_, -, _, -, _, -, _, -, _, -, _, -, _, -, _, -, rfl, -⟩ := h
    exact SameBounds.valid ⟨_, _, _, _, _, _, rfl⟩ hv
  | liquiditySwap params =>
    simp only [execute, executeLiquiditySwap, bind_eq_ok, Except.ok.injEq, Prod.mk.injEq] at h
    obtain ⟨_, -, _, -, _, -, _, -, _, -, _, -, rfl, -⟩ := h
    exact hv
  | transferTo token amount recipient =>
    simp only [execute, executeTransfer, bind_eq_ok, Except.ok.injEq, Prod.mk.injEq] at h
    obtain ⟨_, -, _, -, _, -, _, -, _, -, _, -, _, -, _, -, rfl, -⟩ := h
    exact hv
  | finalizeLiquidityOperation =>
    simp only [execute, executeFinalize, bind_eq_ok, Except.ok.injEq, Prod.mk.injEq] at h
    obtain ⟨_, -, _, -, _, -, _, -, _, -, rfl, -⟩ := h
    exact hv
  | rebalance deadline =>
    simp only [execute, executeRebalance, bind_eq_ok, Except.ok.injEq, Prod.mk.injEq] at h
    obtain ⟨_, -, _, -, _, -, _, -, _, -, _, -, _, -, _, -, _, -, _, -, _, -, _, -, _, -, rfl, -⟩ := h
    exact hv
  | syncReference =>
    simp only [execute, executeSyncReference, bind_eq_ok, Except.ok.injEq, Prod.mk.injEq] at h
    obtain ⟨_, -, _, -, _, -, _, -, _, -, _, -, rfl, -⟩ := h
    exact SameBounds.valid ⟨_, _, _, _, _, _, rfl⟩ hv
  | updateKeeper keeper =>
    simp only [execute, executeUpdateKeeper, bind_eq_ok, Except.ok.injEq, Prod.mk.injEq] at h
    obtain ⟨_, -, _, -, rfl, -⟩ := h
    exact SameBounds.valid ⟨_, _, _, _, _, _, rfl⟩ hv
  | updateThresholds next => exact executeUpdateThresholds_valid hv h
  | updateFeeConfig feeRegistry feeCollector =>
    simp only [execute, executeUpdateFeeConfig, bind_eq_ok, Except.ok.injEq, Prod.mk.injEq] at h
    obtain ⟨_, -, _, -, _, -, rfl, -⟩ := h
    exact SameBounds.valid ⟨_, _, _, _, _, _, rfl⟩ hv
  | transferAdmin admin =>
    simp only [execute, executeTransferAdmin, bind_eq_ok, Except.ok.injEq, Prod.mk.injEq] at h
    obtain ⟨_, -, _, -, rfl, -⟩ := h
    exact hv
  | acceptAdmin =>
    simp only [execute, executeAcceptAdmin, bind_eq_ok, Except.ok.injEq, Prod.mk.injEq] at h
    obtain ⟨_, -, _, -, rfl, -⟩ := h
    exact SameBounds.valid ⟨_, _, _, _, _, _, rfl⟩ hv
  | cancelAdminTransfer =>
    simp only [execute, executeCancelAdminTransfer, bind_eq_ok, Except.ok.injEq, Prod.mk.injEq] at h
    obtain ⟨_, -, rfl, -⟩ := h
    exact hv
  | revokeLiquidityContract =>
    simp only [execute, executeRevokeLiquidity, bind_eq_ok, Except.ok.injEq, Prod.mk.injEq] at h
    obtain ⟨_, -, rfl, -⟩ := h
    exact SameBounds.valid ⟨_, _, _, _, _, _, rfl⟩ hv
  | pause =>
    simp only [execute, executePause, bind_eq_ok, Except.ok.injEq, Prod.mk.injEq] at h
    obtain ⟨_, -, _, -, rfl, -⟩ := h
    exact hv
  | resume =>
    simp only [execute, executeResume, bind_eq_ok, Except.ok.injEq, Prod.mk.injEq] at h
    obtain ⟨_, -, _, -, _, -, _, -, _, -, rfl, -⟩ := h
    exact hv

def rebinds : VaultExecuteMsg → Bool
  | .setLiquidityContract _ | .revokeLiquidityContract | .pause | .resume => true
  | _ => false

/-- What `msg` leaves alone. -/
structure Keeps (msg : VaultExecuteMsg) (st st' : Storage) : Prop where
  feeCache : st'.feeCache = st.feeCache
  assetTokens : st'.config.assetTokens = st.config.assetTokens
  pair : st'.config.pair = st.config.pair
  pairCodeId : st'.config.pairCodeId = st.config.pairCodeId
  pending : (∀ deadline, msg ≠ .rebalance deadline) → st'.pendingRebalance = st.pendingRebalance
  binding : rebinds msg = false →
    st'.config.liquidityContract = st.config.liquidityContract ∧ st'.paused = st.paused

lemma execute_keeps {q : Querier} {env : Env} {st st' : Storage} {info : MessageInfo}
    {msg : VaultExecuteMsg} {r : Response WasmMsg} (h : execute q env st info msg = .ok (st', r)) :
    Keeps msg st st' := by
  cases msg with
  | setLiquidityContract liquidityContract =>
    simp only [execute, executeSetLiquidity, bind_eq_ok, Except.ok.injEq, Prod.mk.injEq] at h
    obtain ⟨_, -, _, -, _, -, _, -, _, -, _, -, _, -, _, -, rfl, -⟩ := h
    exact ⟨rfl, rfl, rfl, rfl, fun _ => rfl, by simp [rebinds]⟩
  | liquiditySwap params =>
    simp only [execute, executeLiquiditySwap, bind_eq_ok, Except.ok.injEq, Prod.mk.injEq] at h
    obtain ⟨_, -, _, -, _, -, _, -, _, -, _, -, rfl, -⟩ := h
    exact ⟨rfl, rfl, rfl, rfl, fun _ => rfl, fun _ => ⟨rfl, rfl⟩⟩
  | transferTo token amount recipient =>
    simp only [execute, executeTransfer, bind_eq_ok, Except.ok.injEq, Prod.mk.injEq] at h
    obtain ⟨_, -, _, -, _, -, _, -, _, -, _, -, _, -, _, -, rfl, -⟩ := h
    exact ⟨rfl, rfl, rfl, rfl, fun _ => rfl, fun _ => ⟨rfl, rfl⟩⟩
  | finalizeLiquidityOperation =>
    simp only [execute, executeFinalize, bind_eq_ok, Except.ok.injEq, Prod.mk.injEq] at h
    obtain ⟨_, -, _, -, _, -, _, -, _, -, rfl, -⟩ := h
    exact ⟨rfl, rfl, rfl, rfl, fun _ => rfl, fun _ => ⟨rfl, rfl⟩⟩
  | rebalance deadline =>
    simp only [execute, executeRebalance, bind_eq_ok, Except.ok.injEq, Prod.mk.injEq] at h
    obtain ⟨_, -, _, -, _, -, _, -, _, -, _, -, _, -, _, -, _, -, _, -, _, -, _, -, _, -, rfl, -⟩ := h
    exact ⟨rfl, rfl, rfl, rfl, fun hne => absurd rfl (hne deadline), fun _ => ⟨rfl, rfl⟩⟩
  | syncReference =>
    simp only [execute, executeSyncReference, bind_eq_ok, Except.ok.injEq, Prod.mk.injEq] at h
    obtain ⟨_, -, _, -, _, -, _, -, _, -, _, -, rfl, -⟩ := h
    exact ⟨rfl, rfl, rfl, rfl, fun _ => rfl, fun _ => ⟨rfl, rfl⟩⟩
  | updateKeeper keeper =>
    simp only [execute, executeUpdateKeeper, bind_eq_ok, Except.ok.injEq, Prod.mk.injEq] at h
    obtain ⟨_, -, _, -, rfl, -⟩ := h
    exact ⟨rfl, rfl, rfl, rfl, fun _ => rfl, fun _ => ⟨rfl, rfl⟩⟩
  | updateThresholds next =>
    simp only [execute, executeUpdateThresholds, bind_eq_ok, Except.ok.injEq, Prod.mk.injEq] at h
    obtain ⟨_, -, _, -, _, -, config, hconfig, _, -, rfl, -⟩ := h
    obtain ⟨_, _, rfl, -⟩ := updateTwapWindow_ok hconfig
    exact ⟨rfl, rfl, rfl, rfl, fun _ => rfl, fun _ => ⟨rfl, rfl⟩⟩
  | updateFeeConfig feeRegistry feeCollector =>
    simp only [execute, executeUpdateFeeConfig, bind_eq_ok, Except.ok.injEq, Prod.mk.injEq] at h
    obtain ⟨_, -, _, -, _, -, rfl, -⟩ := h
    exact ⟨rfl, rfl, rfl, rfl, fun _ => rfl, fun _ => ⟨rfl, rfl⟩⟩
  | transferAdmin admin =>
    simp only [execute, executeTransferAdmin, bind_eq_ok, Except.ok.injEq, Prod.mk.injEq] at h
    obtain ⟨_, -, _, -, rfl, -⟩ := h
    exact ⟨rfl, rfl, rfl, rfl, fun _ => rfl, fun _ => ⟨rfl, rfl⟩⟩
  | acceptAdmin =>
    simp only [execute, executeAcceptAdmin, bind_eq_ok, Except.ok.injEq, Prod.mk.injEq] at h
    obtain ⟨_, -, _, -, rfl, -⟩ := h
    exact ⟨rfl, rfl, rfl, rfl, fun _ => rfl, fun _ => ⟨rfl, rfl⟩⟩
  | cancelAdminTransfer =>
    simp only [execute, executeCancelAdminTransfer, bind_eq_ok, Except.ok.injEq, Prod.mk.injEq] at h
    obtain ⟨_, -, rfl, -⟩ := h
    exact ⟨rfl, rfl, rfl, rfl, fun _ => rfl, fun _ => ⟨rfl, rfl⟩⟩
  | revokeLiquidityContract =>
    simp only [execute, executeRevokeLiquidity, bind_eq_ok, Except.ok.injEq, Prod.mk.injEq] at h
    obtain ⟨_, -, rfl, -⟩ := h
    exact ⟨rfl, rfl, rfl, rfl, fun _ => rfl, by simp [rebinds]⟩
  | pause =>
    simp only [execute, executePause, bind_eq_ok, Except.ok.injEq, Prod.mk.injEq] at h
    obtain ⟨_, -, _, -, rfl, -⟩ := h
    exact ⟨rfl, rfl, rfl, rfl, fun _ => rfl, by simp [rebinds]⟩
  | resume =>
    simp only [execute, executeResume, bind_eq_ok, Except.ok.injEq, Prod.mk.injEq] at h
    obtain ⟨_, -, _, -, _, -, _, -, _, -, rfl, -⟩ := h
    exact ⟨rfl, rfl, rfl, rfl, fun _ => rfl, by simp [rebinds]⟩

lemma executeRebalance_idle {q : Querier} {env : Env} {st st' : Storage} {info : MessageInfo} {deadline : ℕ}
    {r : Response WasmMsg} (h : executeRebalance q env st info deadline = .ok (st', r)) :
    st.pendingRebalance = none := by
  simp only [executeRebalance, assertNoRebalance, bind_eq_ok, ensure_eq_ok] at h
  obtain ⟨_, -, _, -, _, hidle, -⟩ := h
  exact Option.isNone_iff_eq_none.mp hidle

abbrev Nested : Storage → Storage → Prop :=
  Relation.ReflTransGen fun st st' => ∃ q env info msg r, execute q env st info msg = .ok (st', r)

/-- From the start of a rebalance to its reply the plan stands, whatever is executed in between. -/
theorem Nested.keeps {st st' : Storage} {pending : PendingRebalance} (h : Nested st st')
    (hpending : st.pendingRebalance = some pending) :
    st'.pendingRebalance = some pending ∧ st'.config.assetTokens = st.config.assetTokens := by
  induction h with
  | refl => exact ⟨hpending, rfl⟩
  | tail _ hstep ih =>
    obtain ⟨q, env, info, msg, r, h⟩ := hstep
    have hkeeps := execute_keeps h
    refine ⟨?_, hkeeps.assetTokens.trans ih.2⟩
    by_cases hmsg : ∃ deadline, msg = .rebalance deadline
    · obtain ⟨deadline, rfl⟩ := hmsg
      have hidle := executeRebalance_idle h
      rw [ih.1] at hidle
      cases hidle
    · rw [hkeeps.pending fun deadline heq => hmsg ⟨deadline, heq⟩, ih.1]

lemma migrate_valid {st st' : Storage} {codeId : ℕ} {r : Response WasmMsg} (hv : Valid st.config)
    (h : migrate st codeId = .ok (st', r)) : Valid st'.config := by
  simp only [migrate, bind_eq_ok, Except.ok.injEq, Prod.mk.injEq] at h
  obtain ⟨_, -, _, -, rfl, -⟩ := h
  exact SameBounds.valid ⟨_, _, _, _, _, _, rfl⟩ hv

theorem Reachable.valid {st : Storage} (h : Reachable st) : Valid st.config := by
  induction h with
  | instantiated h => exact instantiate_valid h
  | executed _ h ih => exact execute_valid ih h
  | replied _ h ih =>
    obtain ⟨_, _, _, _, _, _, _, _, _, _, -, -, -, -, -, -, -, rfl, -⟩ := reply_ok h
    exact SameBounds.valid ⟨_, _, _, _, _, _, rfl⟩ ih
  | migrated _ h ih => exact migrate_valid ih h

def fixedChain (held : Fin 2 → Uint128) (price : Decimal) (reserves : Fin 2 → Uint128) : Querier where
  addrValidate := .ok
  codeId _ := .ok 7
  pair addr := .ok ⟨![.token "token0", .token "token1"], addr⟩
  factoryPair _ infos := .ok ⟨infos, "pair"⟩
  tokenInfo _ := .ok ⟨6, 0⟩
  balance token _ := .ok (if token = "token0" then held 0 else held 1)
  observe _ _ := .ok ⟨[price.atomics, 0]⟩
  hybridSimulation _ offer _ _ := do
    let returned ← expectedReturn offer.amount (if offer.info = .token "token0" then 0 else 1) price
    .ok ⟨returned⟩
  pool _ := .ok ⟨![⟨.token "token0", reserves 0⟩, ⟨.token "token1", reserves 1⟩]⟩
  liquidityConfig _ := .error (.notFound "liquidity contract")
  authorization _ := .error (.notFound "liquidity contract")
  effectiveFee _ _ := .error (.genericErr "no registry")

def fixedMsg : InstantiateMsg where
  admin := "admin"
  keeper := "keeper"
  proxy := "proxy"
  factory := "factory"
  pair := "pair"
  pairCodeId := 7
  liquidityCodeId := 8
  twapWindowSeconds := 1
  rebalanceThresholdBps := none
  allocationToleranceBps := none
  maxTradeBps := none
  maxExecutionDeviationBps := none
  quoteSlippageBps := none
  maxSpotTwapDeviationBps := none
  maxTradePoolBps := none
  maxSpread := none
  feeRegistry := none
  feeCollector := none

def fixedConfig (price : Decimal) : Config where
  admin := "admin"
  keeper := "keeper"
  liquidityContract := none
  proxy := "proxy"
  factory := "factory"
  pair := "pair"
  pairCodeId := 7
  assetTokens := ![ "token0", "token1"]
  decimals := 6
  twapWindowSeconds := 1
  rebalanceThresholdBps := 500
  allocationToleranceBps := 100
  maxTradeBps := 2500
  maxExecutionDeviationBps := 500
  quoteSlippageBps := 200
  maxSpotTwapDeviationBps := 500
  maxTradePoolBps := 1000
  maxSpread := .percent 5 Decimal.five_percent_lt
  referencePrice := price
  feeRegistry := none
  feeCollector := none

def freshStorage (config : Config) : Storage where
  config
  pendingRebalance := none
  pendingAdmin := none
  liquidityCodeId := 8
  paused := false
  feeCache := ∅

end Cl8yDexBots.Rebalancer.Runs
