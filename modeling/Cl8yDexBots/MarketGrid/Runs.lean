import Cl8yDexBots.MarketGrid.Vault

/-! Runs of the market-grid vault and the bounds every configuration keeps. -/

namespace Cl8yDexBots.MarketGrid.Runs

open Foundation.Checked Foundation.Words Foundation.SubMessages CosmWasm.Std CosmWasm.Pair SwapVault.Pricing
open State Planning Vault

/-- Storages a run can reach, against any chain. -/
inductive Reachable : Storage → Prop
  | instantiated {q info msg st r} (h : instantiate q info msg = .ok (st, r)) : Reachable st
  | executed {q env st info msg st' r} (before : Reachable st)
      (h : execute q env st info msg = .ok (st', r)) : Reachable st'
  | replied {q env st id st' r} (before : Reachable st) (h : reply q env st id = .ok (st', r)) :
      Reachable st'

structure Valid (config : Config) : Prop where
  tokens : config.assetTokens 0 ≠ config.assetTokens 1
  prices : config.lowerPrice < config.upperPrice
  lowerPrice : config.lowerPrice.isZero = false
  gridCount : 1 ≤ config.gridCount ∧ config.gridCount ≤ 500
  tolerance : 1 ≤ config.allocationToleranceBps ∧ config.allocationToleranceBps ≤ 2000
  maxTrade : 1 ≤ config.maxTradeBps ∧ config.maxTradeBps ≤ 5000
  execution : config.maxExecutionDeviationBps ≤ 1000
  quote : config.quoteSlippageBps ≤ 500
  spotTwap : 1 ≤ config.maxSpotTwapDeviationBps ∧ config.maxSpotTwapDeviationBps ≤ 1000
  tradePool : 1 ≤ config.maxTradePoolBps ∧ config.maxTradePoolBps ≤ 2000
  maxSpread : config.maxSpread.isZero = false ∧ config.maxSpread ≤ .percent 10 Decimal.ten_percent_lt
  twapWindow : 1 ≤ config.twapWindowSeconds ∧ config.twapWindowSeconds ≤ 86400

@[simp] lemma validateGridCount_eq_ok {n : ℕ} {u : Unit} :
    validateGridCount n = .ok u ↔ 1 ≤ n ∧ n ≤ 500 := by
  simp only [validateGridCount, ensure_eq_ok, decide_eq_true_eq]
  omega

@[simp] lemma validateAllocationTolerance_eq_ok {n : ℕ} {u : Unit} :
    validateAllocationTolerance n = .ok u ↔ 1 ≤ n ∧ n ≤ 2000 := by
  simp only [validateAllocationTolerance, ensure_eq_ok, decide_eq_true_eq]
  omega

lemma validatePair_tokens {q : Querier} {pair factory : Addr} {codeId : ℕ} {tokens : Fin 2 → Addr}
    (h : validatePair q pair factory codeId = .ok tokens) : tokens 0 ≠ tokens 1 := by
  simp only [validatePair, bind_eq_ok, ensure_eq_ok, exists_const, Except.ok.injEq] at h
  obtain ⟨-, _, -, -, _, -, -, _, -, _, -, -, t0, -, t1, -, hne, rfl⟩ := h
  simpa using hne

lemma checkedUpdate_ok {current next : ℕ} {check : ℕ → Result Unit} {value : Option ℕ} {P : ℕ → Prop}
    (h : checkedUpdate current check value = .ok next) (init : P current)
    (checked : ∀ n u, check n = .ok u → P n) : P next := by
  cases value with
  | none => cases h; exact init
  | some n =>
    simp only [checkedUpdate, bind_eq_ok, Except.ok.injEq] at h
    obtain ⟨u, hu, rfl⟩ := h
    exact checked _ u hu

theorem instantiate_valid {q : Querier} {info : MessageInfo} {msg : InstantiateMsg} {st : Storage}
    {r : Response WasmMsg} (h : instantiate q info msg = .ok (st, r)) : Valid st.config := by
  simp only [instantiate, bind_eq_ok, ensure_eq_ok, validateGridCount_eq_ok,
    validateAllocationTolerance_eq_ok, validateRiskControls_eq_ok, exists_const, Except.ok.injEq,
    Prod.mk.injEq] at h
  obtain ⟨_, -, _, -, _, -, tokens, htokens, _, -, _, -, -, hprices, hgrid, hwindow, htolerance, _, -,
    _, -, _, -, ⟨htrade, hexec, hquote, hspot, hpool, hspread⟩, _, -, _, -, rfl, -⟩ := h
  simp only [decide_eq_true_eq, not_or, not_le, Bool.not_eq_true, validTwapWindow] at hprices hwindow
  exact ⟨validatePair_tokens htokens, hprices.1, hprices.2, hgrid, htolerance, htrade, hexec, hquote,
    hspot, hpool, hspread, hwindow⟩

theorem executeUpdateConfig_valid {q : Querier} {st st' : Storage} {info : MessageInfo}
    {msg : UpdateConfigMsg} {r : Response WasmMsg} (hv : Valid st.config)
    (h : executeUpdateConfig q st info msg = .ok (st', r)) : Valid st'.config := by
  simp only [executeUpdateConfig, bind_eq_ok, ensure_eq_ok, validateRiskControls_eq_ok, exists_const,
    Except.ok.injEq, Prod.mk.injEq] at h
  obtain ⟨_, -, _, -, -, _, -, _, -, _, -, gridCount, hgrid, hprices, tolerance, htolerance,
    ⟨htrade, hexec, hquote, hspot, hpool, hspread⟩, rfl, -⟩ := h
  simp only [decide_eq_true_eq, not_or, not_le, Bool.not_eq_true] at hprices
  have hgrid' := checkedUpdate_ok hgrid hv.gridCount fun _ _ => validateGridCount_eq_ok.mp
  have htolerance' :=
    checkedUpdate_ok htolerance hv.tolerance fun _ _ => validateAllocationTolerance_eq_ok.mp
  exact ⟨hv.tokens, hprices.2, hprices.1, hgrid', htolerance', htrade, hexec, hquote, hspot, hpool,
    hspread, hv.twapWindow⟩

def SameBounds (a b : Config) : Prop :=
  ∃ admin pendingAdmin referencePrice lastCell,
    b = { a with admin, pendingAdmin, referencePrice, lastCell }

lemma SameBounds.refl (a : Config) : SameBounds a a := ⟨a.admin, a.pendingAdmin, _, a.lastCell, rfl⟩

lemma SameBounds.valid {a b : Config} (h : SameBounds a b) (hv : Valid a) : Valid b := by
  obtain ⟨_, _, _, _, rfl⟩ := h
  exact ⟨hv.tokens, hv.prices, hv.lowerPrice, hv.gridCount, hv.tolerance, hv.maxTrade, hv.execution,
    hv.quote, hv.spotTwap, hv.tradePool, hv.maxSpread, hv.twapWindow⟩

lemma moveShares_config {st st' : Storage} {source target : Addr}
    (h : moveShares st source target = .ok st') : st'.config = st.config := by
  simp only [moveShares] at h
  split at h
  · cases h; rfl
  · simp only [bind_eq_ok, Except.ok.injEq] at h
    obtain ⟨_, -, rfl⟩ := h
    rfl

lemma chargeFee_config {q : Querier} {st st' : Storage} {value assetValue : Uint128}
    {fee : Option FeeApplied} (h : chargeFee q st value assetValue = .ok (st', fee)) :
    st'.config = st.config := by
  have hresolve : ∀ registry, (resolveFee q st registry).1.config = st.config := by
    intro registry
    rw [resolveFee]
    split
    · rfl
    · split <;> rfl
  rw [chargeFee] at h
  split at h
  · rename_i registry collector _ _
    specialize hresolve registry
    split at h
    · cases h; rfl
    · obtain ⟨st₁, fee₁, source⟩ := resolveFee q st registry
      dsimp only at h hresolve
      split at h
      · cases h; exact hresolve
      · simp only [bind_eq_ok] at h
        obtain ⟨feeValue, -, h⟩ := h
        split at h
        · cases h; exact hresolve
        · simp only [bind_eq_ok] at h
          obtain ⟨feeShares, -, h⟩ := h
          split at h
          · cases h; exact hresolve
          · simp only [mintFee, bind_eq_ok, Except.ok.injEq, Prod.mk.injEq] at h
            obtain ⟨_, ⟨_, -, _, -, rfl⟩, rfl, -⟩ := h
            exact hresolve
  · cases h; rfl

lemma reply_sameBounds {q : Querier} {env : Env} {st st' : Storage} {id : ℕ} {r : Response WasmMsg}
    (h : reply q env st id = .ok (st', r)) : SameBounds st.config st'.config := by
  simp only [reply, bind_eq_ok] at h
  obtain ⟨_, -, pending, -, settled, -, ⟨current, within⟩, -, config, hconfig, _, -, _, -, ⟨st₁, fee⟩,
    hfee, h⟩ := h
  simp only [Except.ok.injEq, Prod.mk.injEq] at h
  obtain ⟨rfl, -⟩ := h
  rw [chargeFee_config hfee]
  rw [settleConfig] at hconfig
  split at hconfig
  · simp only [bind_eq_ok, Except.ok.injEq] at hconfig
    obtain ⟨cell, -, rfl⟩ := hconfig
    exact ⟨_, _, _, _, rfl⟩
  · cases hconfig
    exact .refl _

lemma execute_config {q : Querier} {env : Env} {st st' : Storage} {info : MessageInfo} {msg : ExecuteMsg}
    {r : Response WasmMsg} (other : ∀ update, msg ≠ .updateConfig update)
    (h : execute q env st info msg = .ok (st', r)) :
    ∃ admin pendingAdmin, st'.config = { st.config with admin, pendingAdmin } := by
  cases msg with
  | receive msg =>
    simp only [execute, executeReceive, bind_eq_ok, Except.ok.injEq, Prod.mk.injEq] at h
    obtain ⟨_, -, _, -, _, -, _, -, _, -, _, -, _, -, _, -, _, -, _, -, _, -, _, -, _, -, rfl, -⟩ := h
    exact ⟨_, _, rfl⟩
  | withdraw shares recipient =>
    simp only [execute, executeWithdraw, bind_eq_ok, Except.ok.injEq, Prod.mk.injEq] at h
    obtain ⟨_, -, _, -, _, -, _, -, _, -, _, -, _, -, _, -, _, -, _, -, rfl, -⟩ := h
    exact ⟨_, _, rfl⟩
  | rebalance deadline =>
    simp only [execute, executeRebalance, bind_eq_ok, Except.ok.injEq, Prod.mk.injEq] at h
    obtain ⟨_, -, _, -, _, -, _, -, _, -, _, -, _, -, _, -, _, -, _, -, _, -, _, -, rfl, -⟩ := h
    exact ⟨_, _, rfl⟩
  | updateConfig msg => exact absurd rfl (other msg)
  | transferAdmin admin =>
    simp only [execute, executeTransferAdmin, bind_eq_ok, Except.ok.injEq, Prod.mk.injEq] at h
    obtain ⟨_, -, _, -, _, -, _, -, rfl, -⟩ := h
    exact ⟨_, _, rfl⟩
  | acceptAdmin =>
    simp only [execute, executeAcceptAdmin, bind_eq_ok, Except.ok.injEq, Prod.mk.injEq] at h
    obtain ⟨_, -, _, -, st₁, hmoved, rfl, -⟩ := h
    rw [← moveShares_config hmoved]
    exact ⟨_, _, rfl⟩
  | pause =>
    simp only [execute, executePause, bind_eq_ok, Except.ok.injEq, Prod.mk.injEq] at h
    obtain ⟨_, -, _, -, _, -, rfl, -⟩ := h
    exact ⟨_, _, rfl⟩
  | resume =>
    simp only [execute, executeResume, bind_eq_ok, Except.ok.injEq, Prod.mk.injEq] at h
    obtain ⟨_, -, _, -, _, -, rfl, -⟩ := h
    exact ⟨_, _, rfl⟩
  | redeemShares botId recipient =>
    simp only [execute, executeRedeemShares, bind_eq_ok, Except.ok.injEq, Prod.mk.injEq] at h
    obtain ⟨_, -, _, -, _, -, _, -, _, -, _, -, _, -, _, -, _, -, _, -, _, -, rfl, -⟩ := h
    exact ⟨_, _, rfl⟩

lemma execute_valid {q : Querier} {env : Env} {st st' : Storage} {info : MessageInfo}
    {msg : ExecuteMsg} {r : Response WasmMsg} (hv : Valid st.config)
    (h : execute q env st info msg = .ok (st', r)) : Valid st'.config := by
  by_cases hupdate : ∃ update, msg = .updateConfig update
  · obtain ⟨update, rfl⟩ := hupdate
    exact executeUpdateConfig_valid hv h
  · obtain ⟨admin, pendingAdmin, hconfig⟩ := execute_config (fun update hmsg => hupdate ⟨update, hmsg⟩) h
    exact SameBounds.valid ⟨admin, pendingAdmin, st.config.referencePrice, st.config.lastCell, hconfig⟩ hv

/-- What every message leaves alone; with a swap pending, no other rebalance starts. -/
structure Keeps (st st' : Storage) : Prop where
  effectiveFeeCache : st'.effectiveFeeCache = st.effectiveFeeCache
  assetTokens : st'.config.assetTokens = st.config.assetTokens
  pair : st'.config.pair = st.config.pair
  pairCodeId : st'.config.pairCodeId = st.config.pairCodeId
  pending : ∀ pending, st.pendingSwap = some pending → st'.pendingSwap = some pending

lemma moveShares_keeps {st st' : Storage} {source target : Addr} (h : moveShares st source target = .ok st') :
    st'.effectiveFeeCache = st.effectiveFeeCache ∧ st'.pendingSwap = st.pendingSwap := by
  simp only [moveShares] at h
  split at h
  · cases h
    exact ⟨rfl, rfl⟩
  · simp only [bind_eq_ok, Except.ok.injEq] at h
    obtain ⟨_, -, rfl⟩ := h
    exact ⟨rfl, rfl⟩

lemma execute_keeps {q : Querier} {env : Env} {st st' : Storage} {info : MessageInfo} {msg : ExecuteMsg}
    {r : Response WasmMsg} (h : execute q env st info msg = .ok (st', r)) : Keeps st st' := by
  cases msg with
  | receive msg =>
    simp only [execute, executeReceive, bind_eq_ok, Except.ok.injEq, Prod.mk.injEq] at h
    obtain ⟨_, -, _, -, _, -, _, -, _, -, _, -, _, -, _, -, _, -, _, -, _, -, _, -, _, -, rfl, -⟩ := h
    exact ⟨rfl, rfl, rfl, rfl, fun _ => id⟩
  | withdraw shares recipient =>
    simp only [execute, executeWithdraw, bind_eq_ok, Except.ok.injEq, Prod.mk.injEq] at h
    obtain ⟨_, -, _, -, _, -, _, -, _, -, _, -, _, -, _, -, _, -, _, -, rfl, -⟩ := h
    exact ⟨rfl, rfl, rfl, rfl, fun _ => id⟩
  | rebalance deadline =>
    simp only [execute, executeRebalance, bind_eq_ok, ensure_eq_ok, Except.ok.injEq, Prod.mk.injEq] at h
    obtain ⟨_, -, _, -, _, hnone, _, -, _, -, _, -, _, -, _, -, _, -, _, -, _, -, _, -, rfl, -⟩ := h
    refine ⟨rfl, rfl, rfl, rfl, fun pending hpending => ?_⟩
    rw [hpending] at hnone
    cases hnone
  | updateConfig msg =>
    simp only [execute, executeUpdateConfig, bind_eq_ok, Except.ok.injEq, Prod.mk.injEq] at h
    obtain ⟨_, -, _, -, _, -, _, -, _, -, _, -, _, -, _, -, _, -, _, -, rfl, -⟩ := h
    exact ⟨rfl, rfl, rfl, rfl, fun _ => id⟩
  | transferAdmin admin =>
    simp only [execute, executeTransferAdmin, bind_eq_ok, Except.ok.injEq, Prod.mk.injEq] at h
    obtain ⟨_, -, _, -, _, -, _, -, rfl, -⟩ := h
    exact ⟨rfl, rfl, rfl, rfl, fun _ => id⟩
  | acceptAdmin =>
    simp only [execute, executeAcceptAdmin, bind_eq_ok, Except.ok.injEq, Prod.mk.injEq] at h
    obtain ⟨_, -, _, -, st₁, hmoved, rfl, -⟩ := h
    obtain ⟨hcache, hpending⟩ := moveShares_keeps hmoved
    refine ⟨hcache, ?_, ?_, ?_, fun pending h => ?_⟩
    · dsimp only
      rw [moveShares_config hmoved]
    · dsimp only
      rw [moveShares_config hmoved]
    · dsimp only
      rw [moveShares_config hmoved]
    · dsimp only
      rw [hpending, h]
  | pause =>
    simp only [execute, executePause, bind_eq_ok, Except.ok.injEq, Prod.mk.injEq] at h
    obtain ⟨_, -, _, -, _, -, rfl, -⟩ := h
    exact ⟨rfl, rfl, rfl, rfl, fun _ => id⟩
  | resume =>
    simp only [execute, executeResume, bind_eq_ok, Except.ok.injEq, Prod.mk.injEq] at h
    obtain ⟨_, -, _, -, _, -, rfl, -⟩ := h
    exact ⟨rfl, rfl, rfl, rfl, fun _ => id⟩
  | redeemShares botId recipient =>
    simp only [execute, executeRedeemShares, bind_eq_ok, Except.ok.injEq, Prod.mk.injEq] at h
    obtain ⟨_, -, _, -, _, -, _, -, _, -, _, -, _, -, _, -, _, -, _, -, _, -, rfl, -⟩ := h
    exact ⟨rfl, rfl, rfl, rfl, fun _ => id⟩

/-- Messages that the vault executes while others are being delivered. -/
abbrev Nested : Storage → Storage → Prop :=
  Relation.ReflTransGen fun st st' => ∃ q env info msg r, execute q env st info msg = .ok (st', r)

theorem Nested.keeps {st st' : Storage} {pending : PendingSwap} (h : Nested st st')
    (hpending : st.pendingSwap = some pending) :
    st'.pendingSwap = some pending ∧ st'.config.assetTokens = st.config.assetTokens := by
  induction h with
  | refl => exact ⟨hpending, rfl⟩
  | tail _ hstep ih =>
    obtain ⟨q, env, info, msg, r, h⟩ := hstep
    have hkeeps := execute_keeps h
    exact ⟨hkeeps.pending _ ih.1, hkeeps.assetTokens.trans ih.2⟩

theorem Reachable.valid {st : Storage} (h : Reachable st) : Valid st.config := by
  induction h with
  | instantiated h => exact instantiate_valid h
  | executed _ h ih => exact execute_valid ih h
  | replied _ h ih => exact (reply_sameBounds h).valid ih

def fixedChain (held : Fin 2 → Uint128) (price : Decimal) (reserves : Fin 2 → Uint128) : Querier where
  addrValidate := .ok
  codeId _ := .ok 7
  pair addr := .ok ⟨![.token "token0", .token "token1"], addr⟩
  factoryPair _ infos := .ok ⟨infos, "pair"⟩
  tokenDecimals _ := .ok 6
  balance token _ := .ok (if token = "token0" then held 0 else held 1)
  observe _ _ := .ok ⟨[price.atomics, 0]⟩
  hybridSimulation _ offer _ := do
    let returned ← expectedReturn offer.amount (if offer.info = .token "token0" then 0 else 1) price
    .ok ⟨returned⟩
  pool _ := .ok ⟨![⟨.token "token0", reserves 0⟩, ⟨.token "token1", reserves 1⟩]⟩
  effectiveFee _ _ := .error (.genericErr "no registry")

def fixedMsg (lowerPrice upperPrice : Decimal) (gridCount : ℕ) : InstantiateMsg where
  admin := "admin"
  factory := "factory"
  pair := "pair"
  pairCodeId := 7
  twapWindowSeconds := 1
  gridCount
  lowerPrice
  upperPrice
  allocationToleranceBps := none
  maxTradeBps := none
  maxExecutionDeviationBps := none
  quoteSlippageBps := none
  maxSpotTwapDeviationBps := none
  maxTradePoolBps := none
  maxSpread := none
  feeRegistry := none
  feeCollector := none
  proxy := none

def fixedConfig (lowerPrice upperPrice : Decimal) (gridCount : ℕ) (price : Decimal) (cell : ℕ) :
    Config where
  admin := "admin"
  pendingAdmin := none
  factory := "factory"
  pair := "pair"
  pairCodeId := 7
  assetTokens := ![ "token0", "token1"]
  decimals := 6
  twapWindowSeconds := 1
  gridCount
  lowerPrice
  upperPrice
  allocationToleranceBps := 100
  maxTradeBps := 2500
  maxExecutionDeviationBps := 500
  quoteSlippageBps := 200
  maxSpotTwapDeviationBps := 500
  maxTradePoolBps := 1000
  maxSpread := .percent 5 Decimal.five_percent_lt
  referencePrice := price
  lastCell := cell
  feeRegistry := none
  feeCollector := none
  proxy := none

def freshStorage (config : Config) : Storage where
  config
  pendingSwap := none
  shares := ∅
  totalShares := 0
  paused := false
  effectiveFeeCache := ∅

def fundedStorage (config : Config) (shares : Uint128) : Storage where
  config
  pendingSwap := none
  shares := (∅ : Std.ExtTreeMap Addr Uint128).insert "admin" shares
  totalShares := shares
  paused := false
  effectiveFeeCache := ∅

inductive Call where
  | executed (q : Querier) (env : Env) (info : MessageInfo) (msg : ExecuteMsg)
  | replied (q : Querier) (env : Env) (id : ℕ)

def Call.run (st : Storage) : Call → Executed
  | .executed q env info msg => execute q env st info msg
  | .replied q env id => reply q env st id

def play (st : Storage) : List Call → Result Storage
  | [] => .ok st
  | call :: calls => do
    let (st, _) ← call.run st
    play st calls

lemma play_reachable {st st' : Storage} {calls : List Call} (before : Reachable st) (h : play st calls = .ok st') :
    Reachable st' := by
  induction calls generalizing st with
  | nil =>
    cases h
    exact before
  | cons call calls ih =>
    simp only [play, bind_eq_ok, Prod.exists] at h
    obtain ⟨st₁, r, hrun, hrest⟩ := h
    refine ih ?_ hrest
    cases call with
    | executed q env info msg => exact before.executed hrun
    | replied q env id => exact before.replied hrun

end Cl8yDexBots.MarketGrid.Runs
