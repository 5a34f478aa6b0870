import Cl8yDexBots.CosmWasm.TokenLedger
import Cl8yDexBots.MarketGrid.RebalanceLiveness
import Cl8yDexBots.Rebalancer.RebalanceLiveness
import Cl8yDexBots.SwapProxy.World

/-! A swap through the proxy is the swap that the vault would have made itself. -/

namespace Cl8yDexBots.SwapProxy.DirectSwap

open Foundation.Checked Foundation.Words Foundation.SubMessages Foundation.StorageMap CosmWasm.Std
open CosmWasm.TokenLedger SwapVault.Pricing
open SwapProxy.Contract SwapProxy.World
open Rebalancer.State (SwapParams SwapProxyHookMsg)

/-- The swap as the pair carries it out: paid to whom it names, or to whoever sent the tokens. -/
def carriedOut (sender : Addr) (m : WasmMsg) : WasmMsg :=
  { m with msg := { m.msg with recipient := some (m.msg.recipient.getD sender) } }

def directMessage (pair : Addr) (params : SwapParams) : WasmMsg where
  contractAddr := params.offerToken
  contract := pair
  amount := params.amount
  msg :=
    { beliefPrice := none, maxSpread := some params.maxSpread, minReturn := some params.minReturn, recipient := none,
      deadline := some params.deadline, trader := none, hybrid := some (.poolOnly params.amount) }

structure HandOver where
  token : Addr
  contract : Addr
  amount : Uint128
  hook : SwapProxyHookMsg

def handOver (proxy pair : Addr) (params : SwapParams) : HandOver :=
  ⟨params.offerToken, proxy, params.amount, ⟨pair, params.minReturn, params.maxSpread, params.deadline⟩⟩

def gridDirect (m : MarketGrid.State.WasmMsg) : Option WasmMsg :=
  match m.msg with
  | .send contract amount (.pairSwap maxSpread minReturn deadline hybrid) =>
    some ⟨m.contractAddr, contract, amount,
      { beliefPrice := none, maxSpread := some maxSpread, minReturn := some minReturn, recipient := none,
        deadline := some deadline, trader := none, hybrid := some hybrid }⟩
  | _ => none

def gridHandOver (h : HandOver) : MarketGrid.State.WasmMsg :=
  ⟨h.token, .send h.contract h.amount (.proxySwap h.hook.pair h.hook.minReturn h.hook.maxSpread h.hook.deadline)⟩

def botHandOver (h : HandOver) : Rebalancer.State.WasmMsg := .cw20 h.token (.send h.contract h.amount h.hook)

/-- An honest token reports whom the amount is from. -/
def relay (q : Querier) (env : Env) (st : Storage) (vault : Addr) (h : HandOver) : Executed :=
  execute q env st ⟨h.token, []⟩ (.receive ⟨vault, h.amount, some h.hook⟩)

def Relayed (q : Querier) (env : Env) (st : Storage) (vault pair : Addr) (params : SwapParams) : Prop :=
  ∃ m attributes, relay q env st vault (handOver env.contract pair params) = .ok (st, ⟨[.plain m], attributes⟩) ∧
    carriedOut env.contract m = carriedOut vault (directMessage pair params) ∧
    ∀ l l₁ : Ledger, l.move vault pair params.amount = .ok l₁ → ∃ l₂ l₃,
      l.move vault env.contract params.amount = .ok l₂ ∧ l₂.move env.contract m.contract m.amount = .ok l₃ ∧
      ∀ a, l₃.held a = l₁.held a

structure Bounded (now : ℕ) (tokens : Fin 2 → Addr) (params : SwapParams) : Prop where
  token : tokens 0 = params.offerToken ∨ tokens 1 = params.offerToken
  amount : params.amount.val ≠ 0
  deadline : now ≤ params.deadline
  spread : params.maxSpread ≤ maximumSpread

lemma relayed_of_bounded {q : Querier} {env : Env} {st : Storage} {vault : Addr} {route : Route} {params : SwapParams}
    (hroute : st.routes[vault]? = some route) (haddr : q.addrValidate vault = .ok vault)
    (hcode : q.codeId route.pair = .ok route.pairCodeId) (hb : Bounded env.blockTime route.assetTokens params) :
    Relayed q env st vault route.pair params := by
  obtain ⟨attributes, hreceive⟩ : ∃ attributes, relay q env st vault (handOver env.contract route.pair params)
      = .ok (st, ⟨[.plain (carriedOut vault (directMessage route.pair params))], attributes⟩) :=
    executeReceive_eq_ok.mpr ⟨vault, route, _, hb.amount, haddr, hroute, hcode, hb.token, rfl, rfl, hb.deadline,
      hb.spread, rfl, rfl⟩
  refine ⟨_, attributes, hreceive, rfl, ?_⟩
  intro l l₁ hmove
  exact Ledger.move_through env.contract hmove

section Grid

open MarketGrid.State MarketGrid.Planning MarketGrid.Vault MarketGrid.Runs

def direct (st : MarketGrid.State.Storage) : MarketGrid.State.Storage :=
  { st with config := { st.config with proxy := none } }

lemma grid_planned_ne_zero {held : Fin 2 → Uint128} {price : Decimal} {cell gridCount maxTradeBps : ℕ} {i : Fin 2}
    {amount : Uint128} (h : (plannedOffer held price cell gridCount maxTradeBps : MarketGrid.Vault.Result _)
      = .ok (some (i, amount))) : amount.val ≠ 0 := by
  simp only [plannedOffer, bind_eq_ok] at h
  obtain ⟨_, -, _, -, _, -, _, -, _, -, _, -, h⟩ := h
  split at h
  · cases h
  · simp only [bind_eq_ok, Except.ok.injEq] at h
    obtain ⟨_, -, _, -, _, -, h⟩ := h
    split at h
    · cases h
    · rename_i hne
      cases h
      simpa [isZero] using hne

lemma grid_handsOver {q : MarketGrid.State.Querier} {env : Env} {st st₁ : MarketGrid.State.Storage} {info : MessageInfo}
    {deadline : ℕ} {r : Response MarketGrid.State.WasmMsg} {proxy : Addr} (hv : Valid st.config)
    (hproxy : st.config.proxy = some proxy)
    (h : executeRebalance q env (direct st) info deadline = .ok (st₁, r)) :
    ∃ params m, Bounded env.blockTime st.config.assetTokens params ∧
      r.messages = [.replyOnSuccess m rebalanceReplyId] ∧ gridDirect m = some (directMessage st.config.pair params) ∧
      executeRebalance q env st info deadline = .ok ({ st with pendingSwap := st₁.pendingSwap },
        ⟨[.replyOnSuccess (gridHandOver (handOver proxy st.config.pair params)) rebalanceReplyId], r.attributes⟩) := by
  simp only [executeRebalance, bind_eq_ok, orError_eq_ok, liftStd_eq_ok, Except.ok.injEq, Prod.mk.injEq] at h
  obtain ⟨_, hfunds, _, hpaused, _, hidle, _, hdeadline, _, hcode, plan, hplan, _, hshould, token, htoken, amount,
    hamount, least, hleast, pool, hpool, _, hsafe, rfl, rfl⟩ := h
  have hplan' : (rebalancePlan q env st.config : MarketGrid.Vault.Result _) = .ok plan := hplan
  obtain ⟨price, held, hprice, hheld⟩ : ∃ price held,
      (referencePrice q st.config.pair st.config.twapWindowSeconds : MarketGrid.Vault.Result _) = .ok price ∧
      (balances q env.contract st.config : MarketGrid.Vault.Result _) = .ok held := by
    simp only [rebalancePlan, bind_eq_ok] at hplan'
    obtain ⟨_, -, price, hprice, held, hheld, -⟩ := hplan'
    exact ⟨price, held, hprice, hheld⟩
  obtain ⟨_, i, amount', _, -, -, hoffer, -, -, -, rfl, hamount', -⟩ :=
    MarketGrid.RebalanceLiveness.rebalancePlan_ok hprice hheld hplan' htoken
  cases hamount.symm.trans hamount'
  have hbound := hv.maxSpread.2
  simp only [ensure_eq_ok, decide_eq_true_eq] at hdeadline
  refine ⟨⟨st.config.assetTokens i, amount, least, st.config.maxSpread, deadline⟩, _, ?_, rfl, rfl, ?_⟩
  · refine ⟨?_, grid_planned_ne_zero hoffer, hdeadline, hbound⟩
    fin_cases i
    · exact .inl rfl
    · exact .inr rfl
  · simp only [executeRebalance, bind_eq_ok, orError_eq_ok, liftStd_eq_ok, Except.ok.injEq, Prod.mk.injEq]
    refine ⟨(), hfunds, (), hpaused, (), hidle, (), by simpa using hdeadline, (), hcode, plan, hplan', (), hshould, _,
      htoken, amount, hamount, least, hleast, pool, hpool, (), hsafe, rfl, ?_⟩
    simp only [swapMessage, hproxy]
    rfl

end Grid

section Bot

open Rebalancer.State Rebalancer.Planning Rebalancer.Vault Rebalancer.Runs

lemma bot_planned_ne_zero {held : Fin 2 → Uint128} {price : Decimal} {maxTradeBps : ℕ} {i : Fin 2} {amount : Uint128}
    (h : (plannedOffer held price maxTradeBps : Rebalancer.Vault.Result _) = .ok (some (i, amount))) :
    amount.val ≠ 0 := by
  simp only [plannedOffer, bind_eq_ok] at h
  obtain ⟨_, -, _, -, h⟩ := h
  split at h
  · cases h
  · simp only [bind_eq_ok, Except.ok.injEq] at h
    obtain ⟨_, -, _, -, _, -, h⟩ := h
    split at h
    · cases h
    · rename_i hne
      cases h
      simpa [isZero] using hne

lemma bot_rebalance_handsOver {q : Rebalancer.State.Querier} {env : Env} {st st₁ : Rebalancer.State.Storage}
    {info : MessageInfo} {deadline : ℕ} {r : Response Rebalancer.State.WasmMsg} (hv : Valid st.config)
    (h : executeRebalance q env st info deadline = .ok (st₁, r)) :
    ∃ params, Bounded env.blockTime st.config.assetTokens params ∧ r.messages =
      [.replyOnSuccess (botHandOver (handOver st.config.proxy st.config.pair params)) rebalanceReplyId] := by
  obtain ⟨pending, pool, -, -, -, hoffer, -, -, -, -, hmessages⟩ :=
    Rebalancer.RebalanceLiveness.executeRebalance_ok hv h
  have hdeadline : env.blockTime ≤ deadline := by
    simp only [executeRebalance, bind_eq_ok, ensure_eq_ok, decide_eq_true_eq] at h
    obtain ⟨_, -, _, -, _, -, _, -, _, -, _, hdeadline, -⟩ := h
    exact hdeadline
  refine ⟨⟨st.config.assetTokens pending.offerIndex, pending.amount, pending.minReturn, st.config.maxSpread, deadline⟩,
    ⟨?_, bot_planned_ne_zero hoffer, hdeadline, hv.maxSpread.2⟩, hmessages⟩
  dsimp only
  generalize pending.offerIndex = i
  fin_cases i
  · exact .inl rfl
  · exact .inr rfl

lemma bot_liquidity_handsOver {q : Rebalancer.State.Querier} {env : Env} {st st₁ : Rebalancer.State.Storage}
    {info : MessageInfo} {params : SwapParams} {r : Response Rebalancer.State.WasmMsg}
    (haddr : ∀ a, q.addrValidate params.offerToken = .ok a → a = params.offerToken)
    (h : executeLiquiditySwap q env st info params = .ok (st₁, r)) :
    Bounded env.blockTime st.config.assetTokens params ∧
      r.messages = [.plain (botHandOver (handOver st.config.proxy st.config.pair params))] := by
  simp only [executeLiquiditySwap, validateSwap, bind_eq_ok, liftStd_eq_ok, ensure_eq_ok, decide_eq_true_eq,
    Except.ok.injEq, Prod.mk.injEq] at h
  obtain ⟨_, -, _, -, _, -, _, -, _, -, _, ⟨token, htoken, _, hknown, _, hamount, _, hdeadline, hspread⟩, -, rfl⟩ := h
  rw [haddr token htoken] at hknown
  exact ⟨⟨hknown, by simpa [isZero] using hamount, hdeadline, hspread⟩, rfl⟩

end Bot

lemma receive_own {q : Querier} {env : Env} {st st' : Storage} {info : MessageInfo} {receive : Cw20ReceiveMsg}
    {r : Response WasmMsg} (haddr : ∀ a, q.addrValidate receive.sender = .ok a → a = receive.sender)
    (h : execute q env st info (.receive receive) = .ok (st', r)) :
    st' = st ∧ ∃ route hook, st.routes[receive.sender]? = some route ∧ receive.msg = some hook ∧
      hook.pair = route.pair ∧ r.messages = [.plain (carriedOut receive.sender (directMessage route.pair
        ⟨info.sender, receive.amount, hook.minReturn, hook.maxSpread, hook.deadline⟩))] := by
  obtain ⟨vault, route, hook, -, hvault, hroute, -, -, hhook, hpair, -, -, rfl, hmessages⟩ :=
    executeReceive_eq_ok.mp ⟨r.attributes, h⟩
  rw [haddr vault hvault] at hroute hmessages
  exact ⟨rfl, route, hook, hroute, hhook, hpair, hmessages⟩

section Swaps

variable {others : Set Addr} {w : Shared} {vault : Addr} {route : Route} {pq : Querier} {penv : Env}

/-- A swap that a registered vault makes within its bounds is, through the proxy, the same swap of the same vault with
its own pair; and whatever the proxy is handed, it sends on along the route and for the account it came from. -/
theorem proxied_swap_is_direct (hw : World.Reachable others w) (hroute : w.proxy.routes[vault]? = some route)
    (haddr : ∀ s a, pq.addrValidate s = .ok a → a = s) (hvault : pq.addrValidate vault = .ok vault)
    (hcode : pq.codeId route.pair = .ok route.pairCodeId) :
    (∀ q env st info deadline st₁ r, w.vaults vault = some (.grid st) → st.config.proxy = some penv.contract →
      penv.blockTime = env.blockTime →
      MarketGrid.Vault.executeRebalance q env (direct st) info deadline = .ok (st₁, r) →
      ∃ params m, r.messages = [.replyOnSuccess m MarketGrid.Vault.rebalanceReplyId] ∧
        gridDirect m = some (directMessage route.pair params) ∧
        MarketGrid.Vault.executeRebalance q env st info deadline = .ok ({ st with pendingSwap := st₁.pendingSwap },
          ⟨[.replyOnSuccess (gridHandOver (handOver penv.contract route.pair params))
            MarketGrid.Vault.rebalanceReplyId], r.attributes⟩) ∧
        Relayed pq penv w.proxy vault route.pair params) ∧
    (∀ q env st info deadline st₁ r, w.vaults vault = some (.bot st) → st.config.proxy = penv.contract →
      penv.blockTime = env.blockTime → Rebalancer.Vault.executeRebalance q env st info deadline = .ok (st₁, r) →
      ∃ params, r.messages = [.replyOnSuccess (botHandOver (handOver penv.contract route.pair params))
          Rebalancer.Vault.rebalanceReplyId] ∧
        Relayed pq penv w.proxy vault route.pair params) ∧
    (∀ q env st info params st₁ r, w.vaults vault = some (.bot st) → st.config.proxy = penv.contract →
      penv.blockTime = env.blockTime → (∀ s a, q.addrValidate s = .ok a → a = s) →
      Rebalancer.Vault.executeLiquiditySwap q env st info params = .ok (st₁, r) →
      r.messages = [.plain (botHandOver (handOver penv.contract route.pair params))] ∧
        Relayed pq penv w.proxy vault route.pair params) ∧
    (∀ info receive st' r, execute pq penv w.proxy info (.receive receive) = .ok (st', r) →
      st' = w.proxy ∧ ∃ own hook, w.proxy.routes[receive.sender]? = some own ∧ receive.msg = some hook ∧
        hook.pair = own.pair ∧ r.messages = [.plain (carriedOut receive.sender (directMessage own.pair
          ⟨info.sender, receive.amount, hook.minReturn, hook.maxSpread, hook.deadline⟩))]) := by
  have hc := hw.consistent
  refine ⟨?_, ?_, ?_, ?_⟩
  · intro q env st info deadline st₁ r hst hproxy htime h
    have hreach : MarketGrid.Runs.Reachable st := hc.sound vault _ hst
    obtain rfl : route = _ := hc.registered vault _ route hst hroute
    obtain ⟨params, m, hbounded, hmessages, hdirect, hrun⟩ := grid_handsOver hreach.valid hproxy h
    rw [← htime] at hbounded
    exact ⟨params, m, hmessages, hdirect, hrun, relayed_of_bounded hroute hvault hcode hbounded⟩
  · intro q env st info deadline st₁ r hst hproxy htime h
    have hreach : Rebalancer.Runs.Reachable st := hc.sound vault _ hst
    obtain rfl : route = _ := hc.registered vault _ route hst hroute
    obtain ⟨params, hbounded, hmessages⟩ := bot_rebalance_handsOver hreach.valid h
    rw [← htime] at hbounded
    rw [hproxy] at hmessages
    exact ⟨params, hmessages, relayed_of_bounded hroute hvault hcode hbounded⟩
  · intro q env st info params st₁ r hst hproxy htime hq h
    obtain rfl : route = _ := hc.registered vault _ route hst hroute
    obtain ⟨hbounded, hmessages⟩ := bot_liquidity_handsOver (fun a => hq params.offerToken a) h
    rw [← htime] at hbounded
    rw [hproxy] at hmessages
    exact ⟨hmessages, relayed_of_bounded hroute hvault hcode hbounded⟩
  · intro info receive st' r h
    exact receive_own (fun a => haddr receive.sender a) h

end Swaps

section Registered

open MarketGrid.Runs MarketGrid.RebalanceLiveness

def proxiedStorage : MarketGrid.State.Storage :=
  freshStorage { fixedConfig .one twoPrice 10 midPrice 5 with proxy := some "proxy" }

def idleChain : Rebalancer.State.Querier :=
  { Rebalancer.RebalanceLiveness.leaningChain with
    codeId := fun addr => .ok (if addr = "liquidity" then 8 else 7)
    liquidityConfig := fun _ => .ok
      { admin := "admin", pendingAdmin := none, vault := "bot", assetTokens := ![ "token0", "token1"],
        minimumInitialDeposit := u128 2000 }
    authorization := fun _ => .ok ⟨none, [], false⟩ }

def withdrawalSwap : SwapParams := ⟨"token1", u128 10, u128 9, .percent 5 Decimal.five_percent_lt, 0⟩

def swappingChain : Rebalancer.State.Querier :=
  { idleChain with authorization := fun _ => .ok ⟨some withdrawalSwap, [], false⟩ }

def boundStorage : Rebalancer.State.Storage :=
  { Rebalancer.RebalanceLiveness.unitStorage with
    config := { Rebalancer.RebalanceLiveness.unitStorage.config with liquidityContract := some "liquidity" } }

def proxyChain : Querier where
  addrValidate := .ok
  codeId _ := .ok 7
  pair addr := .ok ⟨![.token "token0", .token "token1"], addr⟩
  vaultConfig v :=
    if v = "vault" then .ok (Vault.grid proxiedStorage).config
    else if v = "bot" then .ok (Vault.bot boundStorage).config
    else .error (.notFound "vault")
  factoryPair _ infos := .ok ⟨infos, "pair"⟩

def proxyEnv : Env := ⟨0, 0, "proxy"⟩

def vaultRoute : Route := ⟨"pair", 7, ![ "token0", "token1"]⟩

def registered : Storage :=
  ⟨"admin", ((∅ : Std.ExtTreeMap Addr Route).insert "vault" vaultRoute).insert "bot" vaultRoute, none⟩

def createdVaults : Addr → Option Vault :=
  Function.update (Function.update (fun _ => none) "vault" (some (.grid proxiedStorage))) "bot"
    (some (.bot boundStorage))

lemma createdVaults_bot : createdVaults "bot" = some (.bot boundStorage) := Function.update_self ..

def registeredWorld : Shared := ⟨registered, createdVaults⟩

lemma createdVaults_reachable : World.Reachable ∅ ⟨⟨"admin", ∅, none⟩, createdVaults⟩ := by
  have hproxy : instantiate proxyChain "admin" = .ok (⟨"admin", ∅, none⟩, ⟨[], [("action", "instantiate")]⟩) := rfl
  have hgrid : (Vault.grid proxiedStorage).Created :=
    .grid (show MarketGrid.Vault.instantiate (fixedChain 0 midPrice 0) ⟨"admin", []⟩
      { fixedMsg .one twoPrice 10 with proxy := some "proxy" } = .ok (proxiedStorage,
        ⟨[], [("action", "instantiate"), ("owner", "admin"), ("pair", "pair")]⟩) from rfl)
  have hbot : (Vault.bot Rebalancer.RebalanceLiveness.unitStorage).Created :=
    .bot (show Rebalancer.Vault.instantiate (Rebalancer.Runs.fixedChain 0 .one 0) ⟨0, 0, "bot"⟩ Rebalancer.Runs.fixedMsg
      = .ok (Rebalancer.RebalanceLiveness.unitStorage, ⟨[], [("action", "instantiate"), ("vault", "bot")]⟩) from rfl)
  have hbound : (Vault.bot Rebalancer.RebalanceLiveness.unitStorage).Acts (.bot boundStorage) :=
    .botExecuted (show Rebalancer.Vault.execute idleChain ⟨0, 0, "bot"⟩ Rebalancer.RebalanceLiveness.unitStorage
      ⟨"admin", []⟩ (.setLiquidityContract "liquidity") = .ok (boundStorage,
        ⟨[], [("action", "set_liquidity_contract"), ("liquidity_contract", "liquidity")]⟩) from rfl)
  have hproxied := (World.Reachable.instantiated hproxy).stepped (.created (Set.notMem_empty "vault") rfl hgrid)
  have hcreated := hproxied.stepped (.created (Set.notMem_empty "bot") rfl hbot)
  have hacted := hcreated.stepped (.acted (Function.update_self ..) hbound)
  dsimp only at hacted
  rwa [Function.update_idem] at hacted

lemma proxyChain_answers (proxy : Storage) : Answers ∅ ⟨proxy, createdVaults⟩ proxyChain := by
  intro v config hconfig
  simp only [proxyChain] at hconfig
  split at hconfig
  · rename_i hv
    subst hv
    cases hconfig
    exact .inl ⟨_, rfl, rfl⟩
  · split at hconfig
    · rename_i hv
      subst hv
      cases hconfig
      exact .inl ⟨_, createdVaults_bot, rfl⟩
    · cases hconfig

lemma registeredWorld_reachable : World.Reachable ∅ registeredWorld := by
  have hfirst := createdVaults_reachable.stepped (.executed (proxyChain_answers _)
    (show execute proxyChain proxyEnv ⟨"admin", ∅, none⟩ ⟨"admin", []⟩ (.registerVault "vault" "pair")
      = .ok (⟨"admin", (∅ : Std.ExtTreeMap Addr Route).insert "vault" vaultRoute, none⟩,
        ⟨[], [("action", "register_vault"), ("vault", "vault"), ("pair", "pair")]⟩) from rfl))
  exact hfirst.stepped (.executed (proxyChain_answers _)
    (show execute proxyChain proxyEnv ⟨"admin", (∅ : Std.ExtTreeMap Addr Route).insert "vault" vaultRoute, none⟩
      ⟨"admin", []⟩ (.registerVault "bot" "pair")
      = .ok (registered, ⟨[], [("action", "register_vault"), ("vault", "bot"), ("pair", "pair")]⟩) from rfl))

theorem proxied_swap_registered :
    (∃ params st₁ r, MarketGrid.Vault.executeRebalance midChain ⟨0, 0, "vault"⟩ proxiedStorage ⟨"keeper", []⟩ 0
        = .ok (st₁, r) ∧
      r.messages = [.replyOnSuccess (gridHandOver (handOver "proxy" "pair" params)) MarketGrid.Vault.rebalanceReplyId] ∧
      Relayed proxyChain proxyEnv registered "vault" "pair" params) ∧
    (∃ params st₁ r, Rebalancer.Vault.executeRebalance idleChain ⟨0, 0, "bot"⟩ boundStorage ⟨"keeper", []⟩ 0
        = .ok (st₁, r) ∧
      r.messages = [.replyOnSuccess (botHandOver (handOver "proxy" "pair" params)) Rebalancer.Vault.rebalanceReplyId] ∧
      Relayed proxyChain proxyEnv registered "bot" "pair" params) ∧
    (∃ st₁ r, Rebalancer.Vault.executeLiquiditySwap swappingChain ⟨0, 0, "bot"⟩ boundStorage ⟨"liquidity", []⟩
        withdrawalSwap = .ok (st₁, r) ∧
      r.messages = [.plain (botHandOver (handOver "proxy" "pair" withdrawalSwap))] ∧
      Relayed proxyChain proxyEnv registered "bot" "pair" withdrawalSwap) ∧
    ∃ st' r, execute proxyChain proxyEnv registered ⟨"token1", []⟩
        (.receive ⟨"bot", u128 10, some (handOver "proxy" "pair" withdrawalSwap).hook⟩) = .ok (st', r) ∧
      st' = registered ∧ r.messages = [.plain (carriedOut "bot" (directMessage "pair" withdrawalSwap))] := by
  have haddr : ∀ s a, proxyChain.addrValidate s = .ok a → a = s := fun s a h => (Except.ok.inj h).symm
  have hvaultRoute : registeredWorld.proxy.routes["vault"]? = some vaultRoute := by
    simp only [registeredWorld, registered]
    rw [lookup_insert, if_neg (by decide), lookup_insert, if_pos rfl]
  have hbotRoute : registeredWorld.proxy.routes["bot"]? = some vaultRoute := by
    simp [registeredWorld, registered]
  obtain ⟨⟨gst, gr⟩, hgrid, -⟩ := okAnd_iff.mp (show okAnd
    (MarketGrid.Vault.executeRebalance midChain ⟨0, 0, "vault"⟩ (direct proxiedStorage) ⟨"keeper", []⟩ 0)
    (fun _ => true) = true by decide)
  obtain ⟨⟨bst, br⟩, hbot, -⟩ := okAnd_iff.mp (show okAnd
    (Rebalancer.Vault.executeRebalance idleChain ⟨0, 0, "bot"⟩ boundStorage ⟨"keeper", []⟩ 0)
    (fun _ => true) = true by decide)
  obtain ⟨⟨lst, lr⟩, hswap, -⟩ := okAnd_iff.mp (show okAnd
    (Rebalancer.Vault.executeLiquiditySwap swappingChain ⟨0, 0, "bot"⟩ boundStorage ⟨"liquidity", []⟩ withdrawalSwap)
    (fun _ => true) = true by decide)
  obtain ⟨⟨pst, pr⟩, hreceive, -⟩ := okAnd_iff.mp (show okAnd
    (execute proxyChain proxyEnv registered ⟨"token1", []⟩
      (.receive ⟨"bot", u128 10, some (handOver "proxy" "pair" withdrawalSwap).hook⟩)) (fun _ => true) = true by decide)
  obtain ⟨hviaGrid, -⟩ := @proxied_swap_is_direct ∅ registeredWorld "vault" vaultRoute proxyChain proxyEnv
    registeredWorld_reachable hvaultRoute haddr rfl rfl
  obtain ⟨-, hviaBot, hviaSwap, hviaReceive⟩ := @proxied_swap_is_direct ∅ registeredWorld "bot" vaultRoute proxyChain
    proxyEnv registeredWorld_reachable hbotRoute haddr rfl rfl
  obtain ⟨params, -, -, -, hrun, hrelayed⟩ := hviaGrid midChain ⟨0, 0, "vault"⟩ proxiedStorage ⟨"keeper", []⟩ 0 gst gr
    rfl rfl rfl hgrid
  obtain ⟨params', hmessages, hrelayed'⟩ := hviaBot _ _ _ _ _ _ _ createdVaults_bot rfl rfl hbot
  obtain ⟨hsent, hswapped⟩ := hviaSwap _ _ _ _ _ _ _ createdVaults_bot rfl rfl
    (fun s a h => (Except.ok.inj h).symm) hswap
  obtain ⟨hsame, own, hook, hown, hhook, -, hout⟩ := hviaReceive _ _ _ _ hreceive
  cases hbotRoute.symm.trans hown
  cases hhook
  exact ⟨⟨params, _, _, hrun, rfl, hrelayed⟩, ⟨params', bst, br, hbot, hmessages, hrelayed'⟩,
    ⟨lst, lr, hswap, hsent, hswapped⟩, pst, pr, hreceive, hsame, hout⟩

end Registered

end Cl8yDexBots.SwapProxy.DirectSwap
