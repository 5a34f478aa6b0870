import Cl8yDexBots.MarketGrid.RebalanceLiveness
import Cl8yDexBots.Rebalancer.RebalanceLiveness
import Cl8yDexBots.SwapVault.Loss

/-! What a completed rebalance can cost either swapping vault, whatever the pair does. -/

namespace Cl8yDexBots.Vaults.RebalanceLoss

open Foundation.Checked Foundation.Words CosmWasm.Std CosmWasm.Pair SwapVault.Pricing SwapVault.Loss

section MarketGrid

open MarketGrid.State MarketGrid.Planning MarketGrid.Vault MarketGrid.Runs MarketGrid.RebalanceLiveness

variable {q q' : Querier} {env env' : Env} {st st₁ st₂ st' : Storage} {info : MessageInfo} {deadline id : ℕ}
  {r r' : Response WasmMsg} {held settled : Fin 2 → Uint128}

lemma marketGrid_balances {config : Config} {vault : Addr}
    (h : ∀ i, q.balance (config.assetTokens i) vault = .ok (held i)) :
    (balances q vault config : Result _) = .ok held := by
  have hpair : ![held 0, held 1] = held := by
    funext i
    fin_cases i <;> rfl
  simp only [balances, bind_eq_ok, liftStd_eq_ok, Except.ok.injEq]
  exact ⟨held 0, h 0, held 1, h 1, hpair⟩

lemma marketGrid_bounded (hreach : Reachable st)
    (hstart : executeRebalance q env st info deadline = .ok (st₁, r)) (hnested : Nested st₁ st₂)
    (hreply : reply q' env' st₂ id = .ok (st', r')) (hcontract : env'.contract = env.contract)
    (hheld : ∀ i, q.balance (st.config.assetTokens i) env.contract = .ok (held i))
    (hsettled : ∀ i, q'.balance (st.config.assetTokens i) env.contract = .ok (settled i)) :
    ∃ pending pool, st₁.pendingSwap = some pending ∧
      (referencePrice q st.config.pair st.config.twapWindowSeconds : Result _) = .ok pending.capturedTwap ∧
      q.pool st.config.pair = .ok pool ∧
      LossBounded pending.capturedTwap pending.offerIndex pending.amount.val st.config.maxTradeBps
        st.config.maxTradePoolBps st.config.maxExecutionDeviationBps (fun i => (pool.assets i).amount)
        held settled := by
  obtain ⟨price, held₁, hprice, hheld₁⟩ := executeRebalance_reads hstart
  obtain rfl : held = held₁ := Except.ok.inj ((marketGrid_balances hheld).symm.trans hheld₁)
  obtain ⟨cell, d, i, amount, least, pool, -, -, hplan, hleast, hpool, hsafe, rfl⟩ :=
    executeRebalance_ok hreach.valid hprice hheld₁ hstart
  obtain ⟨hpending, htokens⟩ := hnested.keeps rfl
  simp only [reply, bind_eq_ok, orError_eq_ok, hpending] at hreply
  obtain ⟨_, -, pending, hpending', settled₁, hsettled₁, _, hdeviation, -⟩ := hreply
  cases hpending'
  rw [hcontract] at hsettled₁
  have hsettled' : ∀ i, q'.balance (st₂.config.assetTokens i) env.contract = .ok (settled i) := by
    intro i
    rw [htokens]
    exact hsettled i
  obtain rfl : settled = settled₁ := Except.ok.inj ((marketGrid_balances hsettled').symm.trans hsettled₁)
  simp only [settledDeviation, bind_eq_ok] at hdeviation
  obtain ⟨_, hvalid, -⟩ := hdeviation
  simp only [minReturn, bind_eq_ok, Except.ok.injEq] at hleast
  obtain ⟨returned, hreturned, floored, hfloored, _, -, quote, -, rfl⟩ := hleast
  refine ⟨_, pool, rfl, hprice, hpool, ?_⟩
  have hcapped : amount.val ≤ (held i).val * st.config.maxTradeBps / 10000 := by
    rcases plannedOffer_ok hplan with ⟨rfl, -, hamount⟩ | ⟨rfl, -, hamount⟩
    · exact hamount.trans_le (min_le_right _ _)
    · exact hamount.trans_le (min_le_right _ _)
  refine lossBounded_of_settled hcapped (validatePoolSafety_ok hsafe) hreturned hfloored ?_ hvalid
  rw [max_val]
  exact le_max_left _ _

end MarketGrid

section Rebalancer

open Rebalancer.State Rebalancer.Planning Rebalancer.Vault Rebalancer.Runs Rebalancer.RebalanceLiveness

variable {q q' : Querier} {env env' : Env} {st st₁ st₂ st' : Storage} {info : MessageInfo} {deadline id : ℕ}
  {r r' : Response WasmMsg} {held settled : Fin 2 → Uint128}

lemma rebalancer_balances {config : Config} {vault : Addr}
    (h : ∀ i, q.balance (config.assetTokens i) vault = .ok (held i)) :
    (balances q vault config : Result _) = .ok held := by
  have hpair : ![held 0, held 1] = held := by
    funext i
    fin_cases i <;> rfl
  simp only [balances, cw20Balance, bind_eq_ok, liftStd_eq_ok, Except.ok.injEq]
  exact ⟨held 0, h 0, held 1, h 1, hpair⟩

lemma rebalancer_bounded (hreach : Reachable st)
    (hstart : executeRebalance q env st info deadline = .ok (st₁, r)) (hnested : Nested st₁ st₂)
    (hreply : reply q' env' st₂ id = .ok (st', r')) (hcontract : env'.contract = env.contract)
    (hheld : ∀ i, q.balance (st.config.assetTokens i) env.contract = .ok (held i))
    (hsettled : ∀ i, q'.balance (st.config.assetTokens i) env.contract = .ok (settled i)) :
    ∃ pending pool, st₁.pendingRebalance = some pending ∧
      (queryPrice q st.config : Result _) = .ok pending.capturedTwap ∧ q.pool st.config.pair = .ok pool ∧
      LossBounded pending.capturedTwap pending.offerIndex pending.amount.val st.config.maxTradeBps
        st.config.maxTradePoolBps st.config.maxExecutionDeviationBps (fun i => (pool.assets i).amount)
        held settled := by
  obtain ⟨pending, pool, hprice, hheld₁, -, hplan, hleast, hpool, hsafe, rfl, -⟩ :=
    executeRebalance_ok hreach.valid hstart
  obtain rfl : held = pending.balances := Except.ok.inj ((rebalancer_balances hheld).symm.trans hheld₁)
  obtain ⟨hpending, htokens⟩ := hnested.keeps rfl
  obtain ⟨pending', settled₁, _, _, _, _, _, _, _, _, -, hpending', hsettled₁, hdeviation, -⟩ :=
    reply_ok hreply
  cases hpending.symm.trans hpending'
  rw [hcontract] at hsettled₁
  have hsettled' : ∀ i, q'.balance (st₂.config.assetTokens i) env.contract = .ok (settled i) := by
    intro i
    rw [htokens]
    exact hsettled i
  obtain rfl : settled = settled₁ := Except.ok.inj ((rebalancer_balances hsettled').symm.trans hsettled₁)
  simp only [settledDeviation, bind_eq_ok] at hdeviation
  obtain ⟨_, hvalid, -⟩ := hdeviation
  simp only [minReturn, bind_eq_ok, Except.ok.injEq] at hleast
  obtain ⟨returned, hreturned, floored, hfloored, _, -, quote, -, hleast⟩ := hleast
  refine ⟨pending, pool, rfl, hprice, hpool, ?_⟩
  have hcapped : pending.amount.val
      ≤ (pending.balances pending.offerIndex).val * st.config.maxTradeBps / 10000 := by
    rcases plannedOffer_ok hplan with ⟨hi, -, hamount⟩ | ⟨hi, -, hamount⟩
    · rw [hi]
      exact hamount.trans_le (min_le_right _ _)
    · rw [hi]
      exact hamount.trans_le (min_le_right _ _)
  refine lossBounded_of_settled hcapped (validatePoolSafety_ok hsafe) hreturned hfloored ?_ hvalid
  rw [← hleast, max_val]
  exact le_max_left _ _

end Rebalancer

/-- A rebalance that settles, with anything executed before its reply, costs either vault no more than
the tolerated slippage and two units of the token it asks for. -/
theorem rebalance_loss_bounded :
    (∀ {st st₁ st₂ st' : MarketGrid.State.Storage} {q q' : MarketGrid.State.Querier} {env env' : Env}
        {info : MessageInfo} {deadline id r r'} {held settled : Fin 2 → Uint128},
      MarketGrid.Runs.Reachable st →
      MarketGrid.Vault.executeRebalance q env st info deadline = .ok (st₁, r) →
      MarketGrid.Runs.Nested st₁ st₂ →
      MarketGrid.Vault.reply q' env' st₂ id = .ok (st', r') → env'.contract = env.contract →
      (∀ i, q.balance (st.config.assetTokens i) env.contract = .ok (held i)) →
      (∀ i, q'.balance (st.config.assetTokens i) env.contract = .ok (settled i)) →
      ∃ pending pool, st₁.pendingSwap = some pending ∧
        (MarketGrid.Planning.referencePrice q st.config.pair st.config.twapWindowSeconds :
          MarketGrid.Vault.Result _) = .ok pending.capturedTwap ∧
        q.pool st.config.pair = .ok pool ∧
        LossBounded pending.capturedTwap pending.offerIndex pending.amount.val st.config.maxTradeBps
          st.config.maxTradePoolBps st.config.maxExecutionDeviationBps (fun i => (pool.assets i).amount)
          held settled) ∧
    (∀ {st st₁ st₂ st' : Rebalancer.State.Storage} {q q' : Rebalancer.State.Querier} {env env' : Env}
        {info : MessageInfo} {deadline id r r'} {held settled : Fin 2 → Uint128},
      Rebalancer.Runs.Reachable st →
      Rebalancer.Vault.executeRebalance q env st info deadline = .ok (st₁, r) →
      Rebalancer.Runs.Nested st₁ st₂ →
      Rebalancer.Vault.reply q' env' st₂ id = .ok (st', r') → env'.contract = env.contract →
      (∀ i, q.balance (st.config.assetTokens i) env.contract = .ok (held i)) →
      (∀ i, q'.balance (st.config.assetTokens i) env.contract = .ok (settled i)) →
      ∃ pending pool, st₁.pendingRebalance = some pending ∧
        (Rebalancer.Planning.queryPrice q st.config : Rebalancer.Vault.Result _) = .ok pending.capturedTwap ∧
        q.pool st.config.pair = .ok pool ∧
        LossBounded pending.capturedTwap pending.offerIndex pending.amount.val st.config.maxTradeBps
          st.config.maxTradePoolBps st.config.maxExecutionDeviationBps (fun i => (pool.assets i).amount)
          held settled) :=
  ⟨marketGrid_bounded, rebalancer_bounded⟩

section MarketGridWitness

open MarketGrid.State MarketGrid.Vault MarketGrid.Runs MarketGrid.RebalanceLiveness

def paidHoldings : Fin 2 → Uint128 := ![u128 75, u128 87]

lemma midRebalance_settles : ∃ st₁ r st' r',
    executeRebalance midChain ⟨0, 0, "vault"⟩ midStorage ⟨"keeper", []⟩ 0 = .ok (st₁, r) ∧
    st₁.pendingSwap = some midPending ∧
    reply (fixedChain paidHoldings midPrice 0) ⟨0, 0, "vault"⟩ st₁ 1 = .ok (st', r') := by
  obtain ⟨⟨st₁, r⟩, hstart, hst⟩ := okAnd_iff.mp (show okAnd
    (executeRebalance midChain ⟨0, 0, "vault"⟩ midStorage ⟨"keeper", []⟩ 0)
    (fun x => decide (x.1.pendingSwap = some midPending) &&
      okAnd (reply (fixedChain paidHoldings midPrice 0) ⟨0, 0, "vault"⟩ x.1 1) fun _ => true) = true
      by decide +kernel)
  obtain ⟨hpending, hreply⟩ := Bool.and_eq_true_iff.mp hst
  obtain ⟨⟨st', r'⟩, hreply, -⟩ := okAnd_iff.mp hreply
  exact ⟨st₁, r, st', r', hstart, of_decide_eq_true hpending, hreply⟩

lemma mid_balances (held : Fin 2 → Uint128) (price : Decimal) (reserves : Fin 2 → Uint128) (i : Fin 2) :
    (fixedChain held price reserves).balance (midStorage.config.assetTokens i) "vault" = .ok (held i) := by
  fin_cases i <;> rfl

end MarketGridWitness

section RebalancerWitness

open Rebalancer.State Rebalancer.Vault Rebalancer.Runs Rebalancer.RebalanceLiveness

def leaningPaid : Fin 2 → Uint128 := ![u128 80, u128 79]

lemma leaningRebalance_settles : ∃ st₁ r st' r',
    executeRebalance leaningChain ⟨0, 0, "vault"⟩ unitStorage ⟨"keeper", []⟩ 0 = .ok (st₁, r) ∧
    st₁.pendingRebalance = some leaningPending ∧
    reply (fixedChain leaningPaid .one 0) ⟨0, 0, "vault"⟩ st₁ 1 = .ok (st', r') := by
  obtain ⟨⟨st₁, r⟩, hstart, hst⟩ := okAnd_iff.mp (show okAnd
    (executeRebalance leaningChain ⟨0, 0, "vault"⟩ unitStorage ⟨"keeper", []⟩ 0)
    (fun x => decide (x.1.pendingRebalance = some leaningPending) &&
      okAnd (reply (fixedChain leaningPaid .one 0) ⟨0, 0, "vault"⟩ x.1 1) fun _ => true) = true
      by decide +kernel)
  obtain ⟨hpending, hreply⟩ := Bool.and_eq_true_iff.mp hst
  obtain ⟨⟨st', r'⟩, hreply, -⟩ := okAnd_iff.mp hreply
  exact ⟨st₁, r, st', r', hstart, of_decide_eq_true hpending, hreply⟩

lemma unit_balances (held : Fin 2 → Uint128) (price : Decimal) (reserves : Fin 2 → Uint128) (i : Fin 2) :
    (fixedChain held price reserves).balance (unitStorage.config.assetTokens i) "vault" = .ok (held i) := by
  fin_cases i <;> rfl

end RebalancerWitness

theorem rebalance_loss_bounded_midPrice :
    (∃ st₁ r st' r',
      MarketGrid.Vault.executeRebalance MarketGrid.RebalanceLiveness.midChain ⟨0, 0, "vault"⟩
        MarketGrid.RebalanceLiveness.midStorage ⟨"keeper", []⟩ 0 = .ok (st₁, r) ∧
      MarketGrid.Vault.reply (MarketGrid.Runs.fixedChain paidHoldings MarketGrid.RebalanceLiveness.midPrice 0)
        ⟨0, 0, "vault"⟩ st₁ 1 = .ok (st', r') ∧
      LossBounded MarketGrid.RebalanceLiveness.midPrice 0 25 2500 1000 500
        (MarketGrid.RebalanceLiveness.deepReserves MarketGrid.RebalanceLiveness.midPrice.atomics)
        MarketGrid.RebalanceLiveness.midHoldings paidHoldings) ∧
    ∃ st₁ r st' r',
      Rebalancer.Vault.executeRebalance Rebalancer.RebalanceLiveness.leaningChain ⟨0, 0, "vault"⟩
        Rebalancer.RebalanceLiveness.unitStorage ⟨"keeper", []⟩ 0 = .ok (st₁, r) ∧
      Rebalancer.Vault.reply (Rebalancer.Runs.fixedChain leaningPaid .one 0) ⟨0, 0, "vault"⟩ st₁ 1 = .ok (st', r') ∧
      LossBounded .one 0 20 2500 1000 500 Rebalancer.RebalanceLiveness.deepReserves
        Rebalancer.RebalanceLiveness.leaningHoldings leaningPaid := by
  constructor
  · obtain ⟨st₁, r, st', r', hstart, hpending, hreply⟩ := midRebalance_settles
    obtain ⟨pending, pool, hpending', -, hpool, hbounded⟩ := rebalance_loss_bounded.1
      (MarketGrid.RebalanceLiveness.freshStorage_reachable MarketGrid.RebalanceLiveness.midPrice 5 rfl) hstart
      .refl hreply rfl (mid_balances _ _ _) (mid_balances _ _ _)
    cases hpending.symm.trans hpending'
    have hreserves : (fun i => (pool.assets i).amount) =
        MarketGrid.RebalanceLiveness.deepReserves MarketGrid.RebalanceLiveness.midPrice.atomics := by
      cases hpool
      funext i
      fin_cases i <;> rfl
    rw [hreserves] at hbounded
    exact ⟨st₁, r, st', r', hstart, hreply, hbounded⟩
  · obtain ⟨st₁, r, st', r', hstart, hpending, hreply⟩ := leaningRebalance_settles
    obtain ⟨pending, pool, hpending', -, hpool, hbounded⟩ := rebalance_loss_bounded.2
      Rebalancer.RebalanceLiveness.unitStorage_reachable hstart .refl hreply rfl (unit_balances _ _ _)
      (unit_balances _ _ _)
    cases hpending.symm.trans hpending'
    have hreserves : (fun i => (pool.assets i).amount) = Rebalancer.RebalanceLiveness.deepReserves := by
      cases hpool
      funext i
      fin_cases i <;> rfl
    rw [hreserves] at hbounded
    exact ⟨st₁, r, st', r', hstart, hreply, hbounded⟩

end Cl8yDexBots.Vaults.RebalanceLoss
