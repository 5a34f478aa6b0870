import Cl8yDexBots.FeeSystem.Collector
import Cl8yDexBots.MarketGrid.ShareLedger

/-! Who can turn the fee shares of a market-grid vault into assets. -/

namespace Cl8yDexBots.MarketGrid.FeeRedemption

open Foundation.Checked Foundation.Words Foundation.SubMessages Foundation.StorageMap CosmWasm.Std
open SwapVault.Pricing State Planning Vault Runs ShareLedger
open FeeSystem

/-- What a collector learns of the vault; its configuration has no liquidity contract. -/
def answers (q : Querier) (vault : Addr) (st : Storage) : Collector.Querier where
  addrValidate := q.addrValidate
  shares addr _ holder :=
    if addr = vault then do
      let holder ← q.addrValidate holder
      .ok (sharesOf st holder)
    else .error (.notFound "contract")
  liquidityContract addr := if addr = vault then .ok none else .error (.notFound "contract")

def Collects (q : Querier) (env : Env) (collector : Addr) (info : MessageInfo) (vault : String) (botId : ℕ)
    (before : Collector.Storage × Storage) (after : Collector.Storage × Storage) (paid : Response WasmMsg) : Prop :=
  ∃ response recipient, Collector.executeCollect (answers q env.contract before.2) { env with contract := collector }
      before.1 info vault botId = .ok (after.1, response) ∧
    response.messages = [.plain (.redeemShares env.contract botId recipient)] ∧
    execute q env before.2 ⟨collector, []⟩ (.redeemShares botId (some recipient)) = .ok (after.2, paid)

/-- A collector with shares and room to count them, asked by its keeper while the vault's balances can be read and no
rebalance is pending. -/
structure Asked (q : Querier) (env : Env) (collector : Addr) (info : MessageInfo) (vault : String) (botId : ℕ)
    (cst : Collector.Storage) (st : Storage) (held : Fin 2 → Uint128) : Prop where
  keeper : info.sender = cst.config.keeper
  vaultAddr : q.addrValidate vault = .ok env.contract
  collectorAddr : q.addrValidate collector = .ok collector
  treasuryAddr : q.addrValidate cst.config.treasury = .ok cst.config.treasury
  balances : balances q env.contract st.config = (.ok held : Result _)
  shares : (sharesOf st collector).val ≠ 0
  room : ((cst.vaultShares env.contract botId).getD 0).val + (sharesOf st collector).val < 2 ^ 128
  idle : st.pendingSwap = none

variable {q : Querier} {env : Env} {collector : Addr} {info : MessageInfo} {vault : String} {botId : ℕ}
  {cst : Collector.Storage} {st st' : Storage} {held : Fin 2 → Uint128} {r : Response WasmMsg}

lemma isZero_eq_false {bits : ℕ} {a : Uint bits} : isZero a = false ↔ a.val ≠ 0 := by
  rw [← Bool.not_eq_true, isZero_iff]

lemma balances_eq_ok {ε : Type} [StdFailure ε] {config : Config} {vault : Addr} :
    (balances q vault config : Except ε _) = .ok held ↔ q.balance (config.assetTokens 0) vault = .ok (held 0) ∧
      q.balance (config.assetTokens 1) vault = .ok (held 1) := by
  simp only [balances, bind_eq_ok, liftStd_eq_ok, Except.ok.injEq]
  constructor
  · rintro ⟨balance0, h0, balance1, h1, rfl⟩
    exact ⟨h0, h1⟩
  · rintro ⟨h0, h1⟩
    refine ⟨held 0, h0, held 1, h1, ?_⟩
    funext i
    fin_cases i <;> rfl

lemma sharesOf_le (h : Reachable st) (holder : Addr) : (sharesOf st holder).val ≤ st.totalShares.val := by
  obtain ⟨hsum, -⟩ := Reachable.balanced h
  have hle := weight_le_total st.shares Uint.val holder
  rw [← held_ledgerOf st holder]
  exact hle.trans hsum.le

structure Redeemed (st st' : Storage) (collector recipient : Addr) (held : Fin 2 → Uint128) (r : Response WasmMsg) :
    Prop where
  paid : ∃ amounts, r.messages = transfers st.config recipient amounts ∧
    ∀ i, (amounts i).val = (held i).val * (sharesOf st collector).val / st.totalShares.val
  burned : st'.totalShares.val + (sharesOf st collector).val = st.totalShares.val
  others : ∀ holder, sharesOf st' holder = if holder = collector then 0 else sharesOf st holder

lemma executeRedeemShares_eq_ok {recipient : Addr} (hrecipient : q.addrValidate recipient = .ok recipient)
    (hheld : balances q env.contract st.config = (.ok held : Result _)) (hidle : st.pendingSwap = none)
    (hshares : (sharesOf st collector).val ≠ 0) (hle : (sharesOf st collector).val ≤ st.totalShares.val) :
    (∃ st' r, executeRedeemShares q env st ⟨collector, []⟩ (some recipient) = .ok (st', r)) ↔
      st.config.feeCollector = some collector := by
  constructor
  · rintro ⟨st', r, h⟩
    simp only [executeRedeemShares, bind_eq_ok, orError_eq_ok, ensure_eq_ok, decide_eq_true_eq] at h
    obtain ⟨_, -, configured, hconfigured, _, rfl, -⟩ := h
    exact hconfigured
  · intro hconfigured
    have htotal : st.totalShares.val ≠ 0 := by omega
    obtain ⟨amount0, hamount0, -⟩ := multiplyRatio_of_le (ε := ContractError) (a := held 0) htotal hle
    obtain ⟨amount1, hamount1, -⟩ := multiplyRatio_of_le (ε := ContractError) (a := held 1) htotal hle
    have hpos : isZero (sharesOf st collector) = false := isZero_eq_false.mpr hshares
    have hle' : sharesOf st collector ≤ st.totalShares := hle
    simp only [executeRedeemShares, assertNoFunds, ensure, List.isEmpty_nil, hconfigured, orError, hpos, hle', hidle,
      hheld, Option.getD_some, hrecipient, liftStd, hamount0, hamount1, checkedSub_of_le hle, ok_bind, if_true,
      Option.isNone_none, Bool.not_false, decide_true]
    exact ⟨_, _, rfl⟩

lemma executeRedeemShares_redeemed {recipient : Addr} (hrecipient : q.addrValidate recipient = .ok recipient)
    (hheld : balances q env.contract st.config = (.ok held : Result _))
    (h : executeRedeemShares q env st ⟨collector, []⟩ (some recipient) = .ok (st', r)) :
    Redeemed st st' collector recipient held r := by
  simp only [executeRedeemShares, bind_eq_ok, orError_eq_ok, ensure_eq_ok, decide_eq_true_eq, hheld,
    Except.ok.injEq, Option.getD_some, liftStd_eq_ok, hrecipient, multiplyRatio_eq_ok, checkedSub_eq_ok,
    exists_eq_left', Prod.mk.injEq] at h
  obtain ⟨_, -, _, -, _, rfl, _, -, _, -, _, -, amount0, ⟨-, hamount0⟩, amount1, ⟨-, hamount1⟩, total, ⟨hle, htotal⟩,
    rfl, rfl⟩ := h
  refine ⟨⟨_, rfl, ?_⟩, ?_, fun holder => ?_⟩
  · intro i
    fin_cases i
    · exact hamount0
    · exact hamount1
  · dsimp only
    omega
  · rw [sharesOf, lookup_insert]
    by_cases hsame : holder = collector
    · rw [if_pos hsame, if_pos hsame.symm]
      rfl
    · rw [if_neg hsame, if_neg (Ne.symm hsame)]
      rfl

lemma collects_iff (h : Asked q env collector info vault botId cst st held) {cst' : Collector.Storage} :
    Collects q env collector info vault botId (cst, st) (cst', st') r ↔
      (∃ collected : Uint128, collected.val =
        ((cst.vaultShares env.contract botId).getD 0).val + (sharesOf st collector).val ∧
        cst' = cst.record env.contract botId collected) ∧
      executeRedeemShares q env st ⟨collector, []⟩ (some cst.config.treasury) = .ok (st', r) := by
  have hreported : (answers q env.contract st).shares env.contract botId collector = .ok (sharesOf st collector) := by
    simp [answers, h.collectorAddr]
  have hliquidity : (answers q env.contract st).liquidityContract env.contract = .ok none := if_pos rfl
  constructor
  · rintro ⟨response, recipient, hcollect, hmessages, hredeem⟩
    obtain ⟨-, vaultAddr, shares, collected, liquidity, hvault, hshares, -, hcollected, hnone, hrecord, rfl⟩ :=
      Collector.executeCollect_eq_ok.mp hcollect
    obtain rfl := Except.ok.inj (h.vaultAddr.symm.trans hvault)
    obtain rfl := Except.ok.inj (hreported.symm.trans hshares)
    obtain rfl := Except.ok.inj (hliquidity.symm.trans hnone)
    simp only [Collector.redemption, List.cons.injEq, SubMsg.plain, SubMsg.mk.injEq,
      Collector.CosmosMsg.redeemShares.injEq, true_and, and_true] at hmessages
    subst hmessages
    exact ⟨⟨collected, hcollected, hrecord⟩, hredeem⟩
  · rintro ⟨⟨collected, hcollected, rfl⟩, hredeem⟩
    exact ⟨_, cst.config.treasury, Collector.executeCollect_eq_ok.mpr ⟨h.keeper, env.contract, sharesOf st collector,
      collected, none, h.vaultAddr, hreported, isZero_eq_false.mpr h.shares, hcollected, hliquidity, rfl, rfl⟩, rfl,
      hredeem⟩

/-- In every reachable state the holder of fee shares can have them collected just in case it is the fee collector of
the present configuration; it is then paid its part of both balances and holds no shares, and the others' are left. -/
theorem fee_shares_redeemable_iff (hreach : Reachable st)
    (h : Asked q env collector info vault botId cst st held) :
    ((∃ cst' st' r, Collects q env collector info vault botId (cst, st) (cst', st') r) ↔
      st.config.feeCollector = some collector) ∧
    ∀ cst' st' r, Collects q env collector info vault botId (cst, st) (cst', st') r →
      Redeemed st st' collector cst.config.treasury held r := by
  have hle := sharesOf_le hreach collector
  have hredeemable := executeRedeemShares_eq_ok h.treasuryAddr h.balances h.idle h.shares hle
  constructor
  · rw [← hredeemable]
    constructor
    · rintro ⟨cst', st', r, hcollects⟩
      exact ⟨st', r, ((collects_iff h).mp hcollects).2⟩
    · rintro ⟨st', r, hredeem⟩
      exact ⟨_, st', r, (collects_iff h).mpr ⟨⟨⟨_, h.room⟩, rfl, rfl⟩, hredeem⟩⟩
  · intro cst' st' r hcollects
    exact executeRedeemShares_redeemed h.treasuryAddr h.balances ((collects_iff h).mp hcollects).2

/-! A vault that sells a quarter of its token 0 at 1.5 and mints the fee to its collector. -/

def middlePrice : Decimal := ⟨u128 (15 * 10 ^ 17)⟩

def tradingChain (held : Fin 2 → Uint128) : Querier :=
  { fixedChain held middlePrice ![u128 (10 ^ 9), u128 (15 * 10 ^ 8)] with
    effectiveFee := fun _ _ => .ok ⟨180, none, "live"⟩ }

def vaultEnv : Env := ⟨0, 0, "vault"⟩

def beforeTrade : Querier := tradingChain ![u128 1000000, 0]

def afterTrade : Querier := tradingChain ![u128 750000, u128 375000]

def cleared : UpdateConfigMsg where
  gridCount := none
  lowerPrice := none
  upperPrice := none
  allocationToleranceBps := none
  maxTradeBps := none
  maxExecutionDeviationBps := none
  quoteSlippageBps := none
  maxSpotTwapDeviationBps := none
  maxTradePoolBps := none
  maxSpread := none
  feeRegistry := none
  feeCollector := some ""
  proxy := none

def charged (calls : List Call) : Result Storage := do
  let (st, _) ← instantiate beforeTrade ⟨"admin", []⟩
    { fixedMsg .one ⟨u128 (2 * 10 ^ 18)⟩ 10 with feeRegistry := some "registry", feeCollector := some "collector" }
  play st ([.executed beforeTrade vaultEnv ⟨"token0", []⟩ (.receive ⟨"admin", u128 1000000, some .deposit⟩),
    .executed beforeTrade vaultEnv ⟨"keeper", []⟩ (.rebalance 0), .replied afterTrade vaultEnv 1] ++ calls)

def freshCollector : Collector.Storage := ⟨⟨"governance", "registry", "keeper", "treasury"⟩, fun _ _ => none⟩

lemma charged_reachable {calls : List Call} (h : charged calls = .ok st) : Reachable st := by
  simp only [charged, bind_eq_ok, Prod.exists] at h
  obtain ⟨st₀, r₀, hfresh, hplay⟩ := h
  exact play_reachable (.instantiated hfresh) hplay

lemma charged_asked {collectorShares : ℕ} (hshares : (sharesOf st "collector").val = collectorShares)
    (hpos : collectorShares ≠ 0) (hroom : collectorShares < 2 ^ 128) (hidle : st.pendingSwap = none)
    (htokens : st.config.assetTokens = ![ "token0", "token1"]) :
    Asked afterTrade vaultEnv "collector" ⟨"keeper", []⟩ "vault" 1 freshCollector st
      ![⟨750000, by decide⟩, ⟨375000, by decide⟩] where
  keeper := rfl
  vaultAddr := rfl
  collectorAddr := rfl
  treasuryAddr := rfl
  balances := by
    rw [balances_eq_ok, htokens]
    exact ⟨rfl, rfl⟩
  shares := hshares ▸ hpos
  room := by
    rw [hshares]
    exact (Nat.zero_add _).trans_lt hroom
  idle := hidle

/-- Once the admin has cleared the fee collector, its shares stay in the vault. -/
theorem cleared_collector_stranded : ¬ ∀ st q env collector info vault botId cst held, Reachable st →
    Asked q env collector info vault botId cst st held →
    ∃ cst' st' r, Collects q env collector info vault botId (cst, st) (cst', st') r := by
  intro hclaim
  have hruns : okAnd (charged [.executed afterTrade vaultEnv ⟨"admin", []⟩ (.updateConfig cleared)]) (fun st => decide (
      (sharesOf st "collector").val = 4520 ∧ st.pendingSwap = none ∧ st.config.assetTokens = ![ "token0", "token1"] ∧
      st.config.feeCollector = none)) = true := by
    decide
  obtain ⟨st, hst, hchecked⟩ := okAnd_iff.mp hruns
  obtain ⟨hshares, hidle, htokens, hnone⟩ := of_decide_eq_true hchecked
  have hasked := charged_asked hshares (by decide) (by decide) hidle htokens
  obtain ⟨cst', st', r, hcollects⟩ := hclaim st _ _ _ _ _ _ _ _ (charged_reachable hst) hasked
  obtain ⟨-, hredeem⟩ := (collects_iff hasked).mp hcollects
  have hconfigured := (executeRedeemShares_eq_ok hasked.treasuryAddr hasked.balances hidle hasked.shares
    (sharesOf_le (charged_reachable hst) _)).mp ⟨st', r, hredeem⟩
  rw [hnone] at hconfigured
  cases hconfigured

theorem configured_collector_paid : ∃ st cst' st' r, charged [] = .ok st ∧ (sharesOf st "collector").val = 4520 ∧
    Collects afterTrade vaultEnv "collector" ⟨"keeper", []⟩ "vault" 1 (freshCollector, st) (cst', st') r ∧
    Redeemed st st' "collector" "treasury" ![⟨750000, by decide⟩, ⟨375000, by decide⟩] r := by
  have hruns : okAnd (charged []) (fun st => decide ((sharesOf st "collector").val = 4520 ∧ st.pendingSwap = none ∧
      st.config.assetTokens = ![ "token0", "token1"] ∧ st.config.feeCollector = some "collector")) = true := by
    decide
  obtain ⟨st, hst, hchecked⟩ := okAnd_iff.mp hruns
  obtain ⟨hshares, hidle, htokens, hconfigured⟩ := of_decide_eq_true hchecked
  obtain ⟨hiff, hpaid⟩ := fee_shares_redeemable_iff (charged_reachable hst)
    (charged_asked hshares (by decide) (by decide) hidle htokens)
  obtain ⟨cst', st', r, hcollects⟩ := hiff.mpr hconfigured
  exact ⟨st, cst', st', r, hst, hshares, hcollects, hpaid cst' st' r hcollects⟩

end Cl8yDexBots.MarketGrid.FeeRedemption
