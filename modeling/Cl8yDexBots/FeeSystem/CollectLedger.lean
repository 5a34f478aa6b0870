import Cl8yDexBots.FeeSystem.World
import Cl8yDexBots.Foundation.ProRata
import Cl8yDexBots.LimitGrid.OrderBook
import Cl8yDexBots.MarketGrid.FeeRedemption
import Cl8yDexBots.Rebalancer.Binding
import Cl8yDexBots.Vaults.FeeMint

/-! What the collector has recorded, what was burned for it, and what the treasury was paid. -/

namespace Cl8yDexBots.FeeSystem.CollectLedger

open Foundation.Checked Foundation.Words Foundation.SubMessages Foundation.ProRata CosmWasm.Std CosmWasm.Cw20Base
open CosmWasm.TokenLedger Rebalancer.Liquidity World

structure Pool where
  shares : Addr → ℕ
  supply : ℕ
  assetTokens : Fin 2 → Addr
  balances : Fin 2 → ℕ

variable {L : Type} [Token L]

def marketGridPool (w : Network L) (vault : Addr) (st : MarketGrid.State.Storage) : Pool where
  shares holder := (MarketGrid.Vault.sharesOf st holder).val
  supply := st.totalShares.val
  assetTokens := st.config.assetTokens
  balances i := (w.held st.config.assetTokens vault i).val

/-- Of a limit-grid bot only the free balances count. -/
def limitGridPool (st : LimitGrid.State.Storage) (bot : LimitGrid.State.Bot) : Pool where
  shares holder := (LimitGrid.State.sharesOf st holder).val
  supply := bot.totalShares.val
  assetTokens := bot.assetTokens
  balances i := (bot.freeBalances i).val

def botVaultPool (w : Network L) (vault : Addr) (st : Rebalancer.State.Storage) (lp : Shares L) : Pool where
  shares holder := (Token.balance lp.token holder).val
  supply := (Token.totalSupply lp.token).val
  assetTokens := st.config.assetTokens
  balances i := (w.held st.config.assetTokens vault i).val

def poolAt (w : Network L) (vault : Addr) (botId : ℕ) : Option Pool :=
  match w.contracts vault with
  | some (.marketGrid st) => some (marketGridPool w vault st)
  | some (.limitGrid st) =>
    if botId = LimitGrid.State.BOT_ID then st.bot.map (limitGridPool st) else none
  | some (.botVault st) =>
    match st.config.liquidityContract.bind w.contracts with
    | some (.botLiquidity lp) => some (botVaultPool w vault st lp)
    | _ => none
  | _ => none

lemma poolAt_marketGrid {w : Network L} {vault : Addr} {st : MarketGrid.State.Storage}
    (h : w.contracts vault = some (.marketGrid st)) (botId : ℕ) :
    poolAt w vault botId = some (marketGridPool w vault st) := by
  simp only [poolAt, h]

lemma poolAt_limitGrid {w : Network L} {vault : Addr} {st : LimitGrid.State.Storage} {bot : LimitGrid.State.Bot}
    (h : w.contracts vault = some (.limitGrid st)) (hbot : st.bot = some bot) :
    poolAt w vault LimitGrid.State.BOT_ID = some (limitGridPool st bot) := by
  simp only [poolAt, h, if_true, hbot, Option.map_some]

lemma poolAt_botVault {w : Network L} {vault liquidity : Addr} {st : Rebalancer.State.Storage} {lp : Shares L}
    (h : w.contracts vault = some (.botVault st)) (bound : st.config.liquidityContract = some liquidity)
    (hlp : w.contracts liquidity = some (.botLiquidity lp)) (botId : ℕ) :
    poolAt w vault botId = some (botVaultPool w vault st lp) := by
  simp only [poolAt, h, bound, Option.bind_some, hlp]

/-- A redemption of everything that an account has, paid out to the treasury. -/
structure Redeemed (account treasury vault : Addr) (tokens tokens' : Addr → Ledger) (before after : Pool) :
    Prop where
  emptied : after.shares account = 0
  burned : after.supply + before.shares account = before.supply
  assetTokens : after.assetTokens = before.assetTokens
  paid : ∀ i, ((tokens' (before.assetTokens i)).held treasury).val +
      (if vault = treasury then slice (before.balances i) (before.shares account) before.supply else 0) =
    ((tokens (before.assetTokens i)).held treasury).val +
      slice (before.balances i) (before.shares account) before.supply
  backing : ∀ i, before.balances i * after.supply ≤ after.balances i * before.supply

/-- Burning takes the amount from whoever burns. -/
class BurnsExactly (L : Type) [Token L] : Prop where
  burns {env : Env} {l l' : L} {info : MessageInfo} {amount : Uint128} {r : Answer}
    (h : Token.execute env l info (.burn amount) = .ok (l', r)) :
    (Token.balance l' info.sender).val + amount.val = (Token.balance l info.sender).val

section Payments

variable {sender recipient : Addr} {tokens tokens' : Addr → Ledger} {assetTokens : Fin 2 → Addr}
  {amounts : Fin 2 → Uint128}

lemma pay_held {payment : Payment} (h : pay sender tokens payment = .ok tokens') (token account : Addr) :
    ((tokens' token).held account).val +
        (if payment.token = token ∧ sender = account then payment.amount.val else 0) =
      ((tokens token).held account).val +
        if payment.token = token ∧ payment.recipient = account then payment.amount.val else 0 := by
  simp only [pay, bind_eq_ok, Except.ok.injEq] at h
  obtain ⟨ledger, hmove, rfl⟩ := h
  by_cases htoken : payment.token = token
  · subst htoken
    have hmoved := Ledger.move_held hmove account
    simpa only [Function.update_self, true_and] using hmoved
  · simp [Function.update_of_ne (Ne.symm htoken), htoken]

lemma payBoth_held (distinct : assetTokens 0 ≠ assetTokens 1)
    (h : payAll sender tokens (bothPayments assetTokens recipient amounts) = .ok tokens') (i : Fin 2) (account : Addr) :
    ((tokens' (assetTokens i)).held account).val + (if sender = account then (amounts i).val else 0) =
      ((tokens (assetTokens i)).held account).val + if recipient = account then (amounts i).val else 0 := by
  have hone : ∀ {j : Fin 2} {t t' : Addr → Ledger}, payAll sender t
      (([j] : List (Fin 2)).filterMap fun k =>
        if isZero (amounts k) then none else some ⟨assetTokens k, recipient, amounts k⟩) = .ok t' →
      ((t' (assetTokens i)).held account).val + (if assetTokens j = assetTokens i ∧ sender = account then
          (amounts j).val else 0) =
        ((t (assetTokens i)).held account).val +
          if assetTokens j = assetTokens i ∧ recipient = account then (amounts j).val else 0 := by
    intro j t t' hpay
    by_cases hz : isZero (amounts j) = true
    · simp only [List.filterMap_cons, hz, if_true, List.filterMap_nil, payAll, foldChecked, Except.ok.injEq] at hpay
      rw [isZero_iff] at hz
      rw [hpay, hz]
      simp
    · simp only [List.filterMap_cons, hz, if_false, List.filterMap_nil, payAll, foldChecked, bind_eq_ok,
        Except.ok.injEq, Bool.false_eq_true, exists_eq_right] at hpay
      exact pay_held hpay (assetTokens i) account
  have hsplit : bothPayments assetTokens recipient amounts =
      (([0] : List (Fin 2)).filterMap fun k =>
        if isZero (amounts k) then none else some ⟨assetTokens k, recipient, amounts k⟩) ++
      ([1] : List (Fin 2)).filterMap fun k =>
        if isZero (amounts k) then none else some ⟨assetTokens k, recipient, amounts k⟩ := by
    rw [← List.filterMap_append]
    rfl
  rw [hsplit, payAll, foldChecked_append] at h
  obtain ⟨t, hfirst, hsecond⟩ := h
  have h0 := hone hfirst
  have h1 := hone hsecond
  fin_cases i
  · simp only [Fin.zero_eta, true_and, distinct.symm, false_and, if_false, Nat.add_zero] at h0 h1 ⊢
    omega
  · simp only [Fin.mk_one, true_and, distinct, false_and, if_false, Nat.add_zero] at h0 h1 ⊢
    omega

end Payments

section Sound

def DistinctTokens (st : LimitGrid.State.Storage) : Prop :=
  ∀ bot, st.bot = some bot → bot.assetTokens 0 ≠ bot.assetTokens 1

lemma DistinctTokens.of_same {st st' : LimitGrid.State.Storage} {bot bot' : LimitGrid.State.Bot}
    (h : DistinctTokens st) (hbot : st.bot = some bot) (hbot' : st'.bot = some bot')
    (same : bot'.assetTokens = bot.assetTokens) : DistinctTokens st' := by
  intro b hb
  obtain rfl := Option.some.inj (hbot'.symm.trans hb)
  rw [same]
  exact h bot hbot

open LimitGrid.Effects in
lemma effect_distinct {q : LimitGrid.State.Querier} {env : Env} {l l' : LimitGrid.Effects.Ledger}
    (e : Effect q env l l') (h : DistinctTokens l.1) : DistinctTokens l'.1 := by
  cases e with
  | configured => exact h
  | cached => exact h
  | created rungs fresh pair tokens distinct zero =>
    rintro bot ⟨⟩
    exact distinct
  | regauged gasCredit pairCodeId hbot => exact h.of_same hbot rfl rfl
  | paid => exact h
  | deposited depositor hbot live credit supply holding no_messages => exact h.of_same hbot rfl rfl
  | placed hbot some_rung all_items sum debit no_pages => exact h.of_same hbot rfl rfl
  | synced hbot actual grown no_messages => exact h.of_same hbot rfl rfl
  | dropped hbot tracked counted gone untouched => exact h.of_same hbot rfl rfl
  | lowered hbot tracked book less untouched => exact h
  | minted collector hbot supply holding => exact h.of_same hbot rfl rfl
  | paged hbot valid distinct untouched only_pages => exact h
  | recovered rungIndex hbot untracked uncancelled found => exact h.of_same hbot rfl rfl
  | redeemed recipient hbot debit supply holding => exact h.of_same hbot rfl rfl
  | exited recipient hbot drained actual debit supply => exact h.of_same hbot rfl rfl

lemma limitGrid_execute_distinct {q : LimitGrid.State.Querier} {env : Env} {st st' : LimitGrid.State.Storage}
    {info : MessageInfo} {msg : LimitGrid.State.ExecuteMsg} {r : Response LimitGrid.State.CosmosMsg}
    (h : LimitGrid.Vault.execute q env st info msg = .ok (st', r)) (distinct : DistinctTokens st) :
    DistinctTokens st' := by
  have hsteps := LimitGrid.EntryEffects.execute_steps h
  have hkept : ∀ {l l' : LimitGrid.Effects.Ledger}, LimitGrid.Effects.Steps q env l l' → DistinctTokens l.1 →
      DistinctTokens l'.1 := by
    intro l l' hsteps hl
    induction hsteps with
    | refl => exact hl
    | tail _ hstep ih => exact effect_distinct hstep ih
  exact hkept hsteps distinct

lemma limitGrid_reply_distinct {q : LimitGrid.State.Querier} {env : Env} {st st' : LimitGrid.State.Storage} {id : ℕ}
    {result : Except String (List (String × String))} {r : Response LimitGrid.State.CosmosMsg}
    (h : LimitGrid.Orders.reply q env st id result = .ok (st', r)) (distinct : DistinctTokens st) :
    DistinctTokens st' := by
  obtain ⟨-, hresolved⟩ := LimitGrid.Resolutions.reply_resolution h
  cases hresolved with
  | reverted => exact distinct
  | confirmed hpage hbot settled counted => exact distinct.of_same hbot rfl rfl
  | restored no_page hplan hbot single gross counted credit nothing => exact distinct.of_same hbot rfl rfl
  | recorded => exact distinct

/-- A vault's tokens are two, and it is bound to a liquidity contract of its own and of the same tokens. -/
def Sound (w : Network L) (addr : Addr) : Contract L → Prop
  | .marketGrid st => MarketGrid.Runs.Reachable st
  | .limitGrid st => DistinctTokens st
  | .botVault st => Rebalancer.Runs.Reachable st ∧ ∀ liquidity, st.config.liquidityContract = some liquidity →
      ∃ lp, w.contracts liquidity = some (.botLiquidity lp) ∧ lp.config.vault = addr ∧
        lp.config.assetTokens = st.config.assetTokens
  | .botLiquidity _ => True

def AllSound (w : Network L) : Prop := ∀ addr contract, w.contracts addr = some contract → Sound w addr contract

variable {w w' : Network L} {addr : Addr} {contract contract' : Contract L}

def Succeeds (w : Network L) (addr : Addr) (contract : Contract L) : Prop :=
  ∀ lp, w.contracts addr = some (.botLiquidity lp) →
    ∃ lp', contract = .botLiquidity lp' ∧ Rebalancer.Binding.SameVault lp lp'

omit [Token L] in
lemma Sound.put (h : Sound w addr contract) {place : Addr} (succeeds : Succeeds w place contract') :
    Sound (w.put place contract') addr contract := by
  cases contract with
  | marketGrid st => exact h
  | limitGrid st => exact h
  | botLiquidity st => trivial
  | botVault st =>
    refine ⟨h.1, fun liquidity hbound => ?_⟩
    obtain ⟨lp, hlp, hvault, htokens⟩ := h.2 liquidity hbound
    by_cases hplace : liquidity = place
    · subst hplace
      obtain ⟨lp', rfl, hsame⟩ := succeeds lp hlp
      exact ⟨lp', put_self w liquidity _, hsame.1.trans hvault, hsame.2.trans htokens⟩
    · exact ⟨lp, (put_other hplace w _).trans hlp, hvault, htokens⟩

omit [Token L] in
lemma AllSound.put (h : AllSound w) (succeeds : Succeeds w addr contract) (sound : Sound w addr contract) :
    AllSound (w.put addr contract) := by
  intro place c hc
  by_cases hplace : place = addr
  · subst hplace
    obtain rfl := Option.some.inj ((put_self w place contract).symm.trans hc)
    exact sound.put succeeds
  · have hold : w.contracts place = some c := (put_other hplace w contract).symm.trans hc
    exact (h place c hold).put succeeds

lemma created_sound (h : contract.Created) (w : Network L) (addr : Addr) : Sound w addr contract := by
  cases h with
  | marketGrid h => exact .instantiated h
  | limitGrid h =>
    obtain ⟨config, rfl, -⟩ := LimitGrid.Vault.instantiate_spec h
    rintro bot ⟨⟩
  | botVault h =>
    refine ⟨.instantiated h, fun liquidity hbound => ?_⟩
    simp only [Rebalancer.Vault.instantiate, bind_eq_ok, Except.ok.injEq, Prod.mk.injEq] at h
    obtain ⟨_, -, _, -, _, -, _, -, _, -, _, -, _, -, _, -, _, -, _, -, _, -, _, -, _, -, _, -, _, -, _, -, _, -, _,
      -, _, -, _, -, _, -, rfl, -⟩ := h
    cases hbound
  | botLiquidity h => trivial

lemma acts_sound (h : AllSound w) (known : w.contracts addr = some contract) (acts : Acts w addr contract contract') :
    Succeeds w addr contract' ∧ Sound w addr contract' := by
  have hsound := h addr contract known
  have other : (∀ lp, contract ≠ .botLiquidity lp) → Succeeds w addr contract' := by
    intro hne lp hlp
    obtain rfl := Option.some.inj (known.symm.trans hlp)
    exact absurd rfl (hne lp)
  have liquidity : ∀ {lp lp' : Shares L}, contract = .botLiquidity lp → contract' = .botLiquidity lp' →
      Rebalancer.Binding.SameVault lp lp' → Succeeds w addr contract' := by
    intro lp lp' hold hnew hsame lp₀ hlp₀
    obtain rfl := hold
    obtain rfl := Contract.botLiquidity.inj (Option.some.inj (known.symm.trans hlp₀))
    exact ⟨lp', hnew, hsame⟩
  cases acts with
  | marketGridExecuted hexec => exact ⟨other (by simp), .executed hsound hexec⟩
  | marketGridReplied hreply => exact ⟨other (by simp), .replied hsound hreply⟩
  | limitGridExecuted hexec => exact ⟨other (by simp), limitGrid_execute_distinct hexec hsound⟩
  | limitGridReplied hreply => exact ⟨other (by simp), limitGrid_reply_distinct hreply hsound⟩
  | @botVaultExecuted q env st info msg st' r here reads hexec =>
    refine ⟨other (by simp), .executed hsound.1 hexec, fun bound hbound => ?_⟩
    have htokens := (Rebalancer.Runs.execute_keeps hexec).assetTokens
    rw [htokens]
    cases Rebalancer.Binding.execute_rebound hexec with
    | kept same => exact hsound.2 bound (same ▸ hbound)
    | released unbound =>
      rw [unbound] at hbound
      cases hbound
    | @bound candidate config told names tokens now =>
      obtain rfl := Option.some.inj (now.symm.trans hbound)
      obtain ⟨lp, hlp, rfl⟩ := reads.liquidityConfig _ _ told
      exact ⟨lp, hlp, names.trans here, tokens⟩
  | botVaultReplied hreply =>
    obtain ⟨hbound, -, htokens⟩ := Rebalancer.Binding.vault_reply_binding hreply
    refine ⟨other (by simp), .replied hsound.1 hreply, fun liquidity hl => ?_⟩
    rw [htokens]
    exact hsound.2 liquidity (hbound ▸ hl)
  | botVaultMigrated hmigrate =>
    obtain ⟨hbound, -, -, -⟩ := Rebalancer.Binding.vault_migrate_binding hmigrate
    refine ⟨other (by simp), .migrated hsound.1 hmigrate, fun liquidity hl => ?_⟩
    rw [hbound] at hl
    cases hl
  | botLiquidityExecuted hexec =>
    exact ⟨liquidity rfl rfl (Rebalancer.Binding.liquidity_execute hexec).1, trivial⟩
  | botLiquidityReplied hreply => exact ⟨liquidity rfl rfl (Rebalancer.Binding.liquidity_reply hreply).1, trivial⟩
  | botLiquidityMigrated hmigrate =>
    exact ⟨liquidity rfl rfl (Rebalancer.Binding.liquidity_migrate hmigrate).1, trivial⟩

end Sound

section Redemptions

variable {self treasury vault : Addr} {tokens tokens' : Addr → Ledger} {before after : Pool}
  {amounts : Fin 2 → Uint128} {w w' : Network L} {botId : ℕ}

lemma redeemed_of_slices (distinct : before.assetTokens 0 ≠ before.assetTokens 1)
    (paid : payAll vault tokens (bothPayments before.assetTokens treasury amounts) = .ok tokens')
    (slices : ∀ i, (amounts i).val = slice (before.balances i) (before.shares self) before.supply)
    (emptied : after.shares self = 0) (burned : after.supply + before.shares self = before.supply)
    (same : after.assetTokens = before.assetTokens)
    (kept : ∀ i, before.balances i ≤ after.balances i + (amounts i).val) :
    Redeemed self treasury vault tokens tokens' before after := by
  refine ⟨emptied, burned, same, fun i => ?_, fun i => ?_⟩
  · have hmoved := payBoth_held distinct paid i treasury
    rw [if_pos rfl] at hmoved
    rw [← slices i]
    exact hmoved
  · apply backing_of_slice burned
    rw [← slices i]
    exact kept i

lemma kept_of_paid {assetTokens : Fin 2 → Addr} (distinct : assetTokens 0 ≠ assetTokens 1)
    (paid : payAll vault tokens (bothPayments assetTokens treasury amounts) = .ok tokens') (i : Fin 2) :
    ((tokens (assetTokens i)).held vault).val ≤
      ((tokens' (assetTokens i)).held vault).val + (amounts i).val := by
  have hmoved := payBoth_held distinct paid i vault
  rw [if_pos rfl] at hmoved
  omega

lemma marketGrid_payments (config : MarketGrid.State.Config) (recipient : Addr) (amounts : Fin 2 → Uint128) :
    (MarketGrid.Vault.transfers config recipient amounts).mapM marketGridPayment =
      some (bothPayments config.assetTokens recipient amounts) := by
  by_cases h0 : (amounts 0).val = 0 <;> by_cases h1 : (amounts 1).val = 0 <;>
    simp [MarketGrid.Vault.transfers, bothPayments, marketGridPayment, SubMsg.plain, isZero, h0, h1]

lemma limitGrid_payments (bot : LimitGrid.State.Bot) (recipient : Addr) (amounts : Fin 2 → Uint128) :
    (LimitGrid.Vault.transfers bot recipient amounts).mapM limitGridPayment =
      some (bothPayments bot.assetTokens recipient amounts) := by
  by_cases h0 : (amounts 0).val = 0 <;> by_cases h1 : (amounts 1).val = 0 <;>
    simp [LimitGrid.Vault.transfers, bothPayments, limitGridPayment, SubMsg.plain, isZero, h0, h1]

def Pays (self treasury vault : Addr) (botId : ℕ) (w w' : Network L) : Prop :=
  ∃ before after, poolAt w vault botId = some before ∧ poolAt w' vault botId = some after ∧
    Redeemed self treasury vault w.tokens w'.tokens before after

lemma marketGrid_pays {q : MarketGrid.State.Querier} {env : Env} {st st' : MarketGrid.State.Storage}
    {r : Response MarketGrid.State.WasmMsg} {payments : List Payment} (hreach : MarketGrid.Runs.Reachable st)
    (known : w.contracts env.contract = some (.marketGrid st)) (reads : MarketGridReads w env.contract q)
    (h : MarketGrid.Vault.execute q env st ⟨self, []⟩ (.redeemShares botId (some treasury)) = .ok (st', r))
    (listed : r.messages.mapM marketGridPayment = some payments)
    (paid : payAll env.contract w.tokens payments = .ok tokens) :
    Pays self treasury env.contract botId w { w.put env.contract (.marketGrid st') with tokens } := by
  have hkeeps := (MarketGrid.Runs.execute_keeps h).assetTokens
  have hrecipient : q.addrValidate treasury = .ok treasury := by
    simp only [MarketGrid.Vault.execute, MarketGrid.Vault.executeRedeemShares, bind_eq_ok, Option.getD_some,
      liftStd_eq_ok] at h
    obtain ⟨_, -, _, -, _, -, _, -, _, -, _, -, _, -, target, htarget, -⟩ := h
    rw [htarget, reads.addr _ _ htarget]
  have hheld : MarketGrid.Planning.balances q env.contract st.config =
      (.ok (w.held st.config.assetTokens env.contract) : MarketGrid.Vault.Result _) :=
    MarketGrid.FeeRedemption.balances_eq_ok.mpr ⟨reads.balance _, reads.balance _⟩
  obtain ⟨⟨amounts, hmessages, hslices⟩, hburned, hothers⟩ :=
    MarketGrid.FeeRedemption.executeRedeemShares_redeemed hrecipient hheld h
  rw [hmessages, marketGrid_payments] at listed
  obtain rfl := Option.some.inj listed
  have hdistinct := hreach.valid.tokens
  refine ⟨_, _, poolAt_marketGrid known botId, poolAt_marketGrid (paid_self w _ _ tokens) botId, ?_⟩
  refine redeemed_of_slices hdistinct paid hslices ?_ hburned hkeeps ?_
  · simp only [marketGridPool, hothers, if_true]
    rfl
  · intro i
    simp only [marketGridPool, hkeeps]
    exact kept_of_paid hdistinct paid i

lemma limitGrid_pays {q : LimitGrid.State.Querier} {env : Env} {st st' : LimitGrid.State.Storage}
    {r : Response LimitGrid.State.CosmosMsg} {payments : List Payment} (hsound : DistinctTokens st)
    (known : w.contracts env.contract = some (.limitGrid st)) (addr : ∀ s a, q.addrValidate s = .ok a → a = s)
    (h : LimitGrid.Vault.execute q env st ⟨self, []⟩ (.redeemShares botId (some treasury)) = .ok (st', r))
    (listed : r.messages.mapM limitGridPayment = some payments)
    (paid : payAll env.contract w.tokens payments = .ok tokens) :
    Pays self treasury env.contract botId w { w.put env.contract (.limitGrid st') with tokens } := by
  simp only [LimitGrid.Vault.execute, LimitGrid.Vault.executeRedeemShares, LimitGrid.Vault.redeem, bind_eq_ok,
    LimitGrid.State.loadBot_eq_ok, liftStd_eq_ok, Option.getD_some, multiplyRatio_eq_ok, checkedSub_eq_ok,
    Except.ok.injEq, Prod.mk.injEq] at h
  obtain ⟨_, -, _, -, _, -, bot, ⟨rfl, hbot⟩, _, -, _, -, amount0, ⟨-, hamount0⟩, amount1, ⟨-, hamount1⟩, payee,
    hpayee, free0, ⟨hle0, hfree0⟩, free1, ⟨hle1, hfree1⟩, supply, ⟨hle, hsupply⟩, rest, ⟨-, hrest⟩, rfl, rfl⟩ := h
  obtain rfl := addr _ _ hpayee
  rw [limitGrid_payments] at listed
  obtain rfl := Option.some.inj listed
  have hdistinct := hsound bot hbot
  refine ⟨_, _, poolAt_limitGrid known hbot, poolAt_limitGrid (paid_self w _ _ tokens) rfl, ?_⟩
  refine redeemed_of_slices hdistinct paid ?_ ?_ ?_ rfl ?_
  · exact Fin.forall_fin_two.mpr ⟨hamount0, hamount1⟩
  · simp [limitGridPool, LimitGrid.State.sharesOf, hrest]
  · simp only [limitGridPool]
    omega
  · refine Fin.forall_fin_two.mpr ⟨?_, ?_⟩
    · simp only [limitGridPool, Matrix.cons_val_zero]
      omega
    · simp only [limitGridPool, Matrix.cons_val_one, Matrix.cons_val_fin_one]
      omega

open Rebalancer.Binding

def transferPayment (transfer : Rebalancer.State.AuthorizedTransfer) : Payment :=
  ⟨transfer.token, transfer.recipient, transfer.amount⟩

lemma settles_pays {liquidity : Addr} {config : LiquidityConfig} {st : Rebalancer.State.Storage} {lp : Shares L}
    {all transfers : List Rebalancer.State.AuthorizedTransfer}
    (h : Settles liquidity w (transferMessages config transfers) w')
    (known : w.contracts config.vault = some (.botVault st)) (asker : w.contracts liquidity = some (.botLiquidity lp))
    (waits : transfers = [] ∨ lp.pending = some (.authorizedTransfers all transfers.length)) :
    ∃ tokens lp', payAll config.vault w.tokens (transfers.map transferPayment) = .ok tokens ∧
      w' = { w.put liquidity (.botLiquidity lp') with tokens } ∧ lp'.token = lp.token ∧ SameVault lp lp' := by
  induction transfers generalizing w lp with
  | nil =>
    generalize hms : transferMessages config [] = ms at h
    cases h with
    | done => exact ⟨_, lp, rfl, (put_same asker).symm, rfl, rfl, rfl⟩
    | transferred => cases hms
  | cons t ts ih =>
    generalize hms : transferMessages config (t :: ts) = ms at h
    cases h with
    | done => cases hms
    | @transferred _ v message id ms q env st₁ st₂ r payments tokens w₁ lq lenv shares shares' lr w' here known' reads
        hexec listed paid moved asker' replied rest =>
      simp only [transferMessages, List.map_cons, SubMsg.replyOnSuccess, vaultTransfer, List.cons.injEq,
        SubMsg.mk.injEq, Rebalancer.State.WasmMsg.vault.injEq, and_true] at hms
      obtain ⟨⟨rfl, rfl, rfl⟩, rfl⟩ := hms
      obtain rfl := Contract.botVault.inj (Option.some.inj (known.symm.trans known'))
      obtain ⟨token, recipient, _, htoken, hrecipient, -, -, -, -, rfl, hmessages⟩ := executeTransfer_spec hexec
      obtain rfl := reads.addr _ _ htoken
      obtain rfl := reads.addr _ _ hrecipient
      rw [hmessages] at listed
      obtain rfl : payments = [transferPayment t] := (Option.some.inj listed).symm
      rw [put_same known] at moved
      obtain rfl := moved
      obtain rfl := Contract.botLiquidity.inj (Option.some.inj (asker.symm.trans asker'))
      have hwaits := waits.resolve_left (List.cons_ne_nil t ts)
      obtain ⟨hsilent, rfl⟩ := transfer_counted hwaits replied
      have hne : config.vault ≠ liquidity := by
        rintro rfl
        cases known.symm.trans asker
      rw [hsilent, List.nil_append] at rest
      obtain ⟨tokens', lp', hpaid, rfl, htoken', hsame⟩ := ih rest ((put_other hne ..).trans known) (put_self ..) (by
        by_cases hts : ts.length = 0
        · exact .inl (List.length_eq_zero_iff.mp hts)
        · exact .inr (if_neg hts))
      refine ⟨tokens', lp', ?_, ?_, htoken', hsame⟩
      · simp only [payAll, foldChecked, bind_eq_ok, Except.ok.injEq, exists_eq_right] at paid
        simp only [payAll, List.map_cons, foldChecked, bind_eq_ok]
        exact ⟨tokens, paid, hpaid⟩
      · rw [put_put]
        rfl

lemma burnShares_burns [LawfulToken L] [BurnsExactly L] {env : Env} {token token' : L} {info : MessageInfo}
    {amount : Uint128} (h : burnShares env token info amount = .ok token') :
    (Token.totalSupply token').val + amount.val = (Token.totalSupply token).val ∧
      (Token.balance token' info.sender).val + amount.val = (Token.balance token info.sender).val := by
  obtain ⟨answer, hburn⟩ := burnShares_eq_ok.mp h
  exact ⟨LawfulToken.supply hburn, BurnsExactly.burns hburn⟩

lemma transfers_payments (assetTokens : Fin 2 → Addr) (recipient : Addr) (claims : Fin 2 → Uint128) :
    (([0, 1] : List (Fin 2)).filterMap fun i => if isZero (claims i) then none
      else some (⟨assetTokens i, claims i, recipient⟩ : Rebalancer.State.AuthorizedTransfer)).map transferPayment =
      bothPayments assetTokens recipient claims := by
  rw [bothPayments, List.map_filterMap]
  refine List.filterMap_congr fun i _ => ?_
  split <;> rfl

lemma botVault_pays [LawfulToken L] [BurnsExactly L] {q : VaultQuerier} {env : Env} {st : Rebalancer.State.Storage}
    {lp lp' : Shares L} {r : Response Rebalancer.State.WasmMsg} {amount : Uint128} {deadline : ℕ}
    {minAssets : Fin 2 → Uint128} (distinct : st.config.assetTokens 0 ≠ st.config.assetTokens 1)
    (known : w.contracts lp.config.vault = some (.botVault st))
    (bound : st.config.liquidityContract = some env.contract)
    (asker : w.contracts env.contract = some (.botLiquidity lp))
    (htokens : lp.config.assetTokens = st.config.assetTokens) (reads : BotLiquidityReads w q)
    (all : amount = Token.balance lp.token self)
    (h : Rebalancer.Liquidity.execute q env lp ⟨self, []⟩
      (.withdraw amount (some treasury) deadline (.proRata minAssets)) = .ok (lp', r))
    (settled : Settles env.contract (w.put env.contract (.botLiquidity lp')) r.messages w') :
    Pays self treasury lp.config.vault botId w w' ∧ ∃ tokens lp₂,
      w' = { w.put env.contract (.botLiquidity lp₂) with tokens } ∧ SameVault lp lp₂ := by
  simp only [Rebalancer.Liquidity.execute, executeWithdraw, bind_eq_ok, liftStd_eq_ok,
    SwapVault.Pricing.checkedRatio_eq_ok, Option.getD_some] at h
  obtain ⟨_, -, _, -, _, -, _, -, balances, hbalances, claim0, ⟨-, h0⟩, claim1, ⟨-, h1⟩, payee, hpayee, h⟩ := h
  obtain rfl := reads.addr _ _ hpayee
  obtain ⟨st₀, hst₀, rfl⟩ := reads.vaultBalances _ _ hbalances
  obtain rfl := Contract.botVault.inj (Option.some.inj (known.symm.trans hst₀))
  obtain ⟨transfers, htransfers, -, hpending, hconfig, hburn, hmessages⟩ := executeProRata_spec h
  rw [hmessages] at settled
  have hne : lp.config.vault ≠ env.contract := by
    intro heq
    rw [heq] at known
    cases known.symm.trans asker
  obtain ⟨tokens, lp₂, hpaid, rfl, htoken, hsame⟩ :=
    settles_pays settled ((put_other hne ..).trans known) (put_self ..) (.inr hpending)
  obtain ⟨hsupply, hheld⟩ := burnShares_burns hburn
  rw [htransfers, transfers_payments, htokens] at hpaid
  rw [put_put]
  have hpool := poolAt_botVault (w := { w.put env.contract (.botLiquidity lp₂) with tokens })
    ((put_other hne w _).trans known) bound (paid_self w _ _ tokens) botId
  refine ⟨⟨_, _, poolAt_botVault known bound asker botId, hpool, redeemed_of_slices distinct hpaid ?_ ?_ ?_ rfl ?_⟩,
    tokens, lp₂, rfl, ?_⟩
  · rw [all] at h0 h1
    exact Fin.forall_fin_two.mpr ⟨h0, h1⟩
  · simp only [botVaultPool, htoken]
    rw [all] at hheld
    dsimp only at hheld
    omega
  · simp only [botVaultPool, htoken, ← all]
    exact hsupply
  · intro i
    exact kept_of_paid distinct hpaid i
  · exact ⟨hsame.1.trans (by rw [hconfig]), hsame.2.trans (by rw [hconfig])⟩

end Redemptions

section Accounts

variable {self : Addr} {w w' : Network L} {vault : Addr} {botId : ℕ}

lemma pool_shares {holder : Addr} {pool : Pool} {shares : Uint128} (hpool : poolAt w vault botId = some pool)
    (hshares : w.sharesAt vault botId holder = .ok shares) : pool.shares holder = shares.val := by
  simp only [poolAt] at hpool
  simp only [Network.sharesAt] at hshares
  cases hc : w.contracts vault with
  | none =>
    rw [hc] at hpool
    cases hpool
  | some contract =>
    rw [hc] at hpool hshares
    cases contract with
    | marketGrid st =>
      cases hpool
      cases hshares
      rfl
    | limitGrid st =>
      dsimp only at hpool hshares
      split at hpool
      · rename_i hid
        obtain ⟨bot, -, rfl⟩ := Option.map_eq_some_iff.mp hpool
        rw [if_pos hid] at hshares
        cases hshares
        rfl
      · cases hpool
    | botVault st =>
      dsimp only at hpool hshares
      cases hl : st.config.liquidityContract with
      | none =>
        rw [hl] at hpool
        cases hpool
      | some liquidity =>
        rw [hl] at hpool hshares
        dsimp only [Option.bind_some] at hpool hshares
        split at hpool
        · rename_i lp hlp
          rw [hlp] at hshares
          cases hpool
          cases hshares
          rfl
        · cases hpool
    | botLiquidity st => cases hpool

def Touched (w w' : Network L) : Prop :=
  ∃ addr contract tokens, w' = { w.put addr contract with tokens } ∧ Succeeds w addr contract ∧ Sound w addr contract

omit [Token L] in
lemma Touched.collector (h : Touched w w') : w'.collector = w.collector := by
  obtain ⟨addr, contract, tokens, rfl, -, -⟩ := h
  rfl

omit [Token L] in
lemma Touched.sound (h : Touched w w') (hsound : AllSound w) : AllSound w' := by
  obtain ⟨addr, contract, tokens, rfl, hsucceeds, hnew⟩ := h
  exact hsound.put hsucceeds hnew

lemma redeemShares_pays {treasury : Addr} (hsound : AllSound w)
    (h : Delivered self w (.redeemShares vault botId treasury) w') :
    Pays self treasury vault botId w w' ∧ Touched w w' := by
  cases h with
  | marketGrid known reads hexec listed paid =>
    exact ⟨marketGrid_pays (hsound _ _ known) known reads hexec listed paid, _, _, _, rfl,
      acts_sound hsound known (.marketGridExecuted hexec)⟩
  | limitGrid known addr hexec listed paid =>
    exact ⟨limitGrid_pays (hsound _ _ known) known addr hexec listed paid, _, _, _, rfl,
      acts_sound hsound known (.limitGridExecuted hexec)⟩

lemma withdraw_pays [LawfulToken L] [BurnsExactly L] {treasury liquidity : Addr} {shares : Uint128} {now : ℕ}
    (hsound : AllSound w) (bound : w.liquidityContractAt vault = .ok (some liquidity))
    (hshares : w.sharesAt vault botId self = .ok shares)
    (h : Delivered self w (.withdraw liquidity shares (some treasury) now 0) w') :
    Pays self treasury vault botId w w' ∧ Touched w w' := by
  obtain ⟨st, hst, hl⟩ : ∃ st, w.contracts vault = some (.botVault st) ∧
      st.config.liquidityContract = some liquidity := by
    simp only [Network.liquidityContractAt] at bound
    split at bound
    · exact ⟨_, ‹_›, Except.ok.inj bound⟩
    · cases bound
    · cases bound
    · cases Except.ok.inj bound
  obtain ⟨hreach, hbound⟩ := hsound vault _ hst
  obtain ⟨lp₀, hlp₀, rfl, htokens⟩ := hbound liquidity hl
  cases h with
  | @botLiquidity q env lp lp' r amount recipient deadline minAssets w' known reads hexec settled =>
    obtain rfl := Contract.botLiquidity.inj (Option.some.inj (hlp₀.symm.trans known))
    have hall : shares = Token.balance lp₀.token self := by
      simp only [Network.sharesAt, hst, hl, hlp₀, Except.ok.injEq] at hshares
      exact hshares.symm
    obtain ⟨hpays, tokens, lp₂, rfl, hsame⟩ := @botVault_pays _ _ _ _ _ _ botId _ _ q env st lp₀ lp' r shares now 0
      hreach.valid.tokens hst hl hlp₀ htokens reads hall hexec settled
    refine ⟨hpays, _, _, tokens, rfl, fun lp hlp => ?_, trivial⟩
    obtain rfl := Contract.botLiquidity.inj (Option.some.inj (hlp₀.symm.trans hlp))
    exact ⟨lp₂, rfl, hsame⟩

def supplyAt (w : Network L) (vault : Addr) (botId : ℕ) : ℕ := ((poolAt w vault botId).map Pool.supply).getD 0

def burned (c : Collection L) : ℕ :=
  supplyAt c.before c.vault c.botId - supplyAt c.after c.vault c.botId

def recorded (w : Network L) (vault : Addr) (botId : ℕ) : ℕ := ((w.collector.vaultShares vault botId).getD 0).val

lemma burned_eq {c : Collection L} {tokens tokens' : Addr → Ledger} {treasury : Addr} {before after : Pool}
    (hbefore : poolAt c.before c.vault c.botId = some before) (hafter : poolAt c.after c.vault c.botId = some after)
    (h : Redeemed self treasury c.vault tokens tokens' before after) : burned c = before.shares self := by
  have hburned := h.burned
  simp only [burned, supplyAt, hbefore, hafter, Option.map_some, Option.getD_some]
  omega

lemma collects_pays [LawfulToken L] [BurnsExactly L] {c : Collection L} (hsound : AllSound c.before)
    (h : Collects self c) :
    Pays self c.before.collector.config.treasury c.vault c.botId c.before c.after ∧ AllSound c.after ∧
      ∀ v b, recorded c.after v b = recorded c.before v b + if c.vault = v ∧ c.botId = b then burned c else 0 := by
  obtain ⟨addrValidate, env, info, collector, r, m, haddr, hself, hcollect, hmessages, hdelivered⟩ := h
  obtain ⟨-, vaultAddr, shares, collected, liquidity, hvault, hshares, -, hcollected, hliquidity, rfl, rfl⟩ :=
    Collector.executeCollect_eq_ok.mp hcollect
  obtain rfl := haddr _ _ hvault
  obtain rfl : m = _ := (SubMsg.mk.inj (List.cons.inj hmessages).1).2.1.symm
  have hreported : c.before.sharesAt c.vault c.botId self = .ok shares := by
    simp only [Network.answers, bind_eq_ok] at hshares
    obtain ⟨holder, hholder, hshares⟩ := hshares
    obtain rfl := haddr _ _ hholder
    rwa [hself] at hshares
  let mid : Network L := { c.before with collector := c.before.collector.record c.vault c.botId collected }
  have hpays : Pays self c.before.collector.config.treasury c.vault c.botId mid c.after ∧ Touched mid c.after := by
    cases liquidity with
    | none => exact redeemShares_pays (w := mid) hsound hdelivered
    | some liquidity => exact withdraw_pays (w := mid) hsound hliquidity hreported hdelivered
  obtain ⟨hpays, htouched⟩ := hpays
  refine ⟨hpays, htouched.sound hsound, fun v b => ?_⟩
  obtain ⟨before, after, hbefore, hafter, hredeemed⟩ := hpays
  rw [burned_eq hbefore hafter hredeemed, pool_shares hbefore hreported]
  simp only [recorded, htouched.collector]
  simp only [mid, Collector.Storage.record]
  by_cases hv : v = c.vault ∧ b = c.botId
  · obtain ⟨rfl, rfl⟩ := hv
    simp only [and_self, if_true, Option.getD_some]
    exact hcollected
  · have hv' : ¬ (c.vault = v ∧ c.botId = b) := fun h => hv ⟨h.1.symm, h.2.symm⟩
    simp only [hv, hv', if_false, Nat.add_zero]

def collectionsOf (log : List (Collection L)) (vault : Addr) (botId : ℕ) : List (Collection L) :=
  log.filter fun c => c.vault = vault ∧ c.botId = botId

lemma run_ledger [LawfulToken L] [BurnsExactly L] {log : List (Collection L)} (h : Run self log w) :
    AllSound w ∧ (∀ v b, recorded w v b = ((collectionsOf log v b).map burned).sum) ∧
      ∀ c ∈ log, Pays self c.before.collector.config.treasury c.vault c.botId c.before c.after := by
  induction h with
  | started h =>
    simp only [Collector.instantiate, bind_eq_ok, Except.ok.injEq, Prod.mk.injEq] at h
    obtain ⟨_, -, _, -, _, -, _, -, rfl, -⟩ := h
    exact ⟨by simp [AllSound], fun v b => rfl, by simp⟩
  | created before fresh h ih =>
    refine ⟨ih.1.put ?_ (created_sound h _ _), ih.2⟩
    intro lp hlp
    cases fresh.symm.trans hlp
  | acted before known h ih =>
    obtain ⟨hsucceeds, hsound⟩ := acts_sound ih.1 known h
    exact ⟨ih.1.put hsucceeds hsound, ih.2⟩
  | drifted tokens before ih => exact ih
  | configured before h ih =>
    refine ⟨ih.1, fun v b => ?_, ih.2.2⟩
    rw [← ih.2.1 v b]
    simp only [Collector.execute, Collector.executeUpdateConfig, bind_eq_ok, Except.ok.injEq, Prod.mk.injEq] at h
    obtain ⟨_, -, _, -, _, -, _, -, _, -, rfl, -⟩ := h
    rfl
  | @collected log w w' vault botId before h ih =>
    obtain ⟨hsound, hrecorded, hpaid⟩ := ih
    obtain ⟨hpays, hsound', hrecords⟩ := collects_pays hsound h
    refine ⟨hsound', fun v b => ?_, fun c hc => ?_⟩
    · rw [collectionsOf, List.filter_append, List.map_append, List.sum_append, ← collectionsOf, ← hrecorded v b]
      refine (hrecords v b).trans (congrArg _ ?_)
      by_cases hv : vault = v ∧ botId = b
      · simp [hv]
      · simp [hv]
    · rcases List.mem_append.mp hc with hold | hnew
      · exact hpaid c hold
      · obtain rfl := List.mem_singleton.mp hnew
        exact hpays

/-- What the collector has recorded of a vault is what its collections burned there; each of them emptied its account,
paid the treasury its slices and left every other share with no less behind it. -/
theorem collect_ledger (L : Type) [Token L] [LawfulToken L] [BurnsExactly L] {self : Addr}
    {log : List (Collection L)} {w : Network L} (h : Run self log w) :
    (∀ vault botId, ((w.collector.vaultShares vault botId).getD 0).val =
      ((collectionsOf log vault botId).map burned).sum) ∧
    ∀ c ∈ log, ∃ before after, poolAt c.before c.vault c.botId = some before ∧
      poolAt c.after c.vault c.botId = some after ∧ burned c = before.shares self ∧
      Redeemed self c.before.collector.config.treasury c.vault c.before.tokens c.after.tokens before after := by
  obtain ⟨-, hrecorded, hpaid⟩ := run_ledger h
  refine ⟨hrecorded, fun c hc => ?_⟩
  obtain ⟨before, after, hbefore, hafter, hredeemed⟩ := hpaid c hc
  exact ⟨before, after, hbefore, hafter, burned_eq hbefore hafter hredeemed, hredeemed⟩

end Accounts

/-! The fee shares of a vault of each kind, collected once. -/

section Traded

open MarketGrid.Runs MarketGrid.FeeRedemption

instance : BurnsExactly Ledger where
  burns {env l l' info amount r} h := by
    obtain ⟨hook, h⟩ := Ledger.token_execute h
    simp only [Ledger.execute, bind_eq_ok, Except.ok.injEq, Prod.mk.injEq] at h
    obtain ⟨_, hdebit, rfl, -⟩ := h
    have hheld := (Ledger.debit_ok hdebit).2.2 info.sender
    rwa [if_pos rfl] at hheld

def holding (amount : Uint128) : Ledger where
  balances := (∅ : Std.ExtTreeMap Addr Uint128).insert "vault" amount
  supply := amount
  allowances _ _ := 0
  minter := "issuer"
  conserved := by
    have htotal := Foundation.StorageMap.total_insert (∅ : Std.ExtTreeMap Addr Uint128) Uint.val "vault" amount
    simpa [Foundation.StorageMap.weight] using htotal

lemma holding_held (amount : Uint128) : (holding amount).held "vault" = amount := by
  simp [holding, Ledger.held]

def tradedTokens (token : Addr) : Ledger :=
  if token = "token0" then holding (u128 750000) else holding (u128 375000)

lemma tradedTokens_read {w : Network Ledger} (h : w.tokens = tradedTokens) : MarketGridReads w "vault" afterTrade where
  addr s a h := (Except.ok.inj h).symm
  balance token := by
    rw [h]
    by_cases htoken : token = "token0"
    · simp [afterTrade, tradingChain, fixedChain, tradedTokens, htoken, holding_held]
    · simp [afterTrade, tradingChain, fixedChain, tradedTokens, htoken, holding_held]

lemma play_run {log : List (Collection Ledger)} {w : Network Ledger} {self vault : Addr}
    {st st' : MarketGrid.State.Storage} {calls : List Call} (before : Run self log w)
    (known : w.contracts vault = some (.marketGrid st)) (h : play st calls = .ok st') :
    Run self log (w.put vault (.marketGrid st')) := by
  induction calls generalizing st w with
  | nil =>
    cases h
    rwa [put_same known]
  | cons call calls ih =>
    simp only [play, bind_eq_ok, Prod.exists] at h
    obtain ⟨st₁, r, hrun, hrest⟩ := h
    have hstep : Run self log (w.put vault (.marketGrid st₁)) := by
      cases call with
      | executed q env info msg => exact before.acted known (.marketGridExecuted hrun)
      | replied q env id => exact before.acted known (.marketGridReplied hrun)
    have hrest' := ih hstep (put_self ..) hrest
    rwa [put_put] at hrest'

def startedNetwork : Network Ledger := ⟨freshCollector, fun _ => none, tradedTokens⟩

lemma started_run : Run "collector" [] startedNetwork :=
  @Run.started Ledger _ "collector" ⟨.ok, fun _ _ _ => .ok 0, fun _ => .ok none⟩ ⟨"creator", []⟩
    ⟨"governance", "registry", "keeper", "treasury"⟩ _ _ _ rfl

def collecting (w : Network Ledger) (vault : Addr) (shares : Uint128) : Network Ledger :=
  { w with collector := freshCollector.record vault 1 shares }

/-- The keeper's message, of which everything else is the redemption that it leads to. -/
lemma collected_once {w w' : Network Ledger} {vault : Addr} {shares : Uint128} {liquidity : Option String}
    (before : Run "collector" [] w) (fresh : w.collector = freshCollector)
    (reported : w.sharesAt vault 1 "collector" = .ok shares) (pos : shares.val ≠ 0)
    (asks : w.liquidityContractAt vault = .ok liquidity)
    (delivered : Delivered "collector" (collecting w vault shares)
      (Collector.redemption vault 1 shares "treasury" 0 liquidity) w') :
    Run "collector" [⟨vault, 1, w, w'⟩] w' := by
  refine before.collected vault 1 ⟨.ok, ⟨0, 0, "collector"⟩, ⟨"keeper", []⟩, _, _, _,
    fun s a h => (Except.ok.inj h).symm, rfl, Collector.executeCollect_eq_ok.mpr ⟨?_, vault, shares, shares, liquidity,
      rfl, reported, isZero_eq_false.mpr pos, ?_, asks, rfl, rfl⟩, rfl, ?_⟩
  · rw [fresh]
    rfl
  · rw [fresh]
    exact (Nat.zero_add _).symm
  · rw [fresh]
    exact delivered

lemma marketGrid_collected : ∃ (st : _) (w w' : Network Ledger), w.contracts "vault" = some (.marketGrid st) ∧
    w.sharesAt "vault" 1 "collector" = .ok (u128 4520) ∧ Run "collector" [⟨"vault", 1, w, w'⟩] w' := by
  have hruns : okAnd (charged []) (fun st => okAnd (MarketGrid.Vault.execute afterTrade vaultEnv st ⟨"collector", []⟩
      (.redeemShares 1 (some "treasury"))) fun redeemed =>
        (redeemed.2.messages.mapM marketGridPayment).any fun payments =>
          okAnd (payAll "vault" tradedTokens payments) fun _ =>
          decide (MarketGrid.Vault.sharesOf st "collector" = u128 4520)) = true := by
    decide
  obtain ⟨st, hst, hredeems⟩ := okAnd_iff.mp hruns
  obtain ⟨⟨st', r⟩, hredeem, hpays⟩ := okAnd_iff.mp hredeems
  obtain ⟨payments, hlisted, hpaying⟩ := (Option.any_eq_true _ _).mp hpays
  obtain ⟨tokens, hpaid, hshares⟩ := okAnd_iff.mp hpaying
  simp only [charged, bind_eq_ok, Prod.exists] at hst
  obtain ⟨st₀, r₀, hfresh, hplay⟩ := hst
  have hcreated : Run "collector" [] (startedNetwork.put "vault" (.marketGrid st₀)) :=
    started_run.created rfl (.marketGrid hfresh)
  have hvault := play_run hcreated (put_self ..) hplay
  rw [put_put] at hvault
  let w := startedNetwork.put "vault" (.marketGrid st)
  have hknown : w.contracts "vault" = some (.marketGrid st) := put_self ..
  have hreported : w.sharesAt "vault" 1 "collector" = .ok (u128 4520) := by
    simp only [Network.sharesAt, hknown, of_decide_eq_true hshares]
  have hasks : w.liquidityContractAt "vault" = .ok none := by
    simp only [Network.liquidityContractAt, hknown]
  have hdelivered := @Delivered.marketGrid Ledger _ "collector" (collecting w "vault" (u128 4520)) afterTrade
    vaultEnv st st' r 1 "treasury" payments tokens hknown (tradedTokens_read rfl) hredeem hlisted hpaid
  exact ⟨st, w, _, hknown, hreported, collected_once hvault rfl hreported (by decide) hasks hdelivered⟩

lemma limitGrid_run {W : Type} {C : LimitGrid.Transactions.Chain W} {st : LimitGrid.State.Storage} {x : W}
    {log : List (Collection Ledger)} {w : Network Ledger} {self : Addr} (addr : Addr) (before : Run self log w)
    (free : w.contracts addr = none) (h : LimitGrid.Transactions.Reachable C st x) :
    Run self log (w.put addr (.limitGrid st)) := by
  have hacts : ∀ {st st'}, Run self log (w.put addr (.limitGrid st)) →
      Acts (w.put addr (.limitGrid st)) addr (.limitGrid st) (.limitGrid st') →
      Run self log (w.put addr (.limitGrid st')) := by
    intro st st' hrun hact
    have hnext := hrun.acted (put_self ..) hact
    rwa [put_put] at hnext
  refine h.invariant (I := fun st _ _ => Run self log (w.put addr (.limitGrid st)))
    (fun _ h => before.created free (.limitGrid h)) (fun h _ => h) (fun hrun h => hacts hrun (.limitGridExecuted h)) ?_
  intro st x m ms o st' x' new hrun hdeliver
  cases hdeliver with
  | sent silent ran => exact hrun
  | replied asked ran answer =>
    simp only [LimitGrid.Transactions.Chain.host, bind_eq_ok, Except.ok.injEq, Prod.exists, Prod.mk.injEq] at answer
    obtain ⟨_, response, hreply, rfl, -⟩ := answer
    exact hacts hrun (.limitGridReplied hreply)
  | caught asked failed answer =>
    simp only [LimitGrid.Transactions.Chain.host, bind_eq_ok, Except.ok.injEq, Prod.exists, Prod.mk.injEq] at answer
    obtain ⟨_, response, hreply, rfl, -⟩ := answer
    exact hacts hrun (.limitGridReplied hreply)

def soldOut : List LimitGrid.OrderBook.Event :=
  [.filled 0 .closed 0 ![0, 625000], .filled 1 .closed 0 ![0, 750000], .configured 10 true,
    .sent LimitGrid.OrderBook.keeper (.reconcile LimitGrid.State.BOT_ID [0, 1])]

def soldTokens (token : Addr) : Ledger := if token = "token0" then holding 0 else holding (u128 1375000)

lemma limitGrid_collected : ∃ (st : _) (w w' : Network Ledger), w.contracts "vault" = some (.limitGrid st) ∧
    w.sharesAt "vault" 1 "collector" = .ok (u128 10101) ∧ Run "collector" [⟨"vault", 1, w, w'⟩] w' := by
  have hruns : okAnd (LimitGrid.OrderBook.scenario soldOut) (fun x =>
      okAnd (LimitGrid.Vault.execute (LimitGrid.OrderBook.querier x.2) vaultEnv x.1 ⟨"collector", []⟩
        (.redeemShares 1 (some "treasury"))) fun redeemed =>
        (redeemed.2.messages.mapM limitGridPayment).any fun payments =>
          okAnd (payAll "vault" soldTokens payments) fun _ =>
          decide (LimitGrid.State.sharesOf x.1 "collector" = u128 10101)) = true := by
    decide
  obtain ⟨⟨st, x⟩, hst, hredeems⟩ := okAnd_iff.mp hruns
  obtain ⟨⟨st', r⟩, hredeem, hpays⟩ := okAnd_iff.mp hredeems
  obtain ⟨payments, hlisted, hpaying⟩ := (Option.any_eq_true _ _).mp hpays
  obtain ⟨tokens, hpaid, hshares⟩ := okAnd_iff.mp hpaying
  have hheld : LimitGrid.State.sharesOf st "collector" = u128 10101 := of_decide_eq_true hshares
  have hvault := limitGrid_run "vault" (started_run.drifted soldTokens) rfl
    (LimitGrid.OrderBook.scenario_reachable hst)
  let w : Network Ledger := { startedNetwork with tokens := soldTokens }
  have hknown : (w.put "vault" (.limitGrid st)).contracts "vault" = some (.limitGrid st) := put_self ..
  have hreported : (w.put "vault" (.limitGrid st)).sharesAt "vault" 1 "collector" = .ok (u128 10101) := by
    simp only [Network.sharesAt, hknown, LimitGrid.State.BOT_ID, if_true, hheld]
  have hasks : (w.put "vault" (.limitGrid st)).liquidityContractAt "vault" = .ok none := by
    simp only [Network.liquidityContractAt, hknown]
  have hdelivered := @Delivered.limitGrid Ledger _ "collector" (collecting (w.put "vault" (.limitGrid st)) "vault"
    (u128 10101)) (LimitGrid.OrderBook.querier x) vaultEnv st st' r 1 "treasury" payments tokens hknown
    (fun s a h => (Except.ok.inj h).symm) hredeem hlisted hpaid
  exact ⟨st, _, _, hknown, hreported, collected_once hvault rfl hreported (by decide) hasks hdelivered⟩

section Bot

open Rebalancer.State (AuthorizedTransfer)

def lpEnv : Env := ⟨0, 0, "liquidity"⟩

def lpQuerier (lp : Shares Ledger) : Rebalancer.State.Querier :=
  { Rebalancer.Runs.fixedChain 0 .one 0 with
    codeId := fun addr => .ok (if addr = "liquidity" then 8 else 7)
    liquidityConfig := fun addr =>
      if addr = "liquidity" then .ok (configResponse lp) else .error (.notFound "liquidity contract")
    authorization := fun addr =>
      if addr = "liquidity" then .ok (liquidityAuthorization lp) else .error (.notFound "liquidity contract") }

def vaultReader (amount : Uint128) : VaultQuerier where
  addrValidate := .ok
  vaultConfig _ := .ok ⟨![ "token0", "token1"], 6, 100⟩
  vaultBalances vault := if vault = "vault" then .ok fun _ => amount else .error (.notFound "vault")
  vaultPrice _ := .ok .one
  rebalanceStatus _ := .ok ⟨false, 0, 0, .one, .one⟩
  balance _ _ := .ok amount

def botNetwork (collector : Collector.Storage) (st : Rebalancer.State.Storage) (lp : Shares Ledger)
    (tokens : Addr → Ledger) : Network Ledger :=
  ⟨collector, Function.update (Function.update (fun _ => none) "vault" (some (.botVault st))) "liquidity"
    (some (.botLiquidity lp)), tokens⟩

variable {collector : Collector.Storage} {st st' : Rebalancer.State.Storage} {lp lp' : Shares Ledger}
  {tokens : Addr → Ledger}

lemma botNetwork_vault : (botNetwork collector st lp tokens).contracts "vault" = some (.botVault st) := rfl

lemma botNetwork_liquidity : (botNetwork collector st lp tokens).contracts "liquidity" = some (.botLiquidity lp) := rfl

lemma botNetwork_put_vault :
    (botNetwork collector st lp tokens).put "vault" (.botVault st') = botNetwork collector st' lp tokens := by
  simp only [botNetwork, Network.put, Network.mk.injEq, true_and, and_true]
  rw [Function.update_comm (by decide), Function.update_idem]

lemma botNetwork_put_liquidity :
    (botNetwork collector st lp tokens).put "liquidity" (.botLiquidity lp') = botNetwork collector st lp' tokens := by
  simp only [botNetwork, Network.put, Function.update_idem]

lemma lpQuerier_reads (w : Network Ledger) (h : w.contracts "liquidity" = some (.botLiquidity lp)) :
    BotVaultReads w (lpQuerier lp) where
  addr s a h := (Except.ok.inj h).symm
  liquidityConfig a c hc := by
    simp only [lpQuerier] at hc
    split at hc
    · rename_i ha
      rw [ha]
      exact ⟨lp, h, (Except.ok.inj hc).symm⟩
    · cases hc
  authorization a c hc := by
    simp only [lpQuerier] at hc
    split at hc
    · rename_i ha
      rw [ha]
      exact ⟨lp, h, (Except.ok.inj hc).symm⟩
    · cases hc

lemma vault_acted {info : MessageInfo} {msg : Rebalancer.State.VaultExecuteMsg} {r : Response Rebalancer.State.WasmMsg}
    (before : Run "collector" [] (botNetwork collector st lp tokens))
    (h : Rebalancer.Vault.execute (lpQuerier lp) vaultEnv st info msg = .ok (st', r)) :
    Run "collector" [] (botNetwork collector st' lp tokens) := by
  have hnext := before.acted botNetwork_vault (.botVaultExecuted rfl (lpQuerier_reads _ botNetwork_liquidity) h)
  rwa [botNetwork_put_vault] at hnext

lemma lp_acted (before : Run "collector" [] (botNetwork collector st lp tokens))
    (h : Acts (botNetwork collector st lp tokens) "liquidity" (.botLiquidity lp) (.botLiquidity lp')) :
    Run "collector" [] (botNetwork collector st lp' tokens) := by
  have hnext := before.acted botNetwork_liquidity h
  rwa [botNetwork_put_liquidity] at hnext

def deposited : Uint128 := u128 10000

/-- A first deposit, and fee shares that the vault has minted to the collector afterwards. -/
def chargedBot : Except String (Rebalancer.State.Storage × Shares Ledger) := do
  let (st, _) ← withError "vault" (Rebalancer.Vault.instantiate (Rebalancer.Runs.fixedChain 0 .one 0) vaultEnv
    Rebalancer.Runs.fixedMsg)
  let (lp, _) ← withError "liquidity" (Rebalancer.Liquidity.instantiate (vaultReader 0) lpEnv
    ⟨"admin", "vault", "shares", "BOTLP", 6, u128 2000, none⟩)
  let (st, _) ← withError "bind" (Rebalancer.Vault.execute (lpQuerier lp) vaultEnv st ⟨"admin", []⟩
    (.setLiquidityContract "liquidity"))
  let (lp, _) ← withError "deposit" (Rebalancer.Liquidity.execute (vaultReader 0) lpEnv lp ⟨"alice", []⟩
    (.deposit (fun _ => deposited) 0 0 none))
  let (st, _) ← withError "finalize" (Rebalancer.Vault.execute (lpQuerier lp) vaultEnv st ⟨"liquidity", []⟩
    .finalizeLiquidityOperation)
  let (lp, _) ← withError "reply" (Rebalancer.Liquidity.reply (vaultReader deposited) lpEnv lp depositReplyId (.ok ()))
  let (lp, _) ← withError "fee" (Rebalancer.Liquidity.execute (vaultReader deposited) lpEnv lp ⟨"vault", []⟩
    (.mintTo "collector" (u128 100)))
  .ok (st, lp)

lemma chargedBot_run (tokens : Addr → Ledger) (h : chargedBot = .ok (st, lp)) :
    Run "collector" [] (botNetwork freshCollector st lp tokens) := by
  simp only [chargedBot, bind_eq_ok, withError_eq_ok, Except.ok.injEq, Prod.exists, Prod.mk.injEq] at h
  obtain ⟨st₀, _, hvault, lp₀, _, hliquidity, st₁, _, hbind, lp₁, _, hdeposit, st₂, _, hfinalize, lp₂, _, hreply, lp₃,
    _, hmint, rfl, rfl⟩ := h
  have hstart : Run "collector" [] (botNetwork freshCollector st₀ lp₀ tokens) :=
    ((started_run.drifted tokens).created rfl (.botVault hvault)).created rfl (.botLiquidity hliquidity)
  have hbound := vault_acted hstart hbind
  have hdeposited := lp_acted hbound (.botLiquidityExecuted hdeposit)
  have hfinalized := vault_acted hdeposited hfinalize
  have hreplied := lp_acted hfinalized (.botLiquidityReplied hreply)
  exact lp_acted hreplied (.botLiquidityExecuted hmint)

def paidSlice (token : Addr) (st : Rebalancer.State.Storage) (lp : Shares Ledger) (tokens : Addr → Ledger) :
    Except String (Rebalancer.State.Storage × Shares Ledger × (Addr → Ledger)) := do
  let (st, r) ← withError "transfer" (Rebalancer.Vault.execute (lpQuerier lp) vaultEnv st ⟨"liquidity", []⟩
    (.transferTo token (u128 49) "treasury"))
  let payments ← orError (r.messages.mapM botVaultPayment) "payments"
  let tokens ← payAll "vault" tokens payments
  let (lp, r) ← withError "reply" (Rebalancer.Liquidity.reply (vaultReader deposited) lpEnv lp transferReplyId (.ok ()))
  ensure (r.messages = []) "messages"
  .ok (st, lp, tokens)

lemma paidSlice_settles {token : Addr} {tokens' : Addr → Ledger} {ms : List (SubMsg Rebalancer.State.WasmMsg)}
    {w' : Network Ledger} (h : paidSlice token st lp tokens = .ok (st', lp', tokens'))
    (rest : Settles "liquidity" (botNetwork collector st' lp' tokens') ms w') :
    Settles "liquidity" (botNetwork collector st lp tokens)
      (.replyOnSuccess (.vault "vault" (.transferTo token (u128 49) "treasury")) transferReplyId :: ms) w' := by
  simp only [paidSlice, bind_eq_ok, withError_eq_ok, orError_eq_ok, ensure_eq_ok, decide_eq_true_eq, Except.ok.injEq,
    Prod.exists, Prod.mk.injEq] at h
  obtain ⟨st₁, r, htransfer, payments, hlisted, tokens₁, hpaid, lp₁, lr, hreply, _, hsilent, rfl, rfl, rfl⟩ := h
  have hmoved : botNetwork collector st₁ lp tokens₁ =
      { (botNetwork collector st lp tokens).put "vault" (.botVault st₁) with tokens := tokens₁ } := by
    rw [botNetwork_put_vault]
    rfl
  have hsettled : Settles "liquidity" ((botNetwork collector st₁ lp tokens₁).put "liquidity" (.botLiquidity lp₁))
      (lr.messages ++ ms) w' := by
    rw [botNetwork_put_liquidity, hsilent]
    exact rest
  exact .transferred rfl botNetwork_vault (lpQuerier_reads _ botNetwork_liquidity) htransfer hlisted hpaid hmoved
    botNetwork_liquidity hreply hsettled

def collectedBot (st : Rebalancer.State.Storage) (lp : Shares Ledger) (tokens : Addr → Ledger) :
    Except String (Shares Ledger × Rebalancer.State.Storage × Shares Ledger × (Addr → Ledger)) := do
  let (lp₁, r) ← withError "withdraw" (Rebalancer.Liquidity.execute (vaultReader deposited) lpEnv lp ⟨"collector", []⟩
    (.withdraw (u128 100) (some "treasury") 0 (.proRata 0)))
  ensure (r.messages = [.replyOnSuccess (.vault "vault" (.transferTo "token0" (u128 49) "treasury")) transferReplyId,
    .replyOnSuccess (.vault "vault" (.transferTo "token1" (u128 49) "treasury")) transferReplyId]) "messages"
  let (st₂, lp₂, tokens₂) ← paidSlice "token0" st lp₁ tokens
  let (st₃, lp₃, tokens₃) ← paidSlice "token1" st₂ lp₂ tokens₂
  .ok (lp₁, st₃, lp₃, tokens₃)

def depositedTokens (_ : Addr) : Ledger := holding deposited

lemma vaultReader_reads (w : Network Ledger) (known : w.contracts "vault" = some (.botVault st))
    (paid : w.tokens = depositedTokens) : BotLiquidityReads w (vaultReader deposited) where
  addr s a h := (Except.ok.inj h).symm
  vaultBalances vault balances h := by
    simp only [vaultReader] at h
    split at h
    · rename_i hv
      rw [hv]
      refine ⟨st, known, (Except.ok.inj h).symm.trans ?_⟩
      funext i
      simp only [Network.held, paid, depositedTokens, holding_held]
    · cases h

lemma collectedBot_delivered {tokens' : Addr → Ledger} {lp₁ : Shares Ledger}
    (h : collectedBot st lp depositedTokens = .ok (lp₁, st', lp', tokens')) :
    Delivered "collector" (botNetwork collector st lp depositedTokens)
      (.withdraw "liquidity" (u128 100) (some "treasury") 0 0) (botNetwork collector st' lp' tokens') := by
  simp only [collectedBot, bind_eq_ok, withError_eq_ok, ensure_eq_ok, decide_eq_true_eq, Except.ok.injEq, Prod.exists,
    Prod.mk.injEq] at h
  obtain ⟨lp₁, r, hwithdraw, _, hmessages, st₂, lp₂, tokens₂, hfirst, st₃, lp₃, tokens₃, hsecond,
    rfl, rfl, rfl, rfl⟩ := h
  have hsettled := @paidSlice_settles collector _ _ _ _ _ _ _ _ _ hfirst (paidSlice_settles hsecond .done)
  rw [← hmessages, ← botNetwork_put_liquidity] at hsettled
  exact @Delivered.botLiquidity Ledger _ "collector" _ _ lpEnv lp lp₁ r _ _ _ _ _ botNetwork_liquidity
    (vaultReader_reads _ botNetwork_vault rfl) hwithdraw hsettled

lemma botVault_collected : ∃ (st : _) (w w' : Network Ledger), w.contracts "vault" = some (.botVault st) ∧
    w.sharesAt "vault" 1 "collector" = .ok (u128 100) ∧ Run "collector" [⟨"vault", 1, w, w'⟩] w' := by
  have hruns : okAnd chargedBot (fun x => okAnd (collectedBot x.1 x.2 depositedTokens) fun _ => decide
      (x.1.config.liquidityContract = some "liquidity" ∧ Token.balance x.2.token "collector" = u128 100)) = true := by
    decide
  obtain ⟨⟨st, lp⟩, hcharged, hcollects⟩ := okAnd_iff.mp hruns
  obtain ⟨⟨lp₁, st', lp', tokens'⟩, hcollected, hchecked⟩ := okAnd_iff.mp hcollects
  obtain ⟨hbound, hheld⟩ := of_decide_eq_true hchecked
  have hvault := chargedBot_run depositedTokens hcharged
  have hreported : (botNetwork freshCollector st lp depositedTokens).sharesAt "vault" 1 "collector" =
      .ok (u128 100) := by
    simp only [Network.sharesAt, botNetwork_vault]
    rw [hbound]
    simp only [botNetwork_liquidity]
    exact congrArg _ hheld
  have hasks : (botNetwork freshCollector st lp depositedTokens).liquidityContractAt "vault" =
      .ok (some "liquidity") := by
    simp only [Network.liquidityContractAt, botNetwork_vault]
    exact congrArg _ hbound
  exact ⟨st, _, _, botNetwork_vault, hreported, collected_once hvault rfl hreported (by decide) hasks
    (collectedBot_delivered hcollected)⟩

end Bot

def CollectedOnce (c : Collection Ledger) (shares : ℕ) : Prop :=
  Run "collector" [c] c.after ∧ ((c.after.collector.vaultShares c.vault c.botId).getD 0).val = shares ∧
    ∃ before after, before.shares "collector" = shares ∧
      Redeemed "collector" c.before.collector.config.treasury c.vault c.before.tokens c.after.tokens before after

theorem traded_fees_collected :
    (∃ st c, c.before.contracts "vault" = some (.marketGrid st) ∧ CollectedOnce c 4520) ∧
    (∃ st c, c.before.contracts "vault" = some (.limitGrid st) ∧ CollectedOnce c 10101) ∧
    ∃ st c, c.before.contracts "vault" = some (.botVault st) ∧ CollectedOnce c 100 := by
  have hcollected : ∀ {w w' : Network Ledger} {shares : Uint128}, w.sharesAt "vault" 1 "collector" = .ok shares →
      Run "collector" [⟨"vault", 1, w, w'⟩] w' → CollectedOnce ⟨"vault", 1, w, w'⟩ shares.val := by
    intro w w' shares hreported hrun
    obtain ⟨hrecorded, hredeemed⟩ := collect_ledger Ledger hrun
    obtain ⟨before, after, hbefore, -, hburned, hpaid⟩ := hredeemed _ (List.mem_singleton_self _)
    have hshares := pool_shares hbefore hreported
    refine ⟨hrun, ?_, before, after, hshares, hpaid⟩
    rw [hrecorded]
    simpa [collectionsOf, hshares] using hburned
  obtain ⟨st₁, w₁, w₁', hknown₁, hreported₁, hrun₁⟩ := marketGrid_collected
  obtain ⟨st₂, w₂, w₂', hknown₂, hreported₂, hrun₂⟩ := limitGrid_collected
  obtain ⟨st₃, w₃, w₃', hknown₃, hreported₃, hrun₃⟩ := botVault_collected
  exact ⟨⟨st₁, _, hknown₁, hcollected hreported₁ hrun₁⟩, ⟨st₂, _, hknown₂, hcollected hreported₂ hrun₂⟩,
    st₃, _, hknown₃, hcollected hreported₃ hrun₃⟩

end Traded

end Cl8yDexBots.FeeSystem.CollectLedger
