import Cl8yDexBots.CosmWasm.TokenLedger
import Cl8yDexBots.FeeSystem.Collector
import Cl8yDexBots.LimitGrid.Resolutions
import Cl8yDexBots.MarketGrid.Runs
import Cl8yDexBots.Rebalancer.Liquidity
import Cl8yDexBots.Rebalancer.Runs

/-! The fee collector among the vaults it collects from, and the tokens they hold. -/

namespace Cl8yDexBots.FeeSystem.World

open Foundation.Checked Foundation.Words Foundation.SubMessages CosmWasm.Std CosmWasm.Cw20Base
open CosmWasm.TokenLedger Rebalancer.Liquidity

inductive Contract (L : Type) where
  | marketGrid (st : MarketGrid.State.Storage)
  | limitGrid (st : LimitGrid.State.Storage)
  | botVault (st : Rebalancer.State.Storage)
  | botLiquidity (st : Shares L)

structure Network (L : Type) where
  collector : Collector.Storage
  contracts : Addr → Option (Contract L)
  tokens : Addr → Ledger

variable {L : Type}

def Network.put (w : Network L) (addr : Addr) (contract : Contract L) : Network L :=
  { w with contracts := Function.update w.contracts addr (some contract) }

@[simp] lemma put_self (w : Network L) (addr : Addr) (contract : Contract L) :
    (w.put addr contract).contracts addr = some contract := Function.update_self ..

lemma put_other {place addr : Addr} (h : place ≠ addr) (w : Network L) (contract : Contract L) :
    (w.put addr contract).contracts place = w.contracts place := Function.update_of_ne h ..

lemma paid_self (w : Network L) (addr : Addr) (contract : Contract L) (tokens : Addr → Ledger) :
    ({ w.put addr contract with tokens } : Network L).contracts addr = some contract := put_self w addr contract

lemma put_same {w : Network L} {addr : Addr} {contract : Contract L} (h : w.contracts addr = some contract) :
    w.put addr contract = w := by
  rw [Network.put, ← h, Function.update_eq_self]

lemma put_put (w : Network L) (addr : Addr) (contract contract' : Contract L) :
    (w.put addr contract).put addr contract' = w.put addr contract' := by
  simp only [Network.put, Function.update_idem]

def Network.held (w : Network L) (assetTokens : Fin 2 → Addr) (account : Addr) : Fin 2 → Uint128 :=
  fun i => (w.tokens (assetTokens i)).held account

structure Payment where
  token : Addr
  recipient : Addr
  amount : Uint128

def pay (sender : Addr) (tokens : Addr → Ledger) (payment : Payment) : Except String (Addr → Ledger) := do
  let ledger ← (tokens payment.token).move sender payment.recipient payment.amount
  .ok (Function.update tokens payment.token ledger)

def payAll (sender : Addr) (tokens : Addr → Ledger) (payments : List Payment) : Except String (Addr → Ledger) :=
  foldChecked (pay sender) tokens payments

def bothPayments (assetTokens : Fin 2 → Addr) (recipient : Addr) (amounts : Fin 2 → Uint128) : List Payment :=
  ([0, 1] : List (Fin 2)).filterMap fun i =>
    if isZero (amounts i) then none else some ⟨assetTokens i, recipient, amounts i⟩

def marketGridPayment (m : SubMsg MarketGrid.State.WasmMsg) : Option Payment :=
  match m.msg with
  | ⟨token, .transfer recipient amount⟩ => some ⟨token, recipient, amount⟩
  | _ => none

def limitGridPayment (m : SubMsg LimitGrid.State.CosmosMsg) : Option Payment :=
  match m.msg with
  | .token token (.transfer recipient amount) => some ⟨token, recipient, amount⟩
  | _ => none

def botVaultPayment (m : SubMsg Rebalancer.State.WasmMsg) : Option Payment :=
  match m.msg with
  | .cw20 token (.transfer recipient amount) => some ⟨token, recipient, amount⟩
  | _ => none

structure MarketGridReads (w : Network L) (vault : Addr) (q : MarketGrid.State.Querier) : Prop where
  addr : ∀ s a, q.addrValidate s = .ok a → a = s
  balance : ∀ token, q.balance token vault = .ok ((w.tokens token).held vault)

structure BotVaultReads [Token L] (w : Network L) (q : Rebalancer.State.Querier) : Prop where
  addr : ∀ s a, q.addrValidate s = .ok a → a = s
  liquidityConfig : ∀ a c, q.liquidityConfig a = .ok c →
    ∃ st, w.contracts a = some (.botLiquidity st) ∧ c = configResponse st
  authorization : ∀ a c, q.authorization a = .ok c →
    ∃ st, w.contracts a = some (.botLiquidity st) ∧ c = liquidityAuthorization st

structure BotLiquidityReads (w : Network L) (q : VaultQuerier) : Prop where
  addr : ∀ s a, q.addrValidate s = .ok a → a = s
  vaultBalances : ∀ vault balances, q.vaultBalances vault = .ok balances →
    ∃ st, w.contracts vault = some (.botVault st) ∧ balances = w.held st.config.assetTokens vault

inductive Contract.Created [Token L] : Contract L → Prop
  | marketGrid {q info msg st r} (h : MarketGrid.Vault.instantiate q info msg = .ok (st, r)) :
      Contract.Created (.marketGrid st)
  | limitGrid {q info msg st r} (h : LimitGrid.Vault.instantiate q info msg = .ok (st, r)) :
      Contract.Created (.limitGrid st)
  | botVault {q env msg st r} (h : Rebalancer.Vault.instantiate q env msg = .ok (st, r)) :
      Contract.Created (.botVault st)
  | botLiquidity {q env msg st r} (h : Rebalancer.Liquidity.instantiate q env msg = .ok (st, r)) :
      Contract.Created (.botLiquidity st)

inductive Acts [Token L] (w : Network L) (addr : Addr) : Contract L → Contract L → Prop
  | marketGridExecuted {q env st info msg st' r} (h : MarketGrid.Vault.execute q env st info msg = .ok (st', r)) :
      Acts w addr (.marketGrid st) (.marketGrid st')
  | marketGridReplied {q env st id st' r} (h : MarketGrid.Vault.reply q env st id = .ok (st', r)) :
      Acts w addr (.marketGrid st) (.marketGrid st')
  | limitGridExecuted {q env st info msg st' r} (h : LimitGrid.Vault.execute q env st info msg = .ok (st', r)) :
      Acts w addr (.limitGrid st) (.limitGrid st')
  | limitGridReplied {q env st id result st' r} (h : LimitGrid.Orders.reply q env st id result = .ok (st', r)) :
      Acts w addr (.limitGrid st) (.limitGrid st')
  | botVaultExecuted {q env st info msg st' r} (here : env.contract = addr) (reads : BotVaultReads w q)
      (h : Rebalancer.Vault.execute q env st info msg = .ok (st', r)) : Acts w addr (.botVault st) (.botVault st')
  | botVaultReplied {q env st id st' r} (h : Rebalancer.Vault.reply q env st id = .ok (st', r)) :
      Acts w addr (.botVault st) (.botVault st')
  | botVaultMigrated {st codeId st' r} (h : Rebalancer.Vault.migrate st codeId = .ok (st', r)) :
      Acts w addr (.botVault st) (.botVault st')
  | botLiquidityExecuted {q env st info msg st' r}
      (h : Rebalancer.Liquidity.execute q env st info msg = .ok (st', r)) :
      Acts w addr (.botLiquidity st) (.botLiquidity st')
  | botLiquidityReplied {q env st id result st' r}
      (h : Rebalancer.Liquidity.reply q env st id result = .ok (st', r)) :
      Acts w addr (.botLiquidity st) (.botLiquidity st')
  | botLiquidityMigrated {st supported st' r} (h : Rebalancer.Liquidity.migrate st supported = .ok (st', r)) :
      Acts w addr (.botLiquidity st) (.botLiquidity st')

def Network.sharesAt [Token L] (w : Network L) (vault : Addr) (botId : ℕ) (holder : Addr) : Except StdError Uint128 :=
  match w.contracts vault with
  | some (.marketGrid st) => .ok (MarketGrid.Vault.sharesOf st holder)
  | some (.limitGrid st) =>
    .ok (if botId = LimitGrid.State.BOT_ID then LimitGrid.State.sharesOf st holder else 0)
  | some (.botVault st) =>
    match st.config.liquidityContract with
    | none => .ok 0
    | some liquidity =>
      match w.contracts liquidity with
      | some (.botLiquidity shares) => .ok (Token.balance shares.token holder)
      | _ => .error (.parseErr "BalanceResponse")
  | _ => .error (.parseErr "VaultQueryMsg")

def Network.liquidityContractAt (w : Network L) (vault : Addr) : Except StdError (Option String) :=
  match w.contracts vault with
  | some (.botVault st) => .ok st.config.liquidityContract
  | some (.botLiquidity _) | none => .error (.parseErr "VaultQueryMsg")
  | _ => .ok none

def Network.answers [Token L] (w : Network L) (addrValidate : String → Except StdError Addr) : Collector.Querier where
  addrValidate
  shares vault botId holder := do
    let holder ← addrValidate holder
    w.sharesAt vault botId holder
  liquidityContract := w.liquidityContractAt

inductive Settles [Token L] (liquidity : Addr) : Network L → List (SubMsg Rebalancer.State.WasmMsg) → Network L → Prop
  | done {w} : Settles liquidity w [] w
  | transferred {w vault transfer id ms q env st st' r payments tokens w₁ lq lenv shares shares' lr w'}
      (here : env.contract = vault) (known : w.contracts vault = some (.botVault st)) (reads : BotVaultReads w q)
      (h : Rebalancer.Vault.execute q env st ⟨liquidity, []⟩ transfer = .ok (st', r))
      (listed : r.messages.mapM botVaultPayment = some payments)
      (paid : payAll vault w.tokens payments = .ok tokens)
      (moved : w₁ = { w.put vault (.botVault st') with tokens })
      (asker : w₁.contracts liquidity = some (.botLiquidity shares))
      (replied : Rebalancer.Liquidity.reply lq lenv shares id (.ok ()) = .ok (shares', lr))
      (rest : Settles liquidity (w₁.put liquidity (.botLiquidity shares')) (lr.messages ++ ms) w') :
      Settles liquidity w (.replyOnSuccess (.vault vault transfer) id :: ms) w'

/-- What a redemption that the collector asks for does, where the tokens are honest. -/
inductive Delivered [Token L] (self : Addr) (w : Network L) : Collector.CosmosMsg → Network L → Prop
  | marketGrid {q env st st' r botId recipient payments tokens}
      (known : w.contracts env.contract = some (.marketGrid st)) (reads : MarketGridReads w env.contract q)
      (h : MarketGrid.Vault.execute q env st ⟨self, []⟩ (.redeemShares botId (some recipient)) = .ok (st', r))
      (listed : r.messages.mapM marketGridPayment = some payments)
      (paid : payAll env.contract w.tokens payments = .ok tokens) :
      Delivered self w (.redeemShares env.contract botId recipient)
        { w.put env.contract (.marketGrid st') with tokens }
  | limitGrid {q env st st' r botId recipient payments tokens}
      (known : w.contracts env.contract = some (.limitGrid st))
      (addr : ∀ s a, q.addrValidate s = .ok a → a = s)
      (h : LimitGrid.Vault.execute q env st ⟨self, []⟩ (.redeemShares botId (some recipient)) = .ok (st', r))
      (listed : r.messages.mapM limitGridPayment = some payments)
      (paid : payAll env.contract w.tokens payments = .ok tokens) :
      Delivered self w (.redeemShares env.contract botId recipient)
        { w.put env.contract (.limitGrid st') with tokens }
  | botLiquidity {q env shares shares' r amount recipient deadline minAssets w'}
      (known : w.contracts env.contract = some (.botLiquidity shares)) (reads : BotLiquidityReads w q)
      (h : Rebalancer.Liquidity.execute q env shares ⟨self, []⟩
        (.withdraw amount recipient deadline (.proRata minAssets)) = .ok (shares', r))
      (settled : Settles env.contract (w.put env.contract (.botLiquidity shares')) r.messages w') :
      Delivered self w (.withdraw env.contract amount recipient deadline minAssets) w'

structure Collection (L : Type) where
  vault : Addr
  botId : ℕ
  before : Network L
  after : Network L

def Collects [Token L] (self : Addr) (c : Collection L) : Prop :=
  ∃ addrValidate env info collector r m, (∀ s a, addrValidate s = .ok a → a = s) ∧ env.contract = self ∧
    Collector.execute (c.before.answers addrValidate) env c.before.collector info (.collect c.vault c.botId) =
      .ok (collector, r) ∧
    r.messages = [.plain m] ∧ Delivered self { c.before with collector } m c.after

/-- Collections, in any order with anything else that happens to the contracts and to the tokens. -/
inductive Run [Token L] (self : Addr) : List (Collection L) → Network L → Prop
  | started {q info msg collector r tokens} (h : Collector.instantiate q info msg = .ok (collector, r)) :
      Run self [] ⟨collector, fun _ => none, tokens⟩
  | created {log w addr contract} (before : Run self log w) (fresh : w.contracts addr = none)
      (h : contract.Created) : Run self log (w.put addr contract)
  | acted {log w addr contract contract'} (before : Run self log w) (known : w.contracts addr = some contract)
      (h : Acts w addr contract contract') : Run self log (w.put addr contract')
  | drifted {log w} (tokens : Addr → Ledger) (before : Run self log w) : Run self log { w with tokens }
  | configured {log w q env info governance registry keeper treasury collector r} (before : Run self log w)
      (h : Collector.execute q env w.collector info (.updateConfig governance registry keeper treasury) =
        .ok (collector, r)) : Run self log { w with collector }
  | collected {log w w'} (vault : Addr) (botId : ℕ) (before : Run self log w)
      (h : Collects self ⟨vault, botId, w, w'⟩) :
      Run self (log ++ [⟨vault, botId, w, w'⟩]) w'

end Cl8yDexBots.FeeSystem.World
