import Cl8yDexBots.CosmWasm.Std

/-! The fee collector: it redeems the shares that vaults minted to it, to the treasury. -/

namespace Cl8yDexBots.FeeSystem.Collector

open Foundation.Checked Foundation.Words Foundation.SubMessages CosmWasm.Std

inductive ContractError where
  | std (error : StdError)
  | unauthorized
  | noEntitlement (vault : String) (shares : ℕ)
  deriving DecidableEq

instance : StdFailure ContractError := ⟨.std⟩

structure Config where
  governance : Addr
  registry : Addr
  keeper : Addr
  treasury : Addr
  deriving DecidableEq

structure Storage where
  config : Config
  vaultShares : Addr → ℕ → Option Uint128

/-- The chain as the collector sees it: of a vault, the shares of a holder and the `liquidity_contract` of its
configuration, where it has that field. -/
structure Querier where
  addrValidate : String → Except StdError Addr
  shares : Addr → ℕ → Addr → Except StdError Uint128
  liquidityContract : Addr → Except StdError (Option String)

inductive CosmosMsg where
  | redeemShares (contractAddr : Addr) (botId : ℕ) (recipient : String)
  | withdraw (contractAddr : String) (shares : Uint128) (recipient : Option String) (deadline : ℕ)
      (minAssets : Fin 2 → Uint128)
  deriving DecidableEq

structure InstantiateMsg where
  governance : String
  registry : String
  keeper : String
  treasury : String

inductive ExecuteMsg where
  | collect (vault : String) (botId : ℕ)
  | updateConfig (governance registry keeper treasury : Option String)

abbrev Executed := Except ContractError (Storage × Response CosmosMsg)

def instantiate (q : Querier) (info : MessageInfo) (msg : InstantiateMsg) : Executed := do
  let governance ← liftStd (q.addrValidate msg.governance)
  let registry ← liftStd (q.addrValidate msg.registry)
  let keeper ← liftStd (q.addrValidate msg.keeper)
  let treasury ← liftStd (q.addrValidate msg.treasury)
  .ok (⟨⟨governance, registry, keeper, treasury⟩, fun _ _ => none⟩,
    ⟨[], [("action", "instantiate"), ("creator", info.sender)]⟩)

def Storage.record (st : Storage) (vault : Addr) (botId : ℕ) (shares : Uint128) : Storage :=
  { st with vaultShares := fun v b => if v = vault ∧ b = botId then some shares else st.vaultShares v b }

/-- A rebalancer's LP is withdrawn from its liquidity contract, other shares are redeemed by the vault. -/
def redemption (vault : Addr) (botId : ℕ) (shares : Uint128) (treasury : Addr) (now : ℕ) :
    Option String → CosmosMsg
  | some liquidity => .withdraw liquidity shares (some treasury) now 0
  | none => .redeemShares vault botId treasury

def executeCollect (q : Querier) (env : Env) (st : Storage) (info : MessageInfo) (vault : String) (botId : ℕ) :
    Executed := do
  ensure (info.sender = st.config.keeper) .unauthorized
  let vaultAddr ← liftStd (q.addrValidate vault)
  let shares ← liftStd (q.shares vaultAddr botId env.contract)
  ensure (!isZero shares) (.noEntitlement vault 0)
  let collected ← withError (genericErr "cumulative collected shares overflow")
    (checkedAdd ((st.vaultShares vaultAddr botId).getD 0) shares : Except ContractError Uint128)
  let liquidity ← liftStd (q.liquidityContract vaultAddr)
  .ok (st.record vaultAddr botId collected,
    ⟨[.plain (redemption vaultAddr botId shares st.config.treasury env.blockTime liquidity)],
      [("action", "collect"), ("vault", vault), ("bot_id", toString botId), ("shares", toString shares.val)]⟩)

def updatedAddr (q : Querier) (current : Addr) : Option String → Except ContractError Addr
  | some address => liftStd (q.addrValidate address)
  | none => .ok current

def executeUpdateConfig (q : Querier) (st : Storage) (info : MessageInfo)
    (governance registry keeper treasury : Option String) : Executed := do
  ensure (info.sender = st.config.governance) .unauthorized
  let governance ← updatedAddr q st.config.governance governance
  let registry ← updatedAddr q st.config.registry registry
  let keeper ← updatedAddr q st.config.keeper keeper
  let treasury ← updatedAddr q st.config.treasury treasury
  .ok ({ st with config := ⟨governance, registry, keeper, treasury⟩ }, ⟨[], [("action", "update_config")]⟩)

def execute (q : Querier) (env : Env) (st : Storage) (info : MessageInfo) : ExecuteMsg → Executed
  | .collect vault botId => executeCollect q env st info vault botId
  | .updateConfig governance registry keeper treasury =>
    executeUpdateConfig q st info governance registry keeper treasury

variable {q : Querier} {env : Env} {st st' : Storage} {info : MessageInfo} {vault : String} {botId : ℕ}
  {r : Response CosmosMsg}

lemma executeCollect_eq_ok : executeCollect q env st info vault botId = .ok (st', r) ↔
    info.sender = st.config.keeper ∧ ∃ vaultAddr shares collected liquidity, q.addrValidate vault = .ok vaultAddr ∧
      q.shares vaultAddr botId env.contract = .ok shares ∧ isZero shares = false ∧
      collected.val = ((st.vaultShares vaultAddr botId).getD 0).val + shares.val ∧
      q.liquidityContract vaultAddr = .ok liquidity ∧ st' = st.record vaultAddr botId collected ∧
      r = ⟨[.plain (redemption vaultAddr botId shares st.config.treasury env.blockTime liquidity)],
        [("action", "collect"), ("vault", vault), ("bot_id", toString botId), ("shares", toString shares.val)]⟩ := by
  simp only [executeCollect, bind_eq_ok, ensure_eq_ok, decide_eq_true_eq, liftStd_eq_ok, withError_eq_ok,
    checkedAdd_eq_ok, Bool.not_eq_true', Except.ok.injEq, Prod.mk.injEq]
  constructor
  · rintro ⟨_, hkeeper, vaultAddr, hvault, shares, hshares, _, hpos, collected, hcollected, liquidity, hliquidity,
      rfl, rfl⟩
    exact ⟨hkeeper, vaultAddr, shares, collected, liquidity, hvault, hshares, hpos, hcollected, hliquidity, rfl, rfl⟩
  · rintro ⟨hkeeper, vaultAddr, shares, collected, liquidity, hvault, hshares, hpos, hcollected, hliquidity, rfl, rfl⟩
    exact ⟨(), hkeeper, vaultAddr, hvault, shares, hshares, (), hpos, collected, hcollected, liquidity, hliquidity,
      rfl, rfl⟩

end Cl8yDexBots.FeeSystem.Collector
