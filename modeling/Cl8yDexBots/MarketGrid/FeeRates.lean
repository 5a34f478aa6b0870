import Cl8yDexBots.MarketGrid.Runs
import Cl8yDexBots.Foundation.StorageMap
import Cl8yDexBots.Vaults.FeePolicy

/-! The fee rates a market-grid vault has learned from the registry. -/

namespace Cl8yDexBots.MarketGrid.FeeRates

open Foundation.Checked Foundation.Words Foundation.StorageMap Foundation.LastKnown CosmWasm.Std
open Vaults.FeePolicy State Planning Vault Runs

variable {q : Querier} {env : Env} {st st' st₁ : Storage} {info : MessageInfo} {r : Response WasmMsg}

def settle (q : Querier) (env : Env) (st : Storage) (id : ℕ) :
    Result (Storage × Uint128 × Uint128 × ℕ × Bool) := do
  ensure (id == rebalanceReplyId) .unknownReply
  let pending ← orError st.pendingSwap .missingPendingRebalance
  let settled ← balances q env.contract st.config
  let (current, withinTolerance) ← settledDeviation st.config pending settled
  let config ← settleConfig st.config pending.capturedTwap withinTolerance
  let value ← proceedsInToken0 pending settled
  let assetValue ← assetValueInToken0 settled pending.capturedTwap
  .ok ({ st with config, pendingSwap := none }, value, assetValue, current, withinTolerance)

def asked (config : Config) (value : Uint128) : Option Addr :=
  match config.feeRegistry, config.feeCollector with
  | some registry, some _ => if isZero value then none else some registry
  | _, _ => none

def answered (q : Querier) (env : Env) (st : Storage) (id : ℕ) : Option (Addr × ℕ) :=
  match settle q env st id with
  | .ok (st₁, value, _) => (asked st₁.config value).bind fun registry =>
      learned EffectiveFeeResponse.feeBps (q.effectiveFee registry st₁.config.admin) st₁.config.admin
  | .error _ => none

/-- Committed steps, and what a settlement among them learned from the registry. -/
inductive Step : Storage → Option (Addr × ℕ) → Storage → Prop
  | executed {q env st info msg st' r} (h : execute q env st info msg = .ok (st', r)) : Step st none st'
  | replied {q env st id st' r} (h : reply q env st id = .ok (st', r)) : Step st (answered q env st id) st'
  | rolledBack (st : Storage) : Step st none st

def Fresh (st : Storage) : Prop := ∃ q info msg r, instantiate q info msg = .ok (st, r)

end Cl8yDexBots.MarketGrid.FeeRates
