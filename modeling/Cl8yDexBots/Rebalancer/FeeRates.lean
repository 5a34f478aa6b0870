import Cl8yDexBots.Rebalancer.Runs
import Cl8yDexBots.Foundation.StorageMap
import Cl8yDexBots.Vaults.FeePolicy

/-! The fee rates a bot vault has learned from the registry. -/

namespace Cl8yDexBots.Rebalancer.FeeRates

open Foundation.Checked Foundation.Words Foundation.SubMessages Foundation.StorageMap Foundation.LastKnown
open SwapVault.Pricing CosmWasm.Std Vaults.FeePolicy State Planning Vault Runs

variable {q : Querier} {env : Env} {st st' st₁ : Storage} {info : MessageInfo} {r : Response WasmMsg}

def settle (q : Querier) (env : Env) (st : Storage) (id : ℕ) :
    Result (Storage × Uint128 × Uint128 × ℕ × Bool) := do
  ensure (id == rebalanceReplyId) .unknownReply
  let pending ← orError st.pendingRebalance .missingPendingRebalance
  let settled ← balances q env.contract st.config
  let (current, withinTolerance) ← settledDeviation st.config pending settled
  let config := if withinTolerance
    then { st.config with referencePrice := pending.capturedTwap } else st.config
  let value ← proceedsInToken0 pending settled
  let preFeeNav ← navInToken0 settled pending.capturedTwap
  .ok ({ st with config, pendingRebalance := none }, value, preFeeNav, current, withinTolerance)

/-- Without a bound liquidity contract there are no shares to mint, and the registry is not asked. -/
def asked (config : Config) (value : Uint128) : Option Addr :=
  match config.feeRegistry, config.feeCollector with
  | some registry, some _ =>
    if isZero value then none else config.liquidityContract.map fun _ => registry
  | _, _ => none

def answered (q : Querier) (env : Env) (st : Storage) (id : ℕ) : Option (Addr × ℕ) :=
  match settle q env st id with
  | .ok (st₁, value, _) => (asked st₁.config value).bind fun registry =>
      learned EffectiveFeeResponse.feeBps (q.effectiveFee registry st₁.config.admin) st₁.config.admin
  | .error _ => none

inductive Step : Storage → Option (Addr × ℕ) → Storage → Prop
  | executed {q env st info msg st' r} (h : execute q env st info msg = .ok (st', r)) : Step st none st'
  | replied {q env st id st' r} (h : reply q env st id = .ok (st', r)) : Step st (answered q env st id) st'
  | migrated {st codeId st' r} (h : migrate st codeId = .ok (st', r)) : Step st none st'
  | rolledBack (st : Storage) : Step st none st

def Fresh (st : Storage) : Prop := ∃ q env msg r, instantiate q env msg = .ok (st, r)

end Cl8yDexBots.Rebalancer.FeeRates
