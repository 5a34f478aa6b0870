import Cl8yDexBots.LimitGrid.Vault
import Cl8yDexBots.Vaults.FeePolicy

/-! The fee rates a limit-grid vault has learned from the registry. -/

namespace Cl8yDexBots.LimitGrid.FeeRates

open Foundation.Checked Foundation.Words Foundation.LastKnown CosmWasm.Std
open Vaults.FeePolicy State Pricing Orders Vault

variable {q : Querier} {env : Env} {st st' : Storage} {info : MessageInfo} {r r' : Response CosmosMsg}

/-- A reconciliation up to the fee: the storage and the bot it charges, what they were credited, and the
loop's counts. -/
def settle (q : Querier) (env : Env) (st : Storage) (info : MessageInfo) (botId : ℕ)
    (orderIds : List ℕ) : Result (Storage × Bot × (Fin 2 → Uint128) × Sweep) := do
  requireActive st
  assertNoFunds info
  let bot ← loadBot st botId
  ensure (¬ (orderIds = [] ∨ st.config.maxOrdersPerReconcile < orderIds.length)) .invalidFillReport
  assertPairCode q bot
  let required ← requiredGas st.config
  ensure (required ≤ bot.gasCredit) .insufficientGasCredit
  let (credited, bot) ← syncFreeBalances q env bot
  let sweep ← foldChecked (reconcileOrder q env st bot.pair)
    ⟨st.orders, bot.activeOrders, [], [], 0, 0, 0⟩ orderIds
  ensure (¬ (sweep.changedOrders = 0 ∧ credited = fun _ => 0)) .nothingToReconcile
  .ok ({ st with orders := sweep.orders }, { bot with activeOrders := sweep.activeOrders }, credited, sweep)

lemma executeReconcile_eq (q : Querier) (env : Env) (st : Storage) (info : MessageInfo) (botId : ℕ)
    (orderIds : List ℕ) :
    executeReconcile q env st info botId orderIds =
      (settle q env st info botId orderIds >>= fun (st, bot, credited, sweep) => do
        let (st, bot, fee) ← chargeFee q st bot credited
        let response : Response CosmosMsg :=
          ⟨[], [("action", "reconcile_grid"), ("bot_id", toString botId),
            ("changed_orders", toString sweep.changedOrders),
            ("fully_executed", toString sweep.executedCount),
            ("cancelled", toString sweep.cancelledCount),
            ("credited_token_0", toString (credited 0).val),
            ("credited_token_1", toString (credited 1).val)] ++ feeAttributes fee⟩
        let (st, response) ← claimPages q { st with bot := some bot } response botId bot.pair
          sweep.claimEntries
        payKeeper st response info botId) := by
  simp only [executeReconcile, settle, bind_assoc, ok_bind]

def asked (config : Config) : Option Addr :=
  match config.feeRegistry, config.feeCollector with
  | some registry, some _ => some registry
  | _, _ => none

def answered (q : Querier) (env : Env) (st : Storage) (info : MessageInfo) : ExecuteMsg → Option (Addr × ℕ)
  | .reconcile botId orderIds =>
    match settle q env st info botId orderIds with
    | .ok (st₁, bot, _) => (asked st₁.config).bind fun registry =>
        learned EffectiveFeeResponse.feeBps (q.effectiveFee registry bot.owner) bot.owner
    | .error _ => none
  | _ => none

inductive Step : Storage → Option (Addr × ℕ) → Storage → Prop
  | executed {q env st info msg st' r} (h : execute q env st info msg = .ok (st', r)) :
      Step st (answered q env st info msg) st'
  | replied {q env st id result st' r} (h : reply q env st id result = .ok (st', r)) : Step st none st'
  | rolledBack (st : Storage) : Step st none st

def Fresh (st : Storage) : Prop := ∃ q info msg r, instantiate q info msg = .ok (st, r)

end Cl8yDexBots.LimitGrid.FeeRates
