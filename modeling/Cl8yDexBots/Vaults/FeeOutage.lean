import Cl8yDexBots.LimitGrid.FeeRates
import Cl8yDexBots.MarketGrid.FeeRates
import Cl8yDexBots.MarketGrid.RebalanceLiveness
import Cl8yDexBots.Rebalancer.FeeRates

/-! The rate each vault uses at a settlement, after any run. -/

namespace Cl8yDexBots.Vaults.FeeOutage

open Foundation.Checked Foundation.Words Foundation.LastKnown CosmWasm.Std FeePolicy

section Outage

open MarketGrid.State MarketGrid.Planning MarketGrid.Vault MarketGrid.Runs MarketGrid.FeeRates
open MarketGrid.RebalanceLiveness

def started (st : Storage) : Result Storage := do
  let (st, _) ← execute midChain ⟨0, 0, "vault"⟩ st ⟨"keeper", []⟩ (.rebalance 0)
  .ok st

lemma started_run {st st' : Storage} {history : List (Addr × ℕ)} (run : Run Fresh Step st history)
    (h : started st = .ok st') : Run Fresh Step st' history := by
  simp only [started, bind_eq_ok, Except.ok.injEq, Prod.exists] at h
  obtain ⟨_, r, hexec, rfl⟩ := h
  exact .next run (.executed hexec)

def finished (q : Querier) (st : Storage) : Result Storage := do
  let (st, _) ← reply q ⟨0, 0, "vault"⟩ st 1
  .ok st

end Outage

end Cl8yDexBots.Vaults.FeeOutage
