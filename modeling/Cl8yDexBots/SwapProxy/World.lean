import Cl8yDexBots.MarketGrid.Runs
import Cl8yDexBots.Rebalancer.Runs
import Cl8yDexBots.SwapProxy.Contract

/-! The proxy together with the vaults that share it. -/

namespace Cl8yDexBots.SwapProxy.World

open Foundation.Checked Foundation.SubMessages CosmWasm.Std SwapProxy.Contract

inductive Vault where
  | grid (st : MarketGrid.State.Storage)
  | bot (st : Rebalancer.State.Storage)

def Vault.config : Vault → VaultConfigRaw
  | .grid st =>
    ⟨st.config.factory, st.config.pair, st.config.pairCodeId, st.config.proxy, st.config.assetTokens⟩
  | .bot st =>
    ⟨st.config.factory, st.config.pair, st.config.pairCodeId, some st.config.proxy, st.config.assetTokens⟩

inductive Vault.Created : Vault → Prop
  | grid {q info msg st r} (h : MarketGrid.Vault.instantiate q info msg = .ok (st, r)) : Created (.grid st)
  | bot {q env msg st r} (h : Rebalancer.Vault.instantiate q env msg = .ok (st, r)) : Created (.bot st)

inductive Vault.Acts : Vault → Vault → Prop
  | gridExecuted {q env st info msg st' r} (h : MarketGrid.Vault.execute q env st info msg = .ok (st', r)) :
      Acts (.grid st) (.grid st')
  | gridReplied {q env st id st' r} (h : MarketGrid.Vault.reply q env st id = .ok (st', r)) :
      Acts (.grid st) (.grid st')
  | botExecuted {q env st info msg st' r} (h : Rebalancer.Vault.execute q env st info msg = .ok (st', r)) :
      Acts (.bot st) (.bot st')
  | botReplied {q env st id st' r} (h : Rebalancer.Vault.reply q env st id = .ok (st', r)) : Acts (.bot st) (.bot st')
  | botMigrated {st codeId st' r} (h : Rebalancer.Vault.migrate st codeId = .ok (st', r)) : Acts (.bot st) (.bot st')

def Vault.Sound : Vault → Prop
  | .grid st => MarketGrid.Runs.Reachable st
  | .bot st => Rebalancer.Runs.Reachable st

lemma Vault.Created.sound {vault : Vault} (h : vault.Created) : vault.Sound := by
  cases h with
  | grid h => exact .instantiated h
  | bot h => exact .instantiated h

lemma Vault.Acts.sound {vault vault' : Vault} (h : vault.Acts vault') (hs : vault.Sound) : vault'.Sound := by
  cases h with
  | gridExecuted h => exact .executed hs h
  | gridReplied h => exact .replied hs h
  | botExecuted h => exact .executed hs h
  | botReplied h => exact .replied hs h
  | botMigrated h => exact .migrated hs h

lemma Vault.Acts.route {vault vault' : Vault} (h : vault.Acts vault') : vault'.config.route = vault.config.route := by
  cases h with
  | gridExecuted h =>
    have hkeeps := MarketGrid.Runs.execute_keeps h
    simp only [config, VaultConfigRaw.route, hkeeps.pair, hkeeps.pairCodeId, hkeeps.assetTokens]
  | gridReplied h =>
    obtain ⟨_, _, _, _, hconfig⟩ := MarketGrid.Runs.reply_sameBounds h
    simp only [config, VaultConfigRaw.route, hconfig]
  | botExecuted h =>
    have hkeeps := Rebalancer.Runs.execute_keeps h
    simp only [config, VaultConfigRaw.route, hkeeps.pair, hkeeps.pairCodeId, hkeeps.assetTokens]
  | botReplied h =>
    obtain ⟨_, _, _, _, _, _, _, _, _, _, -, -, -, -, -, -, -, rfl, -⟩ := Rebalancer.Runs.reply_ok h
    rfl
  | botMigrated h =>
    simp only [Rebalancer.Vault.migrate, bind_eq_ok, Except.ok.injEq, Prod.mk.injEq] at h
    obtain ⟨_, -, _, -, rfl, -⟩ := h
    rfl

structure Shared where
  proxy : Storage
  vaults : Addr → Option Vault

/-- The vaults answer for themselves; of all other contracts only `others` know the question. -/
def Answers (others : Set Addr) (w : Shared) (q : Querier) : Prop :=
  ∀ v config, q.vaultConfig v = .ok config → (∃ vault, w.vaults v = some vault ∧ config = vault.config) ∨ v ∈ others

inductive Step (others : Set Addr) : Shared → Shared → Prop
  | executed {w q env info msg proxy r} (answers : Answers others w q)
      (h : execute q env w.proxy info msg = .ok (proxy, r)) : Step others w { w with proxy }
  | migrated {w supported previous proxy r} (h : migrate w.proxy supported previous = .ok (proxy, r)) :
      Step others w { w with proxy }
  | created {w v vault} (apart : v ∉ others) (fresh : w.vaults v = none) (h : vault.Created) :
      Step others w { w with vaults := Function.update w.vaults v (some vault) }
  | acted {w v vault vault'} (known : w.vaults v = some vault) (h : vault.Acts vault') :
      Step others w { w with vaults := Function.update w.vaults v (some vault') }

inductive Reachable (others : Set Addr) : Shared → Prop
  | instantiated {q admin proxy r} (h : instantiate q admin = .ok (proxy, r)) :
      Reachable others ⟨proxy, fun _ => none⟩
  | stepped {w w'} (before : Reachable others w) (h : Step others w w') : Reachable others w'

/-- Every vault is one of this repository, and a vault's route is the one it reports. -/
structure Consistent (others : Set Addr) (w : Shared) : Prop where
  sound : ∀ v vault, w.vaults v = some vault → vault.Sound
  apart : ∀ v vault, w.vaults v = some vault → v ∉ others
  known : ∀ v (route : Route), w.proxy.routes[v]? = some route → v ∈ others ∨ w.vaults v ≠ none
  registered : ∀ v vault (route : Route), w.vaults v = some vault → w.proxy.routes[v]? = some route →
    route = vault.config.route

variable {others : Set Addr} {w w' : Shared}

lemma Consistent.placed {v : Addr} {vault : Vault} (hw : Consistent others w) (apart : v ∉ others) (hs : vault.Sound)
    (hroute : ∀ route : Route, w.proxy.routes[v]? = some route → route = vault.config.route) :
    Consistent others { w with vaults := Function.update w.vaults v (some vault) } := by
  have hplaced : ∀ a other, Function.update w.vaults v (some vault) a = some other →
      a = v ∧ other = vault ∨ w.vaults a = some other := by
    intro a other hother
    by_cases ha : a = v
    · subst ha
      simp only [Function.update_self, Option.some.injEq] at hother
      exact .inl ⟨rfl, hother.symm⟩
    · rw [Function.update_of_ne ha] at hother
      exact .inr hother
  refine ⟨?_, ?_, ?_, ?_⟩
  · intro a other hother
    rcases hplaced a other hother with ⟨-, rfl⟩ | hold
    · exact hs
    · exact hw.sound a other hold
  · intro a other hother
    rcases hplaced a other hother with ⟨rfl, -⟩ | hold
    · exact apart
    · exact hw.apart a other hold
  · intro a route hknown
    dsimp only
    by_cases ha : a = v
    · subst ha
      exact .inr (by simp)
    · rw [Function.update_of_ne ha]
      exact hw.known a route hknown
  · intro a other route hother hknown
    rcases hplaced a other hother with ⟨rfl, rfl⟩ | hold
    · exact hroute route hknown
    · exact hw.registered a other route hold hknown

lemma Step.consistent (h : Step others w w') (hw : Consistent others w) : Consistent others w' := by
  cases h with
  | executed answers h =>
    refine ⟨hw.sound, hw.apart, ?_, ?_⟩
    · intro v route hroute
      rcases execute_routes h hroute with hold | ⟨config, hconfig, -⟩
      · exact hw.known v route hold
      · rcases answers v config hconfig with ⟨vault, hvault, -⟩ | hother
        · exact .inr fun hnone => by simp [hvault] at hnone
        · exact .inl hother
    · intro v vault route hvault hroute
      rcases execute_routes h hroute with hold | ⟨config, hconfig, rfl⟩
      · exact hw.registered v vault route hvault hold
      · rcases answers v config hconfig with ⟨vault', hvault', rfl⟩ | hother
        · cases hvault.symm.trans hvault'
          rfl
        · exact absurd hother (hw.apart v vault hvault)
  | migrated h =>
    simp only [migrate, bind_eq_ok, Except.ok.injEq, Prod.mk.injEq] at h
    obtain ⟨_, -, _, -, rfl, -⟩ := h
    exact ⟨hw.sound, hw.apart, hw.known, hw.registered⟩
  | created apart fresh h =>
    refine hw.placed apart h.sound ?_
    intro route hroute
    rcases hw.known _ route hroute with hother | hsome
    · exact absurd hother apart
    · exact absurd fresh hsome
  | acted known h =>
    refine hw.placed (hw.apart _ _ known) (h.sound (hw.sound _ _ known)) ?_
    intro route hroute
    rw [h.route]
    exact hw.registered _ _ route known hroute

theorem Reachable.consistent (h : Reachable others w) : Consistent others w := by
  induction h with
  | instantiated h =>
    simp only [instantiate, bind_eq_ok, Except.ok.injEq, Prod.mk.injEq] at h
    obtain ⟨_, -, rfl, -⟩ := h
    refine ⟨by simp, by simp, ?_, by simp⟩
    intro v route hroute
    simp at hroute
  | stepped _ h ih => exact h.consistent ih

end Cl8yDexBots.SwapProxy.World
