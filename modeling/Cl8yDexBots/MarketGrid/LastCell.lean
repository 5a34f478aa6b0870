import Cl8yDexBots.MarketGrid.RebalanceLiveness

/-! The cell on record, against the grid that is configured. -/

namespace Cl8yDexBots.MarketGrid.LastCell

open Foundation.Checked Foundation.Words Foundation.SubMessages CosmWasm.Std SwapVault.Pricing
open State Planning Vault Runs RebalanceLiveness

variable {q : Querier} {env : Env} {info : MessageInfo} {st st' : Storage} {r : Response WasmMsg}

def OnGrid (config : Config) : Prop := config.lastCell ≤ config.gridCount

/-- The grid is cut to fewer cells than the one on record. -/
def CutsBelow (st : Storage) : Call → Prop
  | .executed _ _ _ (.updateConfig msg) => ∃ n, msg.gridCount = some n ∧ n < st.config.lastCell
  | _ => False

lemma instantiate_onGrid {msg : InstantiateMsg} (h : instantiate q info msg = .ok (st, r)) : OnGrid st.config := by
  simp only [instantiate, bind_eq_ok, Except.ok.injEq, Prod.mk.injEq] at h
  obtain ⟨_, -, _, -, _, -, tokens, -, _, -, _, -, _, -, _, -, _, -, _, -, _, -, _, -, _, -, _, -, _, -, price, -, cell,
    hcell, rfl, -⟩ := h
  exact gridCell_le hcell

lemma updateConfig_grid {msg : UpdateConfigMsg} (h : executeUpdateConfig q st info msg = .ok (st', r)) :
    st'.config.lastCell = st.config.lastCell ∧
      st'.config.gridCount = msg.gridCount.getD st.config.gridCount := by
  simp only [executeUpdateConfig, bind_eq_ok, Except.ok.injEq, Prod.mk.injEq] at h
  obtain ⟨_, -, _, -, _, -, _, -, _, -, _, -, gridCount, hgrid, _, -, _, -, _, -, rfl, -⟩ := h
  refine ⟨rfl, ?_⟩
  cases hcount : msg.gridCount with
  | none =>
    rw [hcount] at hgrid
    cases hgrid
    rfl
  | some n =>
    rw [hcount] at hgrid
    simp only [checkedUpdate, bind_eq_ok, Except.ok.injEq] at hgrid
    obtain ⟨_, -, rfl⟩ := hgrid
    rfl

lemma reply_onGrid {id : ℕ} (onGrid : OnGrid st.config) (h : reply q env st id = .ok (st', r)) : OnGrid st'.config := by
  simp only [reply, bind_eq_ok] at h
  obtain ⟨_, -, pending, -, settled, -, ⟨current, within⟩, -, config, hconfig, _, -, _, -, ⟨st₁, fee⟩, hfee, h⟩ := h
  simp only [Except.ok.injEq, Prod.mk.injEq] at h
  obtain ⟨rfl, -⟩ := h
  rw [chargeFee_config hfee]
  rw [settleConfig] at hconfig
  split at hconfig
  · simp only [bind_eq_ok, Except.ok.injEq] at hconfig
    obtain ⟨cell, hcell, rfl⟩ := hconfig
    exact gridCell_le hcell
  · cases hconfig
    exact onGrid

lemma run_onGrid {call : Call} (onGrid : OnGrid st.config) (h : call.run st = .ok (st', r)) :
    OnGrid st'.config ↔ ¬ CutsBelow st call := by
  cases call with
  | replied q env id => exact ⟨fun _ hcut => hcut, fun _ => reply_onGrid onGrid h⟩
  | executed q env info msg =>
    by_cases hupdate : ∃ update, msg = .updateConfig update
    · obtain ⟨update, rfl⟩ := hupdate
      obtain ⟨hcell, hcount⟩ := updateConfig_grid h
      rw [OnGrid, hcell, hcount, CutsBelow]
      cases hgiven : update.gridCount with
      | none =>
        refine ⟨fun _ hcut => ?_, fun _ => onGrid⟩
        obtain ⟨n, hn, -⟩ := hcut
        cases hn
      | some n =>
        rw [Option.getD_some]
        refine ⟨fun hle hcut => ?_, fun hcut => not_lt.mp fun hlt => hcut ⟨n, rfl, hlt⟩⟩
        obtain ⟨n', hn', hlt⟩ := hcut
        cases hn'
        omega
    · obtain ⟨admin, pendingAdmin, hconfig⟩ := execute_config (fun update hmsg => hupdate ⟨update, hmsg⟩) h
      rw [OnGrid, hconfig]
      refine ⟨fun _ hcut => ?_, fun _ => onGrid⟩
      cases msg with
      | updateConfig update => exact hupdate ⟨update, rfl⟩
      | _ => exact hcut

lemma play_append {before after : List Call} :
    play st (before ++ after) = .ok st' ↔ ∃ st₁, play st before = .ok st₁ ∧ play st₁ after = .ok st' := by
  induction before generalizing st with
  | nil => simp [play]
  | cons call before ih =>
    simp only [List.cons_append, play, bind_eq_ok, ih]
    constructor
    · rintro ⟨next, hrun, st₁, hbefore, hafter⟩
      exact ⟨st₁, ⟨next, hrun, hbefore⟩, hafter⟩
    · rintro ⟨st₁, ⟨next, hrun, hbefore⟩, hafter⟩
      exact ⟨next, hrun, st₁, hbefore, hafter⟩

lemma play_cons {call : Call} {calls : List Call} (h : play st (call :: calls) = .ok st') :
    ∃ st₁ r, call.run st = .ok (st₁, r) ∧ play st₁ calls = .ok st' := by
  simp only [play, bind_eq_ok, Prod.exists] at h
  exact h

def Throughout (st : Storage) (calls : List Call) (P : Storage → Prop) : Prop :=
  ∀ before after st', calls = before ++ after → play st before = .ok st' → P st'

def Cut (st : Storage) (calls : List Call) : Prop :=
  ∃ before call after st', calls = before ++ call :: after ∧ play st before = .ok st' ∧ CutsBelow st' call

lemma throughout_onGrid {calls : List Call} (start : OnGrid st.config) (uncut : ¬ Cut st calls) :
    Throughout st calls fun st => OnGrid st.config := by
  intro before
  induction before using List.reverseRecOn with
  | nil =>
    rintro after st' - hplay
    cases hplay
    exact start
  | append_singleton before call ih =>
    intro after st' hcalls hplay
    obtain ⟨st₁, hbefore, hlast⟩ := play_append.mp hplay
    obtain ⟨st₂, r, hrun, hdone⟩ := play_cons hlast
    cases hdone
    have hcalls' : calls = before ++ call :: after := by rw [hcalls, List.append_assoc, List.singleton_append]
    have hgrid := ih (call :: after) st₁ hcalls' hbefore
    exact (run_onGrid hgrid hrun).mpr fun hcut => uncut ⟨before, call, after, st₁, hcalls', hbefore, hcut⟩

lemma throughout_uncut {calls : List Call} (run : play st calls = .ok st')
    (onGrid : Throughout st calls fun st => OnGrid st.config) : ¬ Cut st calls := by
  rintro ⟨before, call, after, st₁, rfl, hbefore, hcut⟩
  obtain ⟨st₂, hplayed, hrest⟩ := play_append.mp run
  obtain rfl := Except.ok.inj (hbefore.symm.trans hplayed)
  obtain ⟨st₃, r, hrun, hafter⟩ := play_cons hrest
  have hnext : play st (before ++ [call]) = .ok st₃ :=
    play_append.mpr ⟨st₁, hbefore, by simp [play, hrun]⟩
  have hgrid := onGrid (before ++ [call]) after st₃ (by rw [List.append_assoc, List.singleton_append]) hnext
  exact (run_onGrid (onGrid before (call :: after) st₁ rfl hbefore) hrun).mp hgrid hcut

/-- Along every run, the bounds that instantiation enforces hold of the configuration, and the cell on record is one of
the grid as long as no update cuts the grid below it, and no longer. -/
theorem config_on_grid_iff {q : Querier} {info : MessageInfo} {msg : InstantiateMsg} {st st' : Storage}
    {r : Response WasmMsg} {calls : List Call} (created : instantiate q info msg = .ok (st, r))
    (run : play st calls = .ok st') :
    Throughout st calls (fun st => Valid st.config) ∧
    (Throughout st calls (fun st => OnGrid st.config) ↔ ¬ Cut st calls) := by
  refine ⟨fun before after st₁ _ hplay => ?_, throughout_uncut run, throughout_onGrid (instantiate_onGrid created)⟩
  exact (play_reachable (.instantiated created) hplay).valid

def recut (gridCount : ℕ) : Call :=
  .executed midChain ⟨0, 0, "vault"⟩ ⟨"admin", []⟩ (.updateConfig ⟨some gridCount, none, none, none, none, none, none,
    none, none, none, none, none, none⟩)

theorem recut_on_grid : ∃ st', play midStorage [recut 5] = .ok st' ∧
    Throughout midStorage [recut 5] fun st => OnGrid st.config := by
  have hcreated : instantiate (fixedChain 0 midPrice 0) ⟨"admin", []⟩ (fixedMsg .one twoPrice 10) = .ok (midStorage,
    ⟨[], [("action", "instantiate"), ("owner", "admin"), ("pair", "pair")]⟩) := rfl
  have hplayed : okAnd (play midStorage [recut 5]) (fun _ => true) = true := by decide
  obtain ⟨st', hplay, -⟩ := okAnd_iff.mp hplayed
  refine ⟨st', hplay, (config_on_grid_iff hcreated hplay).2.mpr ?_⟩
  rintro ⟨before, call, after, st₁, hcalls, hbefore, hcut⟩
  obtain ⟨rfl, hrest⟩ | ⟨before', rfl, hrest⟩ := List.cons_eq_append_iff.mp hcalls
  · cases hrest
    cases hbefore
    obtain ⟨n, hn, hlt⟩ := hcut
    cases hn
    exact absurd hlt (by decide)
  · exact absurd hrest (List.append_ne_nil_of_right_ne_nil _ (List.cons_ne_nil _ _)).symm

/-- Cut to four, the grid has no cell that the one on record denotes. -/
theorem recut_off_grid : ∃ st', Reachable st' ∧ st'.config.gridCount = 4 ∧ st'.config.lastCell = 5 := by
  have hplayed : okAnd (play midStorage [recut 4])
      (fun st' => st'.config.gridCount = 4 ∧ st'.config.lastCell = 5) = true := by decide
  obtain ⟨st', hplay, hst⟩ := okAnd_iff.mp hplayed
  exact ⟨st', play_reachable (freshStorage_reachable midPrice 5 rfl) hplay, of_decide_eq_true hst⟩

end Cl8yDexBots.MarketGrid.LastCell
