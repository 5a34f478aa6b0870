import Cl8yDexBots.Foundation.StorageMap
import Cl8yDexBots.MarketGrid.Runs

/-! The share ledger of the market-grid vault: what each message does to it, and what every run keeps. -/

namespace Cl8yDexBots.MarketGrid.ShareLedger

open Std Foundation.Checked Foundation.Words Foundation.SubMessages Foundation.StorageMap CosmWasm.Std
open SwapVault.Pricing State Planning Vault Runs

section Ledgers

structure Ledger where
  shares : ExtTreeMap Addr Uint128
  totalShares : Uint128
  admin : Addr
  pendingAdmin : Option Addr

def Ledger.held (l : Ledger) (holder : Addr) : ℕ := weight l.shares Uint.val holder

inductive Moved (l : Ledger) (source target : Addr) : ExtTreeMap Addr Uint128 → Prop
  | none (hzero : l.held source = 0) : Moved l source target l.shares
  | all (held : Uint128) (hheld : held.val = l.held target + l.held source) :
      Moved l source target ((l.shares.insert target held).erase source)

/-- What one message can do to a ledger. -/
inductive Change (l : Ledger) : Ledger → Prop
  | kept : Change l l
  | proposed (next : Addr) (hne : next ≠ l.admin) : Change l { l with pendingAdmin := some next }
  | accepted (next : Addr) (hpending : l.pendingAdmin = some next) {shares : ExtTreeMap Addr Uint128}
      (hmoved : Moved l l.admin next shares) : Change l { l with shares, admin := next, pendingAdmin := none }
  | credited (holder : Addr) (amount held totalShares : Uint128) (hheld : held.val = l.held holder + amount.val)
      (htotal : totalShares.val = l.totalShares.val + amount.val) :
      Change l { l with shares := l.shares.insert holder held, totalShares }
  | debited (holder : Addr) (amount held totalShares : Uint128) (hheld : held.val + amount.val = l.held holder)
      (htotal : totalShares.val + amount.val = l.totalShares.val) :
      Change l { l with shares := l.shares.insert holder held, totalShares }

structure Balanced (l : Ledger) : Prop where
  sum : total l.shares Uint.val = l.totalShares.val
  apart : l.pendingAdmin ≠ some l.admin

variable {l l' : Ledger} {source target : Addr} {shares : ExtTreeMap Addr Uint128}

lemma weight_insert (m : ExtTreeMap Addr Uint128) (holder a : Addr) (held : Uint128) :
    weight (m.insert holder held) Uint.val a = if holder = a then held.val else weight m Uint.val a := by
  simp only [weight, lookup_insert]
  split <;> rfl

lemma weight_erase (m : ExtTreeMap Addr Uint128) (holder a : Addr) :
    weight (m.erase holder) Uint.val a = if holder = a then 0 else weight m Uint.val a := by
  simp only [weight, lookup_erase]
  split <;> rfl

lemma Moved.held (h : Moved l source target shares) (hne : target ≠ source) :
    weight shares Uint.val target = l.held target + l.held source ∧ weight shares Uint.val source = 0 ∧
    ∀ a, a ≠ source → a ≠ target → weight shares Uint.val a = l.held a := by
  cases h with
  | none hzero => exact ⟨by rw [hzero]; rfl, hzero, fun _ _ _ => rfl⟩
  | all held hheld =>
    refine ⟨?_, ?_, fun a hsource htarget => ?_⟩
    · rw [weight_erase, if_neg hne.symm, weight_insert, if_pos rfl, hheld]
    · rw [weight_erase, if_pos rfl]
    · rw [weight_erase, if_neg hsource.symm, weight_insert, if_neg htarget.symm]
      rfl

lemma Moved.total (h : Moved l source target shares) (hne : target ≠ source) :
    total shares Uint.val = total l.shares Uint.val := by
  cases h with
  | none => rfl
  | all held hheld =>
    have hinsert := total_insert l.shares Uint.val target held
    have herase := total_erase (l.shares.insert target held) Uint.val source
    rw [weight_insert, if_neg hne] at herase
    simp only [Ledger.held] at hheld
    omega

lemma Balanced.change (h : Balanced l) (hchange : Change l l') : Balanced l' := by
  obtain ⟨hsum, hapart⟩ := h
  cases hchange with
  | kept => exact ⟨hsum, hapart⟩
  | proposed next hne => exact ⟨hsum, fun heq => hne (Option.some.inj heq)⟩
  | accepted next hpending hmoved =>
    have hne : next ≠ l.admin := fun heq => hapart (heq ▸ hpending)
    exact ⟨(hmoved.total hne).trans hsum, nofun⟩
  | credited holder amount held totalShares hheld htotal =>
    refine ⟨?_, hapart⟩
    have hinsert := total_insert l.shares Uint.val holder held
    simp only [Ledger.held] at hheld
    dsimp only
    omega
  | debited holder amount held totalShares hheld htotal =>
    refine ⟨?_, hapart⟩
    have hinsert := total_insert l.shares Uint.val holder held
    simp only [Ledger.held] at hheld
    dsimp only
    omega

end Ledgers

def ledgerOf (st : Storage) : Ledger := ⟨st.shares, st.totalShares, st.config.admin, st.config.pendingAdmin⟩

section Steps

variable {q : Querier} {env : Env} {st st' : Storage} {info : MessageInfo} {r : Response WasmMsg}

lemma held_ledgerOf (st : Storage) (holder : Addr) : (ledgerOf st).held holder = (sharesOf st holder).val := by
  rw [Ledger.held, weight, sharesOf, ledgerOf]
  cases st.shares[holder]? <;> rfl

lemma executeReceive_change {receive : Cw20ReceiveMsg} (h : executeReceive q env st info receive = .ok (st', r)) :
    Change (ledgerOf st) (ledgerOf st') := by
  simp only [executeReceive, bind_eq_ok, checkedAdd_eq_ok, Except.ok.injEq, Prod.mk.injEq] at h
  obtain ⟨_, -, _, -, _, -, depositor, -, _, -, _, -, _, -, _, -, _, -, minted, -, _, -, total, htotal, held, hheld,
    rfl, -⟩ := h
  rw [← held_ledgerOf] at hheld
  exact .credited depositor minted held total hheld htotal

lemma executeWithdraw_change {shares : Uint128} {recipient : Option String}
    (h : executeWithdraw q env st info shares recipient = .ok (st', r)) : Change (ledgerOf st) (ledgerOf st') := by
  simp only [executeWithdraw, bind_eq_ok, checkedSub_eq_ok, Except.ok.injEq, Prod.mk.injEq] at h
  obtain ⟨_, -, _, -, _, -, _, -, _, -, _, -, _, -, _, -, total, ⟨hle, htotal⟩, held, ⟨hheld, hrest⟩, rfl, -⟩ := h
  rw [← held_ledgerOf] at hheld hrest
  have hleft : total.val + shares.val = (ledgerOf st).totalShares.val := by
    rw [htotal]
    exact Nat.sub_add_cancel hle
  exact .debited info.sender shares held total (by omega) hleft

lemma executeRedeemShares_change {recipient : Option String}
    (h : executeRedeemShares q env st info recipient = .ok (st', r)) : Change (ledgerOf st) (ledgerOf st') := by
  simp only [executeRedeemShares, bind_eq_ok, checkedSub_eq_ok, Except.ok.injEq, Prod.mk.injEq] at h
  obtain ⟨_, -, collector, -, _, -, _, -, _, -, _, -, _, -, _, -, _, -, _, -, total, ⟨hle, htotal⟩, rfl, -⟩ := h
  have hleft : total.val + (sharesOf st collector).val = (ledgerOf st).totalShares.val := by
    rw [htotal]
    exact Nat.sub_add_cancel hle
  have hall : (0 : Uint128).val + (sharesOf st collector).val = (ledgerOf st).held collector := by
    rw [held_ledgerOf]
    exact Nat.zero_add _
  exact .debited collector (sharesOf st collector) 0 total hall hleft

lemma moveShares_moved {source target : Addr} (h : moveShares st source target = .ok st') :
    Moved (ledgerOf st) source target st'.shares ∧ st'.totalShares = st.totalShares := by
  simp only [moveShares] at h
  split at h
  · rename_i hzero
    cases h
    refine ⟨.none ?_, rfl⟩
    rw [held_ledgerOf]
    exact isZero_iff.mp hzero
  · simp only [bind_eq_ok, checkedAdd_eq_ok, Except.ok.injEq] at h
    obtain ⟨held, hheld, rfl⟩ := h
    rw [← held_ledgerOf, ← held_ledgerOf] at hheld
    exact ⟨.all held hheld, rfl⟩

lemma executeAcceptAdmin_moved (h : executeAcceptAdmin st info = .ok (st', r)) :
    st.config.pendingAdmin = some info.sender ∧ Moved (ledgerOf st) st.config.admin info.sender st'.shares ∧
    ledgerOf st' = ⟨st'.shares, st.totalShares, info.sender, none⟩ := by
  simp only [executeAcceptAdmin, bind_eq_ok, ensure_eq_ok, decide_eq_true_eq, Except.ok.injEq, Prod.mk.injEq] at h
  obtain ⟨_, -, _, hpending, st₁, hmoved, rfl, -⟩ := h
  obtain ⟨hshares, htotal⟩ := moveShares_moved hmoved
  refine ⟨hpending, hshares, ?_⟩
  rw [ledgerOf]
  dsimp only
  rw [htotal]

lemma execute_change {msg : ExecuteMsg} (h : execute q env st info msg = .ok (st', r)) :
    Change (ledgerOf st) (ledgerOf st') := by
  cases msg with
  | receive msg => exact executeReceive_change h
  | withdraw shares recipient => exact executeWithdraw_change h
  | rebalance deadline =>
    simp only [execute, executeRebalance, bind_eq_ok, Except.ok.injEq, Prod.mk.injEq] at h
    obtain ⟨_, -, _, -, _, -, _, -, _, -, _, -, _, -, _, -, _, -, _, -, _, -, _, -, rfl, -⟩ := h
    exact .kept
  | updateConfig msg =>
    simp only [execute, executeUpdateConfig, bind_eq_ok, Except.ok.injEq, Prod.mk.injEq] at h
    obtain ⟨_, -, _, -, _, -, _, -, _, -, _, -, _, -, _, -, _, -, _, -, rfl, -⟩ := h
    exact .kept
  | transferAdmin admin =>
    simp only [execute, executeTransferAdmin, bind_eq_ok, ensure_eq_ok, Except.ok.injEq, Prod.mk.injEq] at h
    obtain ⟨_, -, _, -, next, -, _, hne, rfl, -⟩ := h
    have hne : next ≠ st.config.admin := by simpa using hne
    exact .proposed next hne
  | acceptAdmin =>
    obtain ⟨hpending, hmoved, hledger⟩ := executeAcceptAdmin_moved h
    rw [hledger]
    exact .accepted info.sender hpending hmoved
  | pause =>
    simp only [execute, executePause, bind_eq_ok, Except.ok.injEq, Prod.mk.injEq] at h
    obtain ⟨_, -, _, -, _, -, rfl, -⟩ := h
    exact .kept
  | resume =>
    simp only [execute, executeResume, bind_eq_ok, Except.ok.injEq, Prod.mk.injEq] at h
    obtain ⟨_, -, _, -, _, -, rfl, -⟩ := h
    exact .kept
  | redeemShares botId recipient => exact executeRedeemShares_change h

lemma resolveFee_ledger (q : Querier) (st : Storage) (registry : Addr) :
    ledgerOf (resolveFee q st registry).1 = ledgerOf st := by
  rw [resolveFee]
  split
  · rfl
  · split <;> rfl

lemma chargeFee_change {value assetValue : Uint128} {fee : Option FeeApplied}
    (h : chargeFee q st value assetValue = .ok (st', fee)) : Change (ledgerOf st) (ledgerOf st') := by
  simp only [chargeFee] at h
  split at h
  · rename_i registry collector _ _
    split at h
    · cases h
      exact .kept
    · rw [← resolveFee_ledger q st registry]
      split at h
      · cases h
        exact .kept
      · simp only [bind_eq_ok] at h
        obtain ⟨feeValue, -, h⟩ := h
        split at h
        · cases h
          exact .kept
        · simp only [bind_eq_ok] at h
          obtain ⟨feeShares, -, h⟩ := h
          split at h
          · cases h
            exact .kept
          · simp only [mintFee, bind_eq_ok, checkedAdd_eq_ok, Except.ok.injEq, Prod.mk.injEq] at h
            obtain ⟨_, ⟨held, hheld, total, htotal, rfl⟩, rfl, -⟩ := h
            rw [← held_ledgerOf] at hheld
            exact .credited collector feeShares held total hheld htotal
  · cases h
    exact .kept

lemma reply_change {id : ℕ} (h : reply q env st id = .ok (st', r)) : Change (ledgerOf st) (ledgerOf st') := by
  simp only [reply, bind_eq_ok, Except.ok.injEq, Prod.mk.injEq, Prod.exists] at h
  obtain ⟨_, -, pending, -, settled, -, current, within, -, config, hconfig, value, -, assetValue, -, st₁, fee, hfee,
    rfl, -⟩ := h
  have hledger : ledgerOf { st with config, pendingSwap := none } = ledgerOf st := by
    rw [settleConfig] at hconfig
    split at hconfig
    · simp only [bind_eq_ok, Except.ok.injEq] at hconfig
      obtain ⟨cell, -, rfl⟩ := hconfig
      rfl
    · cases hconfig
      rfl
  exact hledger ▸ chargeFee_change hfee

end Steps

section Runs

variable {st : Storage}

lemma instantiate_balanced {q : Querier} {info : MessageInfo} {msg : InstantiateMsg} {r : Response WasmMsg}
    (h : instantiate q info msg = .ok (st, r)) : Balanced (ledgerOf st) := by
  simp only [instantiate, bind_eq_ok, Except.ok.injEq, Prod.mk.injEq] at h
  obtain ⟨_, -, _, -, _, -, _, -, _, -, _, -, _, -, _, -, _, -, _, -, _, -, _, -,
    _, -, _, -, _, -, _, -, _, -, rfl, -⟩ := h
  exact ⟨total_empty _, Option.some_ne_none _ |>.symm⟩

lemma Reachable.balanced (h : Reachable st) : Balanced (ledgerOf st) := by
  induction h with
  | instantiated h => exact instantiate_balanced h
  | executed _ h ih => exact ih.change (execute_change h)
  | replied _ h ih => exact ih.change (reply_change h)

/-- In every run the shares add up to the total and no admin is to succeed himself; and whoever accepts the role adds
the old admin's shares to his own and leaves him none, with everybody else and the total as before. -/
theorem shares_add_up (h : Reachable st) : total st.shares Uint.val = st.totalShares.val ∧
    st.config.pendingAdmin ≠ some st.config.admin ∧
    ∀ q env info st' r, execute q env st info .acceptAdmin = .ok (st', r) →
      st'.config.admin = info.sender ∧
      (sharesOf st' info.sender).val = (sharesOf st st.config.admin).val + (sharesOf st info.sender).val ∧
      sharesOf st' st.config.admin = 0 ∧
      (∀ holder, holder ≠ st.config.admin → holder ≠ info.sender → sharesOf st' holder = sharesOf st holder) ∧
      st'.totalShares = st.totalShares := by
  obtain ⟨hsum, hapart⟩ := Reachable.balanced h
  refine ⟨hsum, hapart, ?_⟩
  intro q env info st' r haccept
  obtain ⟨hpending, hmoved, hledger⟩ := executeAcceptAdmin_moved haccept
  have hne : info.sender ≠ st.config.admin := by
    intro heq
    rw [heq] at hpending
    exact hapart hpending
  obtain ⟨htarget, hsource, hothers⟩ := hmoved.held hne
  have hheld : ∀ holder, weight st'.shares Uint.val holder = (sharesOf st' holder).val := held_ledgerOf st'
  rw [hheld, held_ledgerOf, held_ledgerOf] at htarget
  rw [hheld] at hsource
  refine ⟨congrArg Ledger.admin hledger, htarget.trans (Nat.add_comm _ _), Uint.ext hsource, ?_,
    congrArg Ledger.totalShares hledger⟩
  intro holder hadmin hsender
  have hsame := hothers holder hadmin hsender
  rw [hheld, held_ledgerOf] at hsame
  exact Uint.ext hsame

def proposing : Result Storage := do
  let chain := fixedChain ![⟨10, by decide⟩, 0] .one 0
  let (st, _) ← instantiate chain ⟨"admin", []⟩ (fixedMsg .one ⟨⟨2 * 10 ^ 18, by decide⟩⟩ 10)
  play st [.executed chain ⟨0, 0, "vault"⟩ ⟨"token0", []⟩ (.receive ⟨"admin", ⟨10, by decide⟩, some .deposit⟩),
    .executed chain ⟨0, 0, "vault"⟩ ⟨"admin", []⟩ (.transferAdmin "heir")]

theorem heir_takes_over : ∃ st st' r, proposing = .ok st ∧
    execute (fixedChain 0 .one 0) ⟨0, 0, "vault"⟩ st ⟨"heir", []⟩ .acceptAdmin = .ok (st', r) ∧
    total st.shares Uint.val = 10 ∧ (sharesOf st' "heir").val = 10 ∧ sharesOf st' "admin" = 0 := by
  have hruns : okAnd proposing (fun st => decide (st.config.admin = "admin" ∧ st.totalShares.val = 10 ∧
      (sharesOf st "admin").val = 10 ∧ (sharesOf st "heir").val = 0) &&
      okAnd (execute (fixedChain 0 .one 0) ⟨0, 0, "vault"⟩ st ⟨"heir", []⟩ .acceptAdmin) fun _ => true) = true := by
    decide
  obtain ⟨st, hst, hchecked⟩ := okAnd_iff.mp hruns
  rw [Bool.and_eq_true, decide_eq_true_eq, okAnd_iff] at hchecked
  obtain ⟨⟨hadmin, htotal, hold, hnew⟩, ⟨st', r⟩, haccept, -⟩ := hchecked
  have hreach : Reachable st := by
    simp only [proposing, bind_eq_ok, Prod.exists] at hst
    obtain ⟨st₀, r₀, hfresh, hplay⟩ := hst
    exact play_reachable (.instantiated hfresh) hplay
  obtain ⟨hsum, -, haccepts⟩ := shares_add_up hreach
  obtain ⟨-, htarget, hsource, -⟩ := haccepts _ _ _ _ _ haccept
  rw [hadmin] at htarget hsource
  refine ⟨st, st', r, hst, haccept, hsum.trans htotal, ?_, hsource⟩
  rw [htarget, hold, hnew]

end Runs

end Cl8yDexBots.MarketGrid.ShareLedger
