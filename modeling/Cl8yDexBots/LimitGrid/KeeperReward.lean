import Cl8yDexBots.LimitGrid.Reconciliation
import Cl8yDexBots.LimitGrid.OrderBook

/-! When the keeper is paid for a reconciliation, and what the reconciliation has changed by then. -/

namespace Cl8yDexBots.LimitGrid.KeeperReward

open Std Foundation.Checked Foundation.Words Foundation.SubMessages Foundation.StorageMap CosmWasm.Std
open State Vault Transactions Effects PendingMessages Deliveries Pages Reconciliation

variable {W : Type} {C : Chain W} {st st' : Storage} {w w' : W} {info : MessageInfo} {ids : List ℕ}
  {log : Log}

def freeBalances (st : Storage) : Option (Fin 2 → Uint128) := st.bot.map Bot.freeBalances

def gasCredit (st : Storage) : Option Uint128 := st.bot.map Bot.gasCredit

def Unproductive (st st' : Storage) : Prop :=
  st'.orders = st.orders ∧ freeBalances st' = freeBalances st

instance : Decidable (Unproductive st st') := inferInstanceAs (Decidable (_ ∧ _))

def Unpaid (st st' : Storage) (log : Log) : Prop :=
  gasCredit st' = gasCredit st ∧ ¬ paysReward (log.map Prod.fst)

/-- Settling an order of this status needs no page: it is dropped, or less of it is recorded. -/
def SettlesAlone (order : GridOrder) (status : OrderStatus) : Prop :=
  (status.terminal = true ∧ isZero status.parkedRefund = true) ∨
    ∃ remaining, status = .active remaining ∧ remaining ≠ order.remaining

def Productive (C : Chain W) (st : Storage) (w : W) (ids : List ℕ) (log : Log) : Prop :=
  ∃ bot, st.bot = some bot ∧
    ((∃ i live, (C.querier w).balance (bot.assetTokens i) C.vault = .ok live ∧ live ≠ bot.freeBalances i) ∨
      (∃ id ∈ ids, ∃ order status, st.orders[id]? = some order ∧
        orderStatus (C.querier w) (C.env w) st bot.pair id order = .ok status ∧
        SettlesAlone order status) ∨
      ∃ id, Accepted log id)

lemma unproductive_of_quiet {st₁ : Storage} {bot bot₁ : Bot} {sweep : Sweep}
    (h : Reconciled (C.querier w) (C.env w) st info ids st₁ (log.map Prod.fst) bot bot₁ sweep)
    (hs : Settles log st₁ st') (quiet : ¬ Productive C st w ids log) : Unproductive st st' := by
  have hbalances : bot₁.freeBalances = bot.freeBalances := by
    funext i
    by_contra hne
    exact quiet ⟨bot, h.before, .inl ⟨i, _, (h.live i).1, hne⟩⟩
  have hpages : ∀ id, ¬ Accepted log id := by
    intro id hid
    exact quiet ⟨bot, h.before, .inr (.inr ⟨id, hid⟩)⟩
  constructor
  · apply ExtTreeMap.ext_getElem?
    intro id
    rw [hs.kept id (hpages id), h.orders]
    by_cases hid : id ∈ ids
    · obtain ⟨order, status, horder, hstatus, hswept⟩ := h.loop.batch id hid
      have hrest : ¬ SettlesAlone order status := by
        intro halone
        exact quiet ⟨bot, h.before, .inr (.inl ⟨id, hid, order, status, horder, hstatus, halone⟩)⟩
      cases hswept with
      | queued owed tracked claim => exact tracked.trans horder.symm
      | dropped terminal nothing untracked => exact absurd (.inl ⟨terminal, nothing⟩) hrest
      | @recorded remaining some_left tracked =>
        have hsame : remaining = order.remaining := by
          by_contra hne
          exact hrest (.inr ⟨remaining, rfl, hne⟩)
        rw [hsame] at tracked
        exact tracked.trans horder.symm
    · exact h.loop.others id hid
  · obtain ⟨free, active, hbot', -, hsame⟩ := hs.bot bot₁ h.after
    have hfree : free = bot.freeBalances := (hsame hpages).trans hbalances
    simp only [freeBalances, hbot', h.before, hfree, Option.map_some]

lemma quiet_of_unproductive {st₁ : Storage} {bot bot₁ : Bot} {sweep : Sweep}
    (h : Reconciled (C.querier w) (C.env w) st info ids st₁ (log.map Prod.fst) bot bot₁ sweep)
    (hs : Settles log st₁ st') (idle : Unproductive st st') : ¬ Productive C st w ids log := by
  obtain ⟨horders, hfree⟩ := idle
  rintro ⟨bot', hbot', hchange⟩
  obtain rfl := Option.some.inj (h.before.symm.trans hbot')
  have hpages : ∀ id, ¬ Accepted log id := by
    intro id hid
    have hmem := hid
    obtain ⟨m, r, hmem, hpage⟩ := hmem
    obtain ⟨-, order, refund, horder, -⟩ := h.claimed (List.mem_map_of_mem hmem) hpage
    have hgone := hs.retired id hid
    rw [horders, horder] at hgone
    cases hgone
  have hkept : ∀ id : ℕ, sweep.orders[id]? = st.orders[id]? := by
    intro id
    rw [← h.orders, ← hs.kept id (hpages id), horders]
  rcases hchange with ⟨i, live, hlive, hne⟩ | ⟨id, hid, order, status, horder, hstatus, halone⟩ | ⟨id, hid⟩
  · obtain ⟨free, active, hbot', -, hsame⟩ := hs.bot bot₁ h.after
    have hsame := hsame hpages
    simp only [freeBalances, hbot', h.before, Option.map_some, Option.some.injEq] at hfree
    have hbalance := (h.live i).1
    rw [← hsame, hfree] at hbalance
    exact hne (Except.ok.inj (hlive.symm.trans hbalance))
  · obtain ⟨order', status', horder', hstatus', hswept⟩ := h.loop.batch id hid
    obtain rfl := Option.some.inj (horder.symm.trans horder')
    obtain rfl := Except.ok.inj (hstatus.symm.trans hstatus')
    cases hswept with
    | queued owed tracked claim =>
      rcases halone with ⟨-, hzero⟩ | ⟨remaining, h, -⟩
      · exact owed (isZero_iff.mp hzero)
      · cases h
    | dropped terminal nothing untracked =>
      rw [hkept, horder] at untracked
      cases untracked
    | @recorded remaining some_left tracked =>
      rcases halone with ⟨hterminal, -⟩ | ⟨_, hactive, hne⟩
      · exact some_left (isZero_iff.mp hterminal)
      · cases hactive
        rw [hkept, horder] at tracked
        have hsame := congrArg (Option.map GridOrder.remaining) tracked
        exact hne (Option.some.inj hsame).symm
  · exact hpages id hid

/-- A reconciliation by the keeper is paid for nothing unless it was bound to change something. -/
theorem reward_earned_iff (h : Reachable C st w) (keeper : info.sender = st.config.keeper)
    (tx : Tx C st w info (.reconcile BOT_ID ids) log st' w') :
    (Unproductive st st' → Unpaid st st' log) ↔ Productive C st w ids log := by
  have hp := (reachable_invariant (J := fun _ _ _ => True) (fun _ _ => trivial) (fun _ _ _ => trivial)
    (fun _ _ _ => trivial) (fun _ _ _ => trivial) h).1
  obtain ⟨-, st₁, bot, bot₁, sweep, hspec, hsettles⟩ := reconcile_tx hp tx
  constructor
  · intro hfair
    by_contra hquiet
    obtain ⟨-, hnobody⟩ := hfair (unproductive_of_quiet hspec hsettles hquiet)
    exact hnobody (hspec.rewarded keeper).2
  · intro hproductive hidle
    exact absurd hproductive (quiet_of_unproductive hspec hsettles hidle)

theorem reward_earned_iff_claimed : ∃ st w st' w' log, OrderBook.scenario [.expired 0] = .ok (st, w) ∧
    OrderBook.transact st w OrderBook.keeper (.reconcile BOT_ID [0]) = .ok (st', w', log) ∧
    ((Unproductive st st' → Unpaid st st' log) ↔ Productive OrderBook.chain st w [0] log) := by
  have hruns : okAnd (OrderBook.scenario [.expired 0]) (fun r =>
      decide (OrderBook.keeper.sender = r.1.config.keeper) &&
        okAnd (OrderBook.transact r.1 r.2 OrderBook.keeper (.reconcile BOT_ID [0])) fun _ => true) = true := by
    decide
  obtain ⟨⟨st, w⟩, hbefore, htests⟩ := okAnd_iff.mp hruns
  simp only [Bool.and_eq_true, okAnd_iff, decide_eq_true_eq, and_true] at htests
  obtain ⟨hkeeper, ⟨st', w', log⟩, htx⟩ := htests
  exact ⟨st, w, st', w', log, hbefore, htx,
    reward_earned_iff (OrderBook.scenario_reachable hbefore) hkeeper (OrderBook.transact_tx htx)⟩

/-- While the pair is paused, each call on a parked order costs the bot a reward and changes nothing. -/
theorem paused_pair_drains_gas : ∃ st w st₁ w₁ log₁ st₂ w₂ log₂,
    OrderBook.scenario [.expired 0, .configured 10 true] = .ok (st, w) ∧ Reachable OrderBook.chain st w ∧
    Tx OrderBook.chain st w OrderBook.keeper (.reconcile BOT_ID [0]) log₁ st₁ w₁ ∧
    Tx OrderBook.chain st₁ w₁ OrderBook.keeper (.reconcile BOT_ID [0]) log₂ st₂ w₂ ∧
    Unproductive st st₁ ∧ Unproductive st₁ st₂ ∧ gasCredit st = some (u128 100) ∧
    gasCredit st₁ = some (u128 95) ∧ gasCredit st₂ = some (u128 90) ∧
    ¬ (Unproductive st st₁ → Unpaid st st₁ log₁) := by
  have hruns : okAnd (OrderBook.scenario [.expired 0, .configured 10 true]) (fun r =>
      okAnd (OrderBook.transact r.1 r.2 OrderBook.keeper (.reconcile BOT_ID [0])) fun r₁ =>
        okAnd (OrderBook.transact r₁.1 r₁.2.1 OrderBook.keeper (.reconcile BOT_ID [0])) fun r₂ =>
          decide (Unproductive r.1 r₁.1 ∧ Unproductive r₁.1 r₂.1 ∧
            gasCredit r.1 = some (u128 100) ∧ gasCredit r₁.1 = some (u128 95) ∧
            gasCredit r₂.1 = some (u128 90))) = true := by
    decide
  obtain ⟨⟨st, w⟩, hbefore, htests⟩ := okAnd_iff.mp hruns
  simp only [okAnd_iff, decide_eq_true_eq] at htests
  obtain ⟨⟨st₁, w₁, log₁⟩, htx₁, ⟨st₂, w₂, log₂⟩, htx₂, hidle₁, hidle₂, hgas, hgas₁, hgas₂⟩ := htests
  refine ⟨st, w, st₁, w₁, log₁, st₂, w₂, log₂, hbefore, OrderBook.scenario_reachable hbefore,
    OrderBook.transact_tx htx₁, OrderBook.transact_tx htx₂, hidle₁, hidle₂, hgas, hgas₁, hgas₂, ?_⟩
  intro hfair
  have hsame := (hfair hidle₁).1
  rw [hgas₁, hgas] at hsame
  revert hsame
  decide

end Cl8yDexBots.LimitGrid.KeeperReward
