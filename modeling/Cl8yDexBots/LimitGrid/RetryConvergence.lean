import Cl8yDexBots.LimitGrid.Reconciliation
import Cl8yDexBots.LimitGrid.OrderBook

/-! The operator sends a frozen batch of orders again after a page has reverted. -/

namespace Cl8yDexBots.LimitGrid.RetryConvergence

open Std Foundation.Checked Foundation.Words Foundation.SubMessages Foundation.StorageMap CosmWasm.Std
open State Vault Transactions Effects Deliveries Pages Reconciliation

variable {W : Type}

variable {C : Chain W} {st st₀ st' : Storage} {w w₀ w' : W} {info : MessageInfo} {ids : List ℕ} {log : Log}

/-- A batch as the operator freezes it: distinct orders that the vault then tracks. -/
structure Batch (st₀ : Storage) where
  orderIds : List ℕ
  distinct : orderIds.Nodup
  tracked : ∀ id ∈ orderIds, id ∈ st₀.orders

def Takes (C : Chain W) (st : Storage) (w : W) (info : MessageInfo) (ids : List ℕ) : Prop :=
  ∃ result, execute (C.querier w) (C.env w) st info (.reconcile BOT_ID ids) = .ok result

def stillTracked (st : Storage) (ids : List ℕ) : List ℕ := ids.filter fun id => st.orders.contains id

def SettledAt (q : Querier) (env : Env) (st : Storage) (id : ℕ) (st' : Storage) : Prop :=
  st'.orders[id]? = none ∨ ∃ bot order remaining, st.bot = some bot ∧ st.orders[id]? = some order ∧
    OnBook q env bot.pair id order.side order.price remaining ∧
    st'.orders[id]? = some { order with remaining }

def Converges (C : Chain W) (st : Storage) (w : W) (info : MessageInfo) (ids : List ℕ) : Prop :=
  Takes C st w info ids ∧ ∀ log st' w', Tx C st w info (.reconcile BOT_ID ids) log st' w' →
    (∀ m o, (m, o) ∈ log → isPage m.msg → ∃ r, o = .ok r) →
    ∀ id ∈ ids, id ∈ st.orders → SettledAt (C.querier w) (C.env w) st id st'

lemma tracked_of_takes (h : Takes C st w info ids) : ∀ id ∈ ids, id ∈ st.orders := by
  obtain ⟨⟨st', r⟩, hexec⟩ := h
  obtain ⟨-, bot, bot', sweep, hspec⟩ := executeReconcile_spec hexec
  intro id hid
  obtain ⟨order, status, horder, -⟩ := hspec.loop.batch id hid
  exact mem_iff_exists.mpr ⟨order, horder⟩

lemma settled_of_accepted (h : Reachable C st w) (tx : Tx C st w info (.reconcile BOT_ID ids) log st' w')
    (all : ∀ m o, (m, o) ∈ log → isPage m.msg → ∃ r, o = .ok r) :
    ∀ id ∈ ids, SettledAt (C.querier w) (C.env w) st id st' := by
  have hp := (reachable_invariant (J := fun _ _ _ => True) (fun _ _ => trivial) (fun _ _ _ => trivial)
    (fun _ _ _ => trivial) (fun _ _ _ => trivial) h).1
  obtain ⟨-, st₁, bot, bot₁, sweep, hspec, hsettles⟩ := reconcile_tx hp tx
  intro id hid
  obtain ⟨order, status, horder, hstatus, hswept⟩ := hspec.loop.batch id hid
  by_cases haccepted : Accepted log id
  · exact .inl (hsettles.retired id haccepted)
  · have hkept := hsettles.kept id haccepted
    rw [hspec.orders] at hkept
    cases hswept with
    | queued owed tracked claim =>
      obtain ⟨m, hm, hpage⟩ := (hspec.claims id).mpr (List.mem_map_of_mem claim)
      exact absurd (accepted_of_all rfl all hm hpage) haccepted
    | dropped terminal nothing untracked =>
      rw [untracked] at hkept
      exact .inl hkept
    | @recorded remaining some_left tracked =>
      rw [tracked] at hkept
      rcases orderStatus_spec hstatus with ⟨_, h, -, hbook⟩ | ⟨_, h, -⟩ | ⟨h | h, -⟩
      · cases h
        exact .inr ⟨bot, order, remaining, hspec.before, horder, hbook, hkept⟩
      · cases h
      · cases h
      · cases h

/-- A retry converges exactly when nothing of the batch has been retired since it was frozen. -/
theorem retry_converges_iff (frozen : Reachable C st₀ w₀) (batch : Batch st₀)
    (later : Later C st₀ w₀ st w) (rest : Takes C st w info (stillTracked st batch.orderIds)) :
    Converges C st w info batch.orderIds ↔ ∀ id ∈ batch.orderIds, id ∈ st.orders := by
  constructor
  · intro h
    exact tracked_of_takes h.1
  · intro h
    have hall : stillTracked st batch.orderIds = batch.orderIds := by
      apply List.filter_eq_self.mpr
      intro id hid
      exact ExtTreeMap.mem_iff_contains.mp (h id hid)
    rw [hall] at rest
    refine ⟨rest, fun log st' w' tx all id hid _ => ?_⟩
    exact settled_of_accepted (later.reachable frozen) tx all id hid

def freezing : List OrderBook.Event :=
  [.filled 0 .closed 0 ![0, 625000], .expired 1, .configured 10 true]

theorem retry_converges_iff_untouched : ∃ st₀ w₀ st w, OrderBook.scenario freezing = .ok (st₀, w₀) ∧
    OrderBook.play st₀ w₀ [.configured 10 false] = .ok (st, w) ∧
    (Converges OrderBook.chain st w OrderBook.keeper [0, 1] ↔ ∀ id ∈ [0, 1], id ∈ st.orders) := by
  have hruns : okAnd (OrderBook.scenario freezing) (fun r₀ =>
      r₀.1.orders.contains 0 && r₀.1.orders.contains 1 &&
        okAnd (OrderBook.play r₀.1 r₀.2 [.configured 10 false]) fun r =>
          okAnd (execute (OrderBook.querier r.2) (OrderBook.chain.env r.2) r.1 OrderBook.keeper
            (.reconcile BOT_ID (stillTracked r.1 [0, 1]))) fun _ => true) = true := by
    decide
  obtain ⟨⟨st₀, w₀⟩, hfrozen, htests⟩ := okAnd_iff.mp hruns
  simp only [Bool.and_eq_true, okAnd_iff, and_true] at htests
  obtain ⟨⟨htracked₀, htracked₁⟩, ⟨st, w⟩, hlater, hrest⟩ := htests
  refine ⟨st₀, w₀, st, w, hfrozen, hlater, ?_⟩
  refine retry_converges_iff (OrderBook.scenario_reachable hfrozen) ⟨[0, 1], by decide, ?_⟩
    (OrderBook.play_later .now hlater) hrest
  intro id hid
  rcases List.mem_pair.mp hid with rfl | rfl
  · exact ExtTreeMap.mem_iff_contains.mpr htracked₀
  · exact ExtTreeMap.mem_iff_contains.mpr htracked₁

def retrying : List OrderBook.Event := [.sent OrderBook.keeper (.reconcile BOT_ID [0, 1]), .configured 10 false]

/-- The filled order was retired, so the batch is never taken again, and the refund stays parked. -/
theorem retry_rejected_after_retirement : ∃ st₀ w₀ st w, OrderBook.scenario freezing = .ok (st₀, w₀) ∧
    (∀ id ∈ [0, 1], id ∈ st₀.orders) ∧ OrderBook.play st₀ w₀ retrying = .ok (st, w) ∧
    Reachable OrderBook.chain st₀ w₀ ∧ Later OrderBook.chain st₀ w₀ st w ∧
    Takes OrderBook.chain st w OrderBook.keeper (stillTracked st [0, 1]) ∧ 1 ∈ st.orders ∧
    (OrderBook.querier w).expiredLimitRefund "pair" 1 =
      .ok (some ⟨1, "vault", .ask, u128 500000⟩) ∧
    execute (OrderBook.querier w) (OrderBook.chain.env w) st OrderBook.keeper (.reconcile BOT_ID [0, 1]) =
      .error (.std (.notFound "order")) ∧
    ¬ Converges OrderBook.chain st w OrderBook.keeper [0, 1] := by
  have hruns : okAnd (OrderBook.scenario freezing) (fun r₀ =>
      r₀.1.orders.contains 0 && r₀.1.orders.contains 1 &&
        okAnd (OrderBook.play r₀.1 r₀.2 retrying) fun r =>
          okAnd (execute (OrderBook.querier r.2) (OrderBook.chain.env r.2) r.1 OrderBook.keeper
            (.reconcile BOT_ID (stillTracked r.1 [0, 1]))) (fun _ => true) &&
          r.1.orders.contains 1 &&
          decide (OrderBook.parkedEntry r.2.slots "pair" 1 =
            some ⟨1, "vault", .ask, u128 500000⟩) &&
          failsWith (execute (OrderBook.querier r.2) (OrderBook.chain.env r.2) r.1 OrderBook.keeper
            (.reconcile BOT_ID [0, 1])) (.std (.notFound "order"))) = true := by
    decide
  obtain ⟨⟨st₀, w₀⟩, hfrozen, htests⟩ := okAnd_iff.mp hruns
  simp only [Bool.and_eq_true, okAnd_iff, failsWith_iff, decide_eq_true_eq, and_true] at htests
  obtain ⟨⟨htracked₀, htracked₁⟩, ⟨st, w⟩, hretried, ⟨⟨hrest, htracked⟩, hparked⟩, hfails⟩ := htests
  refine ⟨st₀, w₀, st, w, hfrozen, ?_, hretried, OrderBook.scenario_reachable hfrozen,
    OrderBook.play_later .now hretried, hrest, ExtTreeMap.mem_iff_contains.mpr htracked,
    congrArg Except.ok hparked, hfails, ?_⟩
  · intro id hid
    rcases List.mem_pair.mp hid with rfl | rfl
    · exact ExtTreeMap.mem_iff_contains.mpr htracked₀
    · exact ExtTreeMap.mem_iff_contains.mpr htracked₁
  · rintro ⟨⟨result, htaken⟩, -⟩
    have hfails : execute (OrderBook.chain.querier w) (OrderBook.chain.env w) st OrderBook.keeper
      (.reconcile BOT_ID [0, 1]) = _ := hfails
    rw [hfails] at htaken
    cases htaken

end Cl8yDexBots.LimitGrid.RetryConvergence
