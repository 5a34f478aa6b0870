import Cl8yDexBots.LimitGrid.EntryEffects

/-! How a reply resolves the page or the placement it belongs to. -/

namespace Cl8yDexBots.LimitGrid.Resolutions

open Std Foundation.Checked Foundation.Words Foundation.SubMessages Foundation.StorageMap
open CosmWasm.Std
open State Orders Effects

variable {q : Querier} {env : Env} {st st' : Storage}

def refunds (i : Fin 2) (entries : List PendingPageEntry) : ℕ :=
  (entries.map fun e => if e.tokenIndex = i then e.refund.val else 0).sum

@[simp] lemma refunds_nil (i : Fin 2) : refunds i [] = 0 := rfl

lemma refunds_cons (i : Fin 2) (e : PendingPageEntry) (entries : List PendingPageEntry) :
    refunds i (e :: entries) = (if e.tokenIndex = i then e.refund.val else 0) + refunds i entries := by
  simp [refunds]

/-- A confirmed page untracks its orders and credits each refund to the token of its side. -/
structure Confirmed (entries : List PendingPageEntry) (s s' : Settled) : Prop where
  untracked : ∀ k ∈ entries.map PendingPageEntry.orderId, s'.orders[k]? = none
  others : ∀ k, k ∉ entries.map PendingPageEntry.orderId → s'.orders[k]? = s.orders[k]?
  size : s'.orders.size + entries.length = s.orders.size
  credited : ∀ i, (s'.freeBalances i).val = (s.freeBalances i).val + refunds i entries
  cancelled : ∀ k, s'.cancelledOrders[k]? ≠ none →
    s.cancelledOrders[k]? ≠ none ∨ k ∈ entries.map PendingPageEntry.orderId

lemma retire_lookup {kind : PageKind} {height : ℕ} {s : Settled} {e : PendingPageEntry} {k : ℕ}
    (h : (retire kind height s e)[k]? ≠ none) : s.cancelledOrders[k]? ≠ none ∨ k = e.orderId := by
  simp only [retire] at h
  split at h
  · rw [lookup_insert] at h
    split at h
    · exact .inr (Eq.symm ‹_›)
    · exact .inl h
  · exact .inl h

lemma confirmEntries_spec {kind : PageKind} {height : ℕ} {entries : List PendingPageEntry}
    {s s' : Settled} (distinct : (entries.map PendingPageEntry.orderId).Nodup)
    (tracked : ∀ e ∈ entries, ∃ order, s.orders[e.orderId]? = some order)
    (h : foldChecked (confirmEntry kind height) s entries = .ok s') : Confirmed entries s s' := by
  induction entries generalizing s with
  | nil =>
    cases h
    exact ⟨by simp, fun k _ => rfl, rfl, fun i => rfl, fun k hk => .inl hk⟩
  | cons e rest ih =>
    simp only [foldChecked, confirmEntry, bind_eq_ok, checkedAdd_eq_ok, Except.ok.injEq] at h
    obtain ⟨s₁, ⟨free, hfree, rfl⟩, h⟩ := h
    rw [List.map_cons, List.nodup_cons] at distinct
    obtain ⟨order, horder⟩ := tracked e List.mem_cons_self
    have hsize := size_erase_old horder
    have htracked : ∀ d ∈ rest, ∃ order, (s.orders.erase e.orderId)[d.orderId]? = some order := by
      intro d hd
      have hne : e.orderId ≠ d.orderId := fun heq => distinct.1 (heq ▸ List.mem_map_of_mem hd)
      obtain ⟨order, h⟩ := tracked d (List.mem_cons_of_mem _ hd)
      exact ⟨order, by rw [lookup_erase, if_neg hne, h]⟩
    have hrest := ih distinct.2 htracked h
    refine ⟨?_, ?_, ?_, ?_, ?_⟩
    · intro k hk
      by_cases hmem : k ∈ rest.map PendingPageEntry.orderId
      · exact hrest.untracked k hmem
      · obtain rfl : k = e.orderId := by
          rcases List.mem_cons.mp hk with hk | hk
          · exact hk
          · exact absurd hk hmem
        rw [hrest.others _ hmem]
        simp
    · intro k hk
      rw [List.map_cons, List.mem_cons, not_or] at hk
      rw [hrest.others k hk.2, lookup_erase, if_neg (Ne.symm hk.1)]
    · have := hrest.size
      simp only [List.length_cons] at this ⊢
      omega
    · intro i
      rw [hrest.credited i, refunds_cons]
      by_cases hi : e.tokenIndex = i
      · subst hi
        simp only [Function.update_self, if_true]
        omega
      · simp [Function.update_of_ne (Ne.symm hi), hi]
    · intro k hk
      rw [List.map_cons, List.mem_cons]
      rcases hrest.cancelled k hk with hk | hk
      · rcases retire_lookup hk with hk | hk
        · exact .inl hk
        · exact .inr (.inl hk)
      · exact .inr (.inr hk)

structure Recorded (q : Querier) (env : Env) (pair : Addr) (side : LimitOrderSide) (ids : List ℕ)
    (orders orders' : ExtTreeMap ℕ GridOrder) : Prop where
  distinct : ids.Nodup
  fresh : ∀ k ∈ ids, orders[k]? = none
  others : ∀ k, k ∉ ids → orders'[k]? = orders[k]?
  size : orders'.size = orders.size + ids.length
  recorded : ∀ k ∈ ids, ∃ order onChain, orders'[k]? = some order ∧ q.limitOrder pair k = .ok onChain ∧
    onChain.owner = env.contract ∧ order.side = onChain.side ∧ order.price = onChain.price ∧
    order.remaining = onChain.remaining

lemma recordOrders_spec {rungs : ExtTreeMap ℕ Rung} {pair : Addr} {side : LimitOrderSide}
    {placed : List (ℕ × ℕ × Uint128)} {orders orders' : ExtTreeMap ℕ GridOrder}
    (h : foldChecked (recordOrder q env rungs pair side) orders placed = .ok orders') :
    Recorded q env pair side (placed.map Prod.fst) orders orders' := by
  induction placed generalizing orders with
  | nil =>
    cases h
    exact ⟨by simp, by simp, fun k _ => rfl, rfl, by simp⟩
  | cons p rest ih =>
    obtain ⟨id, rungIndex, gross⟩ := p
    simp only [foldChecked, recordOrder, bind_eq_ok, ensure_eq_ok, exists_const, liftStd_eq_ok,
      decide_eq_true_eq, Except.ok.injEq] at h
    obtain ⟨orders₁, ⟨hfresh, onChain, hbook, rung, -, hvalid, rfl⟩, h⟩ := h
    have hnone : orders[id]? = none := Option.isNone_iff_eq_none.mp hfresh
    have hrest := ih h
    have hid : id ∉ rest.map Prod.fst := by
      intro hmem
      have := hrest.fresh id hmem
      simp at this
    refine ⟨List.nodup_cons.mpr ⟨hid, hrest.distinct⟩, ?_, ?_, ?_, ?_⟩
    · intro k hk
      rcases List.mem_cons.mp hk with rfl | hk
      · exact hnone
      · have hne : id ≠ k := fun heq => hid (heq ▸ hk)
        have := hrest.fresh k hk
        rwa [lookup_insert, if_neg hne] at this
    · intro k hk
      rw [List.map_cons, List.mem_cons, not_or] at hk
      rw [hrest.others k hk.2, lookup_insert, if_neg (Ne.symm hk.1)]
    · have hsize := hrest.size
      rw [size_insert_new hnone] at hsize
      simp only [List.map_cons, List.length_cons] at hsize ⊢
      omega
    · intro k hk
      by_cases hmem : k ∈ rest.map Prod.fst
      · exact hrest.recorded k hmem
      · obtain rfl : k = id := by
          rcases List.mem_cons.mp hk with hk | hk
          · exact hk
          · exact absurd hk hmem
        refine ⟨⟨rungIndex, side, onChain.price, onChain.remaining⟩, onChain, ?_, hbook, hvalid.1,
          hvalid.2.1.symm, rfl, rfl⟩
        rw [hrest.others _ hmem, lookup_insert, if_pos rfl]

inductive Resolution (q : Querier) (env : Env) (id : ℕ) :
    Except String (List (String × String)) → Storage → Storage → Prop
  | reverted {st reason page} (h : st.pendingPages[id]? = some page) :
      Resolution q env id (.error reason) st { st with pendingPages := st.pendingPages.erase id }
  | confirmed {st attributes page bot s} (h : st.pendingPages[id]? = some page)
      (hbot : st.bot = some bot)
      (settled : foldChecked (confirmEntry page.kind env.blockHeight)
        ⟨bot.freeBalances, st.orders, st.cancelledOrders⟩ page.entries = .ok s)
      (counted : page.entries.length ≤ bot.activeOrders) :
      Resolution q env id (.ok attributes) st { st with
        bot := some { bot with
          freeBalances := s.freeBalances
          activeOrders := bot.activeOrders - page.entries.length }
        orders := s.orders
        cancelledOrders := s.cancelledOrders
        pendingPages := st.pendingPages.erase id }
  | restored {st result plan bot} {amount free : Uint128} (no_page : st.pendingPages[id]? = none)
      (h : st.placements[id]? = some plan) (hbot : st.bot = some bot) (single : plan.rungs.length = 1)
      (gross : plan.grossAmounts.head? = some amount) (counted : 1 ≤ bot.activeOrders)
      (credit : free.val = (bot.freeBalances plan.side.tokenIndex).val + amount.val)
      (nothing : ∀ attributes, result = .ok attributes → placedIds attributes = .ok []) :
      Resolution q env id result st { st with
        bot := some { bot.setFree plan.side.tokenIndex free with
          activeOrders := bot.activeOrders - 1 }
        placements := st.placements.erase id }
  | recorded {st attributes plan bot ids orders} (no_page : st.pendingPages[id]? = none)
      (h : st.placements[id]? = some plan) (hbot : st.bot = some bot)
      (placed : placedIds attributes = .ok ids) (all : ids.length = plan.rungs.length)
      (checked : foldChecked (recordOrder q env st.rungs bot.pair plan.side) st.orders
        (ids.zip (plan.rungs.zip plan.grossAmounts)) = .ok orders) :
      Resolution q env id (.ok attributes) st { st with
        orders, placements := st.placements.erase id }

theorem reply_resolution {id : ℕ} {result : Except String (List (String × String))}
    {r : Response CosmosMsg} (h : reply q env st id result = .ok (st', r)) :
    r.messages = [] ∧ Resolution q env id result st st' := by
  rw [reply] at h
  split at h
  · rename_i page hpage
    simp only [handlePendingPage] at h
    cases result with
    | error reason =>
      cases h
      exact ⟨rfl, .reverted hpage⟩
    | ok attributes =>
      simp only [confirmPage, bind_eq_ok, loadBot_eq_ok, ensure_eq_ok, exists_const, decide_eq_true_eq,
        Except.ok.injEq, Prod.mk.injEq] at h
      obtain ⟨st₁, ⟨bot, ⟨-, hbot⟩, s, hs, hcount, rfl⟩, rfl, rfl⟩ := h
      exact ⟨rfl, .confirmed hpage hbot hs hcount⟩
  · rename_i hnone
    have restore : ∀ {plan reason}, restoreSinglePlacement st id plan reason = .ok (st', r) →
        st.placements[id]? = some plan → plan.rungs.length = 1 →
        (∀ attributes, result = .ok attributes → placedIds attributes = .ok []) →
        r.messages = [] ∧ Resolution q env id result st st' := by
      intro plan reason h hplan hsingle hnothing
      simp only [restoreSinglePlacement, bind_eq_ok, orError_eq_ok, loadBot_eq_ok, checkedAdd_eq_ok,
        ensure_eq_ok, exists_const, decide_eq_true_eq, Except.ok.injEq, Prod.mk.injEq] at h
      obtain ⟨amount, hamount, bot, ⟨-, hbot⟩, free, hfree, hcount, rfl, rfl⟩ := h
      exact ⟨rfl, .restored hnone hplan hbot hsingle hamount hcount hfree hnothing⟩
    simp only [bind_eq_ok, orError_eq_ok] at h
    obtain ⟨plan, hplan, h⟩ := h
    simp only [replyToPlacement] at h
    cases result with
    | error reason =>
      dsimp only at h
      split at h
      · exact restore h hplan ‹_› (by simp)
      · cases h
    | ok attributes =>
      simp only [bind_eq_ok] at h
      obtain ⟨ids, hids, h⟩ := h
      split at h
      · rename_i hskip
        refine restore h hplan hskip.2 ?_
        rintro _ ⟨⟩
        rw [hids, hskip.1]
      · simp only [recordPlacement, bind_eq_ok, loadBot_eq_ok, ensure_eq_ok, exists_const,
          decide_eq_true_eq, Except.ok.injEq, Prod.mk.injEq] at h
        obtain ⟨hall, bot, ⟨-, hbot⟩, orders, horders, rfl, rfl⟩ := h
        exact ⟨rfl, .recorded hnone hplan hbot hids hall horders⟩

end Cl8yDexBots.LimitGrid.Resolutions
