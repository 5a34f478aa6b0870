import Cl8yDexBots.LimitGrid.Reconciliation

/-! The pages of an emergency cancel, and when it can be executed. -/

namespace Cl8yDexBots.LimitGrid.EmergencyPages

open Std Foundation.Checked Foundation.Words Foundation.SubMessages Foundation.Chunks
open Foundation.StorageMap CosmWasm.Std
open State Orders Vault Transactions Effects EntryEffects Reconciliation

variable {q : Querier} {env : Env} {st st' : Storage} {info : MessageInfo}

def Live (q : Querier) (env : Env) (pair : Addr) (id : ℕ) (order : GridOrder) : Prop :=
  (∃ remaining : Uint128, remaining.val ≠ 0 ∧ remaining ≤ order.remaining ∧
    OnBook q env pair id order.side order.price remaining) ∨
  ∃ refund : Uint128, refund.val ≠ 0 ∧ refund ≤ order.remaining ∧ Parked q env pair id order.side refund

def Executed (q : Querier) (st : Storage) (pair : Addr) (id : ℕ) : Prop :=
  OffBook q pair id ∧ q.expiredLimitRefund pair id = .ok none ∧ st.cancelledOrders[id]? = none

lemma emergencyEntry_of_live {pair : Addr} {tracked : ℕ × GridOrder}
    (h : Live q env pair tracked.1 tracked.2) : ∃ kind amount, amount.val ≠ 0 ∧
      emergencyEntry q env pair tracked = .ok (kind, ⟨tracked.1, tracked.2.side.tokenIndex, amount⟩) := by
  rcases h with ⟨remaining, hpos, hle, hbook⟩ | ⟨refund, hpos, hle, ⟨e, hoff⟩, hparked⟩
  · refine ⟨.cancel, remaining, hpos, ?_⟩
    have hvalid : validateOrder env.contract tracked.1 tracked.2 _ = .ok () :=
      validateOrder_eq_ok.mpr ⟨remaining, hle, rfl⟩
    have hbook : q.limitOrder pair tracked.1 = _ := hbook
    simp only [emergencyEntry, hbook, hvalid, ok_bind]
  · refine ⟨.claim, refund, hpos, ?_⟩
    have hrefund : parkedRefund q env pair tracked.1 tracked.2 = .ok (some refund) :=
      parkedRefund_eq_ok.mpr (.inr ⟨refund, rfl, hle, hparked⟩)
    simp only [emergencyEntry, hoff, hrefund, orError, ok_bind]

lemma emergencyEntry_of_executed {pair : Addr} {tracked : ℕ × GridOrder}
    {entry : PageKind × PendingPageEntry} (h : Executed q st pair tracked.1) :
    emergencyEntry q env pair tracked ≠ .ok entry := by
  obtain ⟨⟨e, hoff⟩, hnone, -⟩ := h
  have hrefund : parkedRefund q env pair tracked.1 tracked.2 = .ok none :=
    parkedRefund_eq_ok.mpr (.inl ⟨rfl, hnone⟩)
  simp only [emergencyEntry, hoff, hrefund, orError, ok_bind, error_bind, ne_eq, reduceCtorEq,
    not_false_eq_true]

structure Cancelling (q : Querier) (env : Env) (st st' : Storage) (ms : List (SubMsg CosmosMsg)) (bot : Bot)
    (entries : List (PageKind × PendingPageEntry)) : Prop where
  before : st.bot = some bot
  classified : List.Forall₂ (fun t e => emergencyEntry q env bot.pair t = .ok e) (trackedOrders st) entries
  covered : (ms.map fun m => pageIds m.msg).flatten.Perm ((trackedOrders st).map Prod.fst)
  shape : ∀ m ∈ ms, ∃ kind page, m.msg = .pair bot.pair (pageMsg kind (page.map PendingPageEntry.orderId)) ∧
    page ≠ [] ∧ page.length ≤ max bot.pairBatchLimit 1 ∧ page.Sublist (entriesOf kind entries)
  frame : ∃ pendingPages, st' = { st with pendingPages, nextReplyId := st.nextReplyId + ms.length }

lemma chunk_sublist {α : Type} {limit : ℕ} (hl : 0 < limit) {as chunk : List α} (h : chunk ∈ chunks limit as) :
    chunk.Sublist as := by
  have hsub := List.sublist_flatten_of_mem h
  rwa [chunks_flatten hl] at hsub

theorem executeEmergencyCancel_spec {botId : ℕ} {r : Response CosmosMsg}
    (h : executeEmergencyCancel q env st info botId = .ok (st', r)) :
    botId = BOT_ID ∧ ∃ bot entries, Cancelling q env st st' r.messages bot entries := by
  simp only [executeEmergencyCancel, addConfirmablePages, bind_eq_ok, loadBot_eq_ok, mapM_eq_ok,
    Except.ok.injEq, Prod.exists, Prod.mk.injEq] at h
  obtain ⟨_, -, _, -, bot, ⟨rfl, hbot⟩, _, -, _, -, entries, hentries, st₂, r₂, ⟨st₁, r₁, h₁, h₂⟩, rfl, rfl⟩ := h
  have hlimit : 0 < max bot.pairBatchLimit 1 := by omega
  obtain ⟨cancels, hcancels, hadded₁⟩ := addPages_spec h₁
  obtain ⟨claims, hclaims, hadded₂⟩ := addPages_spec h₂
  rw [hcancels, List.nil_append] at hclaims
  have hids : entries.map (fun e => e.2.orderId) = (trackedOrders st).map Prod.fst :=
    forall₂_map_eq hentries fun a b hab => (emergencyEntry_spec hab).1
  refine ⟨rfl, bot, entries, hbot, hentries, ?_, ?_, ?_⟩
  · rw [Response.addAttributes_messages, hclaims, List.map_append, hadded₁.ids, hadded₂.ids,
      List.flatten_append, ← List.map_flatten, ← List.map_flatten, chunks_flatten hlimit,
      chunks_flatten hlimit, ← hids, ← List.map_append]
    have hperm := (entriesOf_perm entries).map PendingPageEntry.orderId
    rwa [List.map_map] at hperm
  · intro m hm
    rw [Response.addAttributes_messages, hclaims] at hm
    rcases List.mem_append.mp hm with hm | hm
    · obtain ⟨page, hpage, hshape⟩ := hadded₁.shape m hm
      exact ⟨.cancel, page, hshape, (chunk_bounds hlimit hpage).1, (chunk_bounds hlimit hpage).2,
        chunk_sublist hlimit hpage⟩
    · obtain ⟨page, hpage, hshape⟩ := hadded₂.shape m hm
      exact ⟨.claim, page, hshape, (chunk_bounds hlimit hpage).1, (chunk_bounds hlimit hpage).2,
        chunk_sublist hlimit hpage⟩
  · obtain ⟨pending₁, rfl⟩ := hadded₁.frame
    obtain ⟨pending₂, rfl⟩ := hadded₂.frame
    have hlen₁ := congrArg List.length hadded₁.ids
    have hlen₂ := congrArg List.length hadded₂.ids
    rw [List.length_map, List.length_map] at hlen₁ hlen₂
    refine ⟨pending₂, ?_⟩
    rw [Response.addAttributes_messages, hclaims, List.length_append, hlen₁, hlen₂]
    simp only [Nat.add_assoc]

lemma addPages_exists (botId : ℕ) (pair : Addr) (kind : PageKind) {cs : List (List PendingPageEntry)}
    (r : Response CosmosMsg) (room : st.nextReplyId + cs.length < 2 ^ 64) :
    ∃ result, foldChecked (addPage botId pair kind) (st, r) cs = .ok result := by
  induction cs generalizing st r with
  | nil => exact ⟨_, rfl⟩
  | cons c rest ih =>
    rw [List.length_cons] at room
    have hnext : (ensure (st.nextReplyId + 1 < 2 ^ 64) (genericErr "reply id overflow") : Result Unit) =
        .ok () := by
      rw [ensure_eq_ok, decide_eq_true_eq]
      omega
    simp only [foldChecked, addPage, nextReplyId, hnext, ok_bind]
    apply ih
    dsimp only
    omega

variable (env) in
/-- The owner can cancel when every order of the first page window is live and reply ids are left. -/
theorem executeEmergencyCancel_exists {bot : Bot} (hbot : st.bot = some bot) (exit : st.vaultMode = .exit)
    (pinned : q.codeId bot.pair = .ok bot.pairCodeId)
    (live : ∀ t ∈ trackedOrders st, Live q env bot.pair t.1 t.2)
    (room : st.nextReplyId + (trackedOrders st).length < 2 ^ 64) :
    ∃ result, executeEmergencyCancel q env st ⟨bot.owner, []⟩ BOT_ID = .ok result := by
  have hlimit : 0 < max bot.pairBatchLimit 1 := by omega
  obtain ⟨entries, hentries⟩ := mapM_exists (f := emergencyEntry q env bot.pair) (by
    intro t ht
    obtain ⟨kind, amount, -, hentry⟩ := emergencyEntry_of_live (live t ht)
    exact ⟨_, hentry⟩)
  have hlength : entries.length = (trackedOrders st).length := (mapM_eq_ok.mp hentries).length_eq.symm
  have hsplit : (entriesOf .cancel entries).length + (entriesOf .claim entries).length = entries.length := by
    have hperm := (entriesOf_perm entries).length_eq
    rwa [List.length_append, List.length_map] at hperm
  have hcancels := chunks_length_le hlimit (entriesOf .cancel entries)
  have hclaims := chunks_length_le hlimit (entriesOf .claim entries)
  obtain ⟨⟨st₁, r₁⟩, h₁⟩ := addPages_exists BOT_ID bot.pair .cancel ⟨[], []⟩ (show
    st.nextReplyId + (chunks (max bot.pairBatchLimit 1) (entriesOf .cancel entries)).length < 2 ^ 64 by omega)
  obtain ⟨pages, -, hadded⟩ := addPages_spec h₁
  obtain ⟨pending, hframe⟩ := hadded.frame
  have hnext : st₁.nextReplyId =
      st.nextReplyId + (chunks (max bot.pairBatchLimit 1) (entriesOf .cancel entries)).length := by
    rw [hframe]
  obtain ⟨⟨st₂, r₂⟩, h₂⟩ := addPages_exists BOT_ID bot.pair .claim r₁ (show
    st₁.nextReplyId + (chunks (max bot.pairBatchLimit 1) (entriesOf .claim entries)).length < 2 ^ 64 by omega)
  have hload : loadBot st BOT_ID = .ok bot := loadBot_eq_ok.mpr ⟨rfl, hbot⟩
  simp only [executeEmergencyCancel, assertNoFunds, requireMode, exit, hload, assertOwner, assertPairCode,
    pinned, liftStd, hentries, addConfirmablePages, h₁, h₂, ensure, ok_bind, List.isEmpty_nil, if_true,
    decide_true]
  exact ⟨_, rfl⟩

end Cl8yDexBots.LimitGrid.EmergencyPages
