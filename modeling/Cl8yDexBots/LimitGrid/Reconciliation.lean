import Cl8yDexBots.LimitGrid.Pages

/-! What a committed reconciliation does to each order of its batch, to the balances and to the gas. -/

namespace Cl8yDexBots.LimitGrid.Reconciliation

open Std Foundation.Checked Foundation.Words Foundation.SubMessages Foundation.Chunks
open Foundation.StorageMap CosmWasm.Std
open State Orders Vault Transactions Effects EntryEffects PendingMessages Deliveries Pages

variable {q : Querier} {env : Env} {st st' : Storage} {info : MessageInfo}

/-- What the loop does with a tracked order of the given status. -/
inductive Swept (orderId : ℕ) (order : GridOrder) (s : Sweep) : OrderStatus → Prop
  | queued {refund : Uint128} (owed : refund.val ≠ 0) (tracked : s.orders[orderId]? = some order)
      (claim : ⟨orderId, order.side.tokenIndex, refund⟩ ∈ s.claimEntries) :
      Swept orderId order s (.parked refund)
  | dropped {status : OrderStatus} (terminal : status.terminal = true)
      (nothing : isZero status.parkedRefund = true) (untracked : s.orders[orderId]? = none) :
      Swept orderId order s status
  | recorded {remaining : Uint128} (some_left : remaining.val ≠ 0)
      (tracked : s.orders[orderId]? = some { order with remaining }) :
      Swept orderId order s (.active remaining)

lemma Swept.mono {orderId : ℕ} {order : GridOrder} {s s' : Sweep} {status : OrderStatus}
    (h : Swept orderId order s status) (same : s'.orders[orderId]? = s.orders[orderId]?)
    (more : ∀ e ∈ s.claimEntries, e ∈ s'.claimEntries) : Swept orderId order s' status := by
  cases h with
  | queued owed tracked claim => exact .queued owed (same ▸ tracked) (more _ claim)
  | dropped terminal nothing untracked => exact .dropped terminal nothing (same ▸ untracked)
  | recorded some_left tracked => exact .recorded some_left (same ▸ tracked)

structure SweepOf (q : Querier) (env : Env) (st : Storage) (pair : Addr) (s s' : Sweep) (ids : List ℕ) :
    Prop where
  distinct : ids.Nodup
  unseen : ∀ id ∈ ids, id ∉ s.seen
  others : ∀ id, id ∉ ids → s'.orders[id]? = s.orders[id]?
  batch : ∀ id ∈ ids, ∃ order status, s.orders[id]? = some order ∧
    orderStatus q env st pair id order = .ok status ∧ Swept id order s' status
  more : ∀ e ∈ s.claimEntries, e ∈ s'.claimEntries
  claims : ∀ e ∈ s'.claimEntries, e ∈ s.claimEntries ∨ e.orderId ∈ ids ∧
    ∃ order refund, s.orders[e.orderId]? = some order ∧
      orderStatus q env st pair e.orderId order = .ok (.parked refund) ∧ refund.val ≠ 0

lemma reconcileOrder_swept {pair : Addr} {s s' : Sweep} {orderId : ℕ}
    (h : reconcileOrder q env st pair s orderId = .ok s') :
    s'.seen = orderId :: s.seen ∧ SweepOf q env st pair s s' [orderId] := by
  obtain ⟨order, status, hseen, horder, hstatus, hseen', -, hcase⟩ := reconcileOrder_spec h
  have hunseen : ∀ id ∈ [orderId], id ∉ s.seen := by
    intro id hid
    rw [List.mem_singleton.mp hid]
    exact hseen
  refine ⟨hseen', ?_⟩
  rcases hcase with ⟨refund, rfl, hrefund, horders, -, hclaims⟩ |
    ⟨hterminal, hzero, -, horders, -, hclaims⟩ | ⟨remaining, rfl, hpos, horders, -, hclaims⟩
  · refine ⟨List.nodup_singleton _, hunseen, fun id _ => by rw [horders], ?_, ?_, ?_⟩
    · intro id hid
      obtain rfl := List.mem_singleton.mp hid
      refine ⟨order, _, horder, hstatus, .queued hrefund ?_ ?_⟩
      · rw [horders]
        exact horder
      · rw [hclaims]
        exact List.mem_append_right _ List.mem_cons_self
    · intro e he
      rw [hclaims]
      exact List.mem_append_left _ he
    · intro e he
      rw [hclaims] at he
      rcases List.mem_append.mp he with he | he
      · exact .inl he
      · obtain rfl := List.mem_singleton.mp he
        exact .inr ⟨List.mem_singleton_self _, order, refund, horder, hstatus, hrefund⟩
  · refine ⟨List.nodup_singleton _, hunseen, fun id hid => ?_, ?_, ?_, ?_⟩
    · rw [horders, lookup_erase, if_neg fun heq => hid (List.mem_singleton.mpr heq.symm)]
    · intro id hid
      obtain rfl := List.mem_singleton.mp hid
      refine ⟨order, _, horder, hstatus, .dropped hterminal hzero ?_⟩
      rw [horders, lookup_erase, if_pos rfl]
    · intro e he
      rwa [hclaims]
    · intro e he
      rw [hclaims] at he
      exact .inl he
  · refine ⟨List.nodup_singleton _, hunseen, fun id hid => ?_, ?_, ?_, ?_⟩
    · rw [horders, lookup_insert, if_neg fun heq => hid (List.mem_singleton.mpr heq.symm)]
    · intro id hid
      obtain rfl := List.mem_singleton.mp hid
      refine ⟨order, _, horder, hstatus, .recorded hpos ?_⟩
      rw [horders, lookup_insert, if_pos rfl]
    · intro e he
      rwa [hclaims]
    · intro e he
      rw [hclaims] at he
      exact .inl he

theorem sweep_spec {pair : Addr} {s s' : Sweep} {ids : List ℕ}
    (h : foldChecked (reconcileOrder q env st pair) s ids = .ok s') : SweepOf q env st pair s s' ids := by
  induction ids generalizing s with
  | nil =>
    cases h
    exact ⟨List.nodup_nil, by simp, fun _ _ => rfl, by simp, fun e he => he, fun e he => .inl he⟩
  | cons id rest ih =>
    simp only [foldChecked, bind_eq_ok] at h
    obtain ⟨s₁, hfirst, hrest⟩ := h
    obtain ⟨hseen, hone⟩ := reconcileOrder_swept hfirst
    have hmany := ih hrest
    have hnot : id ∉ rest := by
      intro hmem
      apply hmany.unseen id hmem
      rw [hseen]
      exact List.mem_cons_self
    have hsame : ∀ id' ∈ rest, s₁.orders[id']? = s.orders[id']? := by
      intro id' hid'
      apply hone.others
      intro hmem
      rw [List.mem_singleton.mp hmem] at hid'
      exact hnot hid'
    refine ⟨List.nodup_cons.mpr ⟨hnot, hmany.distinct⟩, ?_, ?_, ?_, ?_, ?_⟩
    · intro id' hid'
      rcases List.mem_cons.mp hid' with rfl | hid'
      · exact hone.unseen id' List.mem_cons_self
      · intro hmem
        apply hmany.unseen id' hid'
        rw [hseen]
        exact List.mem_cons_of_mem _ hmem
    · intro id' hid'
      rw [List.mem_cons, not_or] at hid'
      rw [hmany.others id' hid'.2]
      apply hone.others
      rw [List.mem_singleton]
      exact hid'.1
    · intro id' hid'
      rcases List.mem_cons.mp hid' with rfl | hid'
      · obtain ⟨order, status, horder, hstatus, hswept⟩ := hone.batch id' List.mem_cons_self
        exact ⟨order, status, horder, hstatus, hswept.mono (hmany.others id' hnot) hmany.more⟩
      · obtain ⟨order, status, horder, hstatus, hswept⟩ := hmany.batch id' hid'
        rw [hsame id' hid'] at horder
        exact ⟨order, status, horder, hstatus, hswept⟩
    · intro e he
      exact hmany.more e (hone.more e he)
    · intro e he
      rcases hmany.claims e he with he | ⟨hid, order, refund, horder, hparked⟩
      · rcases hone.claims e he with he | ⟨hid, hparked⟩
        · exact .inl he
        · exact .inr ⟨List.mem_cons.mpr (.inl (List.mem_singleton.mp hid)), hparked⟩
      · rw [hsame e.orderId hid] at horder
        exact .inr ⟨List.mem_cons_of_mem _ hid, order, refund, horder, hparked⟩

lemma chargeFee_frame {bot bot' : Bot} {credited : Fin 2 → Uint128} {fee : Option FeeApplied}
    (h : chargeFee q st bot credited = .ok (st', bot', fee)) :
    ∃ cache shares totalShares, st' = { st with effectiveFeeCache := cache, shares := shares } ∧
      bot' = { bot with totalShares } := by
  rw [chargeFee] at h
  split at h
  · rename_i registry collector _ _
    obtain ⟨cache, hcache⟩ := resolveFee_cache (q := q) st registry bot.owner
    generalize resolveFee q st registry bot.owner = resolved at h hcache
    obtain ⟨st₁, feeBps, tier, source⟩ := resolved
    obtain rfl : st₁ = { st with effectiveFeeCache := cache } := hcache
    dsimp only at h
    split at h
    · cases h
      exact ⟨cache, st.shares, bot.totalShares, rfl, rfl⟩
    · simp only [bind_eq_ok, Prod.exists] at h
      obtain ⟨_, -, _, -, _, feeShares, -, h⟩ := h
      split at h
      · cases h
        exact ⟨cache, st.shares, bot.totalShares, rfl, rfl⟩
      · simp only [mintFee, bind_eq_ok, Except.ok.injEq, Prod.exists, Prod.mk.injEq] at h
        obtain ⟨_, _, ⟨shares, -, totalShares, -, rfl, rfl⟩, rfl, rfl, -⟩ := h
        exact ⟨cache, _, totalShares, rfl, rfl⟩
  · cases h
    exact ⟨st.effectiveFeeCache, st.shares, bot.totalShares, rfl, rfl⟩

structure PagesAdded (pair : Addr) (kind : PageKind) (cs : List (List PendingPageEntry)) (st st' : Storage)
    (pages : List (SubMsg CosmosMsg)) : Prop where
  ids : pages.map (fun m => pageIds m.msg) = cs.map (List.map PendingPageEntry.orderId)
  shape : ∀ m ∈ pages, ∃ c ∈ cs, m.msg = .pair pair (pageMsg kind (c.map PendingPageEntry.orderId))
  frame : ∃ pendingPages, st' = { st with pendingPages, nextReplyId := st.nextReplyId + cs.length }

lemma addPages_spec {botId : ℕ} {pair : Addr} {kind : PageKind} {cs : List (List PendingPageEntry)}
    {r r' : Response CosmosMsg} (h : foldChecked (addPage botId pair kind) (st, r) cs = .ok (st', r')) :
    ∃ pages, r'.messages = r.messages ++ pages ∧ PagesAdded pair kind cs st st' pages := by
  induction cs generalizing st r with
  | nil =>
    cases h
    exact ⟨[], (List.append_nil _).symm, rfl, by simp, _, rfl⟩
  | cons c rest ih =>
    simp only [foldChecked, addPage, nextReplyId, bind_eq_ok, ensure_eq_ok, exists_const,
      Except.ok.injEq, Prod.exists, Prod.mk.injEq] at h
    obtain ⟨_, _, ⟨_, _, ⟨-, rfl, rfl⟩, rfl, rfl⟩, h⟩ := h
    obtain ⟨pages, hmsgs, hadded⟩ := ih h
    obtain ⟨pending, hframe⟩ := hadded.frame
    refine ⟨.replyAlways (.pair pair (pageMsg kind (c.map PendingPageEntry.orderId))) st.nextReplyId ::
      pages, ?_, ?_, ?_, pending, ?_⟩
    · rw [hmsgs, Response.addMessage_messages, List.append_assoc]
      rfl
    · rw [List.map_cons, List.map_cons, hadded.ids]
      simp [SubMsg.replyAlways]
    · intro m hm
      rcases List.mem_cons.mp hm with rfl | hm
      · exact ⟨c, List.mem_cons_self, rfl⟩
      · obtain ⟨c', hc', hshape⟩ := hadded.shape m hm
        exact ⟨c', List.mem_cons_of_mem _ hc', hshape⟩
    · rw [hframe, List.length_cons]
      simp only [Nat.add_assoc, Nat.add_comm 1]

lemma PagesAdded.mem_iff {pair : Addr} {kind : PageKind} {cs : List (List PendingPageEntry)}
    {pages : List (SubMsg CosmosMsg)}
    (h : PagesAdded pair kind cs st st' pages) (id : ℕ) :
    (∃ m ∈ pages, id ∈ pageIds m.msg) ↔ id ∈ cs.flatten.map PendingPageEntry.orderId := by
  have hids : (pages.map fun m => pageIds m.msg).flatten = cs.flatten.map PendingPageEntry.orderId := by
    rw [h.ids, List.map_flatten]
  rw [← hids, List.mem_flatten]
  simp

lemma PagesAdded.only {pair : Addr} {kind : PageKind} {cs : List (List PendingPageEntry)}
    {pages : List (SubMsg CosmosMsg)}
    (h : PagesAdded pair kind cs st st' pages) : ∀ m ∈ pages, isPage m.msg ∧ ¬ isBank m.msg := by
  intro m hm
  obtain ⟨c, -, hshape⟩ := h.shape m hm
  rw [hshape]
  exact ⟨trivial, id⟩

def paysReward (ms : List (SubMsg CosmosMsg)) : Prop := ∃ m ∈ ms, isBank m.msg

/-- A reconciliation that was executed, before its messages are delivered. -/
structure Reconciled (q : Querier) (env : Env) (st : Storage) (info : MessageInfo) (ids : List ℕ)
    (st' : Storage) (ms : List (SubMsg CosmosMsg)) (bot bot' : Bot) (sweep : Sweep) : Prop where
  before : st.bot = some bot
  after : st'.bot = some bot'
  loop : SweepOf q env st bot.pair ⟨st.orders, bot.activeOrders, [], [], 0, 0, 0⟩ sweep ids
  config : st'.config = st.config
  orders : st'.orders = sweep.orders
  live : ∀ i, q.balance (bot.assetTokens i) env.contract = .ok (bot'.freeBalances i) ∧
    bot.freeBalances i ≤ bot'.freeBalances i
  only : OnlyPages ms
  claims : ∀ id, (∃ m ∈ ms, id ∈ pageIds m.msg) ↔ id ∈ sweep.claimEntries.map PendingPageEntry.orderId
  rewarded : info.sender = st.config.keeper →
    bot'.gasCredit.val + st.config.keeperReward.val = bot.gasCredit.val ∧ paysReward ms
  unrewarded : info.sender ≠ st.config.keeper → bot'.gasCredit = bot.gasCredit ∧ ¬ paysReward ms

lemma claimPages_spec {r r' : Response CosmosMsg} {pair : Addr} {claims : List PendingPageEntry}
    (h : claimPages q st r BOT_ID pair claims = .ok (st', r')) :
    ∃ pages, r'.messages = r.messages ++ pages ∧
      (∀ id, (∃ m ∈ pages, id ∈ pageIds m.msg) ↔ id ∈ claims.map PendingPageEntry.orderId) ∧
      (∀ m ∈ pages, isPage m.msg ∧ ¬ isBank m.msg) ∧
      ∃ pendingPages nextReplyId, st' = { st with pendingPages, nextReplyId } := by
  rw [claimPages] at h
  split at h
  · rename_i hnone
    cases h
    refine ⟨[], (List.append_nil _).symm, ?_, by simp, _, _, rfl⟩
    simp [hnone]
  · simp only [bind_eq_ok, addConfirmablePages, chunks, List.length_nil, chunksOf, foldChecked,
      Except.ok.injEq, exists_eq_left'] at h
    obtain ⟨limit, -, h⟩ := h
    obtain ⟨pages, hmsgs, hadded⟩ := addPages_spec h
    obtain ⟨pending, hframe⟩ := hadded.frame
    refine ⟨pages, hmsgs, fun id => ?_, hadded.only, pending, _, hframe⟩
    rw [hadded.mem_iff]
    have hlimit : 0 < max limit 1 := by omega
    have hflat := chunks_flatten hlimit claims
    rw [chunks] at hflat
    rw [hflat]

lemma payKeeper_spec {r r' : Response CosmosMsg} {bot : Bot} (hbot : st.bot = some bot)
    (h : payKeeper st r info BOT_ID = .ok (st', r')) :
    ∃ gasCredit : Uint128, st' = { st with bot := some { bot with gasCredit } } ∧
      (info.sender = st.config.keeper → gasCredit.val + st.config.keeperReward.val = bot.gasCredit.val ∧
        ∃ coins, r'.messages = r.messages ++ [.plain (.bank info.sender coins)]) ∧
      (info.sender ≠ st.config.keeper → gasCredit = bot.gasCredit ∧ r'.messages = r.messages) := by
  rw [payKeeper] at h
  split at h
  · rename_i hkeeper
    simp only [bind_eq_ok, loadBot_eq_ok, checkedSub_eq_ok, Except.ok.injEq, Prod.mk.injEq] at h
    obtain ⟨b, ⟨-, hb⟩, gasCredit, ⟨hle, hgas⟩, rfl, rfl⟩ := h
    obtain rfl := Option.some.inj (hbot.symm.trans hb)
    refine ⟨gasCredit, rfl, fun _ => ⟨by omega, _, rfl⟩, fun hne => absurd hkeeper hne⟩
  · rename_i hkeeper
    cases h
    refine ⟨bot.gasCredit, ?_, fun heq => absurd heq hkeeper, fun _ => ⟨rfl, rfl⟩⟩
    rw [← hbot]

theorem executeReconcile_spec {botId : ℕ} {ids : List ℕ} {r : Response CosmosMsg}
    (h : executeReconcile q env st info botId ids = .ok (st', r)) :
    botId = BOT_ID ∧ ∃ bot bot' sweep, Reconciled q env st info ids st' r.messages bot bot' sweep := by
  simp only [executeReconcile, bind_eq_ok, ensure_eq_ok, exists_const, loadBot_eq_ok, Prod.exists] at h
  obtain ⟨_, -, _, -, bot, ⟨rfl, hbot⟩, -, _, -, _, -, -, credited, bot₁, hsync, sweep, hsweep, -, st₂, bot₂,
    fee, hfee, st₃, r₃, hclaim, hpay⟩ := h
  obtain ⟨live, rfl, hlive⟩ := syncFreeBalances_spec hsync
  obtain ⟨cache, shares, totalShares, rfl, rfl⟩ := chargeFee_frame hfee
  obtain ⟨pages, hpages, hids, honly, pending, next, rfl⟩ := claimPages_spec hclaim
  obtain ⟨gasCredit, rfl, hrewarded, hunrewarded⟩ := payKeeper_spec rfl hpay
  rw [List.nil_append] at hpages
  rw [hpages] at hrewarded hunrewarded
  have hnoreward : ¬ paysReward pages := by
    rintro ⟨m, hm, hbank⟩
    exact (honly m hm).2 hbank
  refine ⟨rfl, bot, _, sweep, hbot, rfl, sweep_spec hsweep, rfl, rfl,
    fun i => ⟨(hlive i).1, (hlive i).2.1⟩, ?_, ?_, ?_, ?_⟩
  · by_cases hkeeper : info.sender = st.config.keeper
    · obtain ⟨-, coins, hmsgs⟩ := hrewarded hkeeper
      rw [hmsgs]
      intro m hm
      rcases List.mem_append.mp hm with hm | hm
      · exact .inl (honly m hm).1
      · rw [List.mem_singleton.mp hm]
        exact .inr trivial
    · rw [(hunrewarded hkeeper).2]
      exact fun m hm => .inl (honly m hm).1
  · intro id
    rw [← hids id]
    by_cases hkeeper : info.sender = st.config.keeper
    · obtain ⟨-, coins, hmsgs⟩ := hrewarded hkeeper
      rw [hmsgs]
      constructor
      · rintro ⟨m, hm, hid⟩
        rcases List.mem_append.mp hm with hm | hm
        · exact ⟨m, hm, hid⟩
        · rw [List.mem_singleton.mp hm] at hid
          cases hid
      · rintro ⟨m, hm, hid⟩
        exact ⟨m, List.mem_append_left _ hm, hid⟩
    · rw [(hunrewarded hkeeper).2]
  · intro hkeeper
    obtain ⟨hgas, coins, hmsgs⟩ := hrewarded hkeeper
    refine ⟨hgas, .plain (.bank info.sender coins), ?_, trivial⟩
    rw [hmsgs]
    exact List.mem_append_right _ List.mem_cons_self
  · intro hkeeper
    obtain ⟨hgas, hmsgs⟩ := hunrewarded hkeeper
    rw [hmsgs]
    exact ⟨hgas, hnoreward⟩

variable {W : Type} {C : Chain W} {w w' : W} {log : Log} {ids : List ℕ}

theorem reconcile_tx {botId : ℕ} (hp : Pending st [])
    (h : Tx C st w info (.reconcile botId ids) log st' w') :
    botId = BOT_ID ∧ ∃ st₁ bot bot₁ sweep,
      Reconciled (C.querier w) (C.env w) st info ids st₁ (log.map Prod.fst) bot bot₁ sweep ∧
        Settles log st₁ st' := by
  obtain ⟨st₁, r, hexec, hrun⟩ := h
  obtain ⟨hid, bot, bot₁, sweep, hspec⟩ := executeReconcile_spec hexec
  have hpending : Pending st₁ r.messages :=
    (steps_invariant (J := fun _ _ _ => True) (w := w) (execute_steps hexec) (fun _ _ _ => trivial)
      ⟨hp, trivial⟩).1
  obtain ⟨hsettles, hlog⟩ := settles hrun hpending hspec.only
  refine ⟨hid, st₁, bot, bot₁, sweep, ?_, hsettles⟩
  rw [hlog]
  exact hspec

lemma Reconciled.claimed {st₁ : Storage} {ms : List (SubMsg CosmosMsg)} {bot bot₁ : Bot} {sweep : Sweep}
    (h : Reconciled q env st info ids st₁ ms bot bot₁ sweep) {m : SubMsg CosmosMsg} {id : ℕ} (hm : m ∈ ms)
    (hid : id ∈ pageIds m.msg) : id ∈ ids ∧ ∃ order refund, st.orders[id]? = some order ∧
      orderStatus q env st bot.pair id order = .ok (.parked refund) ∧ refund.val ≠ 0 := by
  obtain ⟨e, he, rfl⟩ := List.mem_map.mp ((h.claims id).mp ⟨m, hm, hid⟩)
  rcases h.loop.claims e he with he | hparked
  · cases he
  · exact hparked

end Cl8yDexBots.LimitGrid.Reconciliation
