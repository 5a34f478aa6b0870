import Cl8yDexBots.LimitGrid.Transactions

/-! What the entry points do, as steps on the storage and the messages emitted so far. -/

namespace Cl8yDexBots.LimitGrid.Effects

open Std Relation Foundation.Checked Foundation.Words Foundation.SubMessages Foundation.Chunks
open Foundation.StorageMap CosmWasm.Std CosmWasm.Pair
open State Pricing Orders Vault

abbrev Ledger := Storage × List (SubMsg CosmosMsg)

def OnBook (q : Querier) (env : Env) (pair : Addr) (orderId : ℕ) (side : LimitOrderSide)
    (price : Decimal) (remaining : Uint128) : Prop :=
  q.limitOrder pair orderId = .ok { orderId, owner := env.contract, side, price, remaining }

def OffBook (q : Querier) (pair : Addr) (orderId : ℕ) : Prop :=
  ∃ e, q.limitOrder pair orderId = .error e

def Parked (q : Querier) (env : Env) (pair : Addr) (orderId : ℕ) (side : LimitOrderSide)
    (remaining : Uint128) : Prop :=
  OffBook q pair orderId ∧
    q.expiredLimitRefund pair orderId = .ok (some { orderId, owner := env.contract, side, remaining })

def Claimable (q : Querier) (env : Env) (pair : Addr) (orderId : ℕ) (side : LimitOrderSide)
    (amount : Uint128) : PageKind → Prop
  | .cancel => ∃ price, OnBook q env pair orderId side price amount
  | .claim => Parked q env pair orderId side amount

def Gone (q : Querier) (env : Env) (pair : Addr) (orderId : ℕ) (side : LimitOrderSide) : Prop :=
  (∃ price remaining, OnBook q env pair orderId side price remaining ∧ remaining.val = 0) ∨
    (OffBook q pair orderId ∧ q.expiredLimitRefund pair orderId = .ok none) ∨
    ∃ refund, Parked q env pair orderId side refund ∧ refund.val = 0

def ValidEntry (q : Querier) (env : Env) (orders : ExtTreeMap ℕ GridOrder) (pair : Addr)
    (kind : PageKind) (e : PendingPageEntry) : Prop :=
  ∃ order, orders[e.orderId]? = some order ∧ e.tokenIndex = order.side.tokenIndex ∧
    e.refund ≤ order.remaining ∧ Claimable q env pair e.orderId order.side e.refund kind

def pageIds : CosmosMsg → List ℕ
  | .pair _ (.cancelLimitOrders ids) => ids
  | .pair _ (.claimExpiredLimitOrders ids) => ids
  | _ => []

def isPage : CosmosMsg → Prop
  | .pair _ _ => True
  | _ => False

@[simp] lemma pageIds_pageMsg (pair : Addr) (kind : PageKind) (ids : List ℕ) :
    pageIds (.pair pair (pageMsg kind ids)) = ids := by
  cases kind <;> rfl

def Untouched (ms : List (SubMsg CosmosMsg)) (orderId : ℕ) : Prop :=
  ∀ m ∈ ms, orderId ∉ pageIds m.msg

def placementMsg (bot : Bot) (side : LimitOrderSide) (total : Uint128)
    (items : List LimitOrderPlacementItem) : CosmosMsg :=
  .token (bot.assetTokens side.tokenIndex)
    (.send bot.pair total (.placeLimitOrderBatch side items))

inductive Effect (q : Querier) (env : Env) : Ledger → Ledger → Prop
  | configured {st ms} (admin : Addr) (pendingAdmin : Option Addr) (keeper : Addr)
      (vaultMode : VaultMode) (allowedTokens quarantine : ExtTreeMap Addr Unit)
      (tokenPolicyEnabled : Bool) :
      Effect q env (st, ms) ({ st with
        config := { st.config with admin, pendingAdmin, keeper }
        vaultMode, allowedTokens, quarantine, tokenPolicyEnabled }, ms)
  | cached {st ms} (effectiveFeeCache : ExtTreeMap Addr CachedEffectiveFee) :
      Effect q env (st, ms) ({ st with effectiveFeeCache }, ms)
  | created {st ms bot info} (rungs : ExtTreeMap ℕ Rung) (fresh : st.bot = none)
      (pair : q.pair bot.pair = .ok info)
      (tokens : ∀ i, tokenAddress q (info.assetInfos i) = .ok (bot.assetTokens i))
      (distinct : bot.assetTokens 0 ≠ bot.assetTokens 1)
      (zero : bot.freeBalances = (fun _ => 0) ∧ bot.totalShares = 0 ∧ bot.activeOrders = 0) :
      Effect q env (st, ms) ({ st with bot := some bot, rungs }, ms)
  | regauged {st ms bot} (gasCredit : Uint128) (pairCodeId : ℕ) (h : st.bot = some bot) :
      Effect q env (st, ms) ({ st with bot := some { bot with gasCredit, pairCodeId } }, ms)
  | paid {st ms} (recipient : Addr) (coins : List Coin) :
      Effect q env (st, ms) (st, ms ++ [.plain (.bank recipient coins)])
  | deposited {st ms bot i} {amount free minted totalShares shares : Uint128} (depositor : Addr)
      (h : st.bot = some bot) (live : q.balance (bot.assetTokens i) env.contract = .ok free)
      (credit : free.val = (bot.freeBalances i).val + amount.val)
      (supply : totalShares.val = bot.totalShares.val + minted.val)
      (holding : shares.val = (sharesOf st depositor).val + minted.val) (no_messages : ms = []) :
      Effect q env (st, ms) ({ st with
        bot := some { bot.setFree i free with totalShares }
        shares := st.shares.insert depositor shares }, ms)
  | placed {st ms bot side rungs items} {amountEach total free : Uint128} (h : st.bot = some bot)
      (some_rung : rungs ≠ []) (all_items : items.length = rungs.length)
      (sum : total.val = amountEach.val * rungs.length)
      (debit : free.val + total.val = (bot.freeBalances side.tokenIndex).val)
      (no_pages : ∀ m ∈ ms, ¬ isPage m.msg) :
      Effect q env (st, ms) ({ st with
        bot := some { bot.setFree side.tokenIndex free with
          activeOrders := bot.activeOrders + rungs.length }
        nextReplyId := st.nextReplyId + 1
        placements := st.placements.insert st.nextReplyId
          ⟨BOT_ID, side, rungs, List.replicate rungs.length amountEach⟩ },
        ms ++ [.replyAlways (placementMsg bot side total items) st.nextReplyId])
  | synced {st ms bot} {live : Fin 2 → Uint128} (h : st.bot = some bot)
      (actual : ∀ i, q.balance (bot.assetTokens i) env.contract = .ok (live i))
      (grown : ∀ i, bot.freeBalances i ≤ live i) (no_messages : ms = []) :
      Effect q env (st, ms) ({ st with bot := some { bot with freeBalances := live } }, ms)
  | dropped {st ms bot orderId order} (h : st.bot = some bot)
      (tracked : st.orders[orderId]? = some order) (counted : 1 ≤ bot.activeOrders)
      (gone : Gone q env bot.pair orderId order.side) (untouched : Untouched ms orderId) :
      Effect q env (st, ms) ({ st with
        bot := some { bot with activeOrders := bot.activeOrders - 1 }
        orders := st.orders.erase orderId }, ms)
  | lowered {st ms bot orderId order} {remaining : Uint128} (h : st.bot = some bot)
      (tracked : st.orders[orderId]? = some order)
      (book : OnBook q env bot.pair orderId order.side order.price remaining)
      (less : remaining ≤ order.remaining) (untouched : Untouched ms orderId) :
      Effect q env (st, ms)
        ({ st with orders := st.orders.insert orderId { order with remaining } }, ms)
  | minted {st ms bot} {amount totalShares shares : Uint128} (collector : Addr)
      (h : st.bot = some bot) (supply : totalShares.val = bot.totalShares.val + amount.val)
      (holding : shares.val = (sharesOf st collector).val + amount.val) :
      Effect q env (st, ms) ({ st with
        bot := some { bot with totalShares }
        shares := st.shares.insert collector shares }, ms)
  | paged {st ms bot kind entries} (h : st.bot = some bot)
      (valid : ∀ e ∈ entries, ValidEntry q env st.orders bot.pair kind e)
      (distinct : (entries.map PendingPageEntry.orderId).Nodup)
      (untouched : ∀ e ∈ entries, Untouched ms e.orderId)
      (only_pages : ∀ m ∈ ms, isPage m.msg) :
      Effect q env (st, ms) ({ st with
        nextReplyId := st.nextReplyId + 1
        pendingPages := st.pendingPages.insert st.nextReplyId ⟨BOT_ID, kind, entries⟩ },
        ms ++ [.replyAlways
          (.pair bot.pair (pageMsg kind (entries.map PendingPageEntry.orderId))) st.nextReplyId])
  | recovered {st ms bot orderId side price} {remaining : Uint128} (rungIndex : ℕ)
      (h : st.bot = some bot) (untracked : st.orders[orderId]? = none)
      (uncancelled : st.cancelledOrders[orderId]? = none)
      (found : OnBook q env bot.pair orderId side price remaining ∨
        Parked q env bot.pair orderId side remaining) :
      Effect q env (st, ms) ({ st with
        bot := some { bot with activeOrders := bot.activeOrders + 1 }
        orders := st.orders.insert orderId ⟨rungIndex, side, price, remaining⟩ }, ms)
  | redeemed {st bot holder} {shares rest totalShares : Uint128} {amounts free : Fin 2 → Uint128}
      (recipient : Addr) (h : st.bot = some bot)
      (debit : ∀ i, (free i).val + (amounts i).val = (bot.freeBalances i).val)
      (supply : totalShares.val + shares.val = bot.totalShares.val)
      (holding : rest.val + shares.val = (sharesOf st holder).val) :
      Effect q env (st, []) ({ st with
        bot := some { bot with freeBalances := free, totalShares }
        shares := st.shares.insert holder rest }, transfers bot recipient amounts)
  | exited {st bot} {totalShares : Uint128} {live amounts free : Fin 2 → Uint128} (recipient : Addr)
      (h : st.bot = some bot) (drained : st.orders = ∅)
      (actual : ∀ i, q.balance (bot.assetTokens i) env.contract = .ok (live i))
      (debit : ∀ i, (free i).val + (amounts i).val = (live i).val)
      (supply : totalShares.val + (sharesOf st bot.owner).val = bot.totalShares.val) :
      Effect q env (st, []) ({ st with
        bot := some { bot with freeBalances := free, totalShares, activeOrders := 0 }
        shares := st.shares.insert bot.owner 0 }, transfers bot recipient amounts)

abbrev Steps (q : Querier) (env : Env) : Ledger → Ledger → Prop := ReflTransGen (Effect q env)

variable {q : Querier} {env : Env}

lemma addPlacement_effects {st st' : Storage} {bot : Bot} {response response' : Response CosmosMsg}
    {botId : ℕ} {side : LimitOrderSide} {rungs : List ℕ} {amountEach : Uint128} {expiresAt : ℕ}
    (hbot : st.bot = some bot) (no_pages : ∀ m ∈ response.messages, ¬ isPage m.msg)
    (h : addPlacement st response botId side rungs amountEach expiresAt = .ok (st', response')) :
    Steps q env (st, response.messages) (st', response'.messages) ∧
      (∃ bot', st'.bot = some bot') ∧ ∀ m ∈ response'.messages, ¬ isPage m.msg := by
  rw [addPlacement] at h
  split at h
  · cases h
    exact ⟨.refl, ⟨bot, hbot⟩, no_pages⟩
  · rename_i hpos
    obtain ⟨-, hrungs⟩ := not_or.mp hpos
    simp only [bind_eq_ok, narrow_eq_ok, loadBot_eq_ok] at h
    obtain ⟨total, htotal, current, ⟨rfl, hcurrent⟩, h⟩ := h
    obtain rfl := Option.some.inj (hbot.symm.trans hcurrent)
    split at h
    · cases h
      exact ⟨.refl, ⟨bot, hbot⟩, no_pages⟩
    · simp only [submitPlacement, nextReplyId, bind_eq_ok, ensure_eq_ok, exists_const,
        checkedSub_eq_ok, mapM_eq_ok, Except.ok.injEq, Prod.exists, Prod.mk.injEq] at h
      obtain ⟨-, free, ⟨hle, hfree⟩, -, items, hitems, _, _, ⟨-, rfl, rfl⟩, rfl, rfl⟩ := h
      have hlen : items.length = rungs.length := hitems.length_eq.symm
      refine ⟨.single ?_, ⟨_, rfl⟩, ?_⟩
      · rw [hlen]
        exact .placed hbot hrungs hlen htotal (by omega) no_pages
      · intro m hm
        rcases List.mem_append.mp hm with hm | hm
        · exact no_pages m hm
        · obtain rfl := List.mem_singleton.mp hm
          exact id

variable (q env) in
lemma allocateSide_effects {st st' : Storage} {bot bot₀ : Bot}
    {response response' : Response CosmosMsg} {botId : ℕ} {side : LimitOrderSide} {expiresAt : ℕ}
    (hbot : st.bot = some bot) (no_pages : ∀ m ∈ response.messages, ¬ isPage m.msg)
    (h : allocateSide st response botId bot₀ side expiresAt = .ok (st', response')) :
    Steps q env (st, response.messages) (st', response'.messages) ∧
      (∃ bot', st'.bot = some bot') ∧ ∀ m ∈ response'.messages, ¬ isPage m.msg := by
  simp only [allocateSide, bind_eq_ok, ensure_eq_ok, exists_const] at h
  obtain ⟨-, _, -, _, -, h⟩ := h
  exact addPlacement_effects hbot no_pages h

lemma syncFreeBalances_spec {bot bot' : Bot} {credited : Fin 2 → Uint128}
    (h : syncFreeBalances q env bot = .ok (credited, bot')) :
    ∃ live : Fin 2 → Uint128, bot' = { bot with freeBalances := live } ∧
      ∀ i, q.balance (bot.assetTokens i) env.contract = .ok (live i) ∧
        bot.freeBalances i ≤ live i ∧ (credited i).val = (live i).val - (bot.freeBalances i).val := by
  simp only [syncFreeBalances, creditedBalance, bind_eq_ok, liftStd_eq_ok, ensure_eq_ok, exists_const,
    checkedSub_eq_ok, Except.ok.injEq, Prod.exists, Prod.mk.injEq, decide_eq_true_eq] at h
  obtain ⟨c₀, _, ⟨l₀, h₀, hle₀, _, ⟨-, hc₀⟩, rfl, rfl⟩, c₁, _, ⟨l₁, h₁, hle₁, _, ⟨-, hc₁⟩, rfl, rfl⟩,
    rfl, rfl⟩ := h
  refine ⟨![l₀, l₁], rfl, fun i => ?_⟩
  fin_cases i
  · exact ⟨h₀, hle₀, hc₀⟩
  · exact ⟨h₁, hle₁, hc₁⟩

lemma validateOrder_eq_ok {orderId : ℕ} {order : GridOrder} {onChain : LimitOrderResponse} {u : Unit} :
    validateOrder env.contract orderId order onChain = .ok u ↔
      ∃ remaining : Uint128, remaining ≤ order.remaining ∧
        onChain = { orderId, owner := env.contract, side := order.side, price := order.price, remaining } := by
  obtain ⟨id, owner, side, price, remaining⟩ := onChain
  simp only [validateOrder, bind_eq_ok, ensure_eq_ok, exists_const, decide_eq_true_eq,
    LimitOrderResponse.mk.injEq]
  constructor
  · rintro ⟨rfl, rfl, rfl, rfl, hle⟩
    exact ⟨remaining, hle, rfl, rfl, rfl, rfl, rfl⟩
  · rintro ⟨_, hle, rfl, rfl, rfl, rfl, rfl⟩
    exact ⟨rfl, rfl, rfl, rfl, hle⟩

lemma parkedRefund_eq_ok {pair : Addr} {orderId : ℕ} {order : GridOrder} {parked : Option Uint128} :
    parkedRefund q env pair orderId order = .ok parked ↔
      (parked = none ∧ q.expiredLimitRefund pair orderId = .ok none) ∨
      ∃ refund : Uint128, parked = some refund ∧ refund ≤ order.remaining ∧
        q.expiredLimitRefund pair orderId =
          .ok (some { orderId, owner := env.contract, side := order.side, remaining := refund }) := by
  simp only [parkedRefund, bind_eq_ok, withError_eq_ok]
  constructor
  · rintro ⟨answer, hq, h⟩
    cases answer with
    | none =>
      cases h
      exact .inl ⟨rfl, hq⟩
    | some refund =>
      obtain ⟨id, owner, side, remaining⟩ := refund
      simp only [bind_eq_ok, ensure_eq_ok, exists_const, decide_eq_true_eq, Except.ok.injEq] at h
      obtain ⟨⟨rfl, rfl, rfl, hle⟩, rfl⟩ := h
      exact .inr ⟨remaining, rfl, hle, hq⟩
  · rintro (⟨rfl, hq⟩ | ⟨refund, rfl, hle, hq⟩)
    · exact ⟨none, hq, rfl⟩
    · refine ⟨_, hq, ?_⟩
      simp [hle]

lemma orderStatus_spec {st : Storage} {pair : Addr} {orderId : ℕ} {order : GridOrder}
    {status : OrderStatus} (h : orderStatus q env st pair orderId order = .ok status) :
    (∃ remaining : Uint128, status = .active remaining ∧ remaining ≤ order.remaining ∧
      OnBook q env pair orderId order.side order.price remaining) ∨
    (∃ refund : Uint128, status = .parked refund ∧ refund ≤ order.remaining ∧
      Parked q env pair orderId order.side refund) ∨
    ((status = .cancelled ∨ status = .executed) ∧ OffBook q pair orderId ∧
      q.expiredLimitRefund pair orderId = .ok none ∧
      (status = .cancelled ↔ orderId ∈ st.cancelledOrders)) := by
  rw [orderStatus] at h
  split at h
  · rename_i onChain hbook
    simp only [bind_eq_ok, validateOrder_eq_ok, Except.ok.injEq] at h
    obtain ⟨_, ⟨remaining, hle, rfl⟩, rfl⟩ := h
    exact .inl ⟨remaining, rfl, hle, hbook⟩
  · rename_i e hbook
    simp only [bind_eq_ok, parkedRefund_eq_ok] at h
    obtain ⟨parked, ⟨rfl, hnone⟩ | ⟨refund, rfl, hle, hsome⟩, h⟩ := h
    · refine .inr (.inr ⟨?_, ⟨e, hbook⟩, hnone, ?_⟩)
      · cases h
        split <;> simp
      · cases h
        by_cases hc : orderId ∈ st.cancelledOrders <;> simp [hc]
    · cases h
      exact .inr (.inl ⟨refund, rfl, hle, ⟨e, hbook⟩, hsome⟩)

lemma reconcileOrder_spec {st : Storage} {pair : Addr} {s s' : Sweep} {orderId : ℕ}
    (h : reconcileOrder q env st pair s orderId = .ok s') :
    ∃ order status, orderId ∉ s.seen ∧ s.orders[orderId]? = some order ∧
      orderStatus q env st pair orderId order = .ok status ∧ s'.seen = orderId :: s.seen ∧
      s'.changedOrders = s.changedOrders +
        (if order.remaining.val ≠ status.currentRemaining.val ∨ status.terminal then 1 else 0) ∧
      ((∃ refund, status = .parked refund ∧ refund.val ≠ 0 ∧ s'.orders = s.orders ∧
          s'.activeOrders = s.activeOrders ∧
          s'.claimEntries = s.claimEntries ++ [⟨orderId, order.side.tokenIndex, refund⟩]) ∨
        (status.terminal = true ∧ isZero status.parkedRefund = true ∧ 1 ≤ s.activeOrders ∧
          s'.orders = s.orders.erase orderId ∧ s'.activeOrders = s.activeOrders - 1 ∧
          s'.claimEntries = s.claimEntries) ∨
        ∃ remaining, status = .active remaining ∧ remaining.val ≠ 0 ∧
          s'.orders = s.orders.insert orderId { order with remaining } ∧
          s'.activeOrders = s.activeOrders ∧ s'.claimEntries = s.claimEntries) := by
  simp only [reconcileOrder, bind_eq_ok, ensure_eq_ok, exists_const, orError_eq_ok, checkedSub_eq_ok,
    decide_eq_true_eq] at h
  obtain ⟨hseen, order, horder, status, hstatus, consumed, ⟨hle, hconsumed⟩, h⟩ := h
  have hchanged : (¬ isZero consumed = true ∨ status.terminal = true) ↔
      (order.remaining.val ≠ status.currentRemaining.val ∨ status.terminal = true) := by
    rw [isZero_iff, hconsumed]
    constructor <;> rintro (h | h) <;> first | exact .inr h | exact .inl (by omega)
  refine ⟨order, status, hseen, horder, hstatus, ?_⟩
  rw [settleOrder] at h
  split at h
  · rename_i hterminal
    split at h
    · rename_i hrefund
      cases h
      refine ⟨rfl, by simp only [hchanged], .inl ?_⟩
      cases status with
      | parked refund => exact ⟨refund, rfl, by simpa [OrderStatus.parkedRefund] using hrefund, rfl, rfl, rfl⟩
      | active remaining => simp [OrderStatus.parkedRefund] at hrefund
      | cancelled => simp [OrderStatus.parkedRefund] at hrefund
      | executed => simp [OrderStatus.parkedRefund] at hrefund
    · rename_i hrefund
      simp only [bind_eq_ok, ensure_eq_ok, exists_const, Except.ok.injEq, decide_eq_true_eq] at h
      obtain ⟨hcount, rfl⟩ := h
      refine ⟨rfl, by simp only [hchanged], .inr (.inl ⟨hterminal, not_not.mp hrefund, hcount, rfl, rfl, rfl⟩)⟩
  · rename_i hterminal
    cases h
    refine ⟨rfl, by simp only [hchanged], .inr (.inr ?_)⟩
    cases status with
    | active remaining => exact ⟨remaining, rfl, by simpa [OrderStatus.terminal] using hterminal, rfl, rfl, rfl⟩
    | parked refund => simp [OrderStatus.terminal] at hterminal
    | cancelled => simp [OrderStatus.terminal] at hterminal
    | executed => simp [OrderStatus.terminal] at hterminal

/-- The storage as the reconciliation loop leaves it. -/
def swept (st : Storage) (bot : Bot) (s : Sweep) : Storage :=
  { st with bot := some { bot with activeOrders := s.activeOrders }, orders := s.orders }

def Queued (q : Querier) (env : Env) (pair : Addr) (s : Sweep) : Prop :=
  (s.claimEntries.map PendingPageEntry.orderId).Nodup ∧
    ∀ e ∈ s.claimEntries, e.orderId ∈ s.seen ∧ ValidEntry q env s.orders pair .claim e

lemma ValidEntry.mono {orders orders' : ExtTreeMap ℕ GridOrder} {pair : Addr} {kind : PageKind}
    {e : PendingPageEntry} (h : ValidEntry q env orders pair kind e)
    (same : orders'[e.orderId]? = orders[e.orderId]?) : ValidEntry q env orders' pair kind e := by
  rw [ValidEntry]
  rwa [same]

lemma reconcileOrder_effects (st : Storage) {st₀ : Storage} {bot : Bot} {s s' : Sweep} {orderId : ℕ}
    (hq : Queued q env bot.pair s) (h : reconcileOrder q env st₀ bot.pair s orderId = .ok s') :
    Steps q env (swept st bot s, []) (swept st bot s', []) ∧ Queued q env bot.pair s' := by
  obtain ⟨order, status, hseen, horder, hstatus, hseen', -, hcase⟩ := reconcileOrder_spec h
  have hother : ∀ e ∈ s.claimEntries, e.orderId ≠ orderId := by
    intro e he heq
    exact hseen (heq ▸ (hq.2 e he).1)
  have hbot : (swept st bot s).bot = some { bot with activeOrders := s.activeOrders } := rfl
  rcases hcase with ⟨refund, rfl, hrefund, horders, hactive, hclaims⟩ |
    ⟨hterminal, hzero, hcount, horders, hactive, hclaims⟩ |
    ⟨remaining, rfl, hpos, horders, hactive, hclaims⟩
  · have hparked : refund ≤ order.remaining ∧ Parked q env bot.pair orderId order.side refund := by
      rcases orderStatus_spec hstatus with ⟨_, h, -⟩ | ⟨_, h, hle, hp⟩ | ⟨h | h, -⟩
      · cases h
      · cases h
        exact ⟨hle, hp⟩
      · cases h
      · cases h
    refine ⟨?_, ?_, ?_⟩
    · simp only [swept]
      rw [horders, hactive]
    · rw [hclaims, List.map_append, List.nodup_append]
      refine ⟨hq.1, by simp, ?_⟩
      intro a ha b hb
      obtain ⟨e, he, rfl⟩ := List.mem_map.mp ha
      obtain rfl : b = orderId := by simpa using hb
      exact hother e he
    · intro e he
      rw [hclaims] at he
      rcases List.mem_append.mp he with he | he
      · rw [hseen', horders]
        exact ⟨List.mem_cons_of_mem _ (hq.2 e he).1, (hq.2 e he).2⟩
      · obtain rfl := List.mem_singleton.mp he
        rw [hseen', horders]
        exact ⟨List.mem_cons_self, order, horder, rfl, hparked.1, hparked.2⟩
  · have hgone : Gone q env bot.pair orderId order.side := by
      rcases orderStatus_spec hstatus with ⟨remaining, rfl, -, hbook⟩ | ⟨refund, rfl, -, hp⟩ |
        ⟨-, hoff, hnone, -⟩
      · exact .inl ⟨_, _, hbook, isZero_iff.mp hterminal⟩
      · exact .inr (.inr ⟨refund, hp, isZero_iff.mp hzero⟩)
      · exact .inr (.inl ⟨hoff, hnone⟩)
    refine ⟨.single ?_, ?_, ?_⟩
    · simp only [swept]
      rw [horders, hactive]
      exact .dropped hbot horder hcount hgone
        (by simp [Untouched])
    · rw [hclaims]
      exact hq.1
    · intro e he
      rw [hclaims] at he
      refine ⟨hseen' ▸ List.mem_cons_of_mem _ (hq.2 e he).1, (hq.2 e he).2.mono ?_⟩
      rw [horders, lookup_erase, if_neg (hother e he).symm]
  · have hbook : remaining ≤ order.remaining ∧
        OnBook q env bot.pair orderId order.side order.price remaining := by
      rcases orderStatus_spec hstatus with ⟨_, h, hle, hb⟩ | ⟨_, h, -⟩ | ⟨h | h, -⟩
      · cases h
        exact ⟨hle, hb⟩
      · cases h
      · cases h
      · cases h
    refine ⟨.single ?_, ?_, ?_⟩
    · simp only [swept]
      rw [horders, hactive]
      exact .lowered hbot horder hbook.2 hbook.1
        (by simp [Untouched])
    · rw [hclaims]
      exact hq.1
    · intro e he
      rw [hclaims] at he
      refine ⟨hseen' ▸ List.mem_cons_of_mem _ (hq.2 e he).1, (hq.2 e he).2.mono ?_⟩
      rw [horders, lookup_insert, if_neg (hother e he).symm]

lemma reconcileOrders_effects (st : Storage) {st₀ : Storage} (bot : Bot) {s s' : Sweep} {orderIds : List ℕ}
    (hq : Queued q env bot.pair s)
    (h : foldChecked (reconcileOrder q env st₀ bot.pair) s orderIds = .ok s') :
    Steps q env (swept st bot s, []) (swept st bot s', []) ∧ Queued q env bot.pair s' := by
  refine foldChecked_invariant
    (motive := fun t _ => Steps q env (swept st bot s, []) (swept st bot t, []) ∧ Queued q env bot.pair t)
    h ⟨.refl, hq⟩ ?_
  intro t orderId _ t' hstep ht
  obtain ⟨hsteps, hq'⟩ := reconcileOrder_effects st ht.2 hstep
  exact ⟨ht.1.trans hsteps, hq'⟩

lemma resolveFee_cache (st : Storage) (registry owner : Addr) :
    ∃ cache, (resolveFee q st registry owner).1 = { st with effectiveFeeCache := cache } := by
  rw [resolveFee]
  split
  · exact ⟨_, rfl⟩
  · split <;> exact ⟨_, rfl⟩

variable (env) in
lemma chargeFee_effects {st st' : Storage} {bot bot' : Bot} {credited : Fin 2 → Uint128}
    {fee : Option FeeApplied} (ms : List (SubMsg CosmosMsg))
    (h : chargeFee q st bot credited = .ok (st', bot', fee)) :
    Steps q env ({ st with bot := some bot }, ms) ({ st' with bot := some bot' }, ms) ∧
      st'.orders = st.orders ∧ st'.config = st.config ∧ bot'.pair = bot.pair := by
  rw [chargeFee] at h
  split at h
  · rename_i registry collector _ _
    obtain ⟨cache, hcache⟩ := resolveFee_cache (q := q) st registry bot.owner
    generalize resolveFee q st registry bot.owner = resolved at h hcache
    obtain ⟨st₁, feeBps, tier, source⟩ := resolved
    obtain rfl : st₁ = { st with effectiveFeeCache := cache } := hcache
    dsimp only at h
    have hcached : Effect q env ({ st with bot := some bot }, ms)
        ({ st with bot := some bot, effectiveFeeCache := cache }, ms) := .cached cache
    split at h
    · cases h
      exact ⟨.single hcached, rfl, rfl, rfl⟩
    · simp only [bind_eq_ok, Prod.exists] at h
      obtain ⟨_, -, _, -, _, feeShares, -, h⟩ := h
      split at h
      · cases h
        exact ⟨.single hcached, rfl, rfl, rfl⟩
      · simp only [mintFee, bind_eq_ok, withError_eq_ok, checkedAdd_eq_ok, Except.ok.injEq, Prod.exists,
          Prod.mk.injEq] at h
        obtain ⟨_, _, ⟨shares, hshares, totalShares, htotal, rfl, rfl⟩, rfl, rfl, -⟩ := h
        exact ⟨.tail (.single hcached) (.minted collector rfl htotal hshares), rfl, rfl, rfl⟩
  · cases h
    exact ⟨.refl, rfl, rfl, rfl⟩

variable (q env) in
lemma addPages_effects {st st' : Storage} {bot : Bot} {r r' : Response CosmosMsg} {kind : PageKind}
    {chunks : List (List PendingPageEntry)} (hbot : st.bot = some bot)
    (valid : ∀ e ∈ chunks.flatten, ValidEntry q env st.orders bot.pair kind e)
    (distinct : (chunks.flatten.map PendingPageEntry.orderId).Nodup)
    (untouched : ∀ e ∈ chunks.flatten, Untouched r.messages e.orderId)
    (only_pages : ∀ m ∈ r.messages, isPage m.msg)
    (h : foldChecked (addPage BOT_ID bot.pair kind) (st, r) chunks = .ok (st', r')) :
    Steps q env (st, r.messages) (st', r'.messages) ∧ st'.bot = some bot ∧ st'.orders = st.orders ∧
      (∀ m ∈ r'.messages, isPage m.msg) ∧
      ∀ id, Untouched r.messages id → id ∉ chunks.flatten.map PendingPageEntry.orderId →
        Untouched r'.messages id := by
  induction chunks generalizing st r with
  | nil =>
    cases h
    exact ⟨.refl, hbot, rfl, only_pages, fun id hid _ => hid⟩
  | cons chunk rest ih =>
    simp only [foldChecked, addPage, nextReplyId, bind_eq_ok, ensure_eq_ok, exists_const,
      Except.ok.injEq, Prod.exists, Prod.mk.injEq] at h
    obtain ⟨_, _, ⟨_, _, ⟨-, rfl, rfl⟩, rfl, rfl⟩, h⟩ := h
    rw [List.flatten_cons, List.map_append] at distinct
    rw [List.flatten_cons] at valid untouched
    obtain ⟨dchunk, drest, hdisjoint⟩ := List.nodup_append.mp distinct
    have hpage : Effect q env (st, r.messages) _ :=
      .paged hbot (fun e he => valid e (List.mem_append_left _ he)) dchunk
        (fun e he => untouched e (List.mem_append_left _ he)) only_pages
    have hkept : ∀ id, Untouched r.messages id → id ∉ chunk.map PendingPageEntry.orderId →
        Untouched (r.messages ++ [.replyAlways (.pair bot.pair
          (pageMsg kind (chunk.map PendingPageEntry.orderId))) st.nextReplyId]) id := by
      intro id hid hnot m hm
      rcases List.mem_append.mp hm with hm | hm
      · exact hid m hm
      · obtain rfl := List.mem_singleton.mp hm
        simpa [SubMsg.replyAlways] using hnot
    have hnext : ({ st with
        nextReplyId := st.nextReplyId + 1
        pendingPages := st.pendingPages.insert st.nextReplyId ⟨BOT_ID, kind, chunk⟩ } : Storage).bot =
        some bot := hbot
    obtain ⟨hsteps, hbot', horders, hpages, hafter⟩ := ih hnext (fun e he => valid e (List.mem_append_right _ he)) drest
      (fun e he => hkept _ (untouched e (List.mem_append_right _ he))
        fun hmem => hdisjoint _ hmem _ (List.mem_map_of_mem he) rfl)
      (by
        intro m hm
        rcases List.mem_append.mp hm with hm | hm
        · exact only_pages m hm
        · obtain rfl := List.mem_singleton.mp hm
          trivial)
      h
    refine ⟨.head hpage hsteps, hbot', horders, hpages, fun id hid hnot => ?_⟩
    rw [List.flatten_cons, List.map_append, List.mem_append, not_or] at hnot
    exact hafter id (hkept id hid hnot.1) hnot.2

variable (q env) in
lemma addConfirmablePages_effects {st st' : Storage} {bot : Bot} {r r' : Response CosmosMsg}
    {cancels claims : List PendingPageEntry} {limit : ℕ} (hbot : st.bot = some bot)
    (hcancels : ∀ e ∈ cancels, ValidEntry q env st.orders bot.pair .cancel e)
    (hclaims : ∀ e ∈ claims, ValidEntry q env st.orders bot.pair .claim e)
    (distinct : ((cancels ++ claims).map PendingPageEntry.orderId).Nodup) (hr : r.messages = [])
    (h : addConfirmablePages st r BOT_ID bot.pair cancels claims limit = .ok (st', r')) :
    Steps q env (st, []) (st', r'.messages) ∧ st'.bot = some bot ∧ st'.orders = st.orders := by
  simp only [addConfirmablePages, bind_eq_ok, Prod.exists] at h
  obtain ⟨st₁, r₁, h₁, h₂⟩ := h
  have hlimit : 0 < max limit 1 := by omega
  rw [List.map_append] at distinct
  obtain ⟨dcancels, dclaims, hdisjoint⟩ := List.nodup_append.mp distinct
  obtain ⟨hsteps, hbot₁, horders₁, hpages₁, hafter⟩ := addPages_effects q env hbot
    (by rwa [chunks_flatten hlimit]) (by rwa [chunks_flatten hlimit]) (by simp [hr, Untouched])
    (by simp [hr]) h₁
  rw [chunks_flatten hlimit] at hafter
  rw [hr] at hsteps hafter
  obtain ⟨hsteps', hbot', horders', -, -⟩ := addPages_effects q env hbot₁
    (by rwa [chunks_flatten hlimit, horders₁]) (by rwa [chunks_flatten hlimit])
    (by
      rw [chunks_flatten hlimit]
      intro e he
      refine hafter _ (by simp [Untouched]) fun hmem => ?_
      exact hdisjoint _ hmem _ (List.mem_map_of_mem he) rfl)
    hpages₁ h₂
  exact ⟨hsteps.trans hsteps', hbot', horders'.trans horders₁⟩

end Cl8yDexBots.LimitGrid.Effects
