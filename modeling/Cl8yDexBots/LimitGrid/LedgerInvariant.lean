import Cl8yDexBots.LimitGrid.Deliveries
import Cl8yDexBots.LimitGrid.OrderBook

/-! The ledger of a bot: its shares, its count of active orders and its cancelled orders. -/

namespace Cl8yDexBots.LimitGrid.LedgerInvariant

open Std Foundation.Checked Foundation.Words Foundation.SubMessages Foundation.StorageMap CosmWasm.Std
open State Orders Transactions Effects Resolutions PendingMessages Deliveries

def batchSize : CosmosMsg → ℕ
  | .token _ (.send _ _ (.placeLimitOrderBatch _ items)) => items.length
  | _ => 0

def inFlight (ms : List (SubMsg CosmosMsg)) : ℕ := (ms.map fun m => batchSize m.msg).sum

@[simp] lemma inFlight_nil : inFlight [] = 0 := rfl

@[simp] lemma inFlight_cons (m : SubMsg CosmosMsg) (ms : List (SubMsg CosmosMsg)) :
    inFlight (m :: ms) = batchSize m.msg + inFlight ms := by
  simp [inFlight]

@[simp] lemma inFlight_append (ms ns : List (SubMsg CosmosMsg)) :
    inFlight (ms ++ ns) = inFlight ms + inFlight ns := by
  simp [inFlight]

lemma inFlight_eq_zero {ms : List (SubMsg CosmosMsg)} (h : ∀ m ∈ ms, batchSize m.msg = 0) :
    inFlight ms = 0 := by
  induction ms with
  | nil => rfl
  | cons m ms ih =>
    rw [inFlight_cons, h m List.mem_cons_self, ih fun b hb => h b (List.mem_cons_of_mem _ hb)]

lemma batchSize_of_plain {msg : CosmosMsg} (h : isPlain msg) : batchSize msg = 0 := by
  simp only [isPlain] at h
  split at h
  · rfl
  · rfl
  · exact h.elim

lemma batchSize_of_page {st : Storage} {bot : Bot} {m : SubMsg CosmosMsg} {kind : PageKind}
    {entries : List PendingPageEntry} (h : PageOf st bot m kind entries) : batchSize m.msg = 0 := by
  rw [h.shape]
  rfl

lemma batchSize_of_batch {st : Storage} {bot : Bot} {m : SubMsg CosmosMsg} {side : LimitOrderSide}
    {rungs : List ℕ} {amountEach total : Uint128} {items : List LimitOrderPlacementItem}
    (h : BatchOf st bot m side rungs amountEach total items) : batchSize m.msg = rungs.length := by
  rw [h.shape, ← h.all_items]
  rfl

lemma transfers_plain {bot : Bot} {recipient : Addr} {amounts : Fin 2 → Uint128}
    {m : SubMsg CosmosMsg} (h : m ∈ Vault.transfers bot recipient amounts) :
    ∃ i, m = .plain (.token (bot.assetTokens i) (.transfer recipient (amounts i))) := by
  rw [Vault.transfers] at h
  obtain ⟨i, -, hi⟩ := List.mem_filterMap.mp h
  split at hi
  · cases hi
  · exact ⟨i, (Option.some.inj hi).symm⟩

lemma inFlight_transfers (bot : Bot) (recipient : Addr) (amounts : Fin 2 → Uint128) :
    inFlight (Vault.transfers bot recipient amounts) = 0 := by
  apply inFlight_eq_zero
  intro m hm
  obtain ⟨i, rfl⟩ := transfers_plain hm
  rfl

structure Booked (st : Storage) (ms : List (SubMsg CosmosMsg)) : Prop where
  unborn : st.bot = none → st.orders = ∅ ∧ st.cancelledOrders = ∅ ∧ st.shares = ∅
  counted : ∀ bot, st.bot = some bot → bot.activeOrders = st.orders.size + inFlight ms
  shares : ∀ bot, st.bot = some bot → total st.shares Uint.val = bot.totalShares.val

variable {q : Querier} {env : Env} {st st' : Storage} {ms ms' : List (SubMsg CosmosMsg)}
  {m : SubMsg CosmosMsg}

lemma weight_shares (st : Storage) (holder : Addr) :
    weight st.shares Uint.val holder = (sharesOf st holder).val := by
  rw [weight, sharesOf]
  cases st.shares[holder]? <;> rfl

lemma total_shares_insert {st : Storage} {holder : Addr} {shares : Uint128} {supply supply' : ℕ}
    (h : total st.shares Uint.val = supply)
    (moved : supply' + (sharesOf st holder).val = supply + shares.val) :
    total (st.shares.insert holder shares) Uint.val = supply' := by
  have hinsert := total_insert st.shares Uint.val holder shares
  rw [weight_shares] at hinsert
  omega

lemma Booked.born {bot : Bot} (hbot : st.bot = some bot)
    (counted : bot.activeOrders = st.orders.size + inFlight ms)
    (shares : total st.shares Uint.val = bot.totalShares.val) : Booked st ms := by
  refine ⟨fun hnone => ?_, fun b hb => ?_, fun b hb => ?_⟩
  · rw [hbot] at hnone
    cases hnone
  · obtain rfl := Option.some.inj (hbot.symm.trans hb)
    exact counted
  · obtain rfl := Option.some.inj (hbot.symm.trans hb)
    exact shares

lemma Booked.recount {bot bot' : Bot} (h : Booked st ms) (hbot : st.bot = some bot)
    (hbot' : st'.bot = some bot')
    (counted : bot'.activeOrders + (st.orders.size + inFlight ms) =
      bot.activeOrders + (st'.orders.size + inFlight ms'))
    (shares : st'.shares = st.shares) (supply : bot'.totalShares = bot.totalShares) : Booked st' ms' := by
  have hcount := h.counted bot hbot
  refine .born hbot' (by omega) ?_
  rw [shares, supply]
  exact h.shares bot hbot

lemma Booked.reshare {bot bot' : Bot} {holder : Addr} {shares : Uint128} (h : Booked st ms)
    (hbot : st.bot = some bot) (hbot' : st'.bot = some bot')
    (counted : bot'.activeOrders + (st.orders.size + inFlight ms) =
      bot.activeOrders + (st'.orders.size + inFlight ms'))
    (inserted : st'.shares = st.shares.insert holder shares)
    (moved : bot'.totalShares.val + (sharesOf st holder).val = bot.totalShares.val + shares.val) :
    Booked st' ms' := by
  have hcount := h.counted bot hbot
  refine .born hbot' (by omega) ?_
  rw [inserted]
  exact total_shares_insert (h.shares bot hbot) moved

/-- Before a bot is created nothing that could be in flight places orders. -/
lemma unborn_inFlight (hp : Pending st ms) (fresh : st.bot = none) : inFlight ms = 0 := by
  apply inFlight_eq_zero
  intro m hm
  cases hp.awaited m hm with
  | transfer hm =>
    rw [hm]
    rfl
  | bank hm =>
    rw [hm]
    rfl
  | page hbot hm => exact batchSize_of_page hm
  | batch hbot hm =>
    rw [fresh] at hbot
    cases hbot

lemma inFlight_placement {bot : Bot} {side : LimitOrderSide} {total : Uint128} {rungs : List ℕ}
    {items : List LimitOrderPlacementItem} (id : ℕ) (all_items : items.length = rungs.length) :
    inFlight [SubMsg.replyAlways (placementMsg bot side total items) id] = rungs.length := by
  simp [SubMsg.replyAlways, placementMsg, batchSize, all_items]

lemma booked_effect (hp : Pending st ms) (h : Booked st ms) (e : Effect q env (st, ms) (st', ms')) :
    Booked st' ms' := by
  cases e with
  | configured admin pendingAdmin keeper vaultMode allowedTokens quarantine enabled =>
    exact ⟨h.unborn, h.counted, h.shares⟩
  | cached cache => exact ⟨h.unborn, h.counted, h.shares⟩
  | created rungs fresh pair tokens distinct zero =>
    obtain ⟨horders, -, hshares⟩ := h.unborn fresh
    refine .born rfl ?_ ?_
    · rw [zero.2.2, horders, unborn_inFlight hp fresh]
      simp
    · rw [zero.2.1, hshares]
      simp
  | regauged gasCredit pairCodeId hbot => exact h.recount hbot rfl rfl rfl rfl
  | paid recipient coins =>
    refine ⟨h.unborn, ?_, h.shares⟩
    simpa [inFlight_append, SubMsg.plain, batchSize] using h.counted
  | deposited depositor hbot live credit supply holding no_messages =>
    refine h.reshare hbot rfl rfl rfl ?_
    dsimp only
    omega
  | placed hbot some_rung all_items sum debit no_pages =>
    refine h.recount hbot rfl ?_ rfl rfl
    rw [inFlight_append, inFlight_placement _ all_items]
    dsimp only
    omega
  | synced hbot actual grown no_messages => exact h.recount hbot rfl rfl rfl rfl
  | dropped hbot tracked counted gone untouched =>
    refine h.recount hbot rfl ?_ rfl rfl
    have hsize := size_erase_old tracked
    dsimp only
    omega
  | lowered hbot tracked book less untouched =>
    refine h.recount hbot hbot ?_ rfl rfl
    rw [size_insert_old tracked]
  | minted collector hbot supply holding =>
    refine h.reshare hbot rfl rfl rfl ?_
    dsimp only
    omega
  | paged hbot valid distinct untouched only_pages =>
    refine h.recount hbot hbot ?_ rfl rfl
    rw [inFlight_append]
    simp [SubMsg.replyAlways, batchSize]
  | recovered rungIndex hbot untracked uncancelled found =>
    refine h.recount hbot rfl ?_ rfl rfl
    rw [size_insert_new untracked]
    dsimp only
    omega
  | redeemed recipient hbot debit supply holding =>
    refine h.reshare hbot rfl ?_ rfl ?_
    · rw [inFlight_transfers]
      rfl
    · dsimp only
      omega
  | exited recipient hbot drained actual debit supply =>
    have hcount := h.counted _ hbot
    refine h.reshare hbot rfl ?_ rfl ?_
    · rw [drained] at hcount
      rw [inFlight_transfers, hcount, drained, Nat.add_comm]
      rfl
    · rw [zero_val]
      dsimp only
      omega

variable {W : Type} {C : Chain W} {w w' : W} {result : Except String (List (String × String))}

lemma booked_delivered (h : Booked st (m :: ms)) (d : Delivered C st w m result st' w') :
    Booked st' ms := by
  cases d with
  | sent plain ran =>
    refine ⟨h.unborn, ?_, h.shares⟩
    simpa [batchSize_of_plain plain] using h.counted
  | reverted hbot page failed =>
    refine ⟨h.unborn, ?_, h.shares⟩
    simpa [batchSize_of_page page] using h.counted
  | confirmed hbot page ran settled counted =>
    refine h.recount hbot rfl ?_ rfl rfl
    have hsize := settled.size
    rw [inFlight_cons, batchSize_of_page page]
    dsimp only at hsize ⊢
    omega
  | restored hbot batch single counted credit outcome =>
    refine h.recount hbot rfl ?_ rfl rfl
    rw [inFlight_cons, batchSize_of_batch batch, single]
    dsimp only
    omega
  | recorded hbot batch ran placed all settled =>
    refine h.recount hbot hbot ?_ rfl rfl
    rw [inFlight_cons, batchSize_of_batch batch, settled.size]
    omega

/-- The pair hands out every order id once: `issued` holds of the ids in use or used before. -/
structure NeverReuses (C : Chain W) (issued : W → Addr → ℕ → Prop) : Prop where
  drift : ∀ {w w' pair id}, C.drift w w' → issued w pair id → issued w' pair id
  runs : ∀ {w msg r w' pair id}, C.runs w msg r w' → issued w pair id → issued w' pair id
  placed : ∀ {w token pair total hook r w'} {ids : List ℕ} {id : ℕ},
    C.runs w (.token token (.send pair total hook)) r w' → placedIds r = .ok ids → id ∈ ids →
      ¬ issued w pair id ∧ issued w' pair id
  book : ∀ {w pair id order}, (C.querier w).limitOrder pair id = .ok order → issued w pair id
  parked : ∀ {w pair id refund}, (C.querier w).expiredLimitRefund pair id = .ok (some refund) →
    issued w pair id

structure Known (issued : W → Addr → ℕ → Prop) (st : Storage) (w : W) : Prop where
  tracked : ∀ bot, st.bot = some bot → ∀ id : ℕ, st.orders[id]? ≠ none → issued w bot.pair id
  cancelled : ∀ bot, st.bot = some bot → ∀ id : ℕ, st.cancelledOrders[id]? ≠ none → issued w bot.pair id
  disjoint : ∀ id : ℕ, st.orders[id]? ≠ none → st.cancelledOrders[id]? = none

variable {issued : W → Addr → ℕ → Prop}

lemma Known.mono (h : Known issued st w) (later : ∀ pair id, issued w pair id → issued w' pair id) :
    Known issued st w' :=
  ⟨fun bot hb id hid => later _ _ (h.tracked bot hb id hid),
    fun bot hb id hid => later _ _ (h.cancelled bot hb id hid), h.disjoint⟩

lemma Known.of_orders {bot bot' : Bot} (h : Known issued st w) (hbot : st.bot = some bot)
    (hbot' : st'.bot = some bot') (pair : bot'.pair = bot.pair)
    (cancelled : st'.cancelledOrders = st.cancelledOrders)
    (orders : ∀ id : ℕ, st'.orders[id]? ≠ none → st.orders[id]? ≠ none) : Known issued st' w := by
  refine ⟨fun b hb id hid => ?_, fun b hb id hid => ?_, fun id hid => ?_⟩
  · obtain rfl := Option.some.inj (hbot'.symm.trans hb)
    rw [pair]
    exact h.tracked bot hbot id (orders id hid)
  · obtain rfl := Option.some.inj (hbot'.symm.trans hb)
    rw [cancelled] at hid
    rw [pair]
    exact h.cancelled bot hbot id hid
  · rw [cancelled]
    exact h.disjoint id (orders id hid)

lemma known_effect (never : NeverReuses C issued) (hb : Booked st ms) (h : Known issued st w)
    (e : Effect (C.querier w) (C.env w) (st, ms) (st', ms')) : Known issued st' w := by
  cases e with
  | configured admin pendingAdmin keeper vaultMode allowedTokens quarantine enabled =>
    exact ⟨h.tracked, h.cancelled, h.disjoint⟩
  | cached cache => exact ⟨h.tracked, h.cancelled, h.disjoint⟩
  | created rungs fresh pair tokens distinct zero =>
    obtain ⟨horders, hcancelled, -⟩ := hb.unborn fresh
    refine ⟨fun b _ id hid => ?_, fun b _ id hid => ?_, h.disjoint⟩
    · rw [horders] at hid
      simp at hid
    · rw [hcancelled] at hid
      simp at hid
  | regauged gasCredit pairCodeId hbot => exact h.of_orders hbot rfl rfl rfl fun _ hid => hid
  | paid recipient coins => exact h
  | deposited depositor hbot live credit supply holding no_messages =>
    exact h.of_orders hbot rfl rfl rfl fun _ hid => hid
  | placed hbot some_rung all_items sum debit no_pages =>
    exact h.of_orders hbot rfl rfl rfl fun _ hid => hid
  | synced hbot actual grown no_messages => exact h.of_orders hbot rfl rfl rfl fun _ hid => hid
  | dropped hbot tracked counted gone untouched =>
    refine h.of_orders hbot rfl rfl rfl fun id hid => ?_
    rw [lookup_erase] at hid
    split at hid
    · exact absurd rfl hid
    · exact hid
  | lowered hbot tracked book less untouched =>
    refine h.of_orders hbot hbot rfl rfl fun id hid => ?_
    rw [lookup_insert] at hid
    split at hid
    · rename_i heq
      rw [← heq, tracked]
      simp
    · exact hid
  | minted collector hbot supply holding => exact h.of_orders hbot rfl rfl rfl fun _ hid => hid
  | paged hbot valid distinct untouched only_pages =>
    exact h.of_orders hbot hbot rfl rfl fun _ hid => hid
  | @recovered _ _ bot orderId side price remaining rungIndex hbot untracked uncancelled found =>
    have hissued : issued w bot.pair orderId := by
      rcases found with hbook | ⟨-, hparked⟩
      · exact never.book hbook
      · exact never.parked hparked
    refine ⟨fun b hb' id hid => ?_, fun b hb' id hid => ?_, fun id hid => ?_⟩
    · obtain rfl := Option.some.inj hb'
      rw [lookup_insert] at hid
      split at hid
      · rename_i heq
        rw [← heq]
        exact hissued
      · exact h.tracked bot hbot id hid
    · obtain rfl := Option.some.inj hb'
      exact h.cancelled bot hbot id hid
    · rw [lookup_insert] at hid
      split at hid
      · rename_i heq
        rw [← heq]
        exact uncancelled
      · exact h.disjoint id hid
  | redeemed recipient hbot debit supply holding => exact h.of_orders hbot rfl rfl rfl fun _ hid => hid
  | exited recipient hbot drained actual debit supply =>
    exact h.of_orders hbot rfl rfl rfl fun _ hid => hid

lemma known_delivered (never : NeverReuses C issued) (h : Known issued st w)
    (d : Delivered C st w m result st' w') : Known issued st' w' := by
  cases d with
  | sent plain ran => exact h.mono fun pair id => never.runs ran
  | reverted hbot page failed => exact ⟨h.tracked, h.cancelled, h.disjoint⟩
  | @confirmed r _ bot kind entries s hbot page ran settled counted =>
    have h := h.mono fun pair id => never.runs ran
    have hkept : ∀ id : ℕ, s.orders[id]? ≠ none →
        id ∉ entries.map PendingPageEntry.orderId ∧ st.orders[id]? ≠ none := by
      intro id hid
      have hnot : id ∉ entries.map PendingPageEntry.orderId := fun hmem => hid (settled.untracked id hmem)
      rw [settled.others id hnot] at hid
      exact ⟨hnot, hid⟩
    have hcancelled : ∀ id : ℕ, s.cancelledOrders[id]? ≠ none →
        st.cancelledOrders[id]? ≠ none ∨ id ∈ entries.map PendingPageEntry.orderId := settled.cancelled
    refine ⟨fun b hb' id hid => ?_, fun b hb' id hid => ?_, fun id hid => ?_⟩
    · obtain rfl := Option.some.inj hb'
      exact h.tracked bot hbot id (hkept id hid).2
    · obtain rfl := Option.some.inj hb'
      rcases hcancelled id hid with hid | hid
      · exact h.cancelled bot hbot id hid
      · obtain ⟨e, he, rfl⟩ := List.mem_map.mp hid
        obtain ⟨order, horder, -⟩ := page.tracked e he
        exact h.tracked bot hbot e.orderId (by simp [horder])
    · by_contra hnot
      rcases hcancelled id hnot with hold | hold
      · exact hold (h.disjoint id (hkept id hid).2)
      · exact (hkept id hid).1 hold
  | restored hbot batch single counted credit outcome =>
    have h : Known issued st w' := by
      rcases outcome with ⟨r, -, ran, -⟩ | ⟨reason, -, -, rfl⟩
      · exact h.mono fun pair id => never.runs ran
      · exact h
    exact h.of_orders hbot rfl rfl rfl fun _ hid => hid
  | @recorded r _ bot side rungs amountEach total items ids orders hbot batch ran placed all settled =>
    have hnew : ∀ id ∈ ids, ¬ issued w bot.pair id ∧ issued w' bot.pair id := by
      intro id hid
      rw [batch.shape] at ran
      exact never.placed ran placed hid
    have hlater := h.mono fun pair id => never.runs ran
    refine ⟨fun b hb' id hid => ?_, fun b hb' id hid => ?_, fun id hid => ?_⟩
    · obtain rfl := Option.some.inj (hbot.symm.trans hb')
      by_cases hmem : id ∈ ids
      · exact (hnew id hmem).2
      · exact hlater.tracked bot hbot id (settled.others id hmem ▸ hid)
    · obtain rfl := Option.some.inj (hbot.symm.trans hb')
      exact hlater.cancelled bot hbot id hid
    · by_cases hmem : id ∈ ids
      · by_contra hold
        exact (hnew id hmem).1 (h.cancelled bot hbot id hold)
      · exact h.disjoint id (settled.others id hmem ▸ hid)

lemma instantiate_fresh {info : MessageInfo} {msg : InstantiateMsg} {r : Response CosmosMsg}
    (h : Vault.instantiate q info msg = .ok (st, r)) :
    st.bot = none ∧ st.orders = ∅ ∧ st.cancelledOrders = ∅ ∧ st.shares = ∅ := by
  obtain ⟨config, rfl, -⟩ := Vault.instantiate_spec h
  exact ⟨rfl, rfl, rfl, rfl⟩

lemma reachable_booked (h : Reachable C st w) : Booked st [] := by
  refine (reachable_invariant (J := fun st _ ms => Booked st ms) ?_ (fun _ h _ => h)
    (fun hp h e => booked_effect hp h e) (fun _ h d => booked_delivered h d) h).2
  intro w info msg st r _ h
  obtain ⟨hbot, horders, hcancelled, hshares⟩ := instantiate_fresh h
  refine ⟨fun _ => ⟨horders, hcancelled, hshares⟩, fun b hb => ?_, fun b hb => ?_⟩
  · rw [hbot] at hb
    cases hb
  · rw [hbot] at hb
    cases hb

lemma reachable_known (never : NeverReuses C issued) (h : Reachable C st w) : Known issued st w := by
  refine (reachable_invariant (J := fun st w ms => Booked st ms ∧ Known issued st w) ?_ ?_ ?_ ?_ h).2.2
  · intro w info msg st r _ h
    obtain ⟨hbot, horders, hcancelled, hshares⟩ := instantiate_fresh h
    refine ⟨⟨fun _ => ⟨horders, hcancelled, hshares⟩, fun b hb => ?_, fun b hb => ?_⟩,
      fun b hb => ?_, fun b hb => ?_, fun id hid => ?_⟩
    · rw [hbot] at hb
      cases hb
    · rw [hbot] at hb
      cases hb
    · rw [hbot] at hb
      cases hb
    · rw [hbot] at hb
      cases hb
    · rw [horders] at hid
      simp at hid
  · exact fun _ h hdrift => ⟨h.1, h.2.mono fun pair id => never.drift hdrift⟩
  · exact fun hp h e => ⟨booked_effect hp h.1 e, known_effect never h.1 h.2 e⟩
  · exact fun _ h d => ⟨booked_delivered h.1 d, known_delivered never h.2 d⟩

/-- At the end of every transaction the shares add up, every tracked order is counted, no order is
both tracked and cancelled, and nothing awaits a reply. -/
theorem ledger_consistent (never : NeverReuses C issued) (h : Reachable C st w) :
    (∀ bot, st.bot = some bot →
      total st.shares Uint.val = bot.totalShares.val ∧ bot.activeOrders = st.orders.size) ∧
    (∀ id, ¬ (id ∈ st.orders ∧ id ∈ st.cancelledOrders)) ∧
    st.pendingPages = ∅ ∧ st.placements = ∅ := by
  have hbooked := reachable_booked h
  have hknown := reachable_known never h
  obtain ⟨hplacements, hpages⟩ := reachable_settled h
  refine ⟨fun bot hbot => ⟨hbooked.shares bot hbot, hbooked.counted bot hbot⟩, ?_, hpages, hplacements⟩
  rintro id ⟨htracked, hcancelled⟩
  obtain ⟨order, horder⟩ := mem_iff_exists.mp htracked
  obtain ⟨c, hc⟩ := mem_iff_exists.mp hcancelled
  have := hknown.disjoint id (by simp [horder])
  rw [hc] at this
  cases this

lemma orderBook_never_reuses : NeverReuses OrderBook.chain OrderBook.issued where
  drift := by
    rintro w w' pair id h ⟨rfl, hlt⟩
    cases h with
    | donated amounts sound => exact ⟨rfl, hlt⟩
    | filled status proceeds h onBook less still sound => exact ⟨rfl, by simpa using hlt⟩
    | expired h onBook => exact ⟨rfl, by simpa using hlt⟩
    | configured maxBatchRungs paused => exact ⟨rfl, hlt⟩
  runs := by
    rintro w msg r w' pair id h ⟨rfl, hlt⟩
    exact ⟨rfl, hlt.trans_le (OrderBook.slots_grow h)⟩
  placed := by
    rintro w token pair total ⟨side, items⟩ r w' ids id h hids hid
    obtain ⟨rfl, -, -, hroom, rfl, -, rfl⟩ := OrderBook.place_spec h
    rw [OrderBook.placedIds_placedEvents hroom] at hids
    cases hids
    obtain ⟨j, hj, rfl⟩ := List.mem_map.mp hid
    have hj := List.mem_range.mp hj
    refine ⟨fun hold => ?_, rfl, ?_⟩
    · have := hold.2
      omega
    · simp only [OrderBook.placeSlots, List.length_append, List.length_map]
      omega
  book := by
    intro w pair id o h
    have hbook : OrderBook.bookEntry w.slots pair id = some o := orError_eq_ok.mp h
    rw [OrderBook.bookEntry] at hbook
    split_ifs at hbook with hpair
    split at hbook
    · rename_i hslot
      exact ⟨hpair, (List.getElem?_eq_some_iff.mp hslot).1⟩
    · cases hbook
  parked := by
    intro w pair id refund h
    have hparked : OrderBook.parkedEntry w.slots pair id = some refund := Except.ok.inj h
    rw [OrderBook.parkedEntry] at hparked
    split_ifs at hparked with hpair
    split at hparked
    · rename_i hslot
      exact ⟨hpair, (List.getElem?_eq_some_iff.mp hslot).1⟩
    · cases hparked

theorem ledger_consistent_settled : ∃ st w, OrderBook.scenario OrderBook.settling = .ok (st, w) ∧
    (∀ bot, st.bot = some bot →
      total st.shares Uint.val = bot.totalShares.val ∧ bot.activeOrders = st.orders.size) ∧
    (∀ id, ¬ (id ∈ st.orders ∧ id ∈ st.cancelledOrders)) ∧
    st.pendingPages = ∅ ∧ st.placements = ∅ := by
  have hruns : okAnd (OrderBook.scenario OrderBook.settling) (fun _ => true) = true := by decide
  obtain ⟨⟨st, w⟩, h, -⟩ := okAnd_iff.mp hruns
  exact ⟨st, w, h, ledger_consistent orderBook_never_reuses (OrderBook.scenario_reachable h)⟩

end Cl8yDexBots.LimitGrid.LedgerInvariant
