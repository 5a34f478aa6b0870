import Cl8yDexBots.LimitGrid.LedgerInvariant

/-! Every escrow the pair holds for the vault is tracked. -/

namespace Cl8yDexBots.LimitGrid.Escrow

open Std Foundation.Checked Foundation.Words Foundation.SubMessages Foundation.StorageMap CosmWasm.Std
open State Orders Vault Transactions Effects EntryEffects Resolutions PendingMessages Deliveries
open LedgerInvariant

/-- The orders on the books of the pairs, and the refunds parked for expired orders. -/
structure Books (W : Type) where
  book : W → Addr → ℕ → Option LimitOrderResponse
  parked : W → Addr → ℕ → Option ExpiredLimitRefundResponse

variable {W : Type}

def Escrowed (B : Books W) (owner : Addr) (w : W) (pair : Addr) (id : ℕ) (side : LimitOrderSide)
    (amount : ℕ) : Prop :=
  0 < amount ∧
    ((∃ o, B.book w pair id = some o ∧ o.owner = owner ∧ o.side = side ∧ o.remaining.val = amount) ∨
      ∃ r, B.parked w pair id = some r ∧ r.owner = owner ∧ r.side = side ∧ r.remaining.val = amount)

def Shrinks (C : Chain W) (B : Books W) (w w' : W) : Prop :=
  ∀ pair id side amount, Escrowed B C.vault w' pair id side amount →
    ∃ before, Escrowed B C.vault w pair id side before ∧ amount ≤ before

/-- Queries that show the books as they are, and messages and fills that change the vault's escrows
in no other way than they report. -/
structure Transparent (C : Chain W) (B : Books W) : Prop where
  on_book : ∀ {w pair id o}, (C.querier w).limitOrder pair id = .ok o ↔ B.book w pair id = some o
  refund : ∀ {w pair id r}, (C.querier w).expiredLimitRefund pair id = .ok r → r = B.parked w pair id
  exclusive : ∀ {w pair id}, B.book w pair id ≠ none → B.parked w pair id = none
  genesis : ∀ {w}, C.genesis w → ∀ pair id side amount, ¬ Escrowed B C.vault w pair id side amount
  drift : ∀ {w w'}, C.drift w w' → Shrinks C B w w'
  transfer : ∀ {w token recipient amount r w'}, C.runs w (.token token (.transfer recipient amount)) r w' →
    Shrinks C B w w'
  bank : ∀ {w recipient coins r w'}, C.runs w (.bank recipient coins) r w' → Shrinks C B w w'
  place : ∀ {w token pair total hook r w'} {ids : List ℕ},
    C.runs w (.token token (.send pair total hook)) r w' → placedIds r = .ok ids →
    ∀ other id side amount, Escrowed B C.vault w' other id side amount →
      (∃ before, Escrowed B C.vault w other id side before ∧ amount ≤ before) ∨ other = pair ∧ id ∈ ids
  page : ∀ {w pair kind ids r w'}, C.runs w (.pair pair (pageMsg kind ids)) r w' → Shrinks C B w w' ∧
    ∀ id side amount, Escrowed B C.vault w' pair id side amount → id ∉ ids

structure Tracked (C : Chain W) (B : Books W) (st : Storage) (w : W) : Prop where
  unborn : st.bot = none → ∀ pair id side amount, ¬ Escrowed B C.vault w pair id side amount
  born : ∀ bot, st.bot = some bot → ∀ pair id side amount, Escrowed B C.vault w pair id side amount →
    pair = bot.pair ∧ ∃ order, st.orders[id]? = some order ∧ order.side = side ∧
      amount ≤ order.remaining.val

variable {C : Chain W} {B : Books W} {st st' : Storage} {w w' : W} {ms ms' : List (SubMsg CosmosMsg)}
  {m : SubMsg CosmosMsg} {result : Except String (List (String × String))}

lemma Tracked.shrink (h : Tracked C B st w) (shrinks : Shrinks C B w w') : Tracked C B st w' := by
  refine ⟨fun hnone pair id side amount he => ?_, fun bot hbot pair id side amount he => ?_⟩
  · obtain ⟨before, hb, -⟩ := shrinks pair id side amount he
    exact h.unborn hnone pair id side before hb
  · obtain ⟨before, hb, hle⟩ := shrinks pair id side amount he
    obtain ⟨hpair, order, horder, hside, hcover⟩ := h.born bot hbot pair id side before hb
    exact ⟨hpair, order, horder, hside, hle.trans hcover⟩

lemma Tracked.of_orders {bot bot' : Bot} (h : Tracked C B st w) (hbot : st.bot = some bot)
    (hbot' : st'.bot = some bot') (pair : bot'.pair = bot.pair)
    (orders : ∀ id side amount order, Escrowed B C.vault w bot.pair id side amount →
      st.orders[id]? = some order → order.side = side → amount ≤ order.remaining.val →
      ∃ order', st'.orders[id]? = some order' ∧ order'.side = side ∧ amount ≤ order'.remaining.val) :
    Tracked C B st' w := by
  refine ⟨fun hnone => ?_, fun b hb p id side amount he => ?_⟩
  · rw [hbot'] at hnone
    cases hnone
  · obtain rfl := Option.some.inj (hbot'.symm.trans hb)
    obtain ⟨rfl, order, horder, hside, hle⟩ := h.born bot hbot p id side amount he
    exact ⟨pair.symm, orders id side amount order he horder hside hle⟩

lemma Tracked.same_orders {bot bot' : Bot} (h : Tracked C B st w) (hbot : st.bot = some bot)
    (hbot' : st'.bot = some bot') (pair : bot'.pair = bot.pair) (orders : st'.orders = st.orders) :
    Tracked C B st' w := by
  refine h.of_orders hbot hbot' pair fun id side amount order _ horder hside hle => ?_
  rw [orders]
  exact ⟨order, horder, hside, hle⟩

lemma escrow_of_book (clear : Transparent C B) {pair : Addr} {id : ℕ} {o : LimitOrderResponse}
    (hbook : (C.querier w).limitOrder pair id = .ok o) {side : LimitOrderSide} {amount : ℕ}
    (h : Escrowed B C.vault w pair id side amount) : o.side = side ∧ o.remaining.val = amount := by
  have hsome := clear.on_book.mp hbook
  rcases h.2 with ⟨o', ho', -, hside, hamount⟩ | ⟨r, hr, -⟩
  · obtain rfl := Option.some.inj (hsome.symm.trans ho')
    exact ⟨hside, hamount⟩
  · rw [clear.exclusive (by simp [hsome])] at hr
    cases hr

lemma not_escrowed_of_gone (clear : Transparent C B) {pair : Addr} {id : ℕ} {side : LimitOrderSide}
    (h : Gone (C.querier w) (C.env w) pair id side) (side' : LimitOrderSide) (amount : ℕ) :
    ¬ Escrowed B C.vault w pair id side' amount := by
  intro he
  have hoff : OffBook (C.querier w) pair id → B.book w pair id = none := by
    rintro ⟨e, hfail⟩
    by_contra hsome
    obtain ⟨o, ho⟩ := Option.ne_none_iff_exists'.mp hsome
    rw [clear.on_book.mpr ho] at hfail
    cases hfail
  rcases h with ⟨price, remaining, hbook, hzero⟩ | ⟨hfail, hnone⟩ | ⟨refund, ⟨hfail, hsome⟩, hzero⟩
  · have hamount := (escrow_of_book clear hbook he).2
    have hpos := he.1
    dsimp only at hamount
    omega
  · rcases he.2 with ⟨o, ho, -⟩ | ⟨r, hr, -⟩
    · rw [hoff hfail] at ho
      cases ho
    · rw [← clear.refund hnone] at hr
      cases hr
  · rcases he.2 with ⟨o, ho, -⟩ | ⟨r, hr, -, -, hamount⟩
    · rw [hoff hfail] at ho
      cases ho
    · rw [← clear.refund hsome] at hr
      obtain rfl := Option.some.inj hr
      have hpos := he.1
      dsimp only at hamount
      omega

lemma tracked_effect (clear : Transparent C B) (h : Tracked C B st w)
    (e : Effect (C.querier w) (C.env w) (st, ms) (st', ms')) : Tracked C B st' w := by
  cases e with
  | configured admin pendingAdmin keeper vaultMode allowedTokens quarantine enabled =>
    exact ⟨h.unborn, h.born⟩
  | cached cache => exact ⟨h.unborn, h.born⟩
  | created rungs fresh pair tokens distinct zero =>
    refine ⟨fun hnone => ?_, fun b _ p id side amount he => absurd he (h.unborn fresh p id side amount)⟩
    cases hnone
  | regauged gasCredit pairCodeId hbot => exact h.same_orders hbot rfl rfl rfl
  | paid recipient coins => exact h
  | deposited depositor hbot live credit supply holding no_messages => exact h.same_orders hbot rfl rfl rfl
  | placed hbot some_rung all_items sum debit no_pages => exact h.same_orders hbot rfl rfl rfl
  | synced hbot actual grown no_messages => exact h.same_orders hbot rfl rfl rfl
  | @dropped _ _ bot orderId order hbot tracked counted gone untouched =>
    refine h.of_orders hbot rfl rfl fun id side amount recorded he horder hside hle => ?_
    refine ⟨recorded, ?_, hside, hle⟩
    rw [lookup_erase, if_neg, horder]
    rintro rfl
    exact not_escrowed_of_gone clear gone side amount he
  | @lowered _ _ bot orderId order remaining hbot tracked book less untouched =>
    refine h.of_orders hbot hbot rfl fun id side amount recorded he horder hside hle => ?_
    by_cases hid : orderId = id
    · subst hid
      obtain ⟨hside', hamount⟩ := escrow_of_book clear book he
      exact ⟨{ order with remaining }, by simp, hside', hamount.ge⟩
    · exact ⟨recorded, by rw [lookup_insert, if_neg hid, horder], hside, hle⟩
  | minted collector hbot supply holding => exact h.same_orders hbot rfl rfl rfl
  | paged hbot valid distinct untouched only_pages => exact h.same_orders hbot hbot rfl rfl
  | @recovered _ _ bot orderId side price remaining rungIndex hbot untracked uncancelled found =>
    refine h.of_orders hbot rfl rfl fun id side' amount recorded he horder hside hle => ?_
    refine ⟨recorded, ?_, hside, hle⟩
    rw [lookup_insert, if_neg, horder]
    rintro rfl
    rw [untracked] at horder
    cases horder
  | redeemed recipient hbot debit supply holding => exact h.same_orders hbot rfl rfl rfl
  | exited recipient hbot drained actual debit supply => exact h.same_orders hbot rfl rfl rfl

lemma tracked_delivered (clear : Transparent C B) (h : Tracked C B st w)
    (d : Delivered C st w m result st' w') : Tracked C B st' w' := by
  cases d with
  | sent plain ran =>
    apply h.shrink
    cases hmsg : m.msg with
    | token token msg =>
      rw [hmsg] at ran plain
      cases msg with
      | transfer recipient amount => exact clear.transfer ran
      | send contract amount hook => cases plain
    | pair pair msg =>
      rw [hmsg] at plain
      cases plain
    | bank recipient coins =>
      rw [hmsg] at ran
      exact clear.bank ran
  | reverted hbot page failed => exact h.same_orders hbot hbot rfl rfl
  | @confirmed r _ bot kind entries s hbot page ran settled counted =>
    rw [page.shape] at ran
    obtain ⟨shrinks, cleared⟩ := clear.page ran
    refine (h.shrink shrinks).of_orders hbot rfl rfl fun id side amount recorded he horder hside hle => ?_
    refine ⟨recorded, ?_, hside, hle⟩
    exact (settled.others id (cleared id side amount he)).trans horder
  | @restored _ _ bot side rungs amountEach total items free hbot batch single counted credit outcome =>
    have shrinks : Shrinks C B w w' := by
      rcases outcome with ⟨r, -, ran, hnothing⟩ | ⟨reason, -, -, rfl⟩
      · rw [batch.shape] at ran
        intro pair id side amount he
        rcases clear.place ran hnothing pair id side amount he with hbefore | ⟨-, hmem⟩
        · exact hbefore
        · cases hmem
      · exact fun pair id side amount he => ⟨amount, he, le_rfl⟩
    exact (h.shrink shrinks).same_orders hbot rfl rfl rfl
  | @recorded r _ bot side rungs amountEach total items ids orders hbot batch ran placed all settled =>
    rw [batch.shape] at ran
    refine ⟨fun hnone => ?_, fun b hb pair id side' amount he => ?_⟩
    · change st.bot = none at hnone
      rw [hbot] at hnone
      cases hnone
    · obtain rfl := Option.some.inj (hbot.symm.trans hb)
      by_cases hmem : pair = bot.pair ∧ id ∈ ids
      · obtain ⟨rfl, hid⟩ := hmem
        obtain ⟨order, onChain, horder, hbook, -, hside, -, hremaining⟩ := settled.recorded id hid
        obtain ⟨hside', hamount⟩ := escrow_of_book clear hbook he
        refine ⟨rfl, order, horder, hside.trans hside', ?_⟩
        rw [hremaining, hamount]
      · obtain ⟨before, hbefore, hle⟩ := (clear.place ran placed pair id side' amount he).resolve_right hmem
        obtain ⟨rfl, order, horder, hside, hcover⟩ := h.born bot hbot pair id side' before hbefore
        have hid : id ∉ ids := fun hid => hmem ⟨rfl, hid⟩
        exact ⟨rfl, order, (settled.others id hid).trans horder, hside, hle.trans hcover⟩

/-- At the end of every transaction each escrow of the vault has a tracked order of the same side that
records at least its amount. -/
theorem escrow_tracked (clear : Transparent C B) (h : Reachable C st w) {pair : Addr} {id : ℕ}
    {side : LimitOrderSide} {amount : ℕ} (escrow : Escrowed B C.vault w pair id side amount) :
    ∃ bot order, st.bot = some bot ∧ pair = bot.pair ∧ st.orders[id]? = some order ∧
      order.side = side ∧ amount ≤ order.remaining.val := by
  have htracked : Tracked C B st w := by
    refine (reachable_invariant (J := fun st w _ => Tracked C B st w) ?_
      (fun _ h hdrift => h.shrink (clear.drift hdrift)) (fun _ h e => tracked_effect clear h e)
      (fun _ h d => tracked_delivered clear h d) h).2
    intro w info msg st r fresh h
    obtain ⟨hbot, -⟩ := instantiate_fresh h
    refine ⟨fun _ => clear.genesis fresh, fun b hb => ?_⟩
    rw [hbot] at hb
    cases hb
  cases hbot : st.bot with
  | none => exact absurd escrow (htracked.unborn hbot pair id side amount)
  | some bot =>
    obtain ⟨hpair, order, horder⟩ := htracked.born bot hbot pair id side amount escrow
    exact ⟨bot, order, rfl, hpair, horder⟩

section OrderBook

variable {w w' : OrderBook.World}

def orderBooks : Books OrderBook.World where
  book w := OrderBook.bookEntry w.slots
  parked w := OrderBook.parkedEntry w.slots

lemma escrowed_iff {pair : Addr} {id : ℕ} {side : LimitOrderSide} {amount : ℕ} :
    Escrowed orderBooks OrderBook.chain.vault w pair id side amount ↔ 0 < amount ∧ pair = "pair" ∧
      ∃ s, w.slots[id]? = some s ∧ s.status ≠ .closed ∧ s.side = side ∧ s.remaining.val = amount := by
  rw [Escrowed]
  refine and_congr_right fun _ => ⟨?_, ?_⟩
  · rintro (⟨o, ho, -, rfl, rfl⟩ | ⟨o, ho, -, rfl, rfl⟩)
    · simp only [orderBooks, OrderBook.bookEntry] at ho
      split_ifs at ho with hpair
      split at ho
      · rename_i hslot
        cases ho
        exact ⟨hpair, _, hslot, by simp, rfl, rfl⟩
      · cases ho
    · simp only [orderBooks, OrderBook.parkedEntry] at ho
      split_ifs at ho with hpair
      split at ho
      · rename_i hslot
        cases ho
        exact ⟨hpair, _, hslot, by simp, rfl, rfl⟩
      · cases ho
  · rintro ⟨rfl, ⟨status, side', price, remaining⟩, hslot, hopen, rfl, rfl⟩
    cases status with
    | book =>
      exact .inl ⟨⟨id, "vault", side', price, remaining⟩, by simp [orderBooks, OrderBook.bookEntry, hslot],
        rfl, rfl, rfl⟩
    | parked =>
      exact .inr ⟨⟨id, "vault", side', remaining⟩, by simp [orderBooks, OrderBook.parkedEntry, hslot],
        rfl, rfl, rfl⟩
    | closed => exact absurd rfl hopen

lemma shrinks_of_slots (h : ∀ (id : ℕ) s, w'.slots[id]? = some s → s.status ≠ .closed →
    ∃ before, w.slots[id]? = some before ∧ before.status ≠ .closed ∧ s.side = before.side ∧
      s.remaining ≤ before.remaining) : Shrinks OrderBook.chain orderBooks w w' := by
  intro pair id side amount he
  obtain ⟨hpos, rfl, s, hslot, hopen, rfl, rfl⟩ := escrowed_iff.mp he
  obtain ⟨before, hbefore, hopen', hside, hle⟩ := h id s hslot hopen
  have hle : s.remaining.val ≤ before.remaining.val := hle
  exact ⟨before.remaining.val,
    escrowed_iff.mpr ⟨by omega, rfl, before, hbefore, hopen', hside.symm, rfl⟩, hle⟩

lemma shrinks_refl (h : w'.slots = w.slots) : Shrinks OrderBook.chain orderBooks w w' := by
  refine shrinks_of_slots fun id s hslot hopen => ?_
  rw [h] at hslot
  exact ⟨s, hslot, hopen, rfl, le_rfl⟩

lemma shrinks_set {id : ℕ} {before : OrderBook.Slot} (after : OrderBook.Slot) (h : w.slots[id]? = some before)
    (onBook : before.status = .book) (side : after.side = before.side)
    (less : after.remaining ≤ before.remaining) (slots : w'.slots = w.slots.set id after) :
    Shrinks OrderBook.chain orderBooks w w' := by
  refine shrinks_of_slots fun id' s hslot hopen => ?_
  rw [slots] at hslot
  by_cases hid : id' = id
  · subst hid
    have hlt : id' < w.slots.length := (List.getElem?_eq_some_iff.mp h).1
    rw [List.getElem?_set_self hlt] at hslot
    cases hslot
    exact ⟨before, h, by simp [onBook], side, less⟩
  · rw [List.getElem?_set_ne (Ne.symm hid)] at hslot
    exact ⟨s, hslot, hopen, rfl, le_rfl⟩

lemma shrinks_page {ids : List ℕ} (h : w'.slots = OrderBook.closeSlots w.slots ids) :
    Shrinks OrderBook.chain orderBooks w w' ∧
      ∀ id side amount, Escrowed orderBooks OrderBook.chain.vault w' "pair" id side amount → id ∉ ids := by
  have hslots : ∀ (id : ℕ) s, w'.slots[id]? = some s → s.status ≠ .closed →
      id ∉ ids ∧ w.slots[id]? = some s := by
    intro id s hslot hopen
    rw [h, OrderBook.closeSlots_lookup, Option.map_eq_some_iff] at hslot
    obtain ⟨before, hbefore, rfl⟩ := hslot
    by_cases hid : id ∈ ids
    · simp [hid] at hopen
    · rw [if_neg hid]
      exact ⟨hid, hbefore⟩
  constructor
  · refine shrinks_of_slots fun id s hslot hopen => ?_
    exact ⟨s, (hslots id s hslot hopen).2, hopen, rfl, le_rfl⟩
  · intro id side amount he
    obtain ⟨-, -, s, hslot, hopen, -⟩ := escrowed_iff.mp he
    exact (hslots id s hslot hopen).1

lemma orderBook_transparent : Transparent OrderBook.chain orderBooks where
  on_book := by
    intro w pair id o
    exact orError_eq_ok
  refund := by
    intro w pair id r h
    exact (Except.ok.inj h).symm
  exclusive := by
    intro w pair id h
    simp only [orderBooks, OrderBook.bookEntry, OrderBook.parkedEntry] at h ⊢
    split_ifs with hpair
    · rw [if_pos hpair] at h
      rcases hslot : w.slots[id]? with _ | ⟨_ | _ | _, side, price, remaining⟩
      all_goals simp_all
    · rfl
  genesis := by
    intro w hfresh pair id side amount he
    obtain ⟨-, -, s, hslot, -⟩ := escrowed_iff.mp he
    have hnil : w.slots = [] := hfresh.1
    rw [hnil] at hslot
    cases hslot
  drift := by
    intro w w' h
    cases h with
    | donated amounts sound => exact shrinks_refl rfl
    | @filled _ s rest status proceeds h onBook less still sound =>
      exact shrinks_set { s with status, remaining := rest } h onBook rfl less rfl
    | @expired _ s h onBook =>
      exact shrinks_set { s with status := .parked } h onBook rfl le_rfl rfl
    | configured maxBatchRungs paused => exact shrinks_refl rfl
  transfer := by
    intro w token recipient amount r w' h
    obtain ⟨-, -, rfl⟩ := OrderBook.transfer_spec h
    exact shrinks_refl rfl
  bank := by
    intro w recipient coins r w' h
    cases h
    exact shrinks_refl rfl
  place := by
    rintro w token pair total ⟨side, items⟩ r w' ids h hids other id side' amount he
    obtain ⟨rfl, -, -, hroom, rfl, -, rfl⟩ := OrderBook.place_spec h
    rw [OrderBook.placedIds_placedEvents hroom] at hids
    cases hids
    obtain ⟨hpos, rfl, s, hslot, hopen, rfl, rfl⟩ := escrowed_iff.mp he
    by_cases hold : id < w.slots.length
    · refine .inl ⟨s.remaining.val, escrowed_iff.mpr ⟨hpos, rfl, s, ?_, hopen, rfl, rfl⟩, le_rfl⟩
      rwa [List.getElem?_append_left hold] at hslot
    · refine .inr ⟨rfl, List.mem_map.mpr ⟨id - w.slots.length, ?_, by omega⟩⟩
      have hlt := (List.getElem?_eq_some_iff.mp hslot).1
      simp only [OrderBook.placeSlots, List.length_append, List.length_map] at hlt
      exact List.mem_range.mpr (by omega)
  page := by
    intro w pair kind ids r w' h
    obtain ⟨rfl, -, -, rfl⟩ := OrderBook.page_spec h
    exact shrinks_page rfl

end OrderBook

theorem escrow_tracked_filled :
    ∃ st w, OrderBook.scenario [.filled 0 .book ⟨400000, by decide⟩ ![0, 125000]] = .ok (st, w) ∧
      ∃ bot order, st.bot = some bot ∧ "pair" = bot.pair ∧ st.orders[0]? = some order ∧
        order.side = .ask ∧ 400000 ≤ order.remaining.val := by
  have hruns : okAnd (OrderBook.scenario [.filled 0 .book ⟨400000, by decide⟩ ![0, 125000]]) (fun r =>
      r.2.slots[0]? = some ⟨.book, .ask, ⟨u128 (125 * 10 ^ 16)⟩, ⟨400000, by decide⟩⟩) = true := by
    decide
  obtain ⟨⟨st, w⟩, h, hslot⟩ := okAnd_iff.mp hruns
  refine ⟨st, w, h, escrow_tracked orderBook_transparent (OrderBook.scenario_reachable h) ?_⟩
  exact escrowed_iff.mpr ⟨by omega, rfl, _, of_decide_eq_true hslot, by simp, rfl, rfl⟩

end Cl8yDexBots.LimitGrid.Escrow
