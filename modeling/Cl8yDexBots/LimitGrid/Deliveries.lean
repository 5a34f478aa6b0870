import Cl8yDexBots.LimitGrid.PendingMessages

/-! Every step and every delivery keeps the pending messages and their entries in agreement. -/

namespace Cl8yDexBots.LimitGrid.Deliveries

open Std Relation Foundation.Checked Foundation.Words Foundation.SubMessages Foundation.StorageMap
open CosmWasm.Std
open State Orders Vault Transactions Effects EntryEffects Resolutions PendingMessages

variable {q : Querier} {env : Env} {st st' : Storage} {ms ms' : List (SubMsg CosmosMsg)}
  {m : SubMsg CosmosMsg}

lemma kept_of_orders {bot : Bot} (hbot : st.bot = some bot) {bot' : Bot} (hbot' : st'.bot = some bot')
    (pair : bot'.pair = bot.pair) (tokens : bot'.assetTokens = bot.assetTokens)
    (placements : st'.placements = st.placements) (pages : st'.pendingPages = st.pendingPages)
    (next : st'.nextReplyId = st.nextReplyId)
    (orders : ∀ m ∈ ms, ∀ k ∈ pageIds m.msg, st'.orders[k]? = st.orders[k]?) : Kept ms st st' := by
  refine ⟨placements, pages, next, ?_, orders⟩
  intro b hb
  obtain rfl := Option.some.inj (hbot.symm.trans hb)
  exact ⟨bot', hbot', pair, tokens⟩

lemma effect_pending (h : Pending st ms) (e : Effect q env (st, ms) (st', ms')) : Pending st' ms' := by
  cases e with
  | configured admin pendingAdmin keeper vaultMode allowedTokens quarantine enabled =>
    exact h.kept ⟨rfl, rfl, rfl, fun bot hb => ⟨bot, hb, rfl, rfl⟩, fun _ _ _ _ => rfl⟩
  | cached cache =>
    exact h.kept ⟨rfl, rfl, rfl, fun bot hb => ⟨bot, hb, rfl, rfl⟩, fun _ _ _ _ => rfl⟩
  | created rungs fresh =>
    refine h.kept ⟨rfl, rfl, rfl, fun bot hb => ?_, fun _ _ _ _ => rfl⟩
    rw [fresh] at hb
    cases hb
  | regauged gasCredit pairCodeId hbot =>
    exact h.kept (kept_of_orders hbot rfl rfl rfl rfl rfl rfl fun _ _ _ _ => rfl)
  | paid recipient coins =>
    refine h.snoc_plain (.bank rfl) rfl ?_
    rcases h.unmixed with hno | hall
    · exact .inl ⟨hno, id⟩
    · exact .inr ⟨hall, trivial⟩
  | deposited depositor hbot live credit supply holding no_messages =>
    exact h.kept (kept_of_orders hbot rfl rfl rfl rfl rfl rfl fun _ _ _ _ => rfl)
  | @placed _ _ bot side rungs items amountEach total free hbot some_rung all_items sum debit no_pages =>
    obtain ⟨hplan, hpage⟩ := h.fresh
    refine h.snoc_replied rfl ?_ ?_ ?_ (fun k hk => .inl hk) ?_ (.inl ⟨no_pages, id⟩)
    · intro m hm
      have hne : Replied m → m.id ≠ st.nextReplyId := fun hr => (h.bounded m hm hr).ne
      refine (h.awaited m hm).of_saved ?_ ?_ (fun _ => rfl) (fun _ _ => rfl)
      · intro b hb
        obtain rfl := Option.some.inj (hbot.symm.trans hb)
        exact ⟨_, rfl, rfl, rfl⟩
      · intro hr
        rw [lookup_insert, if_neg (hne hr).symm]
    · exact .batch rfl ⟨rfl, hpage, by simp [SubMsg.replyAlways], all_items, some_rung, sum⟩
    · intro k hk
      rw [lookup_insert] at hk
      split at hk
      · exact .inr (Eq.symm ‹_›)
      · exact .inl hk
    · intro m hm
      exact List.disjoint_nil_right _
  | synced hbot actual grown no_messages =>
    exact h.kept (kept_of_orders hbot rfl rfl rfl rfl rfl rfl fun _ _ _ _ => rfl)
  | @dropped _ _ bot orderId order hbot tracked counted gone untouched =>
    refine h.kept (kept_of_orders hbot rfl rfl rfl rfl rfl rfl fun m hm k hk => ?_)
    have hne : orderId ≠ k := by
      rintro rfl
      exact untouched m hm hk
    rw [lookup_erase, if_neg hne]
  | @lowered _ _ bot orderId order remaining hbot tracked book less untouched =>
    refine h.kept (kept_of_orders hbot hbot rfl rfl rfl rfl rfl fun m hm k hk => ?_)
    have hne : orderId ≠ k := by
      rintro rfl
      exact untouched m hm hk
    rw [lookup_insert, if_neg hne]
  | minted collector hbot supply holding =>
    exact h.kept (kept_of_orders hbot rfl rfl rfl rfl rfl rfl fun _ _ _ _ => rfl)
  | @paged _ _ bot kind entries hbot valid distinct untouched only_pages =>
    refine h.snoc_replied rfl ?_ ?_ (fun k hk => .inl hk) ?_ ?_ (.inr ⟨only_pages, trivial⟩)
    · intro m hm
      have hne : Replied m → m.id ≠ st.nextReplyId := fun hr => (h.bounded m hm hr).ne
      refine (h.awaited m hm).of_saved (fun b hb => ⟨b, hb, rfl, rfl⟩) (fun _ => rfl) ?_ (fun _ _ => rfl)
      intro hr
      rw [lookup_insert, if_neg (hne hr).symm]
    · refine .page hbot ⟨rfl, h.fresh.1, by simp [SubMsg.replyAlways], distinct, ?_⟩
      intro e he
      obtain ⟨order, horder, hindex, hle, -⟩ := valid e he
      exact ⟨order, horder, hindex, hle⟩
    · intro k hk
      rw [lookup_insert] at hk
      split at hk
      · exact .inr (Eq.symm ‹_›)
      · exact .inl hk
    · intro m hm k hk hpage
      rw [pageIds_pageMsg] at hpage
      obtain ⟨e, he, rfl⟩ := List.mem_map.mp hpage
      exact untouched e he m hm hk
  | @recovered _ _ bot orderId side price remaining rungIndex hbot untracked uncancelled found =>
    refine h.kept (kept_of_orders hbot rfl rfl rfl rfl rfl rfl fun m hm k hk => ?_)
    rw [lookup_insert, if_neg]
    rintro rfl
    cases h.awaited m hm with
    | transfer h =>
      rw [h] at hk
      cases hk
    | bank h =>
      rw [h] at hk
      cases hk
    | page hb hp =>
      rw [pageIds_of_shape hp] at hk
      obtain ⟨e, he, rfl⟩ := List.mem_map.mp hk
      obtain ⟨order, horder, -⟩ := hp.tracked e he
      rw [untracked] at horder
      cases horder
    | batch hb hp =>
      rw [hp.shape] at hk
      cases hk
  | redeemed recipient hbot debit supply holding => exact .transfers h.empty.1 h.empty.2
  | exited recipient hbot drained actual debit supply => exact .transfers h.empty.1 h.empty.2

variable {W : Type} {C : Chain W} {w w' : W} {result : Except String (List (String × String))}

def isPlain : CosmosMsg → Prop
  | .token _ (.transfer _ _) => True
  | .bank _ _ => True
  | _ => False

inductive Delivered (C : Chain W) (st : Storage) (w : W) (m : SubMsg CosmosMsg) :
    Except String (List (String × String)) → Storage → W → Prop
  | sent {r w'} (plain : isPlain m.msg) (ran : C.runs w m.msg r w') : Delivered C st w m (.ok r) st w'
  | reverted {reason bot kind entries} (hbot : st.bot = some bot) (page : PageOf st bot m kind entries)
      (failed : C.fails w m.msg reason) :
      Delivered C st w m (.error reason) { st with pendingPages := st.pendingPages.erase m.id } w
  | confirmed {r w' bot kind entries s} (hbot : st.bot = some bot) (page : PageOf st bot m kind entries)
      (ran : C.runs w m.msg r w')
      (settled : Confirmed entries ⟨bot.freeBalances, st.orders, st.cancelledOrders⟩ s)
      (counted : entries.length ≤ bot.activeOrders) :
      Delivered C st w m (.ok r) { st with
        bot := some { bot with
          freeBalances := s.freeBalances
          activeOrders := bot.activeOrders - entries.length }
        orders := s.orders
        cancelledOrders := s.cancelledOrders
        pendingPages := st.pendingPages.erase m.id } w'
  | restored {result w' bot side rungs amountEach total items} {free : Uint128}
      (hbot : st.bot = some bot) (batch : BatchOf st bot m side rungs amountEach total items)
      (single : rungs.length = 1) (counted : 1 ≤ bot.activeOrders)
      (credit : free.val = (bot.freeBalances side.tokenIndex).val + total.val)
      (outcome : (∃ r, result = .ok r ∧ C.runs w m.msg r w' ∧ placedIds r = .ok []) ∨
        ∃ reason, result = .error reason ∧ C.fails w m.msg reason ∧ w' = w) :
      Delivered C st w m result { st with
        bot := some { bot.setFree side.tokenIndex free with activeOrders := bot.activeOrders - 1 }
        placements := st.placements.erase m.id } w'
  | recorded {r w' bot side rungs amountEach total items ids orders} (hbot : st.bot = some bot)
      (batch : BatchOf st bot m side rungs amountEach total items) (ran : C.runs w m.msg r w')
      (placed : placedIds r = .ok ids) (all : ids.length = rungs.length)
      (settled : Recorded (C.querier w') (C.env w') bot.pair side ids st.orders orders) :
      Delivered C st w m (.ok r) { st with orders, placements := st.placements.erase m.id } w'

lemma zip_map_fst {ids rungs : List ℕ} {gross : List Uint128} (h : ids.length = rungs.length)
    (hg : gross.length = rungs.length) : (ids.zip (rungs.zip gross)).map Prod.fst = ids := by
  apply List.map_fst_zip
  rw [List.length_zip]
  omega

lemma Delivered.of_page {bot : Bot} {kind : PageKind} {entries : List PendingPageEntry}
    (hbot : st.bot = some bot) (page : PageOf st bot m kind entries)
    (outcome : (∃ r, result = .ok r ∧ C.runs w m.msg r w') ∨
      ∃ reason, result = .error reason ∧ C.fails w m.msg reason ∧ w' = w)
    (h : Resolution (C.querier w') (C.env w') m.id result st st') : Delivered C st w m result st' w' := by
  cases h with
  | reverted hpage =>
    rcases outcome with ⟨r, h, -⟩ | ⟨reason, h, hfails, rfl⟩
    · cases h
    · cases h
      exact .reverted hbot page hfails
  | confirmed hpage hb settled counted =>
    obtain rfl := Option.some.inj (hbot.symm.trans hb)
    obtain rfl := Option.some.inj (page.saved.symm.trans hpage)
    rcases outcome with ⟨r, h, hran⟩ | ⟨reason, h, -⟩
    · cases h
      have htracked : ∀ e ∈ entries, ∃ order, st.orders[e.orderId]? = some order := by
        intro e he
        obtain ⟨order, horder, -⟩ := page.tracked e he
        exact ⟨order, horder⟩
      exact .confirmed hbot page hran (confirmEntries_spec page.distinct htracked settled) counted
    · cases h
  | restored no_page =>
    rw [page.saved] at no_page
    cases no_page
  | recorded no_page =>
    rw [page.saved] at no_page
    cases no_page

lemma Delivered.of_batch {bot : Bot} {side : LimitOrderSide} {rungs : List ℕ}
    {amountEach total : Uint128} {items : List LimitOrderPlacementItem} (hbot : st.bot = some bot)
    (batch : BatchOf st bot m side rungs amountEach total items)
    (outcome : (∃ r, result = .ok r ∧ C.runs w m.msg r w') ∨
      ∃ reason, result = .error reason ∧ C.fails w m.msg reason ∧ w' = w)
    (h : Resolution (C.querier w') (C.env w') m.id result st st') : Delivered C st w m result st' w' := by
  cases h with
  | reverted hpage =>
    rw [batch.no_page] at hpage
    cases hpage
  | confirmed hpage =>
    rw [batch.no_page] at hpage
    cases hpage
  | @restored _ _ plan bot' amount free no_page hplan hb single gross counted credit nothing =>
    obtain rfl := Option.some.inj (hbot.symm.trans hb)
    obtain rfl := Option.some.inj (batch.saved.symm.trans hplan)
    dsimp only at single gross credit
    have htotal : total = amount := by
      rw [single] at gross
      obtain rfl : amountEach = amount := by simpa using gross
      rw [eq_iff, batch.sum, single, Nat.mul_one]
    subst htotal
    refine .restored hbot batch single counted credit ?_
    rcases outcome with ⟨r, rfl, hran⟩ | hfails
    · exact .inl ⟨r, rfl, hran, nothing r rfl⟩
    · exact .inr hfails
  | recorded no_page hplan hb placed all checked =>
    obtain rfl := Option.some.inj (hbot.symm.trans hb)
    obtain rfl := Option.some.inj (batch.saved.symm.trans hplan)
    rcases outcome with ⟨r, h, hran⟩ | ⟨reason, h, -⟩
    · cases h
      have hsettled := recordOrders_spec checked
      rw [zip_map_fst all (by simp)] at hsettled
      exact .recorded hbot batch hran placed all hsettled
    · cases h

theorem pending_delivered {new : List (SubMsg CosmosMsg)} (h : Pending st (m :: ms))
    (d : Deliver C.host st w m result st' w' new) :
    new = [] ∧ Delivered C st w m result st' w' := by
  have hreply : ∀ {w₁}, C.host.reply st w₁ m.id result = .ok (st', new) →
      new = [] ∧ Resolution (C.querier w₁) (C.env w₁) m.id result st st' := by
    intro w₁ hr
    simp only [Chain.host, bind_eq_ok, Except.ok.injEq, Prod.exists, Prod.mk.injEq] at hr
    obtain ⟨_, r, hr, rfl, rfl⟩ := hr
    exact reply_resolution hr
  cases h.awaited m List.mem_cons_self with
  | transfer hm =>
    subst hm
    cases d with
    | sent silent ran => exact ⟨rfl, .sent trivial ran⟩
    | replied asked ran answer => cases asked
    | caught asked failed answer => cases asked
  | bank hm =>
    subst hm
    cases d with
    | sent silent ran => exact ⟨rfl, .sent trivial ran⟩
    | replied asked ran answer => cases asked
    | caught asked failed answer => cases asked
  | page hbot hm =>
    have hreplied : m.replyOn = .always := by
      rw [hm.shape]
      rfl
    cases d with
    | sent silent ran =>
      rw [hreplied] at silent
      cases silent
    | replied asked ran answer =>
      obtain ⟨hnew, hres⟩ := hreply answer
      exact ⟨hnew, .of_page hbot hm (.inl ⟨_, rfl, ran⟩) hres⟩
    | caught asked failed answer =>
      obtain ⟨hnew, hres⟩ := hreply answer
      exact ⟨hnew, .of_page hbot hm (.inr ⟨_, rfl, failed, rfl⟩) hres⟩
  | batch hbot hm =>
    have hreplied : m.replyOn = .always := by
      rw [hm.shape]
      rfl
    cases d with
    | sent silent ran =>
      rw [hreplied] at silent
      cases silent
    | replied asked ran answer =>
      obtain ⟨hnew, hres⟩ := hreply answer
      exact ⟨hnew, .of_batch hbot hm (.inl ⟨_, rfl, ran⟩) hres⟩
    | caught asked failed answer =>
      obtain ⟨hnew, hres⟩ := hreply answer
      exact ⟨hnew, .of_batch hbot hm (.inr ⟨_, rfl, failed, rfl⟩) hres⟩

lemma Pending.tail (h : Pending st (m :: ms))
    (hbot : ∀ bot, st.bot = some bot →
      ∃ bot', st'.bot = some bot' ∧ bot'.pair = bot.pair ∧ bot'.assetTokens = bot.assetTokens)
    (next : st'.nextReplyId = st.nextReplyId)
    (placements : st'.placements = st.placements ∨ Replied m ∧
      st'.placements = st.placements.erase m.id)
    (pages : st'.pendingPages = st.pendingPages ∨ Replied m ∧
      st'.pendingPages = st.pendingPages.erase m.id)
    (gone : Replied m → st'.placements[m.id]? = none ∧ st'.pendingPages[m.id]? = none)
    (orders : ∀ b ∈ ms, ∀ k ∈ pageIds b.msg, st'.orders[k]? = st.orders[k]?) : Pending st' ms := by
  have hids := List.pairwise_cons.mp h.ids
  have hother : ∀ b ∈ ms, Replied b → Replied m → m.id ≠ b.id :=
    fun b hb hrb hrm => hids.1 b hb hrm hrb
  have hrest : ∀ k, (∃ b ∈ m :: ms, Replied b ∧ b.id = k) → (Replied m → k ≠ m.id) →
      ∃ b ∈ ms, Replied b ∧ b.id = k := by
    rintro k ⟨b, hb, hr, rfl⟩ hk
    rcases List.mem_cons.mp hb with rfl | hb
    · exact absurd rfl (hk hr)
    · exact ⟨b, hb, hr, rfl⟩
  refine ⟨?_, hids.2, ?_, ?_, ?_, (List.pairwise_cons.mp h.disjoint).2, ?_⟩
  · intro b hb
    refine (h.awaited b (List.mem_cons_of_mem _ hb)).of_saved hbot ?_ ?_ (orders b hb)
    · intro hr
      rcases placements with heq | ⟨hrm, heq⟩
      · rw [heq]
      · rw [heq, lookup_erase, if_neg (hother b hb hr hrm)]
    · intro hr
      rcases pages with heq | ⟨hrm, heq⟩
      · rw [heq]
      · rw [heq, lookup_erase, if_neg (hother b hb hr hrm)]
  · intro b hb hr
    rw [next]
    exact h.bounded b (List.mem_cons_of_mem _ hb) hr
  · intro k hk
    apply hrest k
    · apply h.placements
      intro hnone
      rcases placements with heq | ⟨-, heq⟩
      · rw [heq] at hk
        exact hk hnone
      · rw [heq, lookup_erase] at hk
        split at hk
        · exact hk rfl
        · exact hk hnone
    · rintro hrm rfl
      exact hk (gone hrm).1
  · intro k hk
    apply hrest k
    · apply h.pages
      intro hnone
      rcases pages with heq | ⟨-, heq⟩
      · rw [heq] at hk
        exact hk hnone
      · rw [heq, lookup_erase] at hk
        split at hk
        · exact hk rfl
        · exact hk hnone
    · rintro hrm rfl
      exact hk (gone hrm).2
  · rcases h.unmixed with hno | hall
    · exact .inl fun b hb => hno b (List.mem_cons_of_mem _ hb)
    · exact .inr fun b hb => hall b (List.mem_cons_of_mem _ hb)

lemma plain_not_replied (h : Pending st (m :: ms)) (plain : isPlain m.msg) : ¬ Replied m := by
  intro hr
  cases h.awaited m List.mem_cons_self with
  | transfer hm =>
    rw [hm] at hr
    cases hr
  | bank hm =>
    rw [hm] at hr
    cases hr
  | page hbot hm =>
    rw [hm.shape] at plain
    exact plain
  | batch hbot hm =>
    rw [hm.shape] at plain
    exact plain

lemma PageOf.replied {bot : Bot} {kind : PageKind} {entries : List PendingPageEntry}
    (h : PageOf st bot m kind entries) : Replied m := by
  rw [h.shape]
  rfl

lemma BatchOf.replied {bot : Bot} {side : LimitOrderSide} {rungs : List ℕ} {amountEach total : Uint128}
    {items : List LimitOrderPlacementItem} (h : BatchOf st bot m side rungs amountEach total items) :
    Replied m := by
  rw [h.shape]
  rfl

lemma tracked_of_page {b : SubMsg CosmosMsg} (h : Awaited st b) {k : ℕ} (hk : k ∈ pageIds b.msg) :
    ∃ order, st.orders[k]? = some order := by
  cases h with
  | transfer hm =>
    rw [hm] at hk
    cases hk
  | bank hm =>
    rw [hm] at hk
    cases hk
  | page hbot hm =>
    rw [pageIds_of_shape hm] at hk
    obtain ⟨e, he, rfl⟩ := List.mem_map.mp hk
    obtain ⟨order, horder, -⟩ := hm.tracked e he
    exact ⟨order, horder⟩
  | batch hbot hm =>
    rw [hm.shape] at hk
    cases hk

lemma not_page_of_batch {bot : Bot} {side : LimitOrderSide} {rungs : List ℕ}
    {amountEach total : Uint128} {items : List LimitOrderPlacementItem} (h : Pending st (m :: ms))
    (batch : BatchOf st bot m side rungs amountEach total items) : ∀ b ∈ m :: ms, ¬ isPage b.msg := by
  rcases h.unmixed with hno | hall
  · exact hno
  · have := hall m List.mem_cons_self
    rw [batch.shape] at this
    rcases this with h | h <;> cases h

theorem delivered_pending (h : Pending st (m :: ms)) (d : Delivered C st w m result st' w') :
    Pending st' ms := by
  have same : ∀ bot, st.bot = some bot →
      ∃ bot', st.bot = some bot' ∧ bot'.pair = bot.pair ∧ bot'.assetTokens = bot.assetTokens :=
    fun bot hb => ⟨bot, hb, rfl, rfl⟩
  cases d with
  | sent plain ran =>
    exact Pending.tail h same rfl (.inl rfl) (.inl rfl)
      (fun hr => absurd hr (plain_not_replied h plain)) fun _ _ _ _ => rfl
  | reverted hbot page failed =>
    refine Pending.tail h same rfl (.inl rfl) (.inr ⟨PageOf.replied page, rfl⟩) ?_ fun _ _ _ _ => rfl
    exact fun _ => ⟨page.no_batch, by simp⟩
  | @confirmed r w' bot kind entries s hbot page ran settled counted =>
    refine Pending.tail h ?_ rfl (.inl rfl) (.inr ⟨PageOf.replied page, rfl⟩) ?_ ?_
    · intro b hb
      obtain rfl := Option.some.inj (hbot.symm.trans hb)
      exact ⟨_, rfl, rfl, rfl⟩
    · exact fun _ => ⟨page.no_batch, by simp⟩
    · intro b hb k hk
      apply settled.others
      rw [← pageIds_of_shape page]
      exact fun hmem => (List.pairwise_cons.mp h.disjoint).1 b hb hmem hk
  | @restored _ _ bot side rungs amountEach total items free hbot batch single counted credit outcome =>
    refine Pending.tail h ?_ rfl (.inr ⟨BatchOf.replied batch, rfl⟩) (.inl rfl) ?_ fun _ _ _ _ => rfl
    · intro b hb
      obtain rfl := Option.some.inj (hbot.symm.trans hb)
      exact ⟨_, rfl, rfl, rfl⟩
    · exact fun _ => ⟨by simp, batch.no_page⟩
  | @recorded r w' bot side rungs amountEach total items ids orders hbot batch ran placed all settled =>
    refine Pending.tail h same rfl (.inr ⟨BatchOf.replied batch, rfl⟩) (.inl rfl) ?_ ?_
    · exact fun _ => ⟨by simp, batch.no_page⟩
    · intro b hb k hk
      apply settled.others
      intro hmem
      obtain ⟨order, horder⟩ := tracked_of_page (h.awaited b (List.mem_cons_of_mem _ hb)) hk
      rw [settled.fresh k hmem] at horder
      cases horder

variable {J : Storage → W → List (SubMsg CosmosMsg) → Prop}

lemma steps_invariant {l l' : Ledger} (hsteps : Steps q env l l')
    (step : ∀ {st ms st' ms'}, Pending st ms → J st w ms → Effect q env (st, ms) (st', ms') →
      J st' w ms')
    (h : Pending l.1 l.2 ∧ J l.1 w l.2) : Pending l'.1 l'.2 ∧ J l'.1 w l'.2 := by
  induction hsteps with
  | refl => exact h
  | tail _ hstep ih => exact ⟨effect_pending ih.1 hstep, step ih.1 ih.2 hstep⟩

/-- What every step and every delivery keeps, on top of the pending messages, holds in every state
reached. -/
theorem reachable_invariant
    (instantiate : ∀ {w info msg st r}, C.genesis w →
      Vault.instantiate (C.querier w) info msg = .ok (st, r) → J st w [])
    (drift : ∀ {st w w'}, Pending st [] → J st w [] → C.drift w w' → J st w' [])
    (step : ∀ {st w ms st' ms'}, Pending st ms → J st w ms →
      Effect (C.querier w) (C.env w) (st, ms) (st', ms') → J st' w ms')
    (deliver : ∀ {st w m ms result st' w'}, Pending st (m :: ms) → J st w (m :: ms) →
      Delivered C st w m result st' w' → J st' w' ms)
    (h : Reachable C st w) : Pending st [] ∧ J st w [] := by
  refine h.invariant (I := fun st w ms => Pending st ms ∧ J st w ms) ?_ ?_ ?_ ?_
  · intro w info msg st r fresh h
    refine ⟨?_, instantiate fresh h⟩
    obtain ⟨config, rfl, -⟩ := instantiate_spec h
    exact .nil rfl rfl
  · intro st w w' h hdrift
    exact ⟨h.1, drift h.1 h.2 hdrift⟩
  · intro st w info msg st' r h hexec
    exact steps_invariant (execute_steps hexec) step h
  · intro st w m ms o st' w' new h d
    obtain ⟨rfl, hd⟩ := pending_delivered h.1 d
    exact ⟨delivered_pending h.1 hd, deliver h.1 h.2 hd⟩

theorem reachable_settled (h : Reachable C st w) : st.placements = ∅ ∧ st.pendingPages = ∅ :=
  (reachable_invariant (J := fun _ _ _ => True) (fun _ _ => trivial) (fun _ _ _ => trivial)
    (fun _ _ _ => trivial) (fun _ _ _ => trivial) h).1.empty

theorem reachable_limits (h : Reachable C st w) :
    st.config.keeperReward.val ≠ 0 ∧ 1 ≤ st.config.maxOrdersPerReconcile := by
  refine (reachable_invariant (J := fun st _ _ =>
    st.config.keeperReward.val ≠ 0 ∧ 1 ≤ st.config.maxOrdersPerReconcile) ?_ (fun _ h _ => h) ?_ ?_ h).2
  · intro w info msg st r _ h
    obtain ⟨config, rfl, -, hreward, hlimits⟩ := instantiate_spec h
    simp only [validVaultLimits, decide_eq_true_eq] at hlimits
    exact ⟨hreward, hlimits.2.1.1⟩
  · intro st w ms st' ms' _ h e
    cases e <;> exact h
  · intro st w m ms result st' w' _ h d
    cases d <;> exact h

end Cl8yDexBots.LimitGrid.Deliveries
