import Cl8yDexBots.LimitGrid.Solvency

/-! A tracked order stays the vault's on the pair, up to fills, expiry and settlement. -/

namespace Cl8yDexBots.LimitGrid.OrderStages

open Foundation.Checked Foundation.Words Foundation.SubMessages Foundation.StorageMap CosmWasm.Std
open State Orders Vault Transactions Effects Resolutions PendingMessages Deliveries LedgerInvariant Solvency

def Cleared (q : Querier) (pair : Addr) (orderId : ℕ) : Prop :=
  OffBook q pair orderId ∧ q.expiredLimitRefund pair orderId = .ok none

/-- The stages of an order of the vault of which no more than the limit is left. -/
inductive Stage (q : Querier) (env : Env) (pair : Addr) (orderId : ℕ) (side : LimitOrderSide) (price : Decimal)
    (limit : Uint128) : Prop
  | book {remaining : Uint128} (le : remaining ≤ limit) (h : OnBook q env pair orderId side price remaining)
  | parked {refund : Uint128} (le : refund ≤ limit) (h : Parked q env pair orderId side refund)
  | cleared (h : Cleared q pair orderId)

variable {W : Type}

def Ages (C : Chain W) (w w' : W) (pair : Addr) (orderId : ℕ) : Prop :=
  ∀ side price limit, Stage (C.querier w) (C.env w) pair orderId side price limit →
    Stage (C.querier w') (C.env w') pair orderId side price limit

/-- Tokens that hold what they report, and a pair that keeps every order as it was placed until it is filled, parked
or settled, and pays for a page exactly what it has reported. -/
structure Honest (C : Chain W) (held : W → Addr → ℕ) (pairTokens : Addr → Fin 2 → Addr) (Sound : W → Prop) : Prop where
  custody : Custodial C held pairTokens
  genesis : ∀ {w}, C.genesis w → Sound w
  drift : ∀ {w w'}, Sound w → C.drift w w' → Sound w'
  runs : ∀ {w msg r w'}, Sound w → C.runs w msg r w' → Sound w'
  answers : ∀ {w} token, Sound w → ∃ b, (C.querier w).balance token C.vault = .ok b
  supply : ∀ {w} pair i {ids : List ℕ}, Sound w → ids.Nodup →
    held w (pairTokens pair i) + (ids.map (payout (C.querier w) C.vault pair .cancel i)).sum < 2 ^ 128
  paid : ∀ {w pair kind ids r w'} (i : Fin 2), C.runs w (.pair pair (pageMsg kind ids)) r w' → ids.Nodup →
    held w' (pairTokens pair i) =
      held w (pairTokens pair i) + (ids.map (payout (C.querier w) C.vault pair kind i)).sum
  apart : ∀ {w recipient coins r w'} token, C.runs w (.bank recipient coins) r w' → held w' token = held w token
  echo : ∀ {w pair id o}, (C.querier w).limitOrder pair id = .ok o → o.orderId = id
  ages_drift : ∀ {w w'} pair id, C.drift w w' → Ages C w w' pair id
  ages_transfer : ∀ {w token recipient amount r w'} pair id, C.runs w (.token token (.transfer recipient amount)) r w' →
    Ages C w w' pair id
  ages_place : ∀ {w token contract total hook r w'} {placed : List ℕ} pair id,
    C.runs w (.token token (.send contract total hook)) r w' → placedIds r = .ok placed → id ∉ placed →
      Ages C w w' pair id

def Accounted (C : Chain W) (st : Storage) (w : W) : Prop :=
  ∀ (id : ℕ) order, st.orders[id]? = some order → ∃ bot, st.bot = some bot ∧
    Stage (C.querier w) (C.env w) bot.pair id order.side order.price order.remaining

variable {C : Chain W} {held : W → Addr → ℕ} {pairTokens : Addr → Fin 2 → Addr} {Sound : W → Prop}
  {st st' : Storage} {w w' : W} {ms ms' : List (SubMsg CosmosMsg)} {m : SubMsg CosmosMsg} {bot bot' : Bot}
  {result : Except String (List (String × String))}

lemma ages_refl (w : W) (pair : Addr) (id : ℕ) : Ages C w w pair id := fun _ _ _ h => h

lemma ages_same {pair : Addr} {id : ℕ} (hbook : (C.querier w').limitOrder pair id = (C.querier w).limitOrder pair id)
    (hrefund : (C.querier w').expiredLimitRefund pair id = (C.querier w).expiredLimitRefund pair id) :
    Ages C w w' pair id := by
  intro side price limit hstage
  have hoff : OffBook (C.querier w) pair id → OffBook (C.querier w') pair id := by
    rintro ⟨e, he⟩
    exact ⟨e, hbook.trans he⟩
  cases hstage with
  | book le h => exact .book le (hbook.trans h)
  | parked le h => exact .parked le ⟨hoff h.1, hrefund.trans h.2⟩
  | cleared h => exact .cleared ⟨hoff h.1, hrefund.trans h.2⟩

lemma Accounted.step (h : Accounted C st w) (hbot : st.bot = some bot) (hbot' : st'.bot = some bot')
    (pair : bot'.pair = bot.pair)
    (orders : ∀ (id : ℕ) order, st'.orders[id]? = some order →
      st.orders[id]? = some order ∧ Ages C w w' bot.pair id ∨
        Stage (C.querier w') (C.env w') bot.pair id order.side order.price order.remaining) : Accounted C st' w' := by
  intro id order horder
  refine ⟨bot', hbot', ?_⟩
  rw [pair]
  rcases orders id order horder with ⟨hold, hages⟩ | hstage
  · obtain ⟨b, hb, hstage⟩ := h id order hold
    obtain rfl := Option.some.inj (hbot.symm.trans hb)
    exact hages _ _ _ hstage
  · exact hstage

lemma Accounted.same_orders (h : Accounted C st w) (hbot : st.bot = some bot) (hbot' : st'.bot = some bot')
    (pair : bot'.pair = bot.pair) (orders : st'.orders = st.orders) : Accounted C st' w := by
  apply h.step hbot hbot' pair
  intro id order horder
  rw [orders] at horder
  exact .inl ⟨horder, ages_refl w bot.pair id⟩

lemma Accounted.ages (h : Accounted C st w) (ages : ∀ pair id, Ages C w w' pair id) : Accounted C st w' := by
  intro id order horder
  obtain ⟨bot, hbot, hstage⟩ := h id order horder
  exact ⟨bot, hbot, ages bot.pair id _ _ _ hstage⟩

lemma accounted_effect (h : Accounted C st w) (e : Effect (C.querier w) (C.env w) (st, ms) (st', ms')) :
    Accounted C st' w := by
  cases e with
  | configured admin pendingAdmin keeper vaultMode allowedTokens quarantine enabled => exact h
  | cached cache => exact h
  | created rungs fresh pair tokens distinct zero =>
    intro id order horder
    obtain ⟨bot, hbot, -⟩ := h id order horder
    rw [fresh] at hbot
    cases hbot
  | regauged gasCredit pairCodeId hbot => exact h.same_orders hbot rfl rfl rfl
  | paid recipient coins => exact h
  | deposited depositor hbot live credit supply holding no_messages => exact h.same_orders hbot rfl rfl rfl
  | placed hbot some_rung all_items sum debit no_pages => exact h.same_orders hbot rfl rfl rfl
  | synced hbot actual grown no_messages => exact h.same_orders hbot rfl rfl rfl
  | dropped hbot tracked counted gone untouched =>
    refine h.step hbot rfl rfl ?_
    intro id order horder
    rw [lookup_erase] at horder
    split at horder
    · cases horder
    · exact .inl ⟨horder, ages_refl w _ id⟩
  | lowered hbot tracked book less untouched =>
    refine h.step hbot hbot rfl ?_
    intro id order horder
    rw [lookup_insert] at horder
    split at horder
    · rename_i hid
      cases horder
      subst hid
      exact .inr (.book (Nat.le_refl _) book)
    · exact .inl ⟨horder, ages_refl w _ id⟩
  | minted collector hbot supply holding => exact h.same_orders hbot rfl rfl rfl
  | paged hbot valid distinct untouched only_pages => exact h.same_orders hbot hbot rfl rfl
  | recovered rungIndex hbot untracked uncancelled found =>
    refine h.step hbot rfl rfl ?_
    intro id order horder
    rw [lookup_insert] at horder
    split at horder
    · rename_i hid
      cases horder
      subst hid
      rcases found with hbook | hparked
      · exact .inr (.book (Nat.le_refl _) hbook)
      · exact .inr (.parked (Nat.le_refl _) hparked)
    · exact .inl ⟨horder, ages_refl w _ id⟩
  | redeemed recipient hbot debit supply holding => exact h.same_orders hbot rfl rfl rfl
  | exited recipient hbot drained actual debit supply => exact h.same_orders hbot rfl rfl rfl

lemma accounted_delivered (honest : Honest C held pairTokens Sound) (h : Accounted C st w)
    (d : Delivered C st w m result st' w') : Accounted C st' w' := by
  cases d with
  | sent plain ran =>
    cases hmsg : m.msg with
    | token token msg =>
      cases msg with
      | transfer recipient amount =>
        rw [hmsg] at ran
        exact h.ages fun pair id => honest.ages_transfer pair id ran
      | send contract amount hook =>
        rw [hmsg] at plain
        cases plain
    | pair pair msg =>
      rw [hmsg] at plain
      cases plain
    | bank recipient coins =>
      rw [hmsg] at ran
      apply h.ages
      intro pair id
      obtain ⟨hbook, hrefund⟩ := honest.custody.bank_frame pair id ran
      exact ages_same hbook hrefund
  | reverted hbot page failed => exact h.same_orders hbot hbot rfl rfl
  | @confirmed r _ bot kind entries s hbot page ran settled counted =>
    rw [page.shape] at ran
    refine h.step hbot rfl rfl ?_
    intro id order horder
    by_cases hid : id ∈ entries.map PendingPageEntry.orderId
    · have hgone := settled.untracked id hid
      rw [show s.orders[id]? = some order from horder] at hgone
      cases hgone
    · obtain ⟨hbook, hrefund⟩ := honest.custody.page_frame id ran hid
      exact .inl ⟨(settled.others id hid).symm.trans horder, ages_same hbook hrefund⟩
  | restored hbot batch single counted credit outcome =>
    refine h.step hbot rfl rfl ?_
    intro id order horder
    refine .inl ⟨horder, ?_⟩
    rcases outcome with ⟨r, -, ran, hnothing⟩ | ⟨reason, -, -, rfl⟩
    · rw [batch.shape] at ran
      exact honest.ages_place _ id ran hnothing nofun
    · exact ages_refl _ _ id
  | @recorded r _ bot side rungs amountEach total items ids orders hbot batch ran placed all settled =>
    rw [batch.shape] at ran
    refine h.step hbot hbot rfl ?_
    intro id order horder
    by_cases hid : id ∈ ids
    · obtain ⟨order', onChain, horder', hbook, howner, hside, hprice, hremaining⟩ := settled.recorded id hid
      obtain rfl := Option.some.inj (horder'.symm.trans horder)
      have hecho := honest.echo hbook
      refine .inr (.book (Nat.le_refl _) ?_)
      rw [OnBook, hbook, hside, hprice, hremaining, ← howner, ← hecho]
    · exact .inl ⟨(settled.others id hid).symm.trans horder, honest.ages_place _ id ran placed hid⟩

lemma reachable_accounted (honest : Honest C held pairTokens Sound) (h : Reachable C st w) : Accounted C st w := by
  refine (reachable_invariant (J := fun st w _ => Accounted C st w) ?_ ?_ (fun _ h e => accounted_effect h e)
    (fun _ h d => accounted_delivered honest h d) h).2
  · intro w info msg st r _ h id order horder
    obtain ⟨-, horders, -⟩ := instantiate_fresh h
    rw [horders] at horder
    cases horder
  · intro st w w' _ h hdrift
    exact h.ages fun pair id => honest.ages_drift pair id hdrift

end Cl8yDexBots.LimitGrid.OrderStages
