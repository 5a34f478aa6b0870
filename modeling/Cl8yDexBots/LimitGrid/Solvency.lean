import Cl8yDexBots.LimitGrid.LedgerInvariant

/-! Recorded free balances never exceed what the vault really holds. -/

namespace Cl8yDexBots.LimitGrid.Solvency

open Std Foundation.Checked Foundation.Words Foundation.SubMessages Foundation.StorageMap
open CosmWasm.Std CosmWasm.Pair
open State Orders Vault Transactions Effects EntryEffects Resolutions PendingMessages Deliveries
open LedgerInvariant

/-- What the pair's queries promise the vault for an order, in one of the two tokens. -/
def payout (q : Querier) (vault pair : Addr) (kind : PageKind) (i : Fin 2) (orderId : ℕ) : ℕ :=
  match kind with
  | .cancel =>
    match q.limitOrder pair orderId with
    | .ok o => if o.owner = vault ∧ o.side.tokenIndex = i then o.remaining.val else 0
    | .error _ => 0
  | .claim =>
    match q.expiredLimitRefund pair orderId with
    | .ok (some r) => if r.owner = vault ∧ r.side.tokenIndex = i then r.remaining.val else 0
    | _ => 0

/-- Honest tokens and a pair that takes what a placement sends, returns what it skips, pays fills
to the vault and returns on a page what its queries reported. -/
structure Custodial {W : Type} (C : Chain W) (held : W → Addr → ℕ) (pairTokens : Addr → Fin 2 → Addr) :
    Prop where
  reported : ∀ {w token} {b : Uint128}, (C.querier w).balance token C.vault = .ok b →
    b.val = held w token
  tokens : ∀ {w pair info i token}, (C.querier w).pair pair = .ok info →
    tokenAddress (C.querier w) (info.assetInfos i) = .ok token → token = pairTokens pair i
  drift : ∀ {w w'} token, C.drift w w' → held w token ≤ held w' token
  bank : ∀ {w recipient coins r w'} token, C.runs w (.bank recipient coins) r w' →
    held w token ≤ held w' token
  transfer : ∀ {w token recipient amount r w'}, C.runs w (.token token (.transfer recipient amount)) r w' →
    held w token ≤ held w' token + amount.val ∧ ∀ other, other ≠ token → held w other ≤ held w' other
  place : ∀ {w token pair total hook r w'}, C.runs w (.token token (.send pair total hook)) r w' →
    held w token ≤ held w' token + total.val ∧ ∀ other, other ≠ token → held w other ≤ held w' other
  skip : ∀ {w token pair total hook r w'}, C.runs w (.token token (.send pair total hook)) r w' →
    placedIds r = .ok [] → held w token ≤ held w' token
  page : ∀ {w pair kind ids r w'} (i : Fin 2), C.runs w (.pair pair (pageMsg kind ids)) r w' →
    ids.Nodup →
    held w (pairTokens pair i) + (ids.map (payout (C.querier w) C.vault pair kind i)).sum ≤
      held w' (pairTokens pair i)
  page_frame : ∀ {w pair kind ids r w'} (id : ℕ), C.runs w (.pair pair (pageMsg kind ids)) r w' →
    id ∉ ids → (C.querier w').limitOrder pair id = (C.querier w).limitOrder pair id ∧
      (C.querier w').expiredLimitRefund pair id = (C.querier w).expiredLimitRefund pair id
  bank_frame : ∀ {w recipient coins r w'} (pair : Addr) (id : ℕ), C.runs w (.bank recipient coins) r w' →
    (C.querier w').limitOrder pair id = (C.querier w).limitOrder pair id ∧
      (C.querier w').expiredLimitRefund pair id = (C.querier w).expiredLimitRefund pair id

def sent (token : Addr) : CosmosMsg → ℕ
  | .token t (.transfer _ amount) => if t = token then amount.val else 0
  | .token t (.send _ amount _) => if t = token then amount.val else 0
  | _ => 0

def outflow (token : Addr) (ms : List (SubMsg CosmosMsg)) : ℕ := (ms.map fun m => sent token m.msg).sum

@[simp] lemma outflow_nil (token : Addr) : outflow token [] = 0 := rfl

@[simp] lemma outflow_cons (token : Addr) (m : SubMsg CosmosMsg) (ms : List (SubMsg CosmosMsg)) :
    outflow token (m :: ms) = sent token m.msg + outflow token ms := by
  simp [outflow]

@[simp] lemma outflow_append (token : Addr) (ms ns : List (SubMsg CosmosMsg)) :
    outflow token (ms ++ ns) = outflow token ms + outflow token ns := by
  simp [outflow]

lemma sent_page (token pair : Addr) (msg : PairExecuteMsg) : sent token (.pair pair msg) = 0 := rfl

lemma outflow_transfers {bot : Bot} (distinct : bot.assetTokens 0 ≠ bot.assetTokens 1) (recipient : Addr)
    (amounts : Fin 2 → Uint128) (i : Fin 2) :
    outflow (bot.assetTokens i) (transfers bot recipient amounts) = (amounts i).val := by
  have hone : ∀ j : Fin 2, outflow (bot.assetTokens i)
      (([j] : List (Fin 2)).filterMap fun k => if isZero (amounts k) then none
        else some (SubMsg.plain (.token (bot.assetTokens k) (.transfer recipient (amounts k))))) =
      if bot.assetTokens j = bot.assetTokens i then (amounts j).val else 0 := by
    intro j
    by_cases hz : isZero (amounts j) = true
    · rw [isZero_iff] at hz
      simp [isZero, hz]
    · rw [isZero_iff] at hz
      simp [isZero, hz, outflow, SubMsg.plain, sent]
  have hsplit : transfers bot recipient amounts =
      (([0] : List (Fin 2)).filterMap fun k => if isZero (amounts k) then none
        else some (SubMsg.plain (.token (bot.assetTokens k) (.transfer recipient (amounts k))))) ++
      (([1] : List (Fin 2)).filterMap fun k => if isZero (amounts k) then none
        else some (SubMsg.plain (.token (bot.assetTokens k) (.transfer recipient (amounts k))))) := by
    rw [← List.filterMap_append]
    rfl
  rw [hsplit, outflow_append, hone, hone]
  fin_cases i
  · simp [distinct.symm]
  · simp [distinct]

variable {W : Type} {C : Chain W} {held : W → Addr → ℕ} {pairTokens : Addr → Fin 2 → Addr}
  {st st' : Storage} {w w' : W} {ms ms' : List (SubMsg CosmosMsg)} {m : SubMsg CosmosMsg}
  {result : Except String (List (String × String))}

lemma payout_of_claimable {q : Querier} {env : Env} {pair : Addr} {orderId : ℕ} {side : LimitOrderSide}
    {amount : Uint128} {kind : PageKind} (h : Claimable q env pair orderId side amount kind) (i : Fin 2) :
    payout q env.contract pair kind i orderId = if side.tokenIndex = i then amount.val else 0 := by
  cases kind with
  | cancel =>
    obtain ⟨price, hbook⟩ := h
    rw [OnBook] at hbook
    simp [payout, hbook]
  | claim =>
    obtain ⟨-, hparked⟩ := h
    simp [payout, hparked]

def Payable (C : Chain W) (st : Storage) (w : W) (pair : Addr) : Prop :=
  ∀ (k : ℕ) kind entries, st.pendingPages[k]? = some ⟨BOT_ID, kind, entries⟩ → ∀ e ∈ entries, ∀ i,
    payout (C.querier w) C.vault pair kind i e.orderId = if e.tokenIndex = i then e.refund.val else 0

structure Backed (C : Chain W) (held : W → Addr → ℕ) (pairTokens : Addr → Fin 2 → Addr) (st : Storage)
    (w : W) (bot : Bot) (ms : List (SubMsg CosmosMsg)) : Prop where
  tokens : ∀ i, bot.assetTokens i = pairTokens bot.pair i
  distinct : bot.assetTokens 0 ≠ bot.assetTokens 1
  covered : ∀ i, (bot.freeBalances i).val + outflow (bot.assetTokens i) ms ≤ held w (bot.assetTokens i)
  payable : Payable C st w bot.pair

structure Solvent (C : Chain W) (held : W → Addr → ℕ) (pairTokens : Addr → Fin 2 → Addr) (st : Storage)
    (w : W) (ms : List (SubMsg CosmosMsg)) : Prop where
  unborn : st.bot = none → (∀ token, outflow token ms = 0) ∧ ∀ k : ℕ, st.pendingPages[k]? = none
  born : ∀ bot, st.bot = some bot → Backed C held pairTokens st w bot ms

lemma Solvent.of_backed {bot : Bot} (hbot : st.bot = some bot) (h : Backed C held pairTokens st w bot ms) :
    Solvent C held pairTokens st w ms := by
  refine ⟨fun hnone => ?_, fun b hb => ?_⟩
  · rw [hbot] at hnone
    cases hnone
  · obtain rfl := Option.some.inj (hbot.symm.trans hb)
    exact h

lemma Backed.covered_by {bot bot' : Bot} (h : Backed C held pairTokens st w bot ms)
    (pair : bot'.pair = bot.pair) (tokens : bot'.assetTokens = bot.assetTokens)
    (pages : st'.pendingPages = st.pendingPages)
    (covered : ∀ i, (bot'.freeBalances i).val + outflow (bot.assetTokens i) ms' ≤
      held w (bot.assetTokens i)) : Backed C held pairTokens st' w bot' ms' := by
  refine ⟨?_, ?_, ?_, ?_⟩
  · rw [tokens, pair]
    exact h.tokens
  · rw [tokens]
    exact h.distinct
  · rw [tokens]
    exact covered
  · rw [pair]
    intro k
    rw [pages]
    exact h.payable k

lemma Backed.same {bot bot' : Bot} (h : Backed C held pairTokens st w bot ms)
    (pair : bot'.pair = bot.pair) (tokens : bot'.assetTokens = bot.assetTokens)
    (free : bot'.freeBalances = bot.freeBalances) (pages : st'.pendingPages = st.pendingPages) :
    Backed C held pairTokens st' w bot' ms := by
  refine h.covered_by pair tokens pages ?_
  rw [free]
  exact h.covered

lemma Backed.injective {bot : Bot} (h : Backed C held pairTokens st w bot ms) {i j : Fin 2}
    (hij : bot.assetTokens i = bot.assetTokens j) : i = j := by
  have hd := h.distinct
  fin_cases i <;> fin_cases j <;> first | rfl | exact absurd hij hd | exact absurd hij.symm hd

lemma Backed.covered_deposited {bot : Bot} {i : Fin 2} {free : Uint128} (custody : Custodial C held pairTokens)
    (h : Backed C held pairTokens st w bot [])
    (live : (C.querier w).balance (bot.assetTokens i) C.vault = .ok free) (j : Fin 2) :
    ((bot.setFree i free).freeBalances j).val + outflow (bot.assetTokens j) [] ≤
      held w (bot.assetTokens j) := by
  by_cases hj : j = i
  · subst hj
    have hlive := custody.reported live
    simp only [Bot.setFree, Function.update_self, outflow_nil]
    omega
  · have hcover := h.covered j
    simpa [Bot.setFree, Function.update_of_ne hj] using hcover

lemma Backed.covered_placed {bot : Bot} {side : LimitOrderSide} {total free : Uint128}
    (h : Backed C held pairTokens st w bot ms) (items : List LimitOrderPlacementItem) (id : ℕ)
    (debit : free.val + total.val = (bot.freeBalances side.tokenIndex).val) (j : Fin 2) :
    ((bot.setFree side.tokenIndex free).freeBalances j).val +
        outflow (bot.assetTokens j) (ms ++ [.replyAlways (placementMsg bot side total items) id]) ≤
      held w (bot.assetTokens j) := by
  have hcover := h.covered j
  rw [outflow_append]
  by_cases hj : j = side.tokenIndex
  · subst hj
    simp only [Bot.setFree, Function.update_self, outflow_cons, outflow_nil, SubMsg.replyAlways,
      placementMsg, sent, if_true]
    omega
  · have hne : bot.assetTokens side.tokenIndex ≠ bot.assetTokens j := fun heq => hj (h.injective heq).symm
    simpa [Bot.setFree, Function.update_of_ne hj, SubMsg.replyAlways, placementMsg, sent, hne] using hcover

lemma Backed.covered_transfers {bot : Bot} {live free amounts : Fin 2 → Uint128}
    (h : Backed C held pairTokens st w bot ms) (recipient : Addr)
    (owned : ∀ i, (live i).val ≤ held w (bot.assetTokens i))
    (debit : ∀ i, (free i).val + (amounts i).val = (live i).val) (i : Fin 2) :
    (free i).val + outflow (bot.assetTokens i) (transfers bot recipient amounts) ≤
      held w (bot.assetTokens i) := by
  have hout := outflow_transfers h.distinct recipient amounts i
  have hfree := debit i
  have howned := owned i
  omega

lemma payable_paged {bot : Bot} {kind : PageKind} {entries : List PendingPageEntry} {id : ℕ}
    (h : Payable C st w bot.pair)
    (pages : st'.pendingPages = st.pendingPages.insert id ⟨BOT_ID, kind, entries⟩)
    (valid : ∀ e ∈ entries, ValidEntry (C.querier w) (C.env w) st.orders bot.pair kind e) :
    Payable C st' w bot.pair := by
  intro k kind' entries' hk e he i
  rw [pages, lookup_insert] at hk
  split at hk
  · cases hk
    obtain ⟨order, -, hindex, -, hclaim⟩ := valid e he
    rw [hindex]
    exact payout_of_claimable hclaim i
  · exact h k kind' entries' hk e he i

lemma solvent_effect (custody : Custodial C held pairTokens) (h : Solvent C held pairTokens st w ms)
    (e : Effect (C.querier w) (C.env w) (st, ms) (st', ms')) : Solvent C held pairTokens st' w ms' := by
  cases e with
  | configured admin pendingAdmin keeper vaultMode allowedTokens quarantine enabled =>
    exact ⟨h.unborn, fun bot hb => (h.born bot hb).same rfl rfl rfl rfl⟩
  | cached cache => exact ⟨h.unborn, fun bot hb => (h.born bot hb).same rfl rfl rfl rfl⟩
  | created rungs fresh pair tokens distinct zero =>
    obtain ⟨hout, hpages⟩ := h.unborn fresh
    refine .of_backed rfl ⟨fun i => custody.tokens pair (tokens i), distinct, fun i => ?_, ?_⟩
    · rw [hout, zero.1]
      simp
    · intro k kind entries hk
      rw [hpages k] at hk
      cases hk
  | regauged gasCredit pairCodeId hbot =>
    have hb := h.born _ hbot
    exact .of_backed rfl (hb.same rfl rfl rfl rfl)
  | paid recipient coins =>
    refine ⟨fun hnone => ⟨fun token => ?_, (h.unborn hnone).2⟩, fun bot hbot => ?_⟩
    · rw [outflow_append, (h.unborn hnone).1]
      rfl
    · have hb := h.born bot hbot
      refine hb.covered_by rfl rfl rfl fun i => ?_
      rw [outflow_append]
      exact hb.covered i
  | deposited depositor hbot live credit supply holding no_messages =>
    subst no_messages
    have hb := h.born _ hbot
    exact .of_backed rfl (hb.covered_by rfl rfl rfl (hb.covered_deposited custody live))
  | placed hbot some_rung all_items sum debit no_pages =>
    have hb := h.born _ hbot
    exact .of_backed rfl (hb.covered_by rfl rfl rfl (hb.covered_placed _ _ debit))
  | synced hbot actual grown no_messages =>
    subst no_messages
    have hb := h.born _ hbot
    exact .of_backed rfl (hb.covered_by rfl rfl rfl fun i => (custody.reported (actual i)).le)
  | dropped hbot tracked counted gone untouched =>
    have hb := h.born _ hbot
    exact .of_backed rfl (hb.same rfl rfl rfl rfl)
  | lowered hbot tracked book less untouched =>
    have hb := h.born _ hbot
    exact .of_backed hbot (hb.same rfl rfl rfl rfl)
  | minted collector hbot supply holding =>
    have hb := h.born _ hbot
    exact .of_backed rfl (hb.same rfl rfl rfl rfl)
  | paged hbot valid distinct untouched only_pages =>
    have hb := h.born _ hbot
    refine .of_backed hbot ⟨hb.tokens, hb.distinct, fun i => ?_, payable_paged hb.payable rfl valid⟩
    rw [outflow_append]
    simpa [SubMsg.replyAlways, sent_page] using hb.covered i
  | recovered rungIndex hbot untracked uncancelled found =>
    have hb := h.born _ hbot
    exact .of_backed rfl (hb.same rfl rfl rfl rfl)
  | redeemed recipient hbot debit supply holding =>
    have hb := h.born _ hbot
    exact .of_backed rfl (hb.covered_by rfl rfl rfl (hb.covered_transfers recipient hb.covered debit))
  | exited recipient hbot drained actual debit supply =>
    have hb := h.born _ hbot
    exact .of_backed rfl (hb.covered_by rfl rfl rfl
      (hb.covered_transfers recipient (fun i => (custody.reported (actual i)).le) debit))

lemma no_pages_pending (hp : Pending st ms) (hno : ∀ m ∈ ms, ¬ isPage m.msg) (k : ℕ) :
    st.pendingPages[k]? = none := by
  by_contra hk
  obtain ⟨m, hm, hreplied, rfl⟩ := hp.pages k hk
  cases hp.awaited m hm with
  | transfer h =>
    rw [h] at hreplied
    cases hreplied
  | bank h =>
    rw [h] at hreplied
    cases hreplied
  | page hbot h =>
    apply hno m hm
    rw [h.shape]
    trivial
  | batch hbot h => exact hk h.no_page

lemma payable_of_no_pages (hno : ∀ k : ℕ, st.pendingPages[k]? = none) (w : W) (pair : Addr) :
    Payable C st w pair := by
  intro k kind entries hk
  rw [hno k] at hk
  cases hk

lemma payable_erase {id : ℕ} {pair : Addr} (h : Payable C st w pair)
    (pages : st'.pendingPages = st.pendingPages.erase id)
    (same : ∀ (k : ℕ) kind entries, k ≠ id → st.pendingPages[k]? = some ⟨BOT_ID, kind, entries⟩ →
      ∀ e ∈ entries, ∀ i, payout (C.querier w') C.vault pair kind i e.orderId =
        payout (C.querier w) C.vault pair kind i e.orderId) : Payable C st' w' pair := by
  intro k kind entries hk e he i
  rw [pages, lookup_erase] at hk
  split at hk
  · cases hk
  · rename_i hne
    rw [same k kind entries (Ne.symm hne) hk e he i]
    exact h k kind entries hk e he i

lemma other_page (hp : Pending st (m :: ms)) {k : ℕ} {kind : PageKind} {entries : List PendingPageEntry}
    (hk : st.pendingPages[k]? = some ⟨BOT_ID, kind, entries⟩) (hne : k ≠ m.id) :
    ∀ e ∈ entries, e.orderId ∉ pageIds m.msg := by
  intro e he hmem
  obtain ⟨b, hb, hreplied, rfl⟩ := hp.pages k (by simp [hk])
  rcases List.mem_cons.mp hb with rfl | hb
  · exact hne rfl
  · refine (List.pairwise_cons.mp hp.disjoint).1 b hb hmem ?_
    cases hp.awaited b (List.mem_cons_of_mem _ hb) with
    | transfer h =>
      rw [h] at hreplied
      cases hreplied
    | bank h =>
      rw [h] at hreplied
      cases hreplied
    | page hbot h =>
      rw [pageIds_of_shape h]
      have hsaved := h.saved
      rw [hk] at hsaved
      cases hsaved
      exact List.mem_map_of_mem he
    | batch hbot h =>
      have hnone := h.no_page
      rw [hk] at hnone
      cases hnone

lemma payout_congr {q q' : Querier} {pair : Addr} {id : ℕ}
    (same : q'.limitOrder pair id = q.limitOrder pair id ∧
      q'.expiredLimitRefund pair id = q.expiredLimitRefund pair id) (vault : Addr) (kind : PageKind)
    (i : Fin 2) : payout q' vault pair kind i id = payout q vault pair kind i id := by
  cases kind with
  | cancel =>
    simp only [payout]
    rw [same.1]
  | claim =>
    simp only [payout]
    rw [same.2]

lemma sum_payout {pair : Addr} {kind : PageKind} {entries : List PendingPageEntry} {q : Querier}
    {vault : Addr} {i : Fin 2}
    (h : ∀ e ∈ entries, payout q vault pair kind i e.orderId = if e.tokenIndex = i then e.refund.val else 0) :
    ((entries.map PendingPageEntry.orderId).map (payout q vault pair kind i)).sum = refunds i entries := by
  rw [refunds]
  rw [List.map_map]
  congr 1
  exact List.map_congr_left h

lemma covered_after {bot bot' : Bot} (hb : Backed C held pairTokens st w bot (m :: ms))
    (tokens : bot'.assetTokens = bot.assetTokens) (pair : bot'.pair = bot.pair)
    (moved : ∀ i, (bot'.freeBalances i).val + held w (bot.assetTokens i) ≤
      held w' (bot.assetTokens i) + (bot.freeBalances i).val + sent (bot.assetTokens i) m.msg)
    (payable : Payable C st' w' bot'.pair) : Backed C held pairTokens st' w' bot' ms := by
  refine ⟨?_, ?_, fun i => ?_, payable⟩
  · rw [tokens, pair]
    exact hb.tokens
  · rw [tokens]
    exact hb.distinct
  · have hcover := hb.covered i
    have hmoved := moved i
    rw [outflow_cons] at hcover
    rw [tokens]
    omega

lemma solvent_sent {r : List (String × String)} (custody : Custodial C held pairTokens)
    (hp : Pending st (m :: ms)) (h : Solvent C held pairTokens st w (m :: ms)) (plain : isPlain m.msg)
    (ran : C.runs w m.msg r w') : Solvent C held pairTokens st w' ms := by
  refine ⟨fun hnone => ⟨fun token => ?_, (h.unborn hnone).2⟩, fun bot hbot => ?_⟩
  · have hout := (h.unborn hnone).1 token
    rw [outflow_cons] at hout
    omega
  · have hb := h.born bot hbot
    cases hmsg : m.msg with
    | token token msg =>
      cases msg with
      | transfer recipient amount =>
        rw [hmsg] at ran
        obtain ⟨htoken, hother⟩ := custody.transfer ran
        have hno : ∀ b ∈ m :: ms, ¬ isPage b.msg := by
          rcases hp.unmixed with hno | hall
          · exact hno
          · have hpage := hall m List.mem_cons_self
            rw [hmsg] at hpage
            rcases hpage with h | h <;> cases h
        refine covered_after hb rfl rfl (fun i => ?_)
          (payable_of_no_pages (no_pages_pending hp hno) w' bot.pair)
        rw [hmsg]
        by_cases heq : bot.assetTokens i = token
        · rw [heq]
          simp only [sent, if_true]
          omega
        · have := hother _ heq
          omega
      | send contract amount hook =>
        rw [hmsg] at plain
        cases plain
    | pair pair msg =>
      rw [hmsg] at plain
      cases plain
    | bank recipient coins =>
      rw [hmsg] at ran
      refine covered_after hb rfl rfl (fun i => ?_) ?_
      · have := custody.bank (bot.assetTokens i) ran
        omega
      · intro k kind entries hk e he i
        rw [payout_congr (custody.bank_frame bot.pair e.orderId ran)]
        exact hb.payable k kind entries hk e he i

lemma Backed.page_paid {bot bot' : Bot} {kind : PageKind} {entries : List PendingPageEntry}
    {r : List (String × String)} (custody : Custodial C held pairTokens) (hp : Pending st (m :: ms))
    (hb : Backed C held pairTokens st w bot (m :: ms)) (page : PageOf st bot m kind entries)
    (ran : C.runs w m.msg r w') (tokens : bot'.assetTokens = bot.assetTokens)
    (pair : bot'.pair = bot.pair) (pages : st'.pendingPages = st.pendingPages.erase m.id)
    (credited : ∀ i, (bot'.freeBalances i).val = (bot.freeBalances i).val + refunds i entries) :
    Backed C held pairTokens st' w' bot' ms := by
  have hworth := hb.payable m.id kind entries page.saved
  have hids := pageIds_of_shape page
  rw [page.shape] at ran
  refine covered_after hb tokens pair (fun i => ?_) ?_
  · have hpaid := custody.page i ran page.distinct
    rw [sum_payout fun e he => hworth e he i, ← hb.tokens i] at hpaid
    have hcredit := credited i
    omega
  · rw [pair]
    refine payable_erase hb.payable pages fun k kind' entries' hne hk e he i => ?_
    have hnot := other_page hp hk hne e he
    rw [hids] at hnot
    exact payout_congr (custody.page_frame e.orderId ran hnot) _ _ _

lemma sent_batch {bot : Bot} {side : LimitOrderSide} {rungs : List ℕ} {amountEach total : Uint128}
    {items : List LimitOrderPlacementItem} (batch : BatchOf st bot m side rungs amountEach total items)
    (token : Addr) : sent token m.msg = if bot.assetTokens side.tokenIndex = token then total.val else 0 := by
  rw [batch.shape]
  rfl

lemma Backed.batch_returned {bot bot' : Bot} {side : LimitOrderSide} {rungs : List ℕ}
    {amountEach total free : Uint128} {items : List LimitOrderPlacementItem} (hp : Pending st (m :: ms))
    (hb : Backed C held pairTokens st w bot (m :: ms))
    (batch : BatchOf st bot m side rungs amountEach total items)
    (credit : free.val = (bot.freeBalances side.tokenIndex).val + total.val)
    (kept : ∀ i, held w (bot.assetTokens i) ≤ held w' (bot.assetTokens i))
    (tokens : bot'.assetTokens = bot.assetTokens) (pair : bot'.pair = bot.pair)
    (free_eq : bot'.freeBalances = (bot.setFree side.tokenIndex free).freeBalances)
    (pages : st'.pendingPages = st.pendingPages) : Backed C held pairTokens st' w' bot' ms := by
  have hno := no_pages_pending hp (not_page_of_batch hp batch)
  rw [← pages] at hno
  refine covered_after hb tokens pair (fun i => ?_) (payable_of_no_pages hno w' bot'.pair)
  have hheld := kept i
  rw [sent_batch batch, free_eq]
  by_cases hi : i = side.tokenIndex
  · subst hi
    simp only [Bot.setFree, Function.update_self, if_true]
    omega
  · simp only [Bot.setFree, Function.update_of_ne hi]
    omega

lemma Backed.batch_taken {bot : Bot} {side : LimitOrderSide} {rungs : List ℕ}
    {amountEach total : Uint128} {items : List LimitOrderPlacementItem} {r : List (String × String)}
    (custody : Custodial C held pairTokens) (hp : Pending st (m :: ms))
    (hb : Backed C held pairTokens st w bot (m :: ms))
    (batch : BatchOf st bot m side rungs amountEach total items) (ran : C.runs w m.msg r w')
    (pages : st'.pendingPages = st.pendingPages) : Backed C held pairTokens st' w' bot ms := by
  have hno := no_pages_pending hp (not_page_of_batch hp batch)
  rw [← pages] at hno
  rw [batch.shape] at ran
  obtain ⟨htoken, hother⟩ := custody.place ran
  refine covered_after hb rfl rfl (fun i => ?_) (payable_of_no_pages hno w' bot.pair)
  rw [sent_batch batch]
  by_cases heq : bot.assetTokens i = bot.assetTokens side.tokenIndex
  · rw [heq, if_pos rfl]
    omega
  · have := hother _ heq
    omega

lemma solvent_delivered (custody : Custodial C held pairTokens) (hp : Pending st (m :: ms))
    (h : Solvent C held pairTokens st w (m :: ms)) (d : Delivered C st w m result st' w') :
    Solvent C held pairTokens st' w' ms := by
  cases d with
  | sent plain ran => exact solvent_sent custody hp h plain ran
  | reverted hbot page failed =>
    have hb := h.born _ hbot
    refine .of_backed hbot (covered_after hb rfl rfl (fun i => by omega) ?_)
    exact payable_erase hb.payable rfl fun _ _ _ _ _ _ _ _ => rfl
  | confirmed hbot page ran settled counted =>
    have hb := h.born _ hbot
    exact .of_backed rfl (hb.page_paid custody hp page ran rfl rfl rfl settled.credited)
  | @restored _ _ bot side rungs amountEach total items free hbot batch single counted credit outcome =>
    have hb := h.born _ hbot
    refine .of_backed rfl (hb.batch_returned hp batch credit (fun i => ?_) rfl rfl rfl rfl)
    rcases outcome with ⟨r, -, ran, hnothing⟩ | ⟨reason, -, -, rfl⟩
    · rw [batch.shape] at ran
      by_cases heq : bot.assetTokens i = bot.assetTokens side.tokenIndex
      · rw [heq]
        exact custody.skip ran hnothing
      · exact (custody.place ran).2 _ heq
    · exact le_rfl
  | recorded hbot batch ran placed all settled =>
    have hb := h.born _ hbot
    exact .of_backed hbot (hb.batch_taken custody hp batch ran rfl)

lemma reachable_solvent (custody : Custodial C held pairTokens) (h : Reachable C st w) :
    Pending st [] ∧ Solvent C held pairTokens st w [] := by
  refine reachable_invariant (J := Solvent C held pairTokens) ?_ ?_
    (fun _ h e => solvent_effect custody h e) (fun hp h d => solvent_delivered custody hp h d) h
  · intro w info msg st r _ h
    obtain ⟨hbot, -⟩ := instantiate_fresh h
    refine ⟨fun _ => ⟨fun _ => rfl, fun k => ?_⟩, fun b hb => ?_⟩
    · obtain ⟨config, rfl, -⟩ := instantiate_spec h
      simp [emptyVault]
    · rw [hbot] at hb
      cases hb
  · intro st w w' hp h hdrift
    refine ⟨fun hnone => ⟨fun _ => rfl, (h.unborn hnone).2⟩, fun bot hbot => ?_⟩
    have hb := h.born bot hbot
    refine ⟨hb.tokens, hb.distinct, fun i => (hb.covered i).trans (custody.drift _ hdrift), ?_⟩
    exact payable_of_no_pages (no_pages_pending hp (by simp)) w' bot.pair

/-- Recorded free balances are covered by the vault's real balances between transactions, and so is
everything that a transaction sends out on top of what it leaves recorded. -/
theorem free_balances_backed (custody : Custodial C held pairTokens) (h : Reachable C st w) :
    (∀ bot, st.bot = some bot → ∀ i, (bot.freeBalances i).val ≤ held w (bot.assetTokens i)) ∧
    ∀ info msg st' r bot', execute (C.querier w) (C.env w) st info msg = .ok (st', r) →
      st'.bot = some bot' → ∀ i,
      (bot'.freeBalances i).val + outflow (bot'.assetTokens i) r.messages ≤ held w (bot'.assetTokens i) := by
  have hsolvent := reachable_solvent custody h
  constructor
  · intro bot hbot i
    exact (hsolvent.2.born bot hbot).covered i
  · intro info msg st' r bot' hexec hbot' i
    have hsteps := steps_invariant (J := Solvent C held pairTokens) (execute_steps hexec)
      (fun _ h e => solvent_effect custody h e) hsolvent
    exact (hsteps.2.born bot' hbot').covered i

section OrderBook

variable {w w' : OrderBook.World}

lemma heldOf_takeOut {token : Addr} {amount : ℕ} (enough : ∀ i, OrderBook.tokenName i = token → amount ≤ w.held i)
    (slots : List OrderBook.Slot) :
    OrderBook.heldOf w token ≤
        OrderBook.heldOf { w with held := OrderBook.takeOut w.held token amount, slots } token + amount ∧
      ∀ other, other ≠ token →
        OrderBook.heldOf w other ≤
          OrderBook.heldOf { w with held := OrderBook.takeOut w.held token amount, slots } other := by
  have hne : OrderBook.tokenName 0 ≠ OrderBook.tokenName 1 := by decide
  constructor
  · simp only [OrderBook.heldOf]
    split_ifs with h₀ h₁
    · have := enough 0 h₀.symm
      simp only [OrderBook.takeOut, h₀.symm, if_true]
      omega
    · have := enough 1 h₁.symm
      simp only [OrderBook.takeOut, h₁.symm, if_true]
      omega
    · omega
  · intro other hother
    simp only [OrderBook.heldOf]
    split_ifs with h₀ h₁
    · exact (if_neg (h₀ ▸ hother)).ge
    · exact (if_neg (h₁ ▸ hother)).ge
    · exact le_rfl

lemma entries_frame {ids : List ℕ} {id : ℕ} (h : id ∉ ids) (pair : Addr) :
    OrderBook.bookEntry (OrderBook.closeSlots w.slots ids) pair id = OrderBook.bookEntry w.slots pair id ∧
      OrderBook.parkedEntry (OrderBook.closeSlots w.slots ids) pair id = OrderBook.parkedEntry w.slots pair id := by
  simp [OrderBook.bookEntry, OrderBook.parkedEntry, OrderBook.closeSlots_lookup, h]

lemma payout_le_owed {kind : PageKind} {id : ℕ}
    (h : (w.slots[id]?.map OrderBook.Slot.status) = some (OrderBook.settledStatus kind)) (i : Fin 2) :
    payout (OrderBook.querier w) "vault" "pair" kind i id ≤ OrderBook.owed w.slots i id := by
  obtain ⟨⟨status, side, price, remaining⟩, hslot, rfl⟩ := Option.map_eq_some_iff.mp h
  cases kind with
  | cancel => simp [payout, OrderBook.querier, OrderBook.bookEntry, OrderBook.owed, hslot,
      OrderBook.settledStatus, orError]
  | claim => simp [payout, OrderBook.querier, OrderBook.parkedEntry, OrderBook.owed, hslot,
      OrderBook.settledStatus]

lemma orderBook_custodial : Custodial OrderBook.chain OrderBook.heldOf (fun _ => OrderBook.tokenName) where
  reported := narrow_eq_ok.mp
  tokens := by
    intro w pair info i token h htoken
    cases h
    exact (Except.ok.inj htoken).symm
  drift := by
    intro w w' token h
    cases h with
    | donated amounts sound => simp only [OrderBook.heldOf]; split_ifs <;> simp
    | filled status proceeds h onBook less still sound => simp only [OrderBook.heldOf]; split_ifs <;> simp
    | expired h onBook => exact le_rfl
    | configured maxBatchRungs paused => exact le_rfl
  bank := by
    intro w recipient coins r w' token h
    cases h
    exact le_rfl
  transfer := by
    intro w token recipient amount r w' h
    obtain ⟨enough, -, rfl⟩ := OrderBook.transfer_spec h
    exact heldOf_takeOut enough _
  place := by
    rintro w token pair total ⟨side, items⟩ r w' h
    obtain ⟨-, -, enough, -, -, -, rfl⟩ := OrderBook.place_spec h
    exact heldOf_takeOut enough _
  skip := by
    rintro w token pair total ⟨side, items⟩ r w' h hids
    obtain ⟨-, hitems, -, hroom, rfl, -, -⟩ := OrderBook.place_spec h
    rw [OrderBook.placedIds_placedEvents hroom] at hids
    simp [hitems] at hids
  page := by
    intro w pair kind ids r w' i h _
    obtain ⟨rfl, hsettled, -, rfl⟩ := OrderBook.page_spec h
    simp only [OrderBook.heldOf_tokenName]
    exact Nat.add_le_add_left (List.sum_le_sum fun id hid => payout_le_owed (hsettled id hid) i) _
  page_frame := by
    intro w pair kind ids r w' id h hid
    obtain ⟨rfl, hsettled, -, rfl⟩ := OrderBook.page_spec h
    obtain ⟨hbook, hparked⟩ := entries_frame (w := w) hid "pair"
    simp only [OrderBook.chain, OrderBook.querier, hbook, hparked, and_self]
  bank_frame := by
    intro w recipient coins r w' pair id h
    cases h
    exact ⟨rfl, rfl⟩

end OrderBook

theorem free_balances_backed_settled :
    ∃ st w, OrderBook.scenario OrderBook.settling = .ok (st, w) ∧
      (∀ bot, st.bot = some bot →
        ∀ i, (bot.freeBalances i).val ≤ OrderBook.heldOf w (bot.assetTokens i)) ∧
      ∀ info msg st' r bot',
        execute (OrderBook.chain.querier w) (OrderBook.chain.env w) st info msg = .ok (st', r) →
        st'.bot = some bot' → ∀ i,
        (bot'.freeBalances i).val + outflow (bot'.assetTokens i) r.messages ≤
          OrderBook.heldOf w (bot'.assetTokens i) := by
  have hruns : okAnd (OrderBook.scenario OrderBook.settling) (fun _ => true) = true := by decide
  obtain ⟨⟨st, w⟩, h, -⟩ := okAnd_iff.mp hruns
  exact ⟨st, w, h, free_balances_backed orderBook_custodial (OrderBook.scenario_reachable h)⟩

end Cl8yDexBots.LimitGrid.Solvency
