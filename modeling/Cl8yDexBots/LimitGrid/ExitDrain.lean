import Cl8yDexBots.LimitGrid.EmergencyPages
import Cl8yDexBots.LimitGrid.OpenBook

/-! Whether repeated emergency cancels empty a vault in exit mode. -/

namespace Cl8yDexBots.LimitGrid.ExitDrain

open Std Relation Foundation.Checked Foundation.Words Foundation.SubMessages Foundation.StorageMap
open CosmWasm.Std
open State Orders Vault Transactions Effects EntryEffects PendingMessages Deliveries Pages
open EmergencyPages LedgerInvariant Solvency PageDelivery

variable {W : Type}

structure Standing (C : Chain W) (st : Storage) (w : W) : Prop where
  pinned : ∀ bot, st.bot = some bot → (C.querier w).codeId bot.pair = .ok bot.pairCodeId
  orders : ∀ bot, st.bot = some bot → ∀ (id : ℕ) order, st.orders[id]? = some order →
    Live (C.querier w) (C.env w) bot.pair id order ∨ Executed (C.querier w) st bot.pair id

def NoneExecuted (C : Chain W) (st : Storage) (w : W) : Prop :=
  ∀ bot, st.bot = some bot → ∀ (id : ℕ) order, st.orders[id]? = some order →
    ¬ Executed (C.querier w) st bot.pair id

/-- No page is longer than the pair now accepts, and there is a reply id for every page. -/
structure PagesFit (C : Chain W) (st : Storage) (w : W) : Prop where
  short : ∀ bot, st.bot = some bot → ∃ limit, (C.querier w).maxBatchRungs bot.pair = .ok limit ∧
    min (max bot.pairBatchLimit 1) (min st.config.maxOrdersPerReconcile st.orders.size) ≤ limit
  replies : st.nextReplyId + st.orders.size < 2 ^ 64

structure Ready (C : Chain W) (st : Storage) (w : W) : Prop where
  standing : Standing C st w
  none_executed : NoneExecuted C st w
  pages_fit : PagesFit C st w

def CancelTx (C : Chain W) (st : Storage) (w : W) (bot : Bot) (log : Log) (st' : Storage) (w' : W) : Prop :=
  Tx C st w ⟨bot.owner, []⟩ (.emergencyCancel BOT_ID) log st' w'

/-- The owner's emergency cancels empty the vault, whatever the chain does in between that leaves
the given property true, and then the owner can withdraw. -/
inductive Drained (C : Chain W) (P : Storage → W → Prop) : Storage → W → Prop
  | empty {st w} (nothing : st.orders = ∅)
      (withdrawable : ∀ bot, st.bot = some bot → (sharesOf st bot.owner).val ≠ 0 → ∃ result,
        execute (C.querier w) (C.env w) st ⟨bot.owner, []⟩ (.emergencyWithdraw BOT_ID none) = .ok result) :
      Drained C P st w
  | cancelled {st w bot} (hbot : st.bot = some bot) (possible : ∃ log st' w', CancelTx C st w bot log st' w')
      (stays : ∀ log st' w', CancelTx C st w bot log st' w' → P st' w')
      (next : ∀ log st' w' w₁, CancelTx C st w bot log st' w' → ReflTransGen C.drift w' w₁ → P st' w₁ →
        Drained C P st' w₁) : Drained C P st w

variable {C : Chain W} {held : W → Addr → ℕ} {pairTokens : Addr → Fin 2 → Addr} {Sound : W → Prop}
  {st st₁ st' : Storage} {w w' : W} {ms : List (SubMsg CosmosMsg)} {log : Log} {bot : Bot}
  {entries : List (PageKind × PendingPageEntry)}

lemma live_not_executed {q : Querier} {env : Env} {pair : Addr} {id : ℕ} {order : GridOrder}
    (h : Live q env pair id order) : ¬ Executed q st pair id := by
  rintro ⟨⟨e, hoff⟩, hnone, -⟩
  rcases h with ⟨remaining, -, -, hbook⟩ | ⟨refund, -, -, -, hparked⟩
  · rw [OnBook] at hbook
    rw [hoff] at hbook
    cases hbook
  · rw [hnone] at hparked
    cases hparked

lemma Ready.live (h : Ready C st w) (hbot : st.bot = some bot) {id : ℕ} {order : GridOrder}
    (horder : st.orders[id]? = some order) : Live (C.querier w) (C.env w) bot.pair id order := by
  rcases h.standing.orders bot hbot id order horder with hlive | hexec
  · exact hlive
  · exact absurd hexec (h.none_executed bot hbot id order horder)

lemma live_congr {pair : Addr} {id : ℕ} {order : GridOrder} (same : Undisturbed C pair w w' id)
    (h : Live (C.querier w) (C.env w) pair id order) : Live (C.querier w') (C.env w') pair id order := by
  have henv : (C.env w').contract = (C.env w).contract := rfl
  rcases h with ⟨remaining, hpos, hle, hbook⟩ | ⟨refund, hpos, hle, ⟨e, hoff⟩, hparked⟩
  · refine .inl ⟨remaining, hpos, hle, ?_⟩
    rw [OnBook]
    rw [same.1, henv]
    exact hbook
  · refine .inr ⟨refund, hpos, hle, ⟨e, ?_⟩, ?_⟩
    · rw [same.1]
      exact hoff
    · rw [same.2, henv]
      exact hparked

lemma tracked_length (st : Storage) :
    (trackedOrders st).length = min st.config.maxOrdersPerReconcile st.orders.size := by
  rw [trackedOrders, List.length_take, ExtTreeMap.length_toList]

lemma in_delivery (custody : Custodial C held pairTokens) (obliging : Obliging C Sound)
    (h : Reachable C st w) (ready : Ready C st w)
    (hc : Cancelling (C.querier w) (C.env w) st st₁ ms bot entries)
    (steps : Steps (C.querier w) (C.env w) (st, []) (st₁, ms)) :
    ∃ limit, InDelivery C held pairTokens Sound bot.pair limit st₁ w ms := by
  obtain ⟨hpending, hsolvent⟩ := reachable_solvent custody h
  obtain ⟨hpending₁, hbooked₁, hsolvent₁⟩ := steps_invariant
    (J := fun st w ms => Booked st ms ∧ Solvent C held pairTokens st w ms) steps
    (fun hp hj e => ⟨booked_effect hp hj.1 e, solvent_effect custody hj.2 e⟩)
    ⟨hpending, reachable_booked h, hsolvent⟩
  obtain ⟨limit, hlimit, hfit⟩ := ready.pages_fit.short bot hc.before
  refine ⟨limit, hpending₁, hbooked₁, hsolvent₁, reachable_sound obliging h, hlimit, ?_⟩
  intro m hm
  obtain ⟨kind, page, hmsg, hsome, hlength, hsub⟩ := hc.shape m hm
  have hcount : entries.length = (trackedOrders st).length := hc.classified.length_eq.symm
  have hshort : page.length ≤ (trackedOrders st).length := by
    have hle := hsub.length_le
    rw [entriesOf, List.length_map] at hle
    have hfilter := List.length_filter_le (fun e : PageKind × PendingPageEntry => decide (e.1 = kind)) entries
    omega
  rw [tracked_length] at hshort
  have hids : entries.map (fun e => e.2.orderId) = (trackedOrders st).map Prod.fst :=
    forall₂_map_eq hc.classified fun a b hab => (emergencyEntry_spec hab).1
  refine ⟨kind, _, hmsg, by simpa using hsome, by rw [List.length_map]; omega, ?_, ?_⟩
  · have hnodup := tracked_nodup st
    rw [← hids] at hnodup
    have hsub' := (hsub.trans (List.filter_sublist.map Prod.snd)).map PendingPageEntry.orderId
    rw [List.map_map] at hsub'
    exact hnodup.sublist hsub'
  · intro id hid
    obtain ⟨e, he, rfl⟩ := List.mem_map.mp hid
    obtain ⟨t, ht, hte⟩ := forall₂_exists hc.classified _ (entriesOf_mem.mp (hsub.subset he))
    obtain ⟨hid, -, -, hclaim⟩ := emergencyEntry_spec hte
    obtain ⟨kind', amount, hpos, hentry⟩ := emergencyEntry_of_live (ready.live hc.before (tracked_lookup ht))
    rw [hentry] at hte
    cases hte
    exact ⟨t.2.side, amount, hpos, hclaim⟩

lemma retiredBy_all (hlog : log.map Prod.fst = ms) (all : ∀ m o, (m, o) ∈ log → ∃ r, o = .ok r) :
    retiredBy log = (ms.map fun m => pageIds m.msg).flatten.length := by
  rw [List.length_flatten, List.map_map, ← hlog, List.map_map]
  rw [retiredBy]
  congr 1
  apply List.map_congr_left
  rintro ⟨m, o⟩ hmem
  obtain ⟨r, rfl⟩ := all m o hmem
  rfl

lemma cancel_progress (custody : Custodial C held pairTokens) (obliging : Obliging C Sound)
    (h : Reachable C st w) (ready : Ready C st w) (hbot : st.bot = some bot) (some_left : st.orders ≠ ∅)
    (htx : CancelTx C st w bot log st' w') :
    st'.orders.size < st.orders.size ∧ st'.vaultMode = st.vaultMode ∧ (∃ bot', st'.bot = some bot') ∧
      Ready C st' w' := by
  obtain ⟨st₁, r, hexec, hrun⟩ := htx
  obtain ⟨-, bot₁, entries, hc⟩ := executeEmergencyCancel_spec hexec
  obtain rfl := Option.some.inj (hbot.symm.trans hc.before)
  obtain ⟨limit, hin⟩ := in_delivery custody obliging h ready hc (execute_steps hexec)
  obtain ⟨hall, hlimit, hcode, hframe⟩ := delivery_accepted custody obliging hin hrun
  have honly : OnlyPages r.messages := by
    intro m hm
    obtain ⟨kind, page, hmsg, -⟩ := hc.shape m hm
    rw [hmsg]
    exact .inl trivial
  obtain ⟨hs, hlog⟩ := settles hrun hin.pending honly
  obtain ⟨pending, hst₁⟩ := hc.frame
  have hretired : retiredBy log = (trackedOrders st).length := by
    rw [retiredBy_all hlog hall, hc.covered.length_eq, List.length_map]
  have hmessages : r.messages.length ≤ retiredBy log := by
    have hlength : (r.messages.map fun m => (pageIds m.msg).length).length = r.messages.length :=
      List.length_map _
    rw [retiredBy_all hlog hall, List.length_flatten, List.map_map, ← hlength]
    apply List.length_le_sum_of_one_le
    intro n hn
    obtain ⟨m, hm, rfl⟩ := List.mem_map.mp hn
    obtain ⟨kind, page, hmsg, hsome, -⟩ := hc.shape m hm
    rw [hmsg, pageIds_pageMsg, List.length_map]
    exact List.length_pos_of_ne_nil hsome
  have hsize := hs.size
  have hsize₁ : st₁.orders.size = st.orders.size := by rw [hst₁]
  have hmax := (reachable_limits h).2
  have hpos : st.orders.size ≠ 0 := by
    rw [ne_eq, ← ExtTreeMap.eq_empty_iff_size_eq_zero]
    exact some_left
  have htracked := tracked_length st
  have hbot₁ : st₁.bot = some bot := by
    rw [hst₁]
    exact hbot
  obtain ⟨free, active, hbot', -, -⟩ := hs.bot bot hbot₁
  have huntouched : ∀ id, ¬ Accepted log id → Untouched r.messages id := by
    intro id hid m hm hmem
    exact hid (accepted_of_all hlog (fun m o hmem _ => hall m o hmem) hm hmem)
  have hlive : ∀ (id : ℕ) order, st'.orders[id]? = some order →
      Live (C.querier w') (C.env w') bot.pair id order := by
    intro id order horder
    have hnot : ¬ Accepted log id := by
      intro hid
      rw [hs.retired id hid] at horder
      cases horder
    rw [hs.kept id hnot, hst₁] at horder
    exact live_congr (hframe id (huntouched id hnot)) (ready.live hbot horder)
  have hconfig : st'.config = st.config := by rw [hs.config, hst₁]
  refine ⟨by omega, by rw [hs.vaultMode, hst₁], ⟨_, hbot'⟩, ⟨?_, ?_⟩, ?_, ?_, ?_⟩
  · intro b hb
    obtain rfl := Option.some.inj (hbot'.symm.trans hb)
    rw [hcode]
    exact ready.standing.pinned bot hbot
  · intro b hb id order horder
    obtain rfl := Option.some.inj (hbot'.symm.trans hb)
    exact .inl (hlive id order horder)
  · intro b hb id order horder
    obtain rfl := Option.some.inj (hbot'.symm.trans hb)
    exact live_not_executed (hlive id order horder)
  · intro b hb
    obtain rfl := Option.some.inj (hbot'.symm.trans hb)
    obtain ⟨limit', hlimit', hfit⟩ := ready.pages_fit.short bot hbot
    obtain rfl : limit' = limit := Except.ok.inj (hlimit'.symm.trans hin.maxBatchRungs)
    refine ⟨limit', hlimit, ?_⟩
    rw [hconfig]
    dsimp only
    omega
  · have hreplies := ready.pages_fit.replies
    rw [hs.nextReplyId, hst₁]
    dsimp only
    omega

lemma exitAmount_exists {q : Querier} (env : Env) {balance shares : Uint128} {i : Fin 2}
    (hbalance : q.balance (bot.assetTokens i) env.contract = .ok balance) (some_shares : shares.val ≠ 0)
    (covered : shares ≤ bot.totalShares) : ∃ result, exitAmount q env bot shares i = .ok result := by
  have hcovered : shares.val ≤ bot.totalShares.val := covered
  have hsupply : bot.totalShares.val ≠ 0 := by omega
  obtain ⟨amount, hamount, hval⟩ := multiplyRatio_of_le (ε := ContractError) (a := balance) hsupply hcovered
  have hle : amount.val ≤ balance.val := by
    rw [hval]
    exact Nat.div_le_of_le_mul (by
      rw [Nat.mul_comm bot.totalShares.val]
      exact Nat.mul_le_mul_left _ hcovered)
  simp only [exitAmount, hbalance, liftStd, hamount, checkedSub_of_le hle, ok_bind]
  exact ⟨_, rfl⟩

lemma withdraw_available (obliging : Obliging C Sound) (h : Reachable C st w) (exit : st.vaultMode = .exit)
    (hbot : st.bot = some bot) (nothing : st.orders = ∅) (some_shares : (sharesOf st bot.owner).val ≠ 0) :
    ∃ result,
      execute (C.querier w) (C.env w) st ⟨bot.owner, []⟩ (.emergencyWithdraw BOT_ID none) = .ok result := by
  have hcovered : sharesOf st bot.owner ≤ bot.totalShares := by
    rw [le_iff, ← (reachable_booked h).shares bot hbot, ← weight_shares]
    exact weight_le_total _ _ _
  have hsound := reachable_sound obliging h
  obtain ⟨b₀, hb₀⟩ := obliging.answers (bot.assetTokens 0) hsound
  obtain ⟨b₁, hb₁⟩ := obliging.answers (bot.assetTokens 1) hsound
  obtain ⟨r₀, hr₀⟩ := exitAmount_exists (C.env w) hb₀ some_shares hcovered
  obtain ⟨r₁, hr₁⟩ := exitAmount_exists (C.env w) hb₁ some_shares hcovered
  obtain ⟨recipient, hrecipient⟩ := obliging.senders h hbot
  have hload : loadBot st BOT_ID = .ok bot := loadBot_eq_ok.mpr ⟨rfl, hbot⟩
  have hempty : st.orders.isEmpty = true := ExtTreeMap.isEmpty_iff.mpr nothing
  have henough : ¬ (isZero (sharesOf st bot.owner) = true ∨ bot.totalShares < sharesOf st bot.owner) := by
    rw [not_or, isZero_iff]
    exact ⟨some_shares, Nat.not_lt.mpr hcovered⟩
  simp only [execute, executeEmergencyWithdraw, assertNoFunds, requireMode, exit, hload, assertOwner, hempty,
    Option.getD_none, hrecipient, liftStd, hr₀, hr₁, checkedSub_of_le hcovered, ensure, henough, ok_bind,
    List.isEmpty_nil, if_true, decide_true, not_false_eq_true]
  exact ⟨_, rfl⟩

lemma drains (custody : Custodial C held pairTokens) (obliging : Obliging C Sound) (n : ℕ) :
    ∀ {st w bot}, st.orders.size ≤ n → Reachable C st w → st.vaultMode = .exit → st.bot = some bot →
      Ready C st w → Drained C (Ready C) st w := by
  induction n with
  | zero =>
    intro st w bot hsize h exit hbot ready
    have hempty : st.orders = ∅ := ExtTreeMap.eq_empty_iff_size_eq_zero.mpr (by omega)
    refine .empty hempty fun b hb hshares => ?_
    exact withdraw_available obliging h exit hb hempty hshares
  | succ n ih =>
    intro st w bot hsize h exit hbot ready
    by_cases hempty : st.orders = ∅
    · refine .empty hempty fun b hb hshares => ?_
      exact withdraw_available obliging h exit hb hempty hshares
    · refine .cancelled hbot ?_ ?_ ?_
      · have htracked := tracked_length st
        have hreplies := ready.pages_fit.replies
        obtain ⟨⟨st₁, r⟩, hexec⟩ := executeEmergencyCancel_exists (C.env w) hbot exit
          (ready.standing.pinned bot hbot) (fun t ht => ready.live hbot (tracked_lookup ht)) (by omega)
        obtain ⟨-, bot₁, entries, hc⟩ := executeEmergencyCancel_spec hexec
        obtain ⟨limit, hin⟩ := in_delivery custody obliging h ready hc (executeEmergencyCancel_steps hexec)
        obtain ⟨log, st', w', hrun⟩ := delivery_exists custody obliging hin
        exact ⟨log, st', w', st₁, r, hexec, hrun⟩
      · intro log st' w' htx
        exact (cancel_progress custody obliging h ready hbot hempty htx).2.2.2
      · intro log st' w' w₁ htx hdrift hready
        obtain ⟨hless, hmode, ⟨bot', hbot'⟩, -⟩ := cancel_progress custody obliging h ready hbot hempty htx
        have hend : Reachable C st' w' := .executed h htx
        exact ih (by omega) (hend.drifts hdrift) (hmode.trans exit) hbot' hready

lemma none_executed_of_drained (custody : Custodial C held pairTokens) {P : Storage → W → Prop}
    (hd : Drained C P st w) (h : Reachable C st w) : NoneExecuted C st w := by
  induction hd with
  | empty nothing withdrawable =>
    intro bot hbot id order horder
    rw [nothing] at horder
    simp at horder
  | @cancelled st w bot hbot possible stays next ih =>
    intro b hb id order horder hexecuted
    obtain rfl := Option.some.inj (hbot.symm.trans hb)
    obtain ⟨log, st', w', htx⟩ := possible
    have hnone := ih log st' w' w' htx .refl (stays log st' w' htx) (.executed h htx)
    obtain ⟨st₁, r, hexec, hrun⟩ := htx
    obtain ⟨-, bot₁, entries, hc⟩ := executeEmergencyCancel_spec hexec
    obtain rfl := Option.some.inj (hbot.symm.trans hc.before)
    have hpending : Pending st₁ r.messages :=
      (steps_invariant (J := fun _ _ _ => True) (w := w) (execute_steps hexec) (fun _ _ _ => trivial)
        ⟨(reachable_solvent custody h).1, trivial⟩).1
    have honly : OnlyPages r.messages := by
      intro m hm
      obtain ⟨kind, page, hmsg, -⟩ := hc.shape m hm
      rw [hmsg]
      exact .inl trivial
    have huncovered : id ∉ (trackedOrders st).map Prod.fst := by
      intro hmem
      obtain ⟨t, ht, rfl⟩ := List.mem_map.mp hmem
      obtain ⟨e, he⟩ := forall₂_right_exists hc.classified t ht
      exact emergencyEntry_of_executed hexecuted he
    have huntouched : Untouched r.messages id := by
      intro m hm hmem
      apply huncovered
      rw [← hc.covered.mem_iff, List.mem_flatten]
      exact ⟨_, List.mem_map_of_mem hm, hmem⟩
    obtain ⟨hs, hlog⟩ := settles hrun hpending honly
    have hnot : ¬ Accepted log id := by
      rintro ⟨m, r', hmem, hid⟩
      refine huntouched m ?_ hid
      rw [← hlog]
      exact List.mem_map_of_mem hmem
    obtain ⟨pending, hst₁⟩ := hc.frame
    have hbot₁ : st₁.bot = some bot := by
      rw [hst₁]
      exact hbot
    obtain ⟨free, active, hbot', -, -⟩ := hs.bot bot hbot₁
    obtain ⟨hbook, hrefund⟩ := undisturbed custody hrun hpending honly hbot₁ huntouched
    refine hnone _ hbot' id order ?_ ⟨?_, ?_, ?_⟩
    · rw [hs.kept id hnot, hst₁]
      exact horder
    · obtain ⟨e, hoff⟩ := hexecuted.1
      exact ⟨e, hbook.trans hoff⟩
    · exact hrefund.trans hexecuted.2.1
    · by_contra hsome
      rcases hs.cancelled id hsome with hbefore | haccepted
      · rw [hst₁] at hbefore
        exact hbefore hexecuted.2.2
      · exact hnot haccepted

/-- A vault in exit mode drains when no tracked order is executed and its pages fit the pair, and it
never drains with an executed order among the tracked ones. -/
theorem exit_drains (custody : Custodial C held pairTokens) (obliging : Obliging C Sound)
    (h : Reachable C st w) (exit : st.vaultMode = .exit) (hbot : st.bot = some bot)
    (standing : Standing C st w) :
    (NoneExecuted C st w → PagesFit C st w → Drained C (Ready C) st w) ∧
      ∀ P, Drained C P st w → NoneExecuted C st w := by
  constructor
  · intro hnone hfit
    exact drains custody obliging st.orders.size le_rfl h exit hbot ⟨standing, hnone, hfit⟩
  · intro P hd
    exact none_executed_of_drained custody hd h

namespace OpenBook

open OrderBook LimitGrid.OpenBook

variable {w : World}

def Accounted (st : Storage) (w : World) (t : ℕ × GridOrder) : Prop :=
  (bookEntry w.slots "pair" t.1 = some ⟨t.1, "vault", t.2.side, t.2.price, t.2.remaining⟩ ∧
    t.2.remaining.val ≠ 0) ∨
  (bookEntry w.slots "pair" t.1 = none ∧
    parkedEntry w.slots "pair" t.1 = some ⟨t.1, "vault", t.2.side, t.2.remaining⟩ ∧ t.2.remaining.val ≠ 0) ∨
  (bookEntry w.slots "pair" t.1 = none ∧ parkedEntry w.slots "pair" t.1 = none ∧
    st.cancelledOrders[t.1]? = none)

instance (st : Storage) (w : World) (t : ℕ × GridOrder) : Decidable (Accounted st w t) :=
  inferInstanceAs (Decidable (_ ∨ _))

lemma standing_of_accounted (hbot : st.bot = some bot) (hpair : bot.pair = "pair")
    (hcode : bot.pairCodeId = 7) (h : ∀ t ∈ st.orders.toList, Accounted st w t) :
    Standing openChain st w := by
  refine ⟨fun b hb => ?_, fun b hb id order horder => ?_⟩
  · obtain rfl := Option.some.inj (hbot.symm.trans hb)
    rw [hcode]
    rfl
  · obtain rfl := Option.some.inj (hbot.symm.trans hb)
    rw [hpair]
    have hoff : bookEntry w.slots "pair" id = none → OffBook (openChain.querier w) "pair" id := by
      intro hnone
      refine ⟨.notFound "limit order", ?_⟩
      change orError (bookEntry w.slots "pair" id) _ = _
      rw [hnone]
      rfl
    rcases h (id, order) (mem_toList_iff.mpr horder) with ⟨hbook, hpos⟩ | ⟨hnone, hparked, hpos⟩ |
      ⟨hnone, hfree, hcancelled⟩
    · exact .inl (.inl ⟨order.remaining, hpos, le_rfl, orError_eq_ok.mpr hbook⟩)
    · exact .inl (.inr ⟨order.remaining, hpos, le_rfl, hoff hnone, congrArg Except.ok hparked⟩)
    · exact .inr ⟨hoff hnone, congrArg Except.ok hfree, hcancelled⟩

lemma none_executed_of_escrowed (hbot : st.bot = some bot) (hpair : bot.pair = "pair")
    (h : ∀ t ∈ st.orders.toList, bookEntry w.slots "pair" t.1 ≠ none ∨ parkedEntry w.slots "pair" t.1 ≠ none) :
    NoneExecuted openChain st w := by
  intro b hb id order horder hexecuted
  obtain rfl := Option.some.inj (hbot.symm.trans hb)
  rw [hpair] at hexecuted
  obtain ⟨⟨e, hoff⟩, hnone, -⟩ := hexecuted
  rcases h (id, order) (mem_toList_iff.mpr horder) with hbook | hparked
  · obtain ⟨order, hbook⟩ := Option.ne_none_iff_exists'.mp hbook
    cases (orError_eq_ok.mpr hbook).symm.trans hoff
  · exact hparked (Except.ok.inj hnone)

def leaving : List Event := [.expired 0, .sent owner (.enterExit 1)]

theorem exit_drains_parked : ∃ st w bot, scenario leaving = .ok (st, w) ∧ st.bot = some bot ∧
    (NoneExecuted openChain st w → PagesFit openChain st w → Drained openChain (Ready openChain) st w) ∧
    (∀ P, Drained openChain P st w → NoneExecuted openChain st w) ∧
    NoneExecuted openChain st w ∧ PagesFit openChain st w := by
  have hruns : okAnd (scenario leaving) (fun r => decide (r.1.vaultMode = .exit ∧
      (r.1.bot.map fun b => (b.pair, b.pairCodeId, b.pairBatchLimit)) = some ("pair", 7, 10) ∧
      (∀ t ∈ r.1.orders.toList, Accounted r.1 r.2 t) ∧
      (∀ t ∈ r.1.orders.toList,
        bookEntry r.2.slots "pair" t.1 ≠ none ∨ parkedEntry r.2.slots "pair" t.1 ≠ none) ∧
      r.1.orders.size ≤ r.2.maxBatchRungs ∧ r.1.nextReplyId + r.1.orders.size < 2 ^ 64)) = true := by
    decide
  obtain ⟨⟨st, w⟩, h, hchecked⟩ := okAnd_iff.mp hruns
  obtain ⟨exit, hbot, haccounted, hescrowed, hshort, hreplies⟩ := of_decide_eq_true hchecked
  obtain ⟨bot, hbot, hfields⟩ := Option.map_eq_some_iff.mp hbot
  obtain ⟨hpair, hcode, -⟩ := Prod.mk.inj hfields |>.imp_right Prod.mk.inj
  have hcalm : ∀ e ∈ leaving, Calm e := by
    intro e he
    fin_cases he <;> trivial
  obtain ⟨hdrain, honly⟩ := exit_drains openChain_custodial openChain_obliging (scenario_open hcalm h) exit
    hbot (standing_of_accounted hbot hpair hcode haccounted)
  refine ⟨st, w, bot, h, hbot, hdrain, honly, none_executed_of_escrowed hbot hpair hescrowed, ?_, hreplies⟩
  intro b hb
  refine ⟨w.maxBatchRungs, rfl, ?_⟩
  dsimp only at hshort
  omega

def leavingFilled : List Event := [.filled 0 .closed 0 ![0, 625000], .sent owner (.enterExit 1)]

theorem executed_order_locks_exit : ∃ st w, scenario leavingFilled = .ok (st, w) ∧ Reachable openChain st w ∧
    st.vaultMode = .exit ∧ Standing openChain st w ∧ PagesFit openChain st w ∧
    (sharesOf st "owner").val ≠ 0 ∧
    execute (openChain.querier w) (openChain.env w) st owner (.emergencyCancel BOT_ID) =
      .error .orderStatusUnverifiable ∧
    execute (openChain.querier w) (openChain.env w) st owner (.emergencyWithdraw BOT_ID none) =
      .error .exitOrdersRemain ∧
    ∀ P, ¬ Drained openChain P st w := by
  have hruns : okAnd (scenario leavingFilled) (fun r => decide (r.1.vaultMode = .exit ∧
      (r.1.bot.map fun b => (b.pair, b.pairCodeId)) = some ("pair", 7) ∧
      (∀ t ∈ r.1.orders.toList, Accounted r.1 r.2 t) ∧
      ((r.1.orders[(0 : ℕ)]?).isSome ∧ bookEntry r.2.slots "pair" 0 = none ∧
        parkedEntry r.2.slots "pair" 0 = none ∧ r.1.cancelledOrders[(0 : ℕ)]? = none) ∧
      (sharesOf r.1 "owner").val ≠ 0 ∧
      r.1.orders.size ≤ r.2.maxBatchRungs ∧ r.1.nextReplyId + r.1.orders.size < 2 ^ 64) &&
      failsWith (execute (querier r.2) (openChain.env r.2) r.1 owner (.emergencyCancel BOT_ID))
        .orderStatusUnverifiable &&
      failsWith (execute (querier r.2) (openChain.env r.2) r.1 owner (.emergencyWithdraw BOT_ID none))
        .exitOrdersRemain) = true := by
    decide
  obtain ⟨⟨st, w⟩, h, hchecked⟩ := okAnd_iff.mp hruns
  simp only [Bool.and_eq_true, failsWith_iff, decide_eq_true_eq] at hchecked
  obtain ⟨⟨⟨exit, hbot, haccounted, ⟨htracked, hoff, hnone, huncancelled⟩, hshares, hshort, hreplies⟩,
    hcancel⟩, hwithdraw⟩ := hchecked
  obtain ⟨bot, hbot, hfields⟩ := Option.map_eq_some_iff.mp hbot
  obtain ⟨hpair, hcode⟩ := Prod.mk.inj hfields
  have hcalm : ∀ e ∈ leavingFilled, Calm e := by
    intro e he
    fin_cases he <;> trivial
  have hreachable := scenario_open hcalm h
  refine ⟨st, w, h, hreachable, exit, standing_of_accounted hbot hpair hcode haccounted, ⟨?_, hreplies⟩,
    hshares, hcancel, hwithdraw, ?_⟩
  · intro b hb
    refine ⟨w.maxBatchRungs, rfl, ?_⟩
    omega
  · intro P hd
    obtain ⟨order, horder⟩ := Option.isSome_iff_exists.mp htracked
    refine none_executed_of_drained openChain_custodial hd hreachable bot hbot 0 order horder ?_
    rw [hpair]
    refine ⟨⟨.notFound "limit order", ?_⟩, congrArg Except.ok hnone, huncancelled⟩
    change orError (bookEntry w.slots "pair" 0) _ = _
    rw [hoff]
    rfl

end OpenBook

end Cl8yDexBots.LimitGrid.ExitDrain
