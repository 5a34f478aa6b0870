import Cl8yDexBots.LimitGrid.OpenBook
import Cl8yDexBots.LimitGrid.OrderStages
import Cl8yDexBots.LimitGrid.SolvencyQuery

/-! The solvency report after a reconciliation of everything that has happened on the pair. -/

namespace Cl8yDexBots.LimitGrid.SolvencyReport

open Foundation.Checked Foundation.Words Foundation.SubMessages Foundation.StorageMap CosmWasm.Std
open State Orders Vault Transactions Effects EntryEffects Resolutions PendingMessages Deliveries Pages Reconciliation
open LedgerInvariant Solvency PageDelivery FeeBase SolvencyQuery OrderStages

variable {W : Type} {C : Chain W} {held : W → Addr → ℕ} {pairTokens : Addr → Fin 2 → Addr} {Sound : W → Prop}
  {st st₁ st' : Storage} {w w' : W} {ms : List (SubMsg CosmosMsg)} {m : SubMsg CosmosMsg} {bot : Bot} {log : Log}
  {o : Except String (List (String × String))} {info : MessageInfo} {botId : ℕ} {ids : List ℕ}

/-- Filled, parked, or executed since it was last recorded. -/
def Touched (q : Querier) (env : Env) (pair : Addr) (id : ℕ) (order : GridOrder) : Prop :=
  (∃ remaining, OnBook q env pair id order.side order.price remaining ∧ remaining.val < order.remaining.val) ∨
    (∃ refund, Parked q env pair id order.side refund) ∨ Cleared q pair id

lemma recorded_of_untouched {q : Querier} {env : Env} {pair : Addr} {id : ℕ} {order : GridOrder}
    (h : Stage q env pair id order.side order.price order.remaining) (untouched : ¬ Touched q env pair id order) :
    AsRecorded q env pair id order := by
  cases h with
  | @book remaining le h =>
    have hsame : remaining = order.remaining := by
      rw [eq_iff]
      by_contra hne
      exact untouched (.inl ⟨remaining, h, Nat.lt_of_le_of_ne le hne⟩)
    rw [AsRecorded, ← hsame]
    exact h
  | parked le h => exact absurd (.inr (.inl ⟨_, h⟩)) untouched
  | cleared h => exact absurd (.inr (.inr h)) untouched

lemma untouched_of_recorded {q : Querier} {env : Env} {pair : Addr} {id : ℕ} {order : GridOrder}
    (h : AsRecorded q env pair id order) : ¬ Touched q env pair id order := by
  have hon : ¬ OffBook q pair id := by
    rintro ⟨e, he⟩
    cases h.symm.trans he
  rintro (⟨remaining, hbook, hless⟩ | ⟨refund, hoff, -⟩ | ⟨hoff, -⟩)
  · cases h.symm.trans hbook
    exact Nat.lt_irrefl _ hless
  · exact hon hoff
  · exact hon hoff

def Balanced (held : W → Addr → ℕ) (st : Storage) (w : W) : Prop :=
  ∀ bot, st.bot = some bot → ∀ i, (bot.freeBalances i).val = held w (bot.assetTokens i)

lemma balanced_delivered (honest : Honest C held pairTokens Sound) (solvent : Solvent C held pairTokens st w (m :: ms))
    (only : isPage m.msg ∨ isBank m.msg) (h : Balanced held st w) (d : Delivered C st w m o st' w') :
    Balanced held st' w' := by
  have hbatch : ∀ {bot side rungs amountEach total items},
      ¬ BatchOf st bot m side rungs amountEach total items := by
    intro bot side rungs amountEach total items hb
    rw [hb.shape] at only
    rcases only with h | h <;> cases h
  cases d with
  | sent plain ran =>
    intro bot hbot i
    cases hmsg : m.msg with
    | token token msg =>
      rw [hmsg] at only
      rcases only with h | h <;> cases h
    | pair pair msg =>
      rw [hmsg] at plain
      cases plain
    | bank recipient coins =>
      rw [hmsg] at ran
      rw [honest.apart (bot.assetTokens i) ran]
      exact h bot hbot i
  | reverted hbot page failed => exact h
  | @confirmed r _ bot kind entries s hbot page ran settled counted =>
    intro b hb i
    cases hb
    have hbacked := solvent.born bot hbot
    have hworth := hbacked.payable m.id kind entries page.saved
    rw [page.shape] at ran
    have hpaid := honest.paid i ran page.distinct
    rw [sum_payout fun e he => hworth e he i, ← hbacked.tokens i] at hpaid
    have hcredit : (s.freeBalances i).val = (bot.freeBalances i).val + refunds i entries := settled.credited i
    have hbefore := h bot hbot i
    dsimp only
    omega
  | restored hbot batch single counted credit outcome => exact absurd batch hbatch
  | recorded hbot batch ran placed all settled => exact absurd batch hbatch

lemma balanced_run (honest : Honest C held pairTokens Sound) (h : Dispatch C.host st w ms log st' w')
    (pending : Pending st ms) (solvent : Solvent C held pairTokens st w ms) (only : OnlyPages ms)
    (balanced : Balanced held st w) : Balanced held st' w' := by
  induction h with
  | done => exact balanced
  | @step st w m ms o st₁ w₁ new log st' w' first rest ih =>
    obtain ⟨rfl, hd⟩ := pending_delivered pending first
    apply ih (delivered_pending pending hd) (solvent_delivered honest.custody pending solvent hd)
    · intro b hb
      exact only b (List.mem_cons_of_mem _ hb)
    · exact balanced_delivered honest solvent (only m List.mem_cons_self) balanced hd

lemma executeReconcile_bot {q : Querier} {env : Env} {r : Response CosmosMsg}
    (h : executeReconcile q env st info botId ids = .ok (st', r)) (hbot : st.bot = some bot) :
    ∃ bot', st'.bot = some bot' ∧ bot'.pair = bot.pair ∧ bot'.assetTokens = bot.assetTokens := by
  simp only [executeReconcile, bind_eq_ok, loadBot_eq_ok, Prod.exists] at h
  obtain ⟨_, -, _, -, bot', ⟨rfl, hbot'⟩, _, -, _, -, _, -, _, -, credited, bot₁, hsync, sweep, -, _, -, st₂, bot₂,
    fee, hfee, st₃, r₃, hclaim, hpay⟩ := h
  obtain rfl := Option.some.inj (hbot.symm.trans hbot')
  obtain ⟨live, rfl, -⟩ := syncFreeBalances_spec hsync
  obtain ⟨cache, shares, totalShares, rfl, rfl⟩ := chargeFee_frame hfee
  obtain ⟨_, -, -, -, pending, next, rfl⟩ := claimPages_spec hclaim
  obtain ⟨gasCredit, rfl, -⟩ := payKeeper_spec rfl hpay
  exact ⟨_, rfl, rfl, rfl⟩

lemma recorded_after {bot₁ : Bot} {sweep : Sweep} (honest : Honest C held pairTokens Sound)
    (accounted : Accounted C st w)
    (spec : Reconciled (C.querier w) (C.env w) st info ids st₁ (log.map Prod.fst) bot bot₁ sweep)
    (pair : bot₁.pair = bot.pair) (pending : Pending st₁ (log.map Prod.fst))
    (run : Dispatch C.host st₁ w (log.map Prod.fst) log st' w')
    (covers : ∀ id order, st.orders[id]? = some order → Touched (C.querier w) (C.env w) bot.pair id order → id ∈ ids)
    (all : ∀ m o, (m, o) ∈ log → isPage m.msg → ∃ r, o = .ok r) {id : ℕ} {order : GridOrder}
    (tracked : st'.orders[id]? = some order) : AsRecorded (C.querier w') (C.env w') bot.pair id order := by
  obtain ⟨hsettles, -⟩ := settles run pending spec.only
  have hnot : ¬ Accepted log id := by
    intro haccepted
    rw [hsettles.retired id haccepted] at tracked
    cases tracked
  have huntouched : Untouched (log.map Prod.fst) id := by
    intro m hm hid
    exact hnot (accepted_of_all rfl all hm hid)
  have hkept := hsettles.kept id hnot
  rw [tracked, spec.orders] at hkept
  have hbefore : AsRecorded (C.querier w) (C.env w) bot.pair id order := by
    by_cases hid : id ∈ ids
    · obtain ⟨before, status, -, hstatus, hswept⟩ := spec.loop.batch id hid
      cases hswept with
      | queued owed _ claim =>
        obtain ⟨m, hm, hpage⟩ := (spec.claims id).mpr (List.mem_map_of_mem claim)
        exact absurd hpage (huntouched m hm)
      | dropped terminal nothing untracked =>
        rw [untracked] at hkept
        cases hkept
      | @recorded remaining some_left lowered =>
        rw [lowered] at hkept
        cases hkept
        rcases orderStatus_spec hstatus with ⟨_, h, -, hbook⟩ | ⟨_, h, -⟩ | ⟨h | h, -⟩
        · cases h
          exact hbook
        · cases h
        · cases h
        · cases h
    · have hsame : st.orders[id]? = some order := (spec.loop.others id hid).symm.trans hkept.symm
      obtain ⟨bot', hbot', hstage⟩ := accounted id order hsame
      obtain rfl := Option.some.inj (spec.before.symm.trans hbot')
      exact recorded_of_untouched hstage fun htouched => hid (covers id order hsame htouched)
  have hundisturbed := undisturbed honest.custody run pending spec.only spec.after huntouched
  rw [pair] at hundisturbed
  exact hundisturbed.1.trans hbefore

lemma room_of_recorded (honest : Honest C held pairTokens Sound) (sound : Sound w) (i : Fin 2) {pair : Addr}
    (recorded : ∀ id order, st.orders[id]? = some order → AsRecorded (C.querier w) (C.env w) pair id order) :
    held w (pairTokens pair i) + overOrders st.orders i inRecord < 2 ^ 128 := by
  have hsum : ((st.orders.toList.map Prod.fst).map (payout (C.querier w) C.vault pair .cancel i)).sum =
      overOrders st.orders i inRecord := by
    rw [overOrders, keyedTotal, List.map_map]
    congr 1
    apply List.map_congr_left
    intro e he
    have hbook := recorded e.1 e.2 (mem_toList_iff.mp he)
    have hclaim : Claimable (C.querier w) (C.env w) pair e.1 e.2.side e.2.remaining .cancel := ⟨e.2.price, hbook⟩
    exact payout_of_claimable hclaim i
  rw [← hsum]
  exact honest.supply pair i sound (nodup_keys st.orders)

/-- Once a reconciliation covers whatever was filled, executed or parked, and its pages are accepted, the report tells
what the ledger and the chain hold, balances for both tokens, counts every tracked order and warns of nothing. -/
theorem solvency_report_exact (honest : Honest C held pairTokens Sound) (h : Reachable C st w)
    (tx : Tx C st w info (.reconcile botId ids) log st' w')
    (covers : ∀ bot, st.bot = some bot → ∀ id order, st.orders[id]? = some order →
      Touched (C.querier w) (C.env w) bot.pair id order → id ∈ ids)
    (all : ∀ m o, (m, o) ∈ log → isPage m.msg → ∃ r, o = .ok r) :
    ∃ report bot, checkSolvency (C.querier w') (C.env w') st' botId = .ok report ∧ st'.bot = some bot ∧
      Exact (C.querier w') (C.env w') st' bot report := by
  have hreached : Reachable C st' w' := .executed h tx
  obtain ⟨st₁, r, hexec, hrun⟩ := tx
  obtain ⟨rfl, bot, bot₁, sweep, hspec⟩ := executeReconcile_spec hexec
  obtain ⟨_, hbot₁, hpair, htokens⟩ := executeReconcile_bot hexec hspec.before
  obtain rfl := Option.some.inj (hspec.after.symm.trans hbot₁)
  obtain ⟨hpending, hsolvent⟩ := steps_invariant (J := Solvent C held pairTokens) (execute_steps hexec)
    (fun _ h e => solvent_effect honest.custody h e) (reachable_solvent honest.custody h)
  have hbalanced : Balanced held st₁ w := by
    intro b hb i
    obtain rfl := Option.some.inj (hspec.after.symm.trans hb)
    rw [htokens]
    exact honest.custody.reported (hspec.live i).1
  obtain ⟨hsettles, hlog⟩ := settles hrun hpending hspec.only
  obtain ⟨free, active, hbot', -⟩ := hsettles.bot bot₁ hspec.after
  have hexact := balanced_run honest hrun hpending hsolvent hspec.only hbalanced _ hbot'
  rw [← hlog] at hrun hpending hspec
  have hsound : Sound w' := hreached.world honest.genesis honest.drift honest.runs
  have hrecorded : ∀ id order, st'.orders[id]? = some order →
      AsRecorded (C.querier w') (C.env w') bot₁.pair id order := by
    intro id order horder
    rw [hpair]
    exact recorded_after honest (reachable_accounted honest h) hspec hpair hpending hrun
      (covers bot hspec.before) all horder
  have hcustody := ((reachable_solvent honest.custody hreached).2.born _ hbot').tokens
  have hlive : ∀ i, (C.querier w').balance (bot₁.assetTokens i) C.vault = .ok (free i) := by
    intro i
    obtain ⟨live, hlive⟩ := honest.answers (w := w') (bot₁.assetTokens i) hsound
    have hheld := honest.custody.reported hlive
    have hsame : live = free i := by
      rw [eq_iff, hheld]
      exact (hexact i).symm
    exact hlive.trans (congrArg Except.ok hsame)
  obtain ⟨report, hreport, hfaithful⟩ := checkSolvency_exact hbot' hrecorded hlive fun i => by
    rw [hexact i, hcustody i]
    exact room_of_recorded honest hsound i hrecorded
  exact ⟨report, _, hreport, hbot', hfaithful⟩

section OpenBook

open OrderBook OpenBook

variable {w w' : World} {r : List (String × String)}

lemma payout_eq_owed {kind : PageKind} {id : ℕ} (h : (w.slots[id]?.map Slot.status) = some (settledStatus kind))
    (i : Fin 2) : Solvency.payout (querier w) "vault" "pair" kind i id = owed w.slots i id := by
  obtain ⟨⟨status, side, price, remaining⟩, hslot, rfl⟩ := Option.map_eq_some_iff.mp h
  cases kind with
  | cancel => simp [Solvency.payout, querier, bookEntry, owed, hslot, settledStatus, orError]
  | claim => simp [Solvency.payout, querier, parkedEntry, owed, hslot, settledStatus]

lemma payout_le_holdsAt (w : World) (pair : Addr) (i : Fin 2) (id : ℕ) :
    Solvency.payout (querier w) "vault" pair .cancel i id ≤ holdsAt w.slots i id := by
  simp only [Solvency.payout, querier, bookEntry, holdsAt]
  split
  · rename_i o ho
    rw [orError_eq_ok] at ho
    split at ho
    · split at ho
      · rename_i hslot
        cases ho
        simp [hslot, holds]
      · cases ho
    · cases ho
  · exact Nat.zero_le _

lemma payouts_le_escrow (w : World) (pair : Addr) (i : Fin 2) {ids : List ℕ} (distinct : ids.Nodup) :
    (ids.map (Solvency.payout (querier w) "vault" pair .cancel i)).sum ≤ escrow w.slots i := by
  have hzero : ∀ id, id ∉ Finset.range w.slots.length → holdsAt w.slots i id = 0 := by
    intro id hid
    rw [Finset.mem_range, Nat.not_lt] at hid
    rw [holdsAt, List.getElem?_eq_none hid]
    rfl
  calc (ids.map (Solvency.payout (querier w) "vault" pair .cancel i)).sum
      ≤ (ids.map (holdsAt w.slots i)).sum := List.sum_le_sum fun id _ => payout_le_holdsAt w pair i id
    _ = ∑ id ∈ ids.toFinset, holdsAt w.slots i id := (List.sum_toFinset _ distinct).symm
    _ ≤ ∑ id ∈ ids.toFinset ∪ Finset.range w.slots.length, holdsAt w.slots i id :=
        Finset.sum_le_sum_of_subset Finset.subset_union_left
    _ = ∑ id ∈ Finset.range w.slots.length, holdsAt w.slots i id := by
        symm
        apply Finset.sum_subset Finset.subset_union_right
        intro id _ hid
        exact hzero id hid
    _ = escrow w.slots i := (escrow_eq w.slots i).symm

lemma ages_of_slots {pair : Addr} {id : ℕ} (h : w'.slots[id]? = w.slots[id]?) : Ages openChain w w' pair id := by
  apply ages_same
  · simp [openChain, chain, querier, bookEntry, h]
  · simp [openChain, chain, querier, parkedEntry, h]

lemma ages_moved {pair : Addr} {id : ℕ} {before after : Slot} (h : w.slots[id]? = some before)
    (h' : w'.slots[id]? = some after) (onBook : before.status = .book)
    (placed : after.side = before.side ∧ after.price = before.price) (less : after.remaining ≤ before.remaining) :
    Ages openChain w w' pair id := by
  obtain ⟨status, side, price, remaining⟩ := before
  obtain ⟨status', side', price', rest⟩ := after
  dsimp only at onBook placed less
  obtain ⟨rfl, rfl⟩ := placed
  subst onBook
  by_cases hpair : pair = "pair"
  · subst hpair
    have hlisted : (openChain.querier w).limitOrder "pair" id = .ok ⟨id, "vault", side', price', remaining⟩ := by
      simp [openChain, chain, querier, bookEntry, h, orError]
    have hon : ¬ OffBook (openChain.querier w) "pair" id := by
      rintro ⟨e, he⟩
      cases hlisted.symm.trans he
    intro side price limit hstage
    cases hstage with
    | book le hbook =>
      cases hlisted.symm.trans hbook
      have hle : rest ≤ limit := Nat.le_trans less le
      cases status' with
      | book =>
        refine .book hle ?_
        simp [OnBook, openChain, chain, querier, bookEntry, h', orError, Chain.env]
      | parked =>
        refine .parked hle ⟨⟨.notFound "limit order", ?_⟩, ?_⟩
        · simp [openChain, chain, querier, bookEntry, h', orError]
        · simp [openChain, chain, querier, parkedEntry, h', Chain.env]
      | closed =>
        refine .cleared ⟨⟨.notFound "limit order", ?_⟩, ?_⟩
        · simp [openChain, chain, querier, bookEntry, h', orError]
        · simp [openChain, chain, querier, parkedEntry, h']
    | parked le hparked => exact absurd hparked.1 hon
    | cleared hcleared => exact absurd hcleared.1 hon
  · apply ages_same
    · simp [openChain, chain, querier, bookEntry, hpair]
    · simp [openChain, chain, querier, parkedEntry, hpair]

lemma ages_set {pair : Addr} {id moved : ℕ} {before after : Slot} (h : w.slots[moved]? = some before)
    (slots : w'.slots = w.slots.set moved after) (onBook : before.status = .book)
    (placed : after.side = before.side ∧ after.price = before.price) (less : after.remaining ≤ before.remaining) :
    Ages openChain w w' pair id := by
  by_cases hid : moved = id
  · subst hid
    apply ages_moved h _ onBook placed less
    rw [slots, List.getElem?_set_self (List.getElem?_eq_some_iff.mp h).1]
  · apply ages_of_slots
    rw [slots, List.getElem?_set_ne hid]

lemma openChain_honest : Honest openChain heldOf (fun _ => tokenName) Open where
  custody := openChain_custodial
  genesis h := ⟨h.1.2, h.2⟩
  drift hopen h := ⟨sound_drift hopen.1 h.1, h.2⟩
  runs := open_delivered
  answers token hopen := openChain_obliging.answers token hopen
  supply := by
    intro w pair i ids hopen distinct
    rw [heldOf_tokenName]
    exact (Nat.add_le_add_left (payouts_le_escrow w pair i distinct) _).trans_lt (hopen.1 i)
  paid := by
    intro w pair kind ids r w' i h _
    obtain ⟨rfl, hsettled, -, rfl⟩ := page_spec h
    have hpaid : ids.map (Solvency.payout (querier w) "vault" "pair" kind i) = ids.map (owed w.slots i) := by
      apply List.map_congr_left
      intro id hid
      exact payout_eq_owed (hsettled id hid) i
    rw [heldOf_tokenName, heldOf_tokenName]
    exact congrArg (fun amounts : List ℕ => w.held i + amounts.sum) hpaid.symm
  apart := by
    intro w recipient coins r w' token h
    cases h
    rfl
  echo := by
    intro w pair id o h
    have hentry : bookEntry w.slots pair id = some o := orError_eq_ok.mp h
    rw [bookEntry] at hentry
    split at hentry
    · split at hentry
      · cases hentry
        rfl
      · cases hentry
    · cases hentry
  ages_drift := by
    rintro w w' pair id ⟨h, -⟩
    cases h with
    | donated amounts sound => exact ages_of_slots rfl
    | filled status proceeds h onBook less still sound => exact ages_set h rfl onBook ⟨rfl, rfl⟩ less
    | expired h onBook => exact ages_set h rfl onBook ⟨rfl, rfl⟩ (Nat.le_refl _)
    | configured maxBatchRungs paused => exact ages_of_slots rfl
  ages_transfer := by
    intro w token recipient amount r w' pair id h
    obtain ⟨-, -, rfl⟩ := transfer_spec h
    exact ages_of_slots rfl
  ages_place := by
    rintro w token contract total ⟨side, items⟩ r w' placed pair id h hplaced hid
    obtain ⟨-, -, -, hroom, rfl, -, rfl⟩ := place_spec h
    rw [placedIds_placedEvents hroom] at hplaced
    cases hplaced
    apply ages_of_slots
    by_cases hold : id < w.slots.length
    · exact List.getElem?_append_left hold
    · have hnew : w.slots.length + items.length ≤ id := by
        by_contra hlt
        apply hid
        exact List.mem_map.mpr ⟨id - w.slots.length, List.mem_range.mpr (by omega), by omega⟩
      have hlength : (w.slots ++ placeSlots side items).length ≤ id := by
        rwa [List.length_append, placeSlots, List.length_map]
      rw [List.getElem?_eq_none hlength, List.getElem?_eq_none (Nat.le_of_not_lt hold)]

/-- Of two asks and two bids one is filled in part, one expires and one is executed; tokens are donated besides. -/
def mixed : List Event :=
  [.donated ![0, 1000000], .sent ⟨"token1", []⟩ (.receive ⟨"owner", u128 1000000, some (.deposit 1)⟩),
   .filled 0 .book (u128 250000) ![0, 312500], .expired 1, .filled 2 .closed 0 ![700000, 0], .donated ![5, 7]]

theorem solvency_report_exact_mixed : ∃ st w st' w' log report bot, scenario mixed = .ok (st, w) ∧
    transact st w keeper (.reconcile BOT_ID [0, 1, 2]) = .ok (st', w', log) ∧ st'.orders.size = 2 ∧
    checkSolvency (querier w') (chain.env w') st' BOT_ID = .ok report ∧ st'.bot = some bot ∧
    Exact (querier w') (chain.env w') st' bot report := by
  have hruns : okAnd (scenario mixed) (fun s =>
      decide (s.1.bot.map Bot.pair = some "pair" ∧ ∀ e ∈ s.1.orders.toList, e.1 ∉ [0, 1, 2] →
        bookEntry s.2.slots "pair" e.1 = some ⟨e.1, "vault", e.2.side, e.2.price, e.2.remaining⟩) &&
      okAnd (transact s.1 s.2 keeper (.reconcile BOT_ID [0, 1, 2])) fun s' =>
        (s'.2.2.all fun e => okAnd e.2 fun _ => true) && decide (s'.1.orders.size = 2)) = true := by
    decide
  simp only [okAnd_iff, Bool.and_eq_true, decide_eq_true_eq, Prod.exists, List.all_eq_true, and_true] at hruns
  obtain ⟨st, w, hscenario, ⟨hpair, hrest⟩, st', w', log, htx, haccepted, hsize⟩ := hruns
  have hcalm : ∀ e ∈ mixed, Calm e := by
    intro e he
    fin_cases he <;> trivial
  have hopened : Reachable openChain st w := scenario_open hcalm hscenario
  have hopen : Tx openChain st w keeper (.reconcile BOT_ID [0, 1, 2]) log st' w' := transact_tx htx
  obtain ⟨report, bot, hreport, hbot, hexact⟩ := solvency_report_exact openChain_honest hopened hopen
    (by
      intro bot hbot id order horder htouched
      rw [hbot] at hpair
      by_contra hid
      have hlisted := hrest (id, order) (mem_toList_iff.mpr horder) hid
      apply untouched_of_recorded _ htouched
      rw [AsRecorded, OnBook, Option.some.inj hpair]
      exact orError_eq_ok.mpr hlisted)
    (fun m o hmem _ => haccepted (m, o) hmem)
  exact ⟨st, w, st', w', log, report, bot, hscenario, htx, hsize, hreport, hbot, hexact⟩

end OpenBook

end Cl8yDexBots.LimitGrid.SolvencyReport
