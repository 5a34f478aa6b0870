import Cl8yDexBots.LimitGrid.Pages
import Cl8yDexBots.LimitGrid.Solvency

/-! Pages that the pair accepts are delivered and confirmed. -/

namespace Cl8yDexBots.LimitGrid.PageDelivery

open Std Foundation.Checked Foundation.Words Foundation.SubMessages CosmWasm.Std
open State Orders Vault Transactions Effects Resolutions PendingMessages Deliveries Pages
open LedgerInvariant Solvency

variable {W : Type}

/-- Tokens and a pair that do what the exit relies on, in the worlds the chain can be in. -/
structure Obliging (C : Chain W) (Sound : W → Prop) : Prop where
  genesis : ∀ {w}, C.genesis w → Sound w
  drift : ∀ {w w'}, Sound w → C.drift w w' → Sound w'
  runs : ∀ {w msg r w'}, Sound w → C.runs w msg r w' → Sound w'
  answers : ∀ {w} token, Sound w → ∃ b, (C.querier w).balance token C.vault = .ok b
  senders : ∀ {st w bot}, Reachable C st w → st.bot = some bot →
    ∃ a, (C.querier w).addrValidate bot.owner = .ok a
  accepts : ∀ {w pair kind ids limit}, Sound w → (C.querier w).maxBatchRungs pair = .ok limit →
    ids ≠ [] → ids.length ≤ limit → ids.Nodup →
    (∀ id ∈ ids, ∃ side amount, amount.val ≠ 0 ∧
      Claimable (C.querier w) (C.env w) pair id side amount kind) →
    (∃ r w', C.runs w (.pair pair (pageMsg kind ids)) r w') ∧
      ∀ e, ¬ C.fails w (.pair pair (pageMsg kind ids)) e
  steady : ∀ {w pair kind ids r w'}, C.runs w (.pair pair (pageMsg kind ids)) r w' →
    (C.querier w').maxBatchRungs pair = (C.querier w).maxBatchRungs pair ∧
      (C.querier w').codeId pair = (C.querier w).codeId pair

variable {C : Chain W} {held : W → Addr → ℕ} {pairTokens : Addr → Fin 2 → Addr} {Sound : W → Prop}
  {st st₁ st' : Storage} {w w₁ w' : W} {ms new : List (SubMsg CosmosMsg)} {m : SubMsg CosmosMsg} {log : Log}
  {o : Except String (List (String × String))} {pair : Addr} {limit : ℕ}

def Undisturbed (C : Chain W) (pair : Addr) (w w' : W) (id : ℕ) : Prop :=
  (C.querier w').limitOrder pair id = (C.querier w).limitOrder pair id ∧
    (C.querier w').expiredLimitRefund pair id = (C.querier w).expiredLimitRefund pair id

def Acceptable (C : Chain W) (pair : Addr) (limit : ℕ) (w : W) (m : SubMsg CosmosMsg) : Prop :=
  ∃ kind ids, m.msg = .pair pair (pageMsg kind ids) ∧ ids ≠ [] ∧ ids.length ≤ limit ∧ ids.Nodup ∧
    ∀ id ∈ ids, ∃ side amount, amount.val ≠ 0 ∧ Claimable (C.querier w) (C.env w) pair id side amount kind

structure InDelivery (C : Chain W) (held : W → Addr → ℕ) (pairTokens : Addr → Fin 2 → Addr)
    (Sound : W → Prop) (pair : Addr) (limit : ℕ) (st : Storage) (w : W) (ms : List (SubMsg CosmosMsg)) :
    Prop where
  pending : Pending st ms
  booked : Booked st ms
  solvent : Solvent C held pairTokens st w ms
  sound : Sound w
  maxBatchRungs : (C.querier w).maxBatchRungs pair = .ok limit
  pages : ∀ m ∈ ms, Acceptable C pair limit w m

lemma claimable_congr {id : ℕ} {side : LimitOrderSide} {amount : Uint128} {kind : PageKind}
    (same : Undisturbed C pair w w' id) (h : Claimable (C.querier w) (C.env w) pair id side amount kind) :
    Claimable (C.querier w') (C.env w') pair id side amount kind := by
  have henv : (C.env w').contract = (C.env w).contract := rfl
  cases kind with
  | cancel =>
    obtain ⟨price, hbook⟩ := h
    refine ⟨price, ?_⟩
    rw [OnBook]
    rw [same.1, henv]
    exact hbook
  | claim =>
    obtain ⟨⟨e, hoff⟩, hparked⟩ := h
    refine ⟨⟨e, ?_⟩, ?_⟩
    · rw [same.1]
      exact hoff
    · rw [same.2, henv]
      exact hparked

lemma confirmEntries_exists (kind : PageKind) (height : ℕ) {entries : List PendingPageEntry} {s : Settled}
    (room : ∀ i, (s.freeBalances i).val + refunds i entries < 2 ^ 128) :
    ∃ s', foldChecked (confirmEntry kind height) s entries = .ok s' := by
  induction entries generalizing s with
  | nil => exact ⟨s, rfl⟩
  | cons e rest ih =>
    have hfirst := room e.tokenIndex
    rw [refunds_cons, if_pos rfl] at hfirst
    have hadd : (checkedAdd (s.freeBalances e.tokenIndex) e.refund : Result Uint128) =
        .ok ⟨(s.freeBalances e.tokenIndex).val + e.refund.val, by omega⟩ := by
      rw [checkedAdd_eq_ok]
    simp only [foldChecked, confirmEntry, hadd, ok_bind]
    apply ih
    intro i
    have hi := room i
    rw [refunds_cons] at hi
    by_cases heq : i = e.tokenIndex
    · subst heq
      rw [if_pos rfl] at hi
      simp only [Function.update_self]
      omega
    · rw [if_neg (Ne.symm heq)] at hi
      simp only [Function.update_of_ne heq]
      omega

lemma reply_exists (custody : Custodial C held pairTokens) (obliging : Obliging C Sound)
    (h : InDelivery C held pairTokens Sound pair limit st w (m :: ms)) {r : List (String × String)}
    (ran : C.runs w m.msg r w') : ∃ st₁, C.host.reply st w' m.id (.ok r) = .ok (st₁, []) := by
  obtain ⟨kind₀, ids, hmsg, -⟩ := h.pages m List.mem_cons_self
  cases h.pending.awaited m List.mem_cons_self with
  | transfer hm =>
    rw [hm] at hmsg
    cases hmsg
  | bank hm =>
    rw [hm] at hmsg
    cases hmsg
  | batch hbot hm =>
    rw [hm.shape] at hmsg
    cases hmsg
  | @page bot kind entries hbot page =>
    have hbacked := h.solvent.born bot hbot
    have hworth := hbacked.payable m.id kind entries page.saved
    have hroom : ∀ i, (bot.freeBalances i).val + refunds i entries < 2 ^ 128 := by
      intro i
      have hran := ran
      rw [page.shape] at hran
      have hpaid := custody.page i hran page.distinct
      rw [sum_payout fun e he => hworth e he i, ← hbacked.tokens i] at hpaid
      have hcover := hbacked.covered i
      obtain ⟨b, hb⟩ := obliging.answers (bot.assetTokens i) (obliging.runs h.sound ran)
      have hlive := custody.reported hb
      have hlt := b.lt
      omega
    obtain ⟨s, hs⟩ := confirmEntries_exists kind (C.env w').blockHeight
      (s := ⟨bot.freeBalances, st.orders, st.cancelledOrders⟩) hroom
    have hconfirmed := confirmEntries_spec page.distinct (fun e he => by
      obtain ⟨order, horder, -⟩ := page.tracked e he
      exact ⟨order, horder⟩) hs
    have hcount : entries.length ≤ bot.activeOrders := by
      have hcounted := h.booked.counted bot hbot
      have hsize := hconfirmed.size
      dsimp only at hsize
      omega
    have hload : loadBot st BOT_ID = .ok bot := loadBot_eq_ok.mpr ⟨rfl, hbot⟩
    have hconfirm : ∃ st₁, confirmPage (C.env w') st ⟨BOT_ID, kind, entries⟩ = .ok st₁ := by
      simp only [confirmPage, hload, hs, ok_bind, ensure, hcount, decide_true, if_true]
      exact ⟨_, rfl⟩
    obtain ⟨st₁, hst₁⟩ := hconfirm
    simp only [Chain.host, reply, page.saved, handlePendingPage, hst₁, ok_bind]
    exact ⟨_, rfl⟩

lemma delivery_step (custody : Custodial C held pairTokens) (obliging : Obliging C Sound)
    (h : InDelivery C held pairTokens Sound pair limit st w (m :: ms))
    (d : Deliver C.host st w m o st₁ w₁ new) :
    new = [] ∧ (∃ r, o = .ok r) ∧ InDelivery C held pairTokens Sound pair limit st₁ w₁ ms ∧
      (C.querier w₁).codeId pair = (C.querier w).codeId pair ∧
      ∀ id, id ∉ pageIds m.msg → Undisturbed C pair w w₁ id := by
  obtain ⟨rfl, hd⟩ := pending_delivered h.pending d
  obtain ⟨kind, ids, hmsg, hsome, hlength, hdistinct, hclaimable⟩ := h.pages m List.mem_cons_self
  obtain ⟨-, hnever⟩ := obliging.accepts h.sound h.maxBatchRungs hsome hlength hdistinct hclaimable
  rw [← hmsg] at hnever
  have hran : ∃ r, o = .ok r ∧ C.runs w m.msg r w₁ := by
    cases hd with
    | sent plain ran => exact ⟨_, rfl, ran⟩
    | reverted hbot page failed => exact absurd failed (hnever _)
    | confirmed hbot page ran settled counted => exact ⟨_, rfl, ran⟩
    | restored hbot batch single counted credit outcome =>
      rw [batch.shape] at hmsg
      cases hmsg
    | recorded hbot batch ran placed all settled => exact ⟨_, rfl, ran⟩
  obtain ⟨r, rfl, hran⟩ := hran
  have hpage := hran
  rw [hmsg] at hpage
  obtain ⟨hlimit, hcode⟩ := obliging.steady hpage
  have hids : pageIds m.msg = ids := by
    rw [hmsg]
    exact pageIds_pageMsg _ _ _
  have hframe : ∀ id, id ∉ pageIds m.msg → Undisturbed C pair w w₁ id := by
    intro id hid
    rw [hids] at hid
    exact custody.page_frame id hpage hid
  refine ⟨rfl, ⟨r, rfl⟩, ?_, hcode, hframe⟩
  refine ⟨delivered_pending h.pending hd, booked_delivered h.booked hd,
    solvent_delivered custody h.pending h.solvent hd, obliging.runs h.sound hran, ?_, ?_⟩
  · rw [hlimit]
    exact h.maxBatchRungs
  · intro b hb
    obtain ⟨kind', ids', hmsg', hsome', hlength', hdistinct', hclaimable'⟩ :=
      h.pages b (List.mem_cons_of_mem _ hb)
    refine ⟨kind', ids', hmsg', hsome', hlength', hdistinct', fun id hid => ?_⟩
    obtain ⟨side, amount, hpos, hclaim⟩ := hclaimable' id hid
    refine ⟨side, amount, hpos, claimable_congr (hframe id ?_) hclaim⟩
    have hdisjoint := (List.pairwise_cons.mp h.pending.disjoint).1 b hb
    rw [hmsg', pageIds_pageMsg] at hdisjoint
    exact fun hmem => hdisjoint hmem hid

/-- Every page in delivery is accepted, whatever the chain does. -/
theorem delivery_accepted (custody : Custodial C held pairTokens) (obliging : Obliging C Sound)
    (h : InDelivery C held pairTokens Sound pair limit st w ms) (hrun : Dispatch C.host st w ms log st' w') :
    (∀ m o, (m, o) ∈ log → ∃ r, o = .ok r) ∧ (C.querier w').maxBatchRungs pair = .ok limit ∧
      (C.querier w').codeId pair = (C.querier w).codeId pair ∧
      ∀ id, Untouched ms id → Undisturbed C pair w w' id := by
  induction hrun with
  | done => exact ⟨by simp, h.maxBatchRungs, rfl, fun _ _ => ⟨rfl, rfl⟩⟩
  | @step st w m ms o st₁ w₁ new log st' w' first rest ih =>
    obtain ⟨rfl, hok, hnext, hcode, hframe⟩ := delivery_step custody obliging h first
    obtain ⟨hlog, hlimit, hcode', hframe'⟩ := ih hnext
    refine ⟨?_, hlimit, hcode'.trans hcode, ?_⟩
    · intro m' o' hmem
      rcases List.mem_cons.mp hmem with heq | hmem
      · cases heq
        exact hok
      · exact hlog m' o' hmem
    · intro id hid
      have hfirst := hframe id (hid m List.mem_cons_self)
      have hrest := hframe' id fun b hb => hid b (List.mem_cons_of_mem _ hb)
      exact ⟨hrest.1.trans hfirst.1, hrest.2.trans hfirst.2⟩

theorem delivery_exists (custody : Custodial C held pairTokens) (obliging : Obliging C Sound)
    (h : InDelivery C held pairTokens Sound pair limit st w ms) :
    ∃ log st' w', Dispatch C.host st w ms log st' w' := by
  obtain ⟨log, st', w', hrun, -⟩ :=
    Dispatch.progress (motive := fun st w ms => InDelivery C held pairTokens Sound pair limit st w ms)
      (fun {st w m ms} h => by
        obtain ⟨kind, ids, hmsg, hsome, hlength, hdistinct, hclaimable⟩ := h.pages m List.mem_cons_self
        obtain ⟨⟨r, w', hran⟩, -⟩ :=
          obliging.accepts h.sound h.maxBatchRungs hsome hlength hdistinct hclaimable
        rw [← hmsg] at hran
        obtain ⟨st₁, hreply⟩ := reply_exists custody obliging h hran
        have hasked : m.replyOn.onSuccess = true := by
          cases h.pending.awaited m List.mem_cons_self with
          | transfer hm =>
            rw [hm] at hmsg
            cases hmsg
          | bank hm =>
            rw [hm] at hmsg
            cases hmsg
          | page hbot hm =>
            rw [hm.shape]
            rfl
          | batch hbot hm =>
            rw [hm.shape]
            rfl
        have hdeliver : Deliver C.host st w m (.ok r) st₁ w' [] := .replied hasked hran hreply
        exact ⟨_, st₁, w', hdeliver, (delivery_step custody obliging h hdeliver).2.2.1⟩) h
  exact ⟨log, st', w', hrun⟩

theorem undisturbed (custody : Custodial C held pairTokens) (hrun : Dispatch C.host st w ms log st' w')
    (pending : Pending st ms) (only : OnlyPages ms) {bot : Bot} (hbot : st.bot = some bot) {id : ℕ}
    (untouched : Untouched ms id) : Undisturbed C bot.pair w w' id := by
  induction hrun generalizing bot with
  | done => exact ⟨rfl, rfl⟩
  | @step st w m ms o st₁ w₁ new log st' w' first rest ih =>
    obtain ⟨rfl, hd⟩ := pending_delivered pending first
    have honly := only m List.mem_cons_self
    have hid := untouched m List.mem_cons_self
    obtain ⟨free, active, hbot₁, -, -⟩ := (settles_delivered honly hd).bot bot hbot
    have hfirst : Undisturbed C bot.pair w w₁ id := by
      cases hd with
      | sent plain ran =>
        rcases hmsg : m.msg with ⟨token, msg⟩ | ⟨pair, msg⟩ | ⟨recipient, coins⟩
        · rw [hmsg] at honly
          rcases honly with h | h <;> cases h
        · rw [hmsg] at plain
          cases plain
        · rw [hmsg] at ran
          exact custody.bank_frame bot.pair id ran
      | reverted hb page failed => exact ⟨rfl, rfl⟩
      | confirmed hb page ran settled counted =>
        obtain rfl := Option.some.inj (hbot.symm.trans hb)
        rw [pageIds_of_shape page] at hid
        rw [page.shape] at ran
        exact custody.page_frame id ran hid
      | restored hb batch single counted credit outcome =>
        rw [batch.shape] at honly
        rcases honly with h | h <;> cases h
      | recorded hb batch ran placed all settled =>
        rw [batch.shape] at honly
        rcases honly with h | h <;> cases h
    have hrest := ih (delivered_pending pending hd) (fun b hb => only b (List.mem_cons_of_mem _ hb)) hbot₁
      fun b hb => untouched b (List.mem_cons_of_mem _ hb)
    exact ⟨hrest.1.trans hfirst.1, hrest.2.trans hfirst.2⟩

lemma reachable_sound (obliging : Obliging C Sound) (h : Reachable C st w) : Sound w :=
  h.world obliging.genesis obliging.drift obliging.runs

end Cl8yDexBots.LimitGrid.PageDelivery
