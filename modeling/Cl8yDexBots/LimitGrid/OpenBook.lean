import Cl8yDexBots.LimitGrid.PageDelivery

/-! The order book that is never paused does what the exit relies on. -/

namespace Cl8yDexBots.LimitGrid.OpenBook

open Foundation.Checked Foundation.Words CosmWasm.Std CosmWasm.Pair
open State Orders Vault Transactions Effects OrderBook Solvency PageDelivery

def openChain : Chain World where
  vault := chain.vault
  blockTime := chain.blockTime
  blockHeight := chain.blockHeight
  querier := chain.querier
  runs := chain.runs
  fails := chain.fails
  drift w w' := Drift w w' ∧ w'.paused = false
  genesis w := chain.genesis w ∧ w.paused = false

def Open (w : World) : Prop := Sound w ∧ w.paused = false

variable {w w' : World} {r : List (String × String)} {slots : List Slot} {i : Fin 2}

lemma openChain_custodial : Custodial openChain heldOf (fun _ => tokenName) :=
  { orderBook_custodial with drift := fun token h => orderBook_custodial.drift token h.1 }

def holds (i : Fin 2) (s : Slot) : ℕ :=
  if s.status = .closed then 0 else if s.side.tokenIndex = i then s.remaining.val else 0

def holdsAt (slots : List Slot) (i : Fin 2) (id : ℕ) : ℕ := (slots[id]?.map (holds i)).getD 0

lemma escrow_eq (slots : List Slot) (i : Fin 2) :
    escrow slots i = ∑ id ∈ Finset.range slots.length, holdsAt slots i id := by
  apply Finset.sum_congr rfl
  intro id _
  cases h : slots[id]? with
  | none => simp [holdsAt, owed, h]
  | some s => simp [holdsAt, holds, owed, h]

lemma escrow_sum (slots : List Slot) (i : Fin 2) : escrow slots i = (slots.map (holds i)).sum := by
  rw [escrow_eq, Finset.sum_range, ← Fin.sum_univ_fun_getElem]
  apply Finset.sum_congr rfl
  intro id _
  simp [holdsAt]

lemma escrow_parked {id : ℕ} {s : Slot} (h : slots[id]? = some s) (onBook : s.status = .book) (i : Fin 2) :
    escrow (slots.set id { s with status := .parked }) i = escrow slots i := by
  have hsame : holds i { s with status := .parked } = holds i s := by simp [holds, onBook]
  rw [escrow_sum, escrow_sum, List.map_set, hsame]
  obtain ⟨hid, rfl⟩ := List.getElem?_eq_some_iff.mp h
  have hmapped : id < (slots.map (holds i)).length := by rwa [List.length_map]
  rw [← List.getElem_map (holds i) (h := hmapped), List.set_getElem_self]

lemma escrow_place (slots : List Slot) (side : LimitOrderSide) (items : List LimitOrderPlacementItem)
    (i : Fin 2) : escrow (slots ++ placeSlots side items) i = escrow slots i +
      if side.tokenIndex = i then (items.map fun item => item.amount.val).sum else 0 := by
  rw [escrow_sum, escrow_sum, List.map_append, List.sum_append, placeSlots, List.map_map]
  congr 1
  by_cases hside : side.tokenIndex = i
  · simp [holds, Function.comp_def, hside]
  · simp [holds, Function.comp_def, hside]

lemma escrow_close {ids : List ℕ} {status : Status} (live : status ≠ .closed) (distinct : ids.Nodup)
    (h : ∀ id ∈ ids, (slots[id]?.map Slot.status) = some status) (i : Fin 2) :
    escrow (closeSlots slots ids) i + (ids.map (owed slots i)).sum = escrow slots i := by
  have hsub : ids.toFinset ⊆ Finset.range slots.length := by
    intro id hid
    obtain ⟨s, hslot, -⟩ := Option.map_eq_some_iff.mp (h id (List.mem_toFinset.mp hid))
    exact Finset.mem_range.mpr (List.getElem?_eq_some_iff.mp hslot).1
  have hclosed : ∀ id ∈ ids.toFinset, holdsAt (closeSlots slots ids) i id = 0 := by
    intro id hid
    rw [holdsAt, closeSlots_lookup]
    cases slots[id]? <;> simp [holds, List.mem_toFinset.mp hid]
  have hkept : ∀ id ∈ Finset.range slots.length \ ids.toFinset,
      holdsAt (closeSlots slots ids) i id = holdsAt slots i id := by
    intro id hid
    have hnot : id ∉ ids := fun hmem => (Finset.mem_sdiff.mp hid).2 (List.mem_toFinset.mpr hmem)
    rw [holdsAt, closeSlots_lookup, holdsAt]
    simp [hnot]
  have howed : ∀ id ∈ ids.toFinset, owed slots i id = holdsAt slots i id := by
    intro id hid
    obtain ⟨s, hslot, hstatus⟩ := Option.map_eq_some_iff.mp (h id (List.mem_toFinset.mp hid))
    rw [← hstatus] at live
    simp [owed, holdsAt, holds, hslot, live]
  have hlength : (closeSlots slots ids).length = slots.length := by simp [closeSlots]
  rw [escrow_eq, escrow_eq, hlength, ← Finset.sum_sdiff hsub, ← Finset.sum_sdiff hsub,
    Finset.sum_congr rfl hkept, Finset.sum_eq_zero hclosed, ← List.sum_toFinset _ distinct,
    Finset.sum_congr rfl howed, Nat.add_zero]

lemma sound_drift (sound : Sound w) (h : Drift w w') : Sound w' := by
  cases h with
  | donated amounts sound => exact sound
  | filled status proceeds h onBook less still sound => exact sound
  | expired h onBook =>
    intro i
    rw [escrow_parked h onBook]
    exact sound i
  | configured maxBatchRungs paused => exact sound

lemma takeOut_le (token : Addr) (amount : ℕ) (held : Fin 2 → ℕ) (i : Fin 2) :
    takeOut held token amount i ≤ held i := by
  rw [takeOut]
  split <;> omega

lemma open_delivered {msg : CosmosMsg} (hopen : Open w) (h : deliver w msg = .ok (r, w')) : Open w' := by
  rcases msg with ⟨token, ⟨recipient, amount⟩ | ⟨pair, total, ⟨side, items⟩⟩⟩ | ⟨pair, msg⟩ | ⟨recipient, coins⟩
  · obtain ⟨-, -, rfl⟩ := transfer_spec h
    refine ⟨fun i => ?_, hopen.2⟩
    exact (Nat.add_le_add_right (takeOut_le _ _ w.held i) _).trans_lt (hopen.1 i)
  · obtain ⟨-, -, henough, -, -, ⟨rfl, htotal⟩, rfl⟩ := place_spec h
    refine ⟨fun i => ?_, hopen.2⟩
    have hsound := hopen.1 i
    rw [escrow_place, ← htotal]
    by_cases hside : side.tokenIndex = i
    · have hle := henough i (by rw [hside])
      simp only [takeOut, hside, if_true]
      omega
    · have hle := takeOut_le (tokenName side.tokenIndex) total.val w.held i
      rw [if_neg hside]
      dsimp only
      omega
  · obtain ⟨kind, hmsg⟩ : ∃ kind, msg = pageMsg kind (pageIds (.pair pair msg)) := by
      cases msg with
      | cancelLimitOrders ids => exact ⟨.cancel, rfl⟩
      | claimExpiredLimitOrders ids => exact ⟨.claim, rfl⟩
    rw [hmsg] at h
    obtain ⟨-, hstatus, hdistinct, rfl⟩ := page_spec h
    refine ⟨fun i => ?_, hopen.2⟩
    have hclose := escrow_close (by cases kind <;> decide) hdistinct hstatus i
    have hsound := hopen.1 i
    dsimp only
    omega
  · cases h
    exact hopen

lemma bookEntry_spec {pair : Addr} {id : ℕ} {order : LimitOrderResponse}
    (h : bookEntry slots pair id = some order) :
    pair = "pair" ∧ (slots[id]?.map Slot.status) = some .book := by
  rw [bookEntry] at h
  split at h
  · rename_i hpair
    split at h
    · rename_i hslot
      exact ⟨hpair, by rw [hslot]; rfl⟩
    · cases h
  · cases h

lemma parkedEntry_spec {pair : Addr} {id : ℕ} {refund : ExpiredLimitRefundResponse}
    (h : parkedEntry slots pair id = some refund) :
    pair = "pair" ∧ (slots[id]?.map Slot.status) = some .parked := by
  rw [parkedEntry] at h
  split at h
  · rename_i hpair
    split at h
    · rename_i hslot
      exact ⟨hpair, by rw [hslot]; rfl⟩
    · cases h
  · cases h

lemma settleable {env : Env} {pair : Addr} {kind : PageKind} {id : ℕ} {side : LimitOrderSide}
    {amount : Uint128} (h : Claimable (querier w) env pair id side amount kind) :
    pair = "pair" ∧ (w.slots[id]?.map Slot.status) = some (settledStatus kind) := by
  cases kind with
  | cancel =>
    obtain ⟨price, hbook⟩ := h
    exact bookEntry_spec (orError_eq_ok.mp hbook)
  | claim => exact parkedEntry_spec (Except.ok.inj h.2)

lemma openChain_obliging : Obliging openChain Open where
  genesis := fun h => ⟨h.1.2, h.2⟩
  drift := fun hopen h => ⟨sound_drift hopen.1 h.1, h.2⟩
  runs := open_delivered
  answers := by
    intro w token hopen
    have hlt : heldOf w token < 2 ^ 128 := by
      have h₀ := hopen.1 0
      have h₁ := hopen.1 1
      rw [heldOf]
      split_ifs <;> omega
    exact ⟨_, narrow_of_lt hlt⟩
  senders := fun _ _ => ⟨_, rfl⟩
  accepts := by
    intro w pair kind ids limit hopen hlimit hsome hlength hdistinct hclaimable
    have hsettleable : ∀ id ∈ ids, pair = "pair" ∧
        (w.slots[id]?.map Slot.status) = some (settledStatus kind) := by
      intro id hid
      obtain ⟨side, amount, -, hclaim⟩ := hclaimable id hid
      exact settleable hclaim
    obtain ⟨id, hid⟩ := List.exists_mem_of_ne_nil ids hsome
    obtain rfl : w.maxBatchRungs = limit := Except.ok.inj hlimit
    have hkind : pageKind (pageMsg kind ids) = kind := by cases kind <;> rfl
    have hruns : ∃ r w', deliver w (.pair pair (pageMsg kind ids)) = .ok (r, w') := by
      simp only [deliver, hkind, pageIds_pageMsg, bind_eq_ok, ensure_eq_ok, exists_const,
        decide_eq_true_eq, Except.ok.injEq, Prod.mk.injEq]
      refine ⟨_, _, by simp [hopen.2], ⟨(hsettleable id hid).1, hlength, hdistinct⟩,
        fun id hid => (hsettleable id hid).2, rfl, rfl⟩
    refine ⟨hruns, fun e he => ?_⟩
    obtain ⟨r, w', h⟩ := hruns
    cases h.symm.trans he
  steady := by
    intro w pair kind ids r w' h
    obtain ⟨-, -, -, rfl⟩ := page_spec h
    exact ⟨rfl, rfl⟩

def Calm : Event → Prop
  | .configured _ paused => paused = false
  | _ => True

variable {st₀ st st' : Storage} {w₀ : World}

lemma deliver_paused {msg : CosmosMsg} (h : deliver w msg = .ok (r, w')) : w'.paused = w.paused := by
  rcases msg with ⟨token, ⟨recipient, amount⟩ | ⟨pair, total, ⟨side, items⟩⟩⟩ | ⟨pair, msg⟩ | ⟨recipient, coins⟩
  · obtain ⟨-, -, rfl⟩ := transfer_spec h
    rfl
  · obtain ⟨-, -, -, -, -, -, rfl⟩ := place_spec h
    rfl
  · simp only [deliver, bind_eq_ok, Except.ok.injEq, Prod.mk.injEq] at h
    obtain ⟨_, -, _, -, _, -, -, rfl⟩ := h
    rfl
  · cases h
    rfl

lemma transact_paused {info : MessageInfo} {msg : ExecuteMsg} {log : Log}
    (h : Tx openChain st w info msg log st' w') : w'.paused = w.paused := by
  obtain ⟨st₁, response, -, hrun⟩ := h
  refine hrun.invariant (motive := fun _ v _ => v.paused = w.paused) ?_ rfl
  intro s v m ms o s₁ v₁ new hv hdeliver
  cases hdeliver with
  | sent _ ran => exact (deliver_paused ran).trans hv
  | replied _ ran _ => exact (deliver_paused ran).trans hv
  | caught _ _ _ => exact hv

lemma happen_open {e : Event} (calm : Calm e) (unpaused : w.paused = false)
    (before : Later openChain st₀ w₀ st w) (h : happen st w e = .ok (st', w')) :
    w'.paused = false ∧ Later openChain st₀ w₀ st' w' := by
  cases e with
  | donated amounts =>
    simp only [happen, bind_eq_ok, ensure_eq_ok, exists_const, decide_eq_true_eq, Except.ok.injEq,
      Prod.mk.injEq] at h
    obtain ⟨sound, rfl, rfl⟩ := h
    exact ⟨unpaused, .drifted before ⟨.donated amounts sound, unpaused⟩⟩
  | filled id status rest proceeds =>
    simp only [happen, bind_eq_ok, orError_eq_ok, ensure_eq_ok, exists_const, decide_eq_true_eq,
      Except.ok.injEq, Prod.mk.injEq] at h
    obtain ⟨s, hslot, ⟨onBook, less, still⟩, sound, rfl, rfl⟩ := h
    exact ⟨unpaused, .drifted before ⟨.filled status proceeds hslot onBook less still sound, unpaused⟩⟩
  | expired id =>
    simp only [happen, bind_eq_ok, orError_eq_ok, ensure_eq_ok, exists_const, decide_eq_true_eq,
      Except.ok.injEq, Prod.mk.injEq] at h
    obtain ⟨s, hslot, onBook, rfl, rfl⟩ := h
    exact ⟨unpaused, .drifted before ⟨.expired hslot onBook, unpaused⟩⟩
  | configured maxBatchRungs paused =>
    cases h
    exact ⟨calm, .drifted before ⟨.configured maxBatchRungs paused, calm⟩⟩
  | sent info msg =>
    simp only [happen, bind_eq_ok, Prod.exists, Except.ok.injEq, Prod.mk.injEq] at h
    obtain ⟨st₁, w₁, log, htx, rfl, rfl⟩ := h
    have hopen : Tx openChain st w info msg log st₁ w₁ := transact_tx htx
    exact ⟨(transact_paused hopen).trans unpaused, .executed before hopen⟩

lemma play_open {es : List Event} (calm : ∀ e ∈ es, Calm e) (unpaused : w.paused = false)
    (before : Later openChain st₀ w₀ st w) (h : play st w es = .ok (st', w')) :
    Later openChain st₀ w₀ st' w' := by
  induction es generalizing st w with
  | nil =>
    cases h
    exact before
  | cons e es ih =>
    simp only [play, bind_eq_ok, Prod.exists] at h
    obtain ⟨st₁, w₁, hfirst, hrest⟩ := h
    obtain ⟨hpaused, hlater⟩ := happen_open (calm e List.mem_cons_self) unpaused before hfirst
    exact ih (fun e he => calm e (List.mem_cons_of_mem _ he)) hpaused hlater hrest

lemma scenario_open {es : List Event} (calm : ∀ e ∈ es, Calm e) (h : scenario es = .ok (st, w)) :
    Reachable openChain st w := by
  simp only [scenario, bind_eq_ok, Prod.exists] at h
  obtain ⟨st₀, response, hfound, hplay⟩ := h
  have hfresh : openChain.genesis opening := ⟨⟨rfl, by decide⟩, rfl⟩
  have hcalm : ∀ e ∈ funding ++ es, Calm e := by
    intro e he
    rcases List.mem_append.mp he with he | he
    · fin_cases he <;> trivial
    · exact calm e he
  exact (play_open hcalm rfl .now hplay).reachable (.instantiated hfresh hfound)

end Cl8yDexBots.LimitGrid.OpenBook
