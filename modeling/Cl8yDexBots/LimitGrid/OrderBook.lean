import Cl8yDexBots.LimitGrid.Effects

/-! A pair that behaves as the vault expects, with the vault as its only maker. -/

namespace Cl8yDexBots.LimitGrid.OrderBook

open Std Foundation.Checked Foundation.Words Foundation.SubMessages CosmWasm.Std CosmWasm.Pair
open State Pricing Orders Vault Transactions Effects

inductive Status where
  | book
  | parked
  | closed
  deriving DecidableEq

/-- An order of the vault; its id is its position in the list of all orders ever placed. -/
structure Slot where
  status : Status
  side : LimitOrderSide
  price : Decimal
  remaining : Uint128
  deriving DecidableEq

structure World where
  held : Fin 2 → ℕ
  slots : List Slot
  maxBatchRungs : ℕ
  paused : Bool
  deriving DecidableEq

def tokenName (i : Fin 2) : Addr := if i = 0 then "token0" else "token1"

def heldOf (w : World) (token : Addr) : ℕ :=
  if token = tokenName 0 then w.held 0 else if token = tokenName 1 then w.held 1 else 0

@[simp] lemma heldOf_tokenName (w : World) (i : Fin 2) : heldOf w (tokenName i) = w.held i := by
  fin_cases i <;> rfl

def bookEntry (slots : List Slot) (pair : Addr) (id : ℕ) : Option LimitOrderResponse :=
  if pair = "pair" then
    match slots[id]? with
    | some ⟨.book, side, price, remaining⟩ => some ⟨id, "vault", side, price, remaining⟩
    | _ => none
  else none

def parkedEntry (slots : List Slot) (pair : Addr) (id : ℕ) : Option ExpiredLimitRefundResponse :=
  if pair = "pair" then
    match slots[id]? with
    | some ⟨.parked, side, _, remaining⟩ => some ⟨id, "vault", side, remaining⟩
    | _ => none
  else none

def querier (w : World) : Querier where
  addrValidate := .ok
  codeId _ := .ok 7
  pair addr := .ok ⟨fun i => .token (tokenName i), addr⟩
  factoryPair _ infos := .ok ⟨infos, "pair"⟩
  tokenDecimals _ := .ok 6
  maxBatchRungs _ := .ok w.maxBatchRungs
  pool _ := .ok ⟨fun i => ⟨.token (tokenName i), ⟨1000000, by decide⟩⟩⟩
  limitOrder pair id := orError (bookEntry w.slots pair id) (.notFound "limit order")
  expiredLimitRefund pair id := .ok (parkedEntry w.slots pair id)
  balance token _ := narrow (.arithmetic .overflow) (heldOf w token)
  effectiveFee _ _ := .ok ⟨100, none, "Live"⟩

def closeSlots (slots : List Slot) (ids : List ℕ) : List Slot :=
  slots.mapIdx fun id s => if id ∈ ids then { s with status := .closed } else s

def placeSlots (side : LimitOrderSide) (items : List LimitOrderPlacementItem) : List Slot :=
  items.map fun item => ⟨.book, side, item.price, item.amount⟩

def placedEvents (first count : ℕ) : List (String × String) :=
  (List.range count).map fun j => ("limit_order_placed", toString (first + j))

def takeOut (held : Fin 2 → ℕ) (token : Addr) (amount : ℕ) : Fin 2 → ℕ :=
  fun i => if tokenName i = token then held i - amount else held i

def settledStatus : PageKind → Status
  | .cancel => .book
  | .claim => .parked

def owed (slots : List Slot) (i : Fin 2) (id : ℕ) : ℕ :=
  match slots[id]? with
  | some s => if s.side.tokenIndex = i then s.remaining.val else 0
  | none => 0

def escrow (slots : List Slot) (i : Fin 2) : ℕ :=
  ∑ id ∈ Finset.range slots.length,
    if (slots[id]?.map Slot.status) = some .closed then 0 else owed slots i id

def Sound (w : World) : Prop := ∀ i, w.held i + escrow w.slots i < 2 ^ 128

instance (w : World) : Decidable (Sound w) := inferInstanceAs (Decidable (∀ _, _))

def pageKind : PairExecuteMsg → PageKind
  | .cancelLimitOrders _ => .cancel
  | .claimExpiredLimitOrders _ => .claim

/-- What the tokens and the pair do with a message of the vault. -/
def deliver (w : World) : CosmosMsg → Except String (List (String × String) × World)
  | .bank _ _ => .ok ([], w)
  | .token token (.transfer _ amount) => do
    ensure (∀ i, tokenName i = token → amount.val ≤ w.held i) "insufficient funds"
    .ok ([], { w with held := takeOut w.held token amount.val })
  | .token token (.send pair total (.placeLimitOrderBatch side items)) => do
    ensure (!w.paused) "pair paused"
    ensure (pair = "pair" ∧ token = tokenName side.tokenIndex ∧ items ≠ []) "unknown pair or token"
    ensure (∀ i, tokenName i = token → total.val ≤ w.held i) "insufficient funds"
    ensure (w.slots.length + items.length < 2 ^ 64 ∧
      total.val = (items.map fun item => item.amount.val).sum) "too many orders or another total"
    .ok (placedEvents w.slots.length items.length,
      { w with held := takeOut w.held token total.val, slots := w.slots ++ placeSlots side items })
  | .pair pair msg => do
    let ids := pageIds (.pair pair msg)
    ensure (!w.paused) "pair paused"
    ensure (pair = "pair" ∧ ids.length ≤ w.maxBatchRungs ∧ ids.Nodup) "unknown pair or invalid page"
    ensure (∀ id ∈ ids, (w.slots[id]?.map Slot.status) = some (settledStatus (pageKind msg)))
      "not settleable"
    .ok ([], { w with
      held := fun i => w.held i + (ids.map (owed w.slots i)).sum
      slots := closeSlots w.slots ids })

/-- What happens on the pair between transactions of the vault. -/
inductive Drift : World → World → Prop
  | donated {w} (amounts : Fin 2 → ℕ) (sound : Sound { w with held := fun i => w.held i + amounts i }) :
      Drift w { w with held := fun i => w.held i + amounts i }
  | filled {w id s} {rest : Uint128} (status : Status) (proceeds : Fin 2 → ℕ)
      (h : w.slots[id]? = some s) (onBook : s.status = .book) (less : rest ≤ s.remaining)
      (still : status = .book ∨ status = .closed)
      (sound : Sound { w with
        held := fun i => w.held i + proceeds i
        slots := w.slots.set id { s with status, remaining := rest } }) :
      Drift w { w with
        held := fun i => w.held i + proceeds i
        slots := w.slots.set id { s with status, remaining := rest } }
  | expired {w id s} (h : w.slots[id]? = some s) (onBook : s.status = .book) :
      Drift w { w with slots := w.slots.set id { s with status := .parked } }
  | configured {w} (maxBatchRungs : ℕ) (paused : Bool) : Drift w { w with maxBatchRungs, paused }

def chain : Chain World where
  vault := "vault"
  blockTime _ := 1
  blockHeight _ := 1
  querier := querier
  runs w msg r w' := deliver w msg = .ok (r, w')
  fails w msg e := deliver w msg = .error e
  drift := Drift
  genesis w := w.slots = [] ∧ Sound w

lemma chain_deterministic : chain.host.Deterministic where
  runs := by
    intro st w m r₁ w₁ r₂ w₂ h₁ h₂
    have h := (h₁ : deliver w m = _).symm.trans (h₂ : deliver w m = _)
    exact Prod.mk.inj (Except.ok.inj h)
  fails := by
    intro st w m e₁ e₂ h₁ h₂
    exact Except.error.inj ((h₁ : deliver w m = _).symm.trans (h₂ : deliver w m = _))
  exclusive := by
    intro st w m r w' e h₁ h₂
    cases (h₁ : deliver w m = _).symm.trans (h₂ : deliver w m = _)

variable {w w' : World} {r : List (String × String)}

lemma transfer_spec {token recipient : Addr} {amount : Uint128}
    (h : deliver w (.token token (.transfer recipient amount)) = .ok (r, w')) :
    (∀ i, tokenName i = token → amount.val ≤ w.held i) ∧ r = [] ∧
      w' = { w with held := takeOut w.held token amount.val } := by
  simp only [deliver, bind_eq_ok, ensure_eq_ok, exists_const, decide_eq_true_eq, Except.ok.injEq,
    Prod.mk.injEq] at h
  exact ⟨h.1, h.2.1.symm, h.2.2.symm⟩

lemma place_spec {token pair : Addr} {total : Uint128} {side : LimitOrderSide}
    {items : List LimitOrderPlacementItem}
    (h : deliver w (.token token (.send pair total (.placeLimitOrderBatch side items))) = .ok (r, w')) :
    pair = "pair" ∧ items ≠ [] ∧ (∀ i, tokenName i = token → total.val ≤ w.held i) ∧
      w.slots.length + items.length < 2 ^ 64 ∧ r = placedEvents w.slots.length items.length ∧
      (token = tokenName side.tokenIndex ∧ total.val = (items.map fun item => item.amount.val).sum) ∧
      w' = { w with held := takeOut w.held token total.val, slots := w.slots ++ placeSlots side items } := by
  simp only [deliver, bind_eq_ok, ensure_eq_ok, exists_const, decide_eq_true_eq, Except.ok.injEq,
    Prod.mk.injEq] at h
  obtain ⟨-, ⟨hpair, htoken, hitems⟩, henough, ⟨hroom, htotal⟩, hevents, hworld⟩ := h
  exact ⟨hpair, hitems, henough, hroom, hevents.symm, ⟨htoken, htotal⟩, hworld.symm⟩

lemma page_spec {pair : Addr} {kind : PageKind} {ids : List ℕ}
    (h : deliver w (.pair pair (pageMsg kind ids)) = .ok (r, w')) :
    pair = "pair" ∧ (∀ id ∈ ids, (w.slots[id]?.map Slot.status) = some (settledStatus kind)) ∧
      ids.Nodup ∧ w' = { w with
        held := fun i => w.held i + (ids.map (owed w.slots i)).sum
        slots := closeSlots w.slots ids } := by
  have hkind : pageKind (pageMsg kind ids) = kind := by cases kind <;> rfl
  simp only [deliver, hkind, pageIds_pageMsg, bind_eq_ok, ensure_eq_ok, exists_const, decide_eq_true_eq,
    Except.ok.injEq, Prod.mk.injEq] at h
  obtain ⟨-, ⟨hpair, -, hdistinct⟩, hstatus, -, hworld⟩ := h
  exact ⟨hpair, hstatus, hdistinct, hworld.symm⟩

lemma closeSlots_lookup (slots : List Slot) (ids : List ℕ) (id : ℕ) :
    (closeSlots slots ids)[id]? =
      slots[id]?.map fun s => if id ∈ ids then { s with status := .closed } else s := by
  simp [closeSlots]

lemma placedIds_placedEvents {first count : ℕ} (h : first + count < 2 ^ 64) :
    placedIds (placedEvents first count) = .ok ((List.range count).map (first + ·)) := by
  have hall : (placedEvents first count).filter (fun a => a.1 = "limit_order_placed") =
      placedEvents first count := by
    rw [List.filter_eq_self]
    intro a ha
    obtain ⟨j, -, rfl⟩ := List.mem_map.mp ha
    rfl
  rw [placedIds]
  rw [hall, mapM_eq_ok, placedEvents, List.forall₂_map_left_iff, List.forall₂_map_right_iff,
    List.forall₂_same]
  intro j hj
  have hlt : first + j < 2 ^ 64 := by
    have := List.mem_range.mp hj
    omega
  simp only [parseU64_toString hlt, orError_eq_ok]

def issued (w : World) (pair : Addr) (id : ℕ) : Prop := pair = "pair" ∧ id < w.slots.length

lemma slots_grow {msg : CosmosMsg} (h : deliver w msg = .ok (r, w')) : w.slots.length ≤ w'.slots.length := by
  rcases msg with ⟨token, ⟨recipient, amount⟩ | ⟨pair, total, ⟨side, items⟩⟩⟩ | ⟨pair, msg⟩ | ⟨recipient, coins⟩
  · obtain ⟨-, -, rfl⟩ := transfer_spec h
    exact le_rfl
  · obtain ⟨-, -, -, -, -, -, rfl⟩ := place_spec h
    simp
  · have hmsg : ∃ kind, msg = pageMsg kind (pageIds (.pair pair msg)) := by
      cases msg with
      | cancelLimitOrders ids => exact ⟨.cancel, rfl⟩
      | claimExpiredLimitOrders ids => exact ⟨.claim, rfl⟩
    obtain ⟨kind, hmsg⟩ := hmsg
    rw [hmsg] at h
    obtain ⟨-, -, -, rfl⟩ := page_spec h
    simp [closeSlots]
  · cases h
    exact le_rfl

abbrev Outcome := Except String (List (String × String))

def deliverOne (st : Storage) (w : World) (m : SubMsg CosmosMsg) : Result (Outcome × Storage × World) :=
  match deliver w m.msg with
  | .ok (r, w') =>
    if m.replyOn.onSuccess then do
      let (st', response) ← reply (querier w') (chain.env w') st m.id (.ok r)
      ensure (response.messages = []) .unknownReply
      .ok (.ok r, st', w')
    else .ok (.ok r, st, w')
  | .error e =>
    if m.replyOn.onError then do
      let (st', response) ← reply (querier w) (chain.env w) st m.id (.error e)
      ensure (response.messages = []) .unknownReply
      .ok (.error e, st', w)
    else .error (genericErr e)

def deliverAll (st : Storage) (w : World) : List (SubMsg CosmosMsg) → Result (Storage × World × Log)
  | [] => .ok (st, w, [])
  | m :: ms => do
    let (o, st, w) ← deliverOne st w m
    let (st, w, log) ← deliverAll st w ms
    .ok (st, w, (m, o) :: log)

def transact (st : Storage) (w : World) (info : MessageInfo) (msg : ExecuteMsg) :
    Result (Storage × World × Log) := do
  let (st, response) ← execute (querier w) (chain.env w) st info msg
  deliverAll st w response.messages

inductive Event where
  | donated (amounts : Fin 2 → ℕ)
  | filled (id : ℕ) (status : Status) (rest : Uint128) (proceeds : Fin 2 → ℕ)
  | expired (id : ℕ)
  | configured (maxBatchRungs : ℕ) (paused : Bool)
  | sent (info : MessageInfo) (msg : ExecuteMsg)

def happen (st : Storage) (w : World) : Event → Result (Storage × World)
  | .donated amounts => do
    ensure (Sound { w with held := fun i => w.held i + amounts i }) .overflow
    .ok (st, { w with held := fun i => w.held i + amounts i })
  | .filled id status rest proceeds => do
    let s ← orError w.slots[id]? .invalidOrder
    ensure (s.status = .book ∧ rest ≤ s.remaining ∧ (status = .book ∨ status = .closed)) .invalidOrder
    ensure (Sound { w with
      held := fun i => w.held i + proceeds i
      slots := w.slots.set id { s with status, remaining := rest } }) .overflow
    .ok (st, { w with
      held := fun i => w.held i + proceeds i
      slots := w.slots.set id { s with status, remaining := rest } })
  | .expired id => do
    let s ← orError w.slots[id]? .invalidOrder
    ensure (s.status = .book) .invalidOrder
    .ok (st, { w with slots := w.slots.set id { s with status := .parked } })
  | .configured maxBatchRungs paused => .ok (st, { w with maxBatchRungs, paused })
  | .sent info msg => do
    let (st, w, _) ← transact st w info msg
    .ok (st, w)

def play (st : Storage) (w : World) : List Event → Result (Storage × World)
  | [] => .ok (st, w)
  | e :: es => do
    let (st, w) ← happen st w e
    play st w es

variable {st₀ st st' : Storage} {w₀ : World} {log : Log}

lemma deliverOne_deliver {m : SubMsg CosmosMsg} {o : Outcome}
    (h : deliverOne st w m = .ok (o, st', w')) : Deliver chain.host st w m o st' w' [] := by
  rw [deliverOne] at h
  split at h
  · rename_i r w₁ hrun
    split at h
    · rename_i hasked
      simp only [bind_eq_ok, ensure_eq_ok, exists_const, decide_eq_true_eq, Except.ok.injEq, Prod.exists,
        Prod.mk.injEq] at h
      obtain ⟨st₁, response, hreply, hnone, rfl, rfl, rfl⟩ := h
      refine .replied hasked hrun ?_
      simp only [Chain.host, bind_eq_ok, Prod.exists]
      exact ⟨st₁, response, hreply, by rw [hnone]⟩
    · rename_i hasked
      cases h
      exact .sent (by simpa using hasked) hrun
  · rename_i e hfail
    split at h
    · rename_i hasked
      simp only [bind_eq_ok, ensure_eq_ok, exists_const, decide_eq_true_eq, Except.ok.injEq, Prod.exists,
        Prod.mk.injEq] at h
      obtain ⟨st₁, response, hreply, hnone, rfl, rfl, rfl⟩ := h
      refine .caught hasked hfail ?_
      simp only [Chain.host, bind_eq_ok, Prod.exists]
      exact ⟨st₁, response, hreply, by rw [hnone]⟩
    · cases h

lemma deliverAll_dispatch {ms : List (SubMsg CosmosMsg)} (h : deliverAll st w ms = .ok (st', w', log)) :
    Dispatch chain.host st w ms log st' w' := by
  induction ms generalizing st w log with
  | nil =>
    cases h
    exact .done
  | cons m ms ih =>
    simp only [deliverAll, bind_eq_ok, Prod.exists, Except.ok.injEq, Prod.mk.injEq] at h
    obtain ⟨o, st₁, w₁, hfirst, st₂, w₂, rest, hrest, rfl, rfl, rfl⟩ := h
    exact .step (deliverOne_deliver hfirst) (ih hrest)

lemma transact_tx {info : MessageInfo} {msg : ExecuteMsg} (h : transact st w info msg = .ok (st', w', log)) :
    Tx chain st w info msg log st' w' := by
  simp only [transact, bind_eq_ok, Prod.exists] at h
  obtain ⟨st₁, response, hexec, hdeliver⟩ := h
  exact ⟨st₁, response, hexec, deliverAll_dispatch hdeliver⟩

lemma happen_later {e : Event} (before : Later chain st₀ w₀ st w) (h : happen st w e = .ok (st', w')) :
    Later chain st₀ w₀ st' w' := by
  cases e with
  | donated amounts =>
    simp only [happen, bind_eq_ok, ensure_eq_ok, exists_const, decide_eq_true_eq, Except.ok.injEq,
      Prod.mk.injEq] at h
    obtain ⟨sound, rfl, rfl⟩ := h
    exact .drifted before (.donated amounts sound)
  | filled id status rest proceeds =>
    simp only [happen, bind_eq_ok, orError_eq_ok, ensure_eq_ok, exists_const, decide_eq_true_eq,
      Except.ok.injEq, Prod.mk.injEq] at h
    obtain ⟨s, hslot, ⟨onBook, less, still⟩, sound, rfl, rfl⟩ := h
    exact .drifted before (.filled status proceeds hslot onBook less still sound)
  | expired id =>
    simp only [happen, bind_eq_ok, orError_eq_ok, ensure_eq_ok, exists_const, decide_eq_true_eq,
      Except.ok.injEq, Prod.mk.injEq] at h
    obtain ⟨s, hslot, onBook, rfl, rfl⟩ := h
    exact .drifted before (.expired hslot onBook)
  | configured maxBatchRungs paused =>
    cases h
    exact .drifted before (.configured maxBatchRungs paused)
  | sent info msg =>
    simp only [happen, bind_eq_ok, Prod.exists, Except.ok.injEq, Prod.mk.injEq] at h
    obtain ⟨st₁, w₁, log, htx, rfl, rfl⟩ := h
    exact .executed before (transact_tx htx)

lemma play_later {es : List Event} (before : Later chain st₀ w₀ st w) (h : play st w es = .ok (st', w')) :
    Later chain st₀ w₀ st' w' := by
  induction es generalizing st w with
  | nil =>
    cases h
    exact before
  | cons e es ih =>
    simp only [play, bind_eq_ok, Prod.exists] at h
    obtain ⟨st₁, w₁, hfirst, hrest⟩ := h
    exact ih (happen_later before hfirst) hrest

def opening : World := ⟨fun _ => 0, [], 10, false⟩

def founding : InstantiateMsg where
  admin := "admin"
  owner := "owner"
  keeper := "keeper"
  factory := "factory"
  gasDenom := "uluna"
  keeperReward := u128 5
  minimumGasReserve := u128 10
  orderTimeoutSeconds := 100
  maxGridCount := 10
  maxOrdersPerReconcile := 4
  maxActiveOrdersPerBot := 20
  feeRegistry := some "registry"
  feeCollector := some "collector"

/-- Five rungs from 0.5 to 1.5 around the price 1, with two asks placed by a deposit of token 0. -/
def funding : List Event :=
  [.sent ⟨"owner", [⟨"uluna", u128 100⟩]⟩
    (.createBot "pair" ⟨u128 (5 * 10 ^ 17)⟩ ⟨u128 (15 * 10 ^ 17)⟩ 5),
   .donated ![1000000, 0],
   .sent ⟨"token0", []⟩ (.receive ⟨"owner", u128 1000000, some (.deposit 1)⟩)]

def scenario (es : List Event) : Result (Storage × World) := do
  let (st, _) ← instantiate (querier opening) ⟨"founder", []⟩ founding
  play st opening (funding ++ es)

lemma scenario_reachable {es : List Event} (h : scenario es = .ok (st, w)) : Reachable chain st w := by
  simp only [scenario, bind_eq_ok, Prod.exists] at h
  obtain ⟨st₀, response, hfound, hplay⟩ := h
  have hfresh : chain.genesis opening := by
    change opening.slots = [] ∧ Sound opening
    exact ⟨rfl, by decide⟩
  exact (play_later .now hplay).reachable (.instantiated hfresh hfound)

def keeper : MessageInfo := ⟨"keeper", []⟩

def owner : MessageInfo := ⟨"owner", []⟩

def settling : List Event :=
  [.filled 0 .closed 0 ![0, 625000], .expired 1, .configured 10 true,
   .sent keeper (.reconcile 1 [0, 1]), .configured 10 false,
   .sent keeper (.reconcile 1 [1])]

end Cl8yDexBots.LimitGrid.OrderBook
