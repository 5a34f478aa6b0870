import Cl8yDexBots.Foundation.StorageMap
import Cl8yDexBots.LimitGrid.EntryEffects
import Cl8yDexBots.LimitGrid.OrderBook

/-! The ladder of a grid: its rungs are laid once, and no order, plan or message of the vault ever leaves them. -/

namespace Cl8yDexBots.LimitGrid.Ladder

open Std Foundation.Checked Foundation.Words Foundation.SubMessages Foundation.StorageMap Foundation.Chunks
open CosmWasm.Std State Pricing Orders Vault Transactions

/-- What a grid is made of; nothing changes it once the bot exists. -/
structure Grid where
  pair : Addr
  assetTokens : Fin 2 → Addr
  lowerPrice : Decimal
  upperPrice : Decimal
  gridCount : ℕ
  referencePrice : Decimal

def gridOf (bot : Bot) : Grid :=
  ⟨bot.pair, bot.assetTokens, bot.lowerPrice, bot.upperPrice, bot.gridCount, bot.referencePrice⟩

namespace Grid

/-- The span between the bounds cut into equal steps, rounded down. -/
def mark (g : Grid) (i : ℕ) : ℕ :=
  g.lowerPrice.atomics.val + (g.upperPrice.atomics.val - g.lowerPrice.atomics.val) * i / (g.gridCount - 1)

structure Sound (g : Grid) : Prop where
  several : 2 ≤ g.gridCount
  above : g.lowerPrice < g.referencePrice
  below : g.referencePrice < g.upperPrice
  bounded : minimumPrice ≤ g.lowerPrice ∧ g.upperPrice ≤ maximumPrice
  rising : ∀ i, i + 1 < g.gridCount → g.mark i < g.mark (i + 1)

variable {g : Grid} {i j : ℕ}

lemma mark_zero : g.mark 0 = g.lowerPrice.atomics.val := by
  simp [mark]

lemma mark_mono (h : i ≤ j) : g.mark i ≤ g.mark j :=
  Nat.add_le_add_left (Nat.div_le_div_right (Nat.mul_le_mul_left _ h)) _

lemma mark_lt (h : g.Sound) (hij : i < j) (hj : j < g.gridCount) : g.mark i < g.mark j := by
  induction j with
  | zero => omega
  | succ j ih =>
    have hstep := h.rising j hj
    rcases Nat.lt_or_ge i j with hlt | hge
    · exact (ih hlt (by omega)).trans hstep
    · rwa [show i = j by omega]

end Grid

structure Laid (rungs : ExtTreeMap ℕ Rung) (g : Grid) : Prop where
  sound : g.Sound
  marks : ∀ (i : ℕ) rung, rungs[i]? = some rung →
    i < g.gridCount ∧ rung.price.atomics.val = g.mark i ∧ rung.side = rungSide g.referencePrice rung.price
  full : ∀ i < g.gridCount, ∃ rung, rungs[i]? = some rung

def OnRung (rungs : ExtTreeMap ℕ Rung) (i : ℕ) (side : LimitOrderSide) (price : Decimal) : Prop :=
  rungs[i]? = some ⟨price, some side⟩

structure OnLadder (st : Storage) : Prop where
  unbuilt : st.bot = none → st.rungs = ∅
  laid : ∀ bot, st.bot = some bot → Laid st.rungs (gridOf bot)
  orders : ∀ (id : ℕ) order, st.orders[id]? = some order → OnRung st.rungs order.rungIndex order.side order.price
  cancelled : ∀ (id : ℕ) order, st.cancelledOrders[id]? = some order →
    OnRung st.rungs order.rungIndex order.side order.price
  placements : ∀ (id : ℕ) plan, st.placements[id]? = some plan → ∀ i ∈ plan.rungs, ∃ price,
    OnRung st.rungs i plan.side price

/-- A batch handed to the pair asks for distinct rungs of its side, with the token and the total they take. -/
structure Fits (rungs : ExtTreeMap ℕ Rung) (g : Grid) (token contract : Addr) (total : Uint128)
    (side : LimitOrderSide) (items : List LimitOrderPlacementItem) : Prop where
  token : token = g.assetTokens side.tokenIndex
  contract : contract = g.pair
  some_item : items ≠ []
  total : total.val = (items.map fun item => item.amount.val).sum
  placed : ∀ item ∈ items, 0 < item.amount.val ∧ ∃ i, OnRung rungs i side item.price
  distinct : (items.map LimitOrderPlacementItem.price).Nodup

def AllFit (st : Storage) (ms : List (SubMsg CosmosMsg)) : Prop :=
  ∀ m ∈ ms, ∀ token contract total side items,
    m.msg = .token token (.send contract total (.placeLimitOrderBatch side items)) →
      ∃ g, st.bot.map gridOf = some g ∧ Fits st.rungs g token contract total side items

section Sides

variable {rungs : ExtTreeMap ℕ Rung} {g : Grid} {i j : ℕ} {side : LimitOrderSide} {price price' : Decimal}

lemma rungSide_bid {reference : Decimal} (h : rungSide reference price = some .bid) : price < reference := by
  rw [rungSide] at h
  split at h
  · assumption
  · split at h <;> cases h

lemma rungSide_ask {reference : Decimal} (h : rungSide reference price = some .ask) : reference < price := by
  rw [rungSide] at h
  split at h
  · cases h
  · split at h
    · assumption
    · cases h

lemma Laid.bid_below (h : Laid rungs g) (hon : OnRung rungs i .bid price) : price < g.referencePrice :=
  rungSide_bid (h.marks i _ hon).2.2.symm

lemma Laid.ask_above (h : Laid rungs g) (hon : OnRung rungs i .ask price) : g.referencePrice < price :=
  rungSide_ask (h.marks i _ hon).2.2.symm

lemma Laid.index_unique (h : Laid rungs g) (hi : OnRung rungs i side price) (hj : OnRung rungs j side price) :
    i = j := by
  obtain ⟨hlti, hmarki, -⟩ := h.marks i _ hi
  obtain ⟨hltj, hmarkj, -⟩ := h.marks j _ hj
  rcases Nat.lt_trichotomy i j with hlt | heq | hgt
  · have hmark := Grid.mark_lt h.sound hlt hltj
    omega
  · exact heq
  · have hmark := Grid.mark_lt h.sound hgt hlti
    omega

end Sides

section Building

/-! What `createBot` lays out. -/

lemma lookup_foldl_insert {α : Type} (f : α → Rung) (as : List α) (k i : ℕ) (rungs : ExtTreeMap ℕ Rung) :
    ((as.zipIdx k).foldl (fun saved e => saved.insert e.2 (f e.1)) rungs)[i]? =
      if k ≤ i ∧ i < k + as.length then as[i - k]?.map f else rungs[i]? := by
  induction as generalizing k rungs with
  | nil =>
    rw [if_neg (by simp)]
    rfl
  | cons a as ih =>
    rw [List.zipIdx_cons, List.foldl_cons, ih, lookup_insert]
    rcases Nat.lt_trichotomy i k with hlt | rfl | hgt
    · rw [if_neg (by omega), if_neg (by omega), if_neg (by omega)]
    · rw [if_neg (by omega), if_pos rfl, if_pos (by simp)]
      simp
    · have hsub : i - k = i - (k + 1) + 1 := by omega
      rw [hsub, List.getElem?_cons_succ, List.length_cons, if_neg (show ¬ k = i by omega)]
      split <;> split <;> first | rfl | omega

variable {prices : List Decimal} {reference lower upper : Decimal} {count i : ℕ} {p p' : Decimal}

lemma saveRungs_lookup : (saveRungs ∅ prices (prices.map (rungSide reference)))[i]? =
    prices[i]?.map fun p => ⟨p, rungSide reference p⟩ := by
  have hzip : prices.zip (prices.map (rungSide reference)) = prices.map fun p => (p, rungSide reference p) :=
    List.map_prod_left_eq_zip.symm
  have hlookup := lookup_foldl_insert (fun e : Decimal × Option LimitOrderSide => ⟨e.1, e.2⟩)
    (prices.zip (prices.map (rungSide reference))) 0 i ∅
  rw [saveRungs, hlookup, hzip]
  simp only [Nat.zero_le, true_and, Nat.zero_add, List.length_map, Nat.sub_zero, List.getElem?_map, Option.map_map]
  split
  · rfl
  · rw [List.getElem?_eq_none (by omega)]
    simp

lemma adjacentDistinct_ne (h : adjacentDistinct prices = true) (hp : prices[i]? = some p)
    (hp' : prices[i + 1]? = some p') : p ≠ p' := by
  induction prices generalizing i with
  | nil => simp at hp
  | cons a rest ih =>
    cases rest with
    | nil => simp at hp'
    | cons b rest =>
      simp only [adjacentDistinct, Bool.and_eq_true, decide_eq_true_eq] at h
      cases i with
      | zero =>
        simp only [List.getElem?_cons_zero, Option.some.injEq, Nat.zero_add, List.getElem?_cons_succ] at hp hp'
        rw [← hp, ← hp']
        exact h.1
      | succ i => exact ih h.2 (by simpa using hp) (by simpa using hp')

lemma gridPrices_lookup (h : gridPrices lower upper count = .ok prices) :
    2 ≤ count ∧ lower < upper ∧ prices.length = count ∧ ∀ (i : ℕ) p, prices[i]? = some p → p.atomics.val =
      lower.atomics.val + (upper.atomics.val - lower.atomics.val) * i / (count - 1) := by
  simp only [gridPrices, bind_eq_ok, ensure_eq_ok, exists_const, mapM_eq_ok, checkedSub_eq_ok,
    decide_eq_true_eq, not_or, Nat.not_lt] at h
  obtain ⟨⟨hcount, horder⟩, difference, ⟨hle, hdifference⟩, hprices⟩ := h
  refine ⟨hcount, Nat.lt_of_not_le horder, by simpa using hprices.length_eq.symm, ?_⟩
  intro i p hp
  obtain ⟨hlt, hget⟩ := List.getElem?_eq_some_iff.mp hp
  have hat := hprices.get (i := i) (by simpa [hprices.length_eq] using hlt) hlt
  simp only [List.get_eq_getElem, List.getElem_range, gridPrice, bind_eq_ok, multiplyRatio_eq_ok,
    checkedAdd_eq_ok, Except.ok.injEq] at hat
  obtain ⟨offset, ⟨-, hoffset⟩, atomics, hsum, heq⟩ := hat
  rw [← hget, ← heq, hsum, hoffset, hdifference]

lemma saveRungs_laid {g : Grid} (hprices : gridPrices g.lowerPrice g.upperPrice g.gridCount = .ok prices)
    (hbounded : prices.all fun price => minimumPrice ≤ price ∧ price ≤ maximumPrice)
    (hadjacent : adjacentDistinct prices = true) (habove : g.lowerPrice < g.referencePrice)
    (hbelow : g.referencePrice < g.upperPrice) :
    Laid (saveRungs ∅ prices (prices.map (rungSide g.referencePrice))) g := by
  obtain ⟨hseveral, -, hlength, hmarks⟩ := gridPrices_lookup hprices
  have hat : ∀ i < g.gridCount, ∃ p, prices[i]? = some p ∧ p.atomics.val = g.mark i := by
    intro i hi
    obtain ⟨p, hp⟩ : ∃ p, prices[i]? = some p := ⟨_, List.getElem?_eq_getElem (by omega)⟩
    exact ⟨p, hp, hmarks i p hp⟩
  have hrising : ∀ i, i + 1 < g.gridCount → g.mark i < g.mark (i + 1) := by
    intro i hi
    obtain ⟨p, hp, hmark⟩ := hat i (by omega)
    obtain ⟨p', hp', hmark'⟩ := hat (i + 1) hi
    have hne := adjacentDistinct_ne hadjacent hp hp'
    refine Nat.lt_of_le_of_ne (Grid.mark_mono (Nat.le_succ i)) fun heq => hne ?_
    exact Decimal.atomics_injective (val_injective (by rw [hmark, hmark', heq]))
  have hin : ∀ (i : ℕ) p, prices[i]? = some p → minimumPrice ≤ p ∧ p ≤ maximumPrice := by
    intro i p hp
    simpa using List.all_eq_true.mp hbounded p (List.mem_of_getElem? hp)
  refine ⟨⟨hseveral, habove, hbelow, ?_, hrising⟩, ?_, ?_⟩
  · obtain ⟨first, hfirst, hzero⟩ := hat 0 (by omega)
    obtain ⟨last, hlast, hend⟩ := hat (g.gridCount - 1) (by omega)
    have hsound : g.lowerPrice.atomics.val < g.upperPrice.atomics.val := Nat.lt_trans habove hbelow
    have htop : g.mark (g.gridCount - 1) = g.upperPrice.atomics.val := by
      rw [Grid.mark, Nat.mul_div_cancel _ (by omega)]
      omega
    have hlow := (hin 0 first hfirst).1
    have hhigh := (hin _ last hlast).2
    rw [Decimal.le_iff, hzero, Grid.mark_zero] at hlow
    rw [Decimal.le_iff, hend, htop] at hhigh
    exact ⟨hlow, hhigh⟩
  · intro i rung hrung
    rw [saveRungs_lookup] at hrung
    obtain ⟨p, hp, rfl⟩ := Option.map_eq_some_iff.mp hrung
    exact ⟨hlength ▸ (List.getElem?_eq_some_iff.mp hp).1, hmarks i p hp, rfl⟩
  · intro i hi
    obtain ⟨p, hp, -⟩ := hat i hi
    exact ⟨_, by rw [saveRungs_lookup, hp]; rfl⟩

end Building

section Staying

/-- A step that leaves the grid alone, and its orders where they are. -/
structure Stays (st st' : Storage) : Prop where
  rungs : st'.rungs = st.rungs
  bot : st'.bot.map gridOf = st.bot.map gridOf
  orders : ∀ (id : ℕ) order', st'.orders[id]? = some order' → ∃ order, st.orders[id]? = some order ∧
    order'.rungIndex = order.rungIndex ∧ order'.side = order.side ∧ order'.price = order.price
  cancelled : st'.cancelledOrders = st.cancelledOrders
  placements : st'.placements = st.placements

variable {q : Querier} {env : Env} {st st₁ st₂ st' : Storage} {info : MessageInfo} {r r' : Response CosmosMsg}

lemma Stays.of_same (hrungs : st'.rungs = st.rungs) (hbot : st'.bot.map gridOf = st.bot.map gridOf)
    (horders : st'.orders = st.orders) (hcancelled : st'.cancelledOrders = st.cancelledOrders)
    (hplacements : st'.placements = st.placements) : Stays st st' := by
  refine ⟨hrungs, hbot, ?_, hcancelled, hplacements⟩
  intro id order h
  exact ⟨order, horders ▸ h, rfl, rfl, rfl⟩

lemma Stays.trans (h : Stays st st₁) (h' : Stays st₁ st₂) : Stays st st₂ := by
  refine ⟨h'.rungs.trans h.rungs, h'.bot.trans h.bot, ?_, h'.cancelled.trans h.cancelled,
    h'.placements.trans h.placements⟩
  intro id order₂ h₂
  obtain ⟨order₁, h₁, hindex₁, hside₁, hprice₁⟩ := h'.orders id order₂ h₂
  obtain ⟨order, h₀, hindex, hside, hprice⟩ := h.orders id order₁ h₁
  exact ⟨order, h₀, hindex₁.trans hindex, hside₁.trans hside, hprice₁.trans hprice⟩

lemma grid_kept {bot' : Bot} (hbot : st'.bot.map gridOf = st.bot.map gridOf) (h : st'.bot = some bot') :
    ∃ bot, st.bot = some bot ∧ gridOf bot = gridOf bot' := by
  rw [h, Option.map_some] at hbot
  exact Option.map_eq_some_iff.mp hbot.symm

lemma Stays.onLadder (h : Stays st st') (hon : OnLadder st) : OnLadder st' := by
  refine ⟨?_, ?_, ?_, ?_, ?_⟩
  · intro hnone
    rw [h.rungs]
    have hbefore := h.bot
    rw [hnone, Option.map_none] at hbefore
    exact hon.unbuilt (Option.map_eq_none_iff.mp hbefore.symm)
  · intro bot' hbot'
    obtain ⟨bot, hbot, hgrid⟩ := grid_kept h.bot hbot'
    rw [h.rungs, ← hgrid]
    exact hon.laid bot hbot
  · intro id order' hid
    obtain ⟨order, hold, hindex, hside, hprice⟩ := h.orders id order' hid
    rw [h.rungs, hindex, hside, hprice]
    exact hon.orders id order hold
  · rw [h.cancelled, h.rungs]
    exact hon.cancelled
  · rw [h.placements, h.rungs]
    exact hon.placements

/-- Messages that place nothing. -/
def Placeless (ms : List (SubMsg CosmosMsg)) : Prop :=
  ∀ m ∈ ms, ∀ token contract total side items,
    m.msg ≠ .token token (.send contract total (.placeLimitOrderBatch side items))

def Adds (r r' : Response CosmosMsg) : Prop := ∃ ms, r'.messages = r.messages ++ ms ∧ Placeless ms

structure Plain (st : Storage) (r : Response CosmosMsg) (st' : Storage) (r' : Response CosmosMsg) : Prop where
  stays : Stays st st'
  adds : Adds r r'

lemma Placeless.append {ms ms' : List (SubMsg CosmosMsg)} (h : Placeless ms) (h' : Placeless ms') :
    Placeless (ms ++ ms') := by
  intro m hm
  rcases List.mem_append.mp hm with hm | hm
  · exact h m hm
  · exact h' m hm

lemma Plain.of_stays (h : Stays st st') (hmessages : r'.messages = r.messages) : Plain st r st' r' :=
  ⟨h, [], by simp [hmessages], by simp [Placeless]⟩

lemma Plain.trans {r₁ r₂ : Response CosmosMsg} (h : Plain st r st₁ r₁) (h' : Plain st₁ r₁ st₂ r₂) :
    Plain st r st₂ r₂ := by
  obtain ⟨ms, hms, hplaceless⟩ := h.adds
  obtain ⟨ms', hms', hplaceless'⟩ := h'.adds
  exact ⟨h.stays.trans h'.stays, ms ++ ms', by rw [hms', hms, List.append_assoc], hplaceless.append hplaceless'⟩

lemma addPage_plain {botId : ℕ} {pair : Addr} {kind : PageKind} {acc acc' : Storage × Response CosmosMsg}
    {chunk : List PendingPageEntry} (h : addPage botId pair kind acc chunk = .ok acc') :
    Plain acc.1 acc.2 acc'.1 acc'.2 := by
  simp only [addPage, nextReplyId, bind_eq_ok, ensure_eq_ok, exists_const, Except.ok.injEq, Prod.exists,
    Prod.mk.injEq] at h
  obtain ⟨_, _, ⟨-, rfl, rfl⟩, rfl⟩ := h
  refine ⟨.of_same rfl rfl rfl rfl rfl, _, rfl, ?_⟩
  simp [Placeless, SubMsg.replyAlways]

lemma addConfirmablePages_plain {botId : ℕ} {pair : Addr} {cancels claims : List PendingPageEntry}
    {limit : ℕ} (h : addConfirmablePages st r botId pair cancels claims limit = .ok (st', r')) :
    Plain st r st' r' := by
  simp only [addConfirmablePages, bind_eq_ok] at h
  obtain ⟨acc, hcancels, hclaims⟩ := h
  have hstep : ∀ kind (acc acc' : Storage × Response CosmosMsg) chunks,
      foldChecked (addPage botId pair kind) acc chunks = .ok acc' → Plain acc.1 acc.2 acc'.1 acc'.2 := by
    intro kind acc acc' chunks hfold
    refine foldChecked_invariant (motive := fun s _ => Plain acc.1 acc.2 s.1 s.2) hfold
      (.of_stays (.of_same rfl rfl rfl rfl rfl) rfl) ?_
    intro s chunk rest s' hpage hs
    exact hs.trans (addPage_plain hpage)
  exact (hstep _ _ _ _ hcancels).trans (hstep _ _ _ _ hclaims)

lemma claimPages_plain {botId : ℕ} {pair : Addr} {claims : List PendingPageEntry}
    (h : claimPages q st r botId pair claims = .ok (st', r')) : Plain st r st' r' := by
  simp only [claimPages] at h
  split at h
  · cases h
    exact .of_stays (.of_same rfl rfl rfl rfl rfl) rfl
  · simp only [bind_eq_ok] at h
    obtain ⟨limit, -, h⟩ := h
    exact addConfirmablePages_plain h

lemma payKeeper_plain {botId : ℕ} (h : payKeeper st r info botId = .ok (st', r')) : Plain st r st' r' := by
  simp only [payKeeper] at h
  split at h
  · simp only [bind_eq_ok, loadBot_eq_ok, Except.ok.injEq, Prod.mk.injEq] at h
    obtain ⟨bot, ⟨-, hbot⟩, gasCredit, -, rfl, rfl⟩ := h
    refine ⟨.of_same rfl (by rw [hbot]; rfl) rfl rfl rfl, _, rfl, ?_⟩
    simp [Placeless, SubMsg.plain]
  · cases h
    exact .of_stays (.of_same rfl rfl rfl rfl rfl) rfl

lemma transfers_placeless (bot : Bot) (recipient : Addr) (amounts : Fin 2 → Uint128) :
    Placeless (transfers bot recipient amounts) := by
  intro m hm token contract total side items heq
  simp only [transfers, List.mem_filterMap] at hm
  obtain ⟨i, -, hi⟩ := hm
  split at hi
  · cases hi
  · cases hi
    cases heq

lemma redeem_plain {bot : Bot} {holder : Addr} {shares : Uint128} {recipient : Option String}
    {attributes : List (String × String)} (hbot : st.bot = some bot)
    (h : redeem q st bot holder shares recipient attributes = .ok (st', r)) : Plain st ⟨[], []⟩ st' r := by
  simp only [redeem, bind_eq_ok, Except.ok.injEq, Prod.mk.injEq] at h
  obtain ⟨_, -, _, -, _, -, _, -, _, -, _, -, _, -, rfl, rfl⟩ := h
  exact ⟨.of_same rfl (by rw [hbot]; rfl) rfl rfl rfl, transfers bot _ _, rfl,
    transfers_placeless _ _ _⟩

lemma updateTokenPolicy_plain {token action : String} {update : Addr → Storage}
    (hu : ∀ token, Stays st (update token))
    (h : updateTokenPolicy q st info token action update = .ok (st', r)) : Plain st ⟨[], []⟩ st' r := by
  simp only [updateTokenPolicy, bind_eq_ok, Except.ok.injEq, Prod.mk.injEq] at h
  obtain ⟨_, -, _, -, token, -, rfl, rfl⟩ := h
  exact .of_stays (hu token) rfl

lemma switchMode_plain {source target : VaultMode} {action : String}
    (h : switchMode st info source target action = .ok (st', r)) : Plain st ⟨[], []⟩ st' r := by
  simp only [switchMode, bind_eq_ok, Except.ok.injEq, Prod.mk.injEq] at h
  obtain ⟨_, -, _, -, _, -, rfl, rfl⟩ := h
  exact .of_stays (.of_same rfl rfl rfl rfl rfl) rfl

lemma sweep_stays {pair : Addr} {s s' : Sweep} {orderIds : List ℕ}
    (h : foldChecked (reconcileOrder q env st₁ pair) s orderIds = .ok s') (horders : s.orders = st.orders) :
    Stays st { st with orders := s'.orders } := by
  refine foldChecked_invariant (motive := fun s _ => Stays st { st with orders := s.orders }) h
    (horders ▸ .of_same rfl rfl rfl rfl rfl) ?_
  intro s orderId rest s' hstep hs
  obtain ⟨order, status, -, horder, -, -, -, hcase⟩ := Effects.reconcileOrder_spec hstep
  obtain ⟨_, -, -, hsame, -⟩ | ⟨-, -, -, herased, -⟩ | ⟨remaining, -, -, hinserted, -⟩ := hcase
  · rw [hsame]
    exact hs
  · refine hs.trans ⟨rfl, rfl, ?_, rfl, rfl⟩
    intro id order' h'
    rw [herased, lookup_erase] at h'
    split at h'
    · cases h'
    · exact ⟨order', h', rfl, rfl, rfl⟩
  · refine hs.trans ⟨rfl, rfl, ?_, rfl, rfl⟩
    intro id order' h'
    rw [hinserted, lookup_insert] at h'
    split at h'
    · rename_i hid
      cases h'
      exact ⟨order, hid ▸ horder, rfl, rfl, rfl⟩
    · exact ⟨order', h', rfl, rfl, rfl⟩

lemma syncFreeBalances_grid {bot bot' : Bot} {credited : Fin 2 → Uint128}
    (h : syncFreeBalances q env bot = .ok (credited, bot')) : gridOf bot' = gridOf bot := by
  simp only [syncFreeBalances, bind_eq_ok, Except.ok.injEq, Prod.exists, Prod.mk.injEq] at h
  obtain ⟨_, _, -, _, _, -, -, rfl⟩ := h
  rfl

lemma chargeFee_stays {bot bot' : Bot} {credited : Fin 2 → Uint128} {fee : Option FeeApplied}
    (h : chargeFee q st bot credited = .ok (st', bot', fee)) :
    Stays st { st' with bot := st.bot } ∧ gridOf bot' = gridOf bot := by
  simp only [chargeFee] at h
  split at h
  · rename_i registry collector hregistry hcollector
    have hresolved : Stays st { (resolveFee q st registry bot.owner).1 with bot := st.bot } := by
      simp only [resolveFee]
      split
      · exact .of_same rfl rfl rfl rfl rfl
      · split <;> exact .of_same rfl rfl rfl rfl rfl
    split at h
    · cases h
      exact ⟨hresolved, rfl⟩
    · simp only [bind_eq_ok, Prod.exists] at h
      obtain ⟨value, -, assets, -, _, feeShares, -, h⟩ := h
      split at h
      · cases h
        exact ⟨hresolved, rfl⟩
      · simp only [mintFee, bind_eq_ok, Except.ok.injEq, Prod.exists, Prod.mk.injEq] at h
        obtain ⟨_, _, ⟨shares, -, totalShares, -, rfl, rfl⟩, rfl, rfl, -⟩ := h
        exact ⟨⟨hresolved.rungs, rfl, hresolved.orders, hresolved.cancelled, hresolved.placements⟩, rfl⟩
  · cases h
    exact ⟨.of_same rfl rfl rfl rfl rfl, rfl⟩

lemma executeReconcile_plain {botId : ℕ} {orderIds : List ℕ}
    (h : executeReconcile q env st info botId orderIds = .ok (st', r)) : Plain st ⟨[], []⟩ st' r := by
  simp only [executeReconcile, bind_eq_ok, loadBot_eq_ok, Prod.exists] at h
  obtain ⟨_, -, _, -, bot, ⟨-, hbot⟩, _, -, _, -, _, -, _, -, credited, bot₁, hsync, sweep, hsweep, _, -, st₁, bot₂,
    fee, hfee, st₂, r₂, hclaim, hpay⟩ := h
  obtain ⟨hcharged, hgrid⟩ := chargeFee_stays hfee
  have hswept : Stays st { st with orders := sweep.orders } := sweep_stays hsweep rfl
  have hbefore : Stays st { st₁ with bot := some bot₂ } := by
    have hall := hswept.trans hcharged
    refine ⟨hall.rungs, ?_, hall.orders, hall.cancelled, hall.placements⟩
    rw [hbot, Option.map_some, Option.map_some, hgrid]
    have hsynced : gridOf bot₁ = gridOf bot := syncFreeBalances_grid hsync
    exact congrArg some hsynced
  refine (Plain.trans ?_ (claimPages_plain hclaim)).trans (payKeeper_plain hpay)
  exact .of_stays hbefore rfl

/-- Messages that neither build the grid nor put an order on it. -/
def Maintains : ExecuteMsg → Prop
  | .createBot _ _ _ _ | .receive _ | .allocate _ | .recoverOrder _ _ _ => False
  | _ => True

lemma execute_plain {msg : ExecuteMsg} (hmsg : Maintains msg)
    (h : execute q env st info msg = .ok (st', r)) : Plain st ⟨[], []⟩ st' r := by
  cases msg with
  | createBot pair lowerPrice upperPrice gridCount => exact hmsg.elim
  | receive msg => exact hmsg.elim
  | allocate botId => exact hmsg.elim
  | recoverOrder botId orderId rungIndex => exact hmsg.elim
  | fundGas botId =>
    simp only [execute, executeFundGas, bind_eq_ok, loadBot_eq_ok, Except.ok.injEq, Prod.mk.injEq] at h
    obtain ⟨_, -, _, -, bot, ⟨-, hbot⟩, _, -, rfl, rfl⟩ := h
    exact .of_stays (.of_same rfl (by rw [hbot]; rfl) rfl rfl rfl) rfl
  | withdrawGas botId amount recipient =>
    simp only [execute, executeWithdrawGas, bind_eq_ok, loadBot_eq_ok, Except.ok.injEq, Prod.mk.injEq] at h
    obtain ⟨_, -, _, -, _, -, bot, ⟨-, hbot⟩, _, -, _, -, _, -, _, -, rfl, rfl⟩ := h
    refine ⟨.of_same rfl (by rw [hbot]; rfl) rfl rfl rfl, _, rfl, ?_⟩
    simp [Placeless, SubMsg.plain]
  | syncBalances botId =>
    simp only [execute, executeSyncBalances, bind_eq_ok, loadBot_eq_ok, Except.ok.injEq, Prod.exists,
      Prod.mk.injEq] at h
    obtain ⟨_, -, bot, ⟨-, hbot⟩, _, -, _, bot₁, hsync, rfl, rfl⟩ := h
    refine .of_stays (.of_same rfl ?_ rfl rfl rfl) rfl
    rw [hbot, Option.map_some, Option.map_some, syncFreeBalances_grid hsync]
  | reconcile botId orderIds => exact executeReconcile_plain h
  | cancelAll botId =>
    simp only [execute, executeCancelAll, bind_eq_ok] at h
    obtain ⟨_, -, _, -, _, -, _, -, h⟩ := h
    split at h
    · cases h
      exact .of_stays (.of_same rfl rfl rfl rfl rfl) rfl
    · simp only [bind_eq_ok, Except.ok.injEq, Prod.exists, Prod.mk.injEq] at h
      obtain ⟨_, -, _, -, st₁, r₁, hpages, rfl, rfl⟩ := h
      exact (addConfirmablePages_plain hpages).trans (.of_stays (.of_same rfl rfl rfl rfl rfl) rfl)
  | withdraw botId shares recipient =>
    simp only [execute, executeWithdraw, bind_eq_ok, loadBot_eq_ok] at h
    obtain ⟨_, -, _, -, _, ⟨-, hbot⟩, _, -, _, -, _, -, _, -, h⟩ := h
    exact redeem_plain hbot h
  | redeemShares botId recipient =>
    simp only [execute, executeRedeemShares, bind_eq_ok, loadBot_eq_ok] at h
    obtain ⟨_, -, _, -, _, -, _, ⟨-, hbot⟩, _, -, _, -, h⟩ := h
    exact redeem_plain hbot h
  | updateKeeper keeper =>
    simp only [execute, executeUpdateKeeper, bind_eq_ok, Except.ok.injEq, Prod.mk.injEq] at h
    obtain ⟨_, -, _, -, _, -, rfl, rfl⟩ := h
    exact .of_stays (.of_same rfl rfl rfl rfl rfl) rfl
  | updatePairCode botId codeId =>
    simp only [execute, executeUpdatePairCode, bind_eq_ok, loadBot_eq_ok, Except.ok.injEq, Prod.mk.injEq] at h
    obtain ⟨_, -, _, -, _, -, bot, ⟨-, hbot⟩, rfl, rfl⟩ := h
    exact .of_stays (.of_same rfl (by rw [hbot]; rfl) rfl rfl rfl) rfl
  | addAllowedToken token => exact updateTokenPolicy_plain (by intro token; exact .of_same rfl rfl rfl rfl rfl) h
  | removeAllowedToken token => exact updateTokenPolicy_plain (by intro token; exact .of_same rfl rfl rfl rfl rfl) h
  | quarantineToken token => exact updateTokenPolicy_plain (by intro token; exact .of_same rfl rfl rfl rfl rfl) h
  | unquarantineToken token => exact updateTokenPolicy_plain (by intro token; exact .of_same rfl rfl rfl rfl rfl) h
  | transferAdmin admin =>
    simp only [execute, executeTransferAdmin, bind_eq_ok, Except.ok.injEq, Prod.mk.injEq] at h
    obtain ⟨_, -, _, -, _, -, rfl, rfl⟩ := h
    exact .of_stays (.of_same rfl rfl rfl rfl rfl) rfl
  | acceptAdmin =>
    simp only [execute, executeAcceptAdmin, bind_eq_ok, Except.ok.injEq, Prod.mk.injEq] at h
    obtain ⟨_, -, _, -, rfl, rfl⟩ := h
    exact .of_stays (.of_same rfl rfl rfl rfl rfl) rfl
  | pause => exact switchMode_plain h
  | resume => exact switchMode_plain h
  | enterExit botId =>
    simp only [execute, executeEnterExit, bind_eq_ok, Except.ok.injEq, Prod.mk.injEq] at h
    obtain ⟨_, -, _, -, _, -, _, -, rfl, rfl⟩ := h
    exact .of_stays (.of_same rfl rfl rfl rfl rfl) rfl
  | emergencyCancel botId =>
    simp only [execute, executeEmergencyCancel, bind_eq_ok, Except.ok.injEq, Prod.exists, Prod.mk.injEq] at h
    obtain ⟨_, -, _, -, _, -, _, -, _, -, _, -, st₁, r₁, hpages, rfl, rfl⟩ := h
    exact (addConfirmablePages_plain hpages).trans (.of_stays (.of_same rfl rfl rfl rfl rfl) rfl)
  | emergencyWithdraw botId recipient =>
    simp only [execute, executeEmergencyWithdraw, bind_eq_ok, loadBot_eq_ok, Except.ok.injEq, Prod.exists,
      Prod.mk.injEq] at h
    obtain ⟨_, -, _, -, bot, ⟨-, hbot⟩, _, -, _, -, _, -, _, -, _, _, -, _, _, -, _, -, rfl, rfl⟩ := h
    exact ⟨.of_same rfl (by rw [hbot]; rfl) rfl rfl rfl, transfers bot _ _, rfl, transfers_placeless _ _ _⟩

end Staying

section Placing

def SameGrid (st st' : Storage) : Prop :=
  ∀ g, st.bot.map gridOf = some g → st'.bot.map gridOf = some g ∧ st'.rungs = st.rungs

structure Climbs (st st' : Storage) (ms : List (SubMsg CosmosMsg)) : Prop where
  onLadder : OnLadder st'
  grid : SameGrid st st'
  fit : AllFit st' ms

variable {q : Querier} {env : Env} {st st₁ st₂ st' : Storage} {info : MessageInfo} {r r' : Response CosmosMsg}
  {ms : List (SubMsg CosmosMsg)}

lemma SameGrid.trans (h : SameGrid st st₁) (h' : SameGrid st₁ st₂) : SameGrid st st₂ := by
  intro g hg
  obtain ⟨hbot, hrungs⟩ := h g hg
  obtain ⟨hbot', hrungs'⟩ := h' g hbot
  exact ⟨hbot', hrungs'.trans hrungs⟩

lemma Stays.sameGrid (h : Stays st st') : SameGrid st st' := fun _ hg => ⟨h.bot.trans hg, h.rungs⟩

lemma AllFit.mono (h : AllFit st ms) (hsame : SameGrid st st') : AllFit st' ms := by
  intro m hm token contract total side items heq
  obtain ⟨g, hg, hfits⟩ := h m hm token contract total side items heq
  obtain ⟨hg', hrungs⟩ := hsame g hg
  exact ⟨g, hg', hrungs ▸ hfits⟩

lemma AllFit.of_placeless (h : Placeless ms) : AllFit st ms :=
  fun m hm token contract total side items heq => absurd heq (h m hm token contract total side items)

lemma AllFit.append {ms' : List (SubMsg CosmosMsg)} (h : AllFit st ms) (h' : AllFit st ms') :
    AllFit st (ms ++ ms') := by
  intro m hm
  rcases List.mem_append.mp hm with hm | hm
  · exact h m hm
  · exact h' m hm

lemma Plain.climbs (h : Plain st r st' r') (hon : OnLadder st) (hfit : AllFit st r.messages) :
    Climbs st st' r'.messages := by
  obtain ⟨ms, hms, hplaceless⟩ := h.adds
  refine ⟨h.stays.onLadder hon, h.stays.sameGrid, ?_⟩
  rw [hms]
  exact (hfit.mono h.stays.sameGrid).append (.of_placeless hplaceless)

def priceOf (rungs : ExtTreeMap ℕ Rung) (i : ℕ) : Decimal := (rungs[i]?.map Rung.price).getD minimumPrice

lemma placementItem_eq {rungs : ExtTreeMap ℕ Rung} {amountEach : Uint128} {expires i : ℕ}
    {item : LimitOrderPlacementItem} (h : placementItem rungs amountEach expires i = .ok item) :
    item = ⟨priceOf rungs i, amountEach, maxAdjustSteps, some expires, none⟩ := by
  simp only [placementItem, bind_eq_ok, orError_eq_ok, Except.ok.injEq] at h
  obtain ⟨rung, hrung, rfl⟩ := h
  simp [priceOf, hrung]

lemma placementItems_eq {rungs : ExtTreeMap ℕ Rung} {amountEach : Uint128} {expires : ℕ} {is : List ℕ}
    {items : List LimitOrderPlacementItem} (h : is.mapM (placementItem rungs amountEach expires) = .ok items) :
    items = is.map fun i => ⟨priceOf rungs i, amountEach, maxAdjustSteps, some expires, none⟩ := by
  rw [mapM_eq_ok] at h
  induction h with
  | nil => rfl
  | cons hitem _ ih => rw [List.map_cons, placementItem_eq hitem, ← ih]

lemma OnRung.priceOf {rungs : ExtTreeMap ℕ Rung} {i : ℕ} {side : LimitOrderSide} {price : Decimal}
    (h : OnRung rungs i side price) : Ladder.priceOf rungs i = price := by
  rw [OnRung] at h
  simp [Ladder.priceOf, h]

lemma sum_replicated (amount : Uint128) (is : List ℕ) (f : ℕ → LimitOrderPlacementItem)
    (h : ∀ i, (f i).amount = amount) :
    ((is.map f).map fun item => item.amount.val).sum = amount.val * is.length := by
  induction is with
  | nil => rfl
  | cons i rest ih =>
    simp only [List.map_cons, List.sum_cons, ih, h, List.length_cons]
    ring

/-- A plan of distinct rungs of one side is saved and its batch handed out. -/
lemma placed_climbs {bot : Bot} {side : LimitOrderSide} {is : List ℕ} {amountEach total : Uint128}
    {expires replyId : ℕ} {plan : PlacementPlan} {items : List LimitOrderPlacementItem} (hon : OnLadder st)
    (hfit : AllFit st r.messages) (hbot : st.bot = some bot) (hsome : is ≠ []) (hpositive : 0 < amountEach.val)
    (his : ∀ i ∈ is, ∃ price, OnRung st.rungs i side price) (hnodup : is.Nodup)
    (hitems : is.mapM (placementItem st.rungs amountEach expires) = .ok items)
    (htotal : total.val = amountEach.val * is.length) (hplan : plan.side = side ∧ plan.rungs = is)
    (hrungs : st'.rungs = st.rungs) (hbot' : st'.bot.map gridOf = st.bot.map gridOf)
    (horders : st'.orders = st.orders) (hcancelled : st'.cancelledOrders = st.cancelledOrders)
    (hplacements : st'.placements = st.placements.insert replyId plan)
    (hmessages : r'.messages = r.messages ++ [.replyAlways (.token (bot.assetTokens side.tokenIndex)
      (.send bot.pair total (.placeLimitOrderBatch side items))) replyId]) :
    Climbs st st' r'.messages := by
  have hsame : SameGrid st st' := fun g hg => ⟨hbot'.trans hg, hrungs⟩
  have hlaid := hon.laid bot hbot
  have hmap := placementItems_eq hitems
  refine ⟨⟨?_, ?_, ?_, ?_, ?_⟩, hsame, ?_⟩
  · intro hnone
    rw [hnone, hbot] at hbot'
    cases hbot'
  · intro bot' hsaved
    obtain ⟨bot₀, hbot₀, hgrid⟩ := grid_kept hbot' hsaved
    rw [hrungs, ← hgrid]
    exact hon.laid bot₀ hbot₀
  · rw [horders, hrungs]
    exact hon.orders
  · rw [hcancelled, hrungs]
    exact hon.cancelled
  · intro id saved hsaved
    rw [hplacements, lookup_insert] at hsaved
    rw [hrungs]
    split at hsaved
    · cases hsaved
      rw [hplan.1, hplan.2]
      exact his
    · exact hon.placements id saved hsaved
  · rw [hmessages]
    refine (hfit.mono hsame).append ?_
    intro m hm token contract total' side' items' heq
    rw [List.mem_singleton.mp hm] at heq
    cases heq
    refine ⟨gridOf bot, by rw [hbot', hbot]; rfl, rfl, rfl, ?_, ?_, ?_, ?_⟩
    · rw [hmap]
      simpa using hsome
    · rw [hmap, sum_replicated amountEach is _ fun _ => rfl, htotal]
    · intro item hitem
      rw [hmap] at hitem
      obtain ⟨i, hi, rfl⟩ := List.mem_map.mp hitem
      obtain ⟨price, hprice⟩ := his i hi
      refine ⟨hpositive, i, ?_⟩
      simp only [hrungs, hprice.priceOf]
      exact hprice
    · rw [hmap, List.map_map]
      refine hnodup.map_on ?_
      intro i hi j hj heq
      obtain ⟨price, hprice⟩ := his i hi
      obtain ⟨price', hprice'⟩ := his j hj
      simp only [Function.comp_apply, hprice.priceOf, hprice'.priceOf] at heq
      exact hlaid.index_unique hprice (heq ▸ hprice')

lemma addPlacement_climbs {botId : ℕ} {side : LimitOrderSide} {is : List ℕ} {amountEach : Uint128} {expires : ℕ}
    (hon : OnLadder st) (hfit : AllFit st r.messages) (his : ∀ i ∈ is, ∃ price, OnRung st.rungs i side price)
    (hnodup : is.Nodup) (h : addPlacement st r botId side is amountEach expires = .ok (st', r')) :
    Climbs st st' r'.messages := by
  simp only [addPlacement] at h
  split at h
  · cases h
    exact ⟨hon, fun g hg => ⟨hg, rfl⟩, hfit⟩
  · rename_i hsome
    rw [not_or, isZero_iff] at hsome
    simp only [bind_eq_ok, loadBot_eq_ok, narrow_eq_ok] at h
    obtain ⟨total, htotal, bot, ⟨-, hbot⟩, h⟩ := h
    split at h
    · cases h
      exact ⟨hon, fun g hg => ⟨hg, rfl⟩, hfit⟩
    · simp only [submitPlacement, nextReplyId, bind_eq_ok, ensure_eq_ok, exists_const, Except.ok.injEq,
        Prod.exists, Prod.mk.injEq] at h
      obtain ⟨-, free, -, -, items, hitems, _, _, ⟨-, rfl, rfl⟩, rfl, rfl⟩ := h
      have hgrid : (some bot).map gridOf = st.bot.map gridOf := by rw [hbot]
      exact placed_climbs hon hfit hbot hsome.2 (Nat.pos_of_ne_zero hsome.1) his hnodup hitems htotal
        ⟨rfl, rfl⟩ rfl hgrid rfl rfl rfl rfl

lemma sideRungs_spec {rungs : ExtTreeMap ℕ Rung} {gridCount : ℕ} {side : LimitOrderSide} :
    (∀ i ∈ sideRungs rungs gridCount side, ∃ price, OnRung rungs i side price) ∧
      (sideRungs rungs gridCount side).Nodup := by
  constructor
  · intro i hi
    obtain ⟨⟨i', rung⟩, hmem, rfl⟩ := List.mem_map.mp hi
    obtain ⟨hrung, hside⟩ := List.mem_filter.mp hmem
    simp only [decide_eq_true_eq] at hside
    refine ⟨rung.price, ?_⟩
    rw [OnRung, mem_toList_iff.mp hrung, ← hside.2]
  · exact (nodup_keys rungs).sublist (List.filter_sublist.map Prod.fst)

lemma allocateSide_climbs {botId : ℕ} {bot : Bot} {side : LimitOrderSide} {expires : ℕ} (hon : OnLadder st)
    (hfit : AllFit st r.messages) (h : allocateSide st r botId bot side expires = .ok (st', r')) :
    Climbs st st' r'.messages := by
  simp only [allocateSide, bind_eq_ok, ensure_eq_ok, exists_const] at h
  obtain ⟨-, current, -, amountEach, -, h⟩ := h
  exact addPlacement_climbs hon hfit sideRungs_spec.1 sideRungs_spec.2 h

lemma adoptTokens_stays (st : Storage) (tokens : Fin 2 → Addr) : Stays st (adoptTokens st tokens) := by
  rw [adoptTokens]
  split <;> exact .of_same rfl rfl rfl rfl rfl

lemma executeCreateBot_climbs {pair : String} {lowerPrice upperPrice : Decimal} {gridCount : ℕ} (hon : OnLadder st)
    (h : executeCreateBot q st info pair lowerPrice upperPrice gridCount = .ok (st', r)) :
    Climbs st st' r.messages := by
  simp only [executeCreateBot, bind_eq_ok, ensure_eq_ok, exists_const, Except.ok.injEq, Prod.exists,
    Prod.mk.injEq] at h
  obtain ⟨_, -, hnone, -, -, pair, -, pairInfo, codeId, tokens, -, _, -, _, -, _, -, _, -, -, limit, -, -, pool, -,
    -, reference, -, hinside, prices, hprices, hvalid, -, gasCredit, -, _, -, -, rfl, rfl⟩ := h
  have hadopted := adoptTokens_stays st tokens
  have hempty : ∀ i : ℕ, st.rungs[i]? = none := by
    intro i
    rw [hon.unbuilt (Option.isNone_iff_eq_none.mp hnone)]
    simp
  have hrungs : (adoptTokens st tokens).rungs = ∅ := eq_empty_of_lookup fun i => by rw [hadopted.rungs, hempty]
  have hbefore := hadopted.onLadder hon
  have hnowhere : ∀ i side price, ¬ OnRung (adoptTokens st tokens).rungs i side price := by
    intro i side price hrung
    rw [OnRung, hrungs] at hrung
    simp at hrung
  simp only [Bool.and_eq_true, decide_eq_true_eq] at hvalid hinside
  refine ⟨⟨by simp, ?_, ?_, ?_, ?_⟩, ?_, by simp [AllFit]⟩
  · intro bot hbot
    cases hbot
    rw [hrungs]
    exact saveRungs_laid (g := ⟨pair, tokens, lowerPrice, upperPrice, gridCount, reference⟩) hprices hvalid.1
      hvalid.2 hinside.1 hinside.2
  · exact fun id order hid => absurd (hbefore.orders id order hid) (hnowhere _ _ _)
  · exact fun id order hid => absurd (hbefore.cancelled id order hid) (hnowhere _ _ _)
  · intro id plan hid i hi
    obtain ⟨price, hprice⟩ := hbefore.placements id plan hid i hi
    exact absurd hprice (hnowhere _ _ _)
  · intro g hg
    rw [Option.isNone_iff_eq_none.mp hnone] at hg
    cases hg

lemma executeReceive_climbs {msg : Cw20ReceiveMsg} (hon : OnLadder st)
    (h : executeReceive q env st info msg = .ok (st', r)) : Climbs st st' r.messages := by
  simp only [executeReceive, bind_eq_ok, ensure_eq_ok, exists_const, loadBot_eq_ok] at h
  obtain ⟨_, -, -, ⟨botId⟩, -, depositor, -, bot, ⟨-, hbot⟩, -, _, -, _, -, -, index, -, -, actual, -, expected, -, -,
    minted, -, -, totalShares, -, shares, -, expires, -, h⟩ := h
  have hcredited : Stays st { st with
      bot := some { bot.setFree index expected with totalShares }
      shares := st.shares.insert depositor shares } := .of_same rfl (by rw [hbot]; rfl) rfl rfl rfl
  have hplaced := allocateSide_climbs (hcredited.onLadder hon) (by simp [AllFit]) h
  exact ⟨hplaced.onLadder, hcredited.sameGrid.trans hplaced.grid, hplaced.fit⟩

lemma executeAllocate_climbs {botId : ℕ} (hon : OnLadder st)
    (h : executeAllocate q env st info botId = .ok (st', r)) : Climbs st st' r.messages := by
  simp only [executeAllocate, bind_eq_ok, Except.ok.injEq, Prod.exists, Prod.mk.injEq] at h
  obtain ⟨_, -, _, -, _, -, _, -, _, -, _, -, _, -, _, -, st₁, r₁, hbid, st₂, r₂, hask, _, -, rfl, rfl⟩ := h
  have hbids := allocateSide_climbs hon (by simp [AllFit]) hbid
  have hasks := allocateSide_climbs hbids.onLadder hbids.fit hask
  exact ⟨hasks.onLadder, hbids.grid.trans hasks.grid, hasks.fit⟩

lemma executeRecoverOrder_climbs {botId orderId rungIndex : ℕ} (hon : OnLadder st)
    (h : executeRecoverOrder q env st info botId orderId rungIndex = .ok (st', r)) :
    Climbs st st' r.messages := by
  simp only [executeRecoverOrder, bind_eq_ok, loadBot_eq_ok, orError_eq_ok, Prod.exists] at h
  obtain ⟨_, -, bot, ⟨-, hbot⟩, _, -, _, -, _, -, _, -, rung, hrung, side, hside, remaining, parked, -, _, -, h⟩ := h
  have hrecovered : OnLadder { st with
      bot := some { bot with activeOrders := bot.activeOrders + 1 }
      orders := st.orders.insert orderId ⟨rungIndex, side, rung.price, remaining⟩ } := by
    refine ⟨by simp, ?_, ?_, hon.cancelled, hon.placements⟩
    · intro bot' hbot'
      cases hbot'
      exact hon.laid bot hbot
    · intro id order hid
      simp only [lookup_insert] at hid
      split at hid
      · cases hid
        simp only [OnRung, hrung, ← hside]
      · exact hon.orders id order hid
  have hsame : SameGrid st { st with
      bot := some { bot with activeOrders := bot.activeOrders + 1 }
      orders := st.orders.insert orderId ⟨rungIndex, side, rung.price, remaining⟩ } := by
    intro g hg
    rw [hbot] at hg
    exact ⟨hg, rfl⟩
  split at h
  · have hpaged := (addConfirmablePages_plain h).climbs hrecovered (by simp [AllFit])
    exact ⟨hpaged.onLadder, hsame.trans hpaged.grid, hpaged.fit⟩
  · cases h
    exact ⟨hrecovered, hsame, by simp [AllFit]⟩

theorem execute_climbs {msg : ExecuteMsg} (hon : OnLadder st) (h : execute q env st info msg = .ok (st', r)) :
    Climbs st st' r.messages := by
  cases msg with
  | createBot pair lowerPrice upperPrice gridCount => exact executeCreateBot_climbs hon h
  | receive msg => exact executeReceive_climbs hon h
  | allocate botId => exact executeAllocate_climbs hon h
  | recoverOrder botId orderId rungIndex => exact executeRecoverOrder_climbs hon h
  | _ => exact Plain.climbs (execute_plain (by exact trivial) h) hon (by simp [AllFit])

end Placing

section Replying

variable {q : Querier} {env : Env} {st st' : Storage} {r : Response CosmosMsg} {id : ℕ}

lemma confirmEntry_onRungs {rungs : ExtTreeMap ℕ Rung} {kind : PageKind} {height : ℕ} {s s' : Settled}
    {entry : PendingPageEntry} (h : confirmEntry kind height s entry = .ok s')
    (horders : ∀ (id : ℕ) order, s.orders[id]? = some order → OnRung rungs order.rungIndex order.side order.price)
    (hcancelled : ∀ (id : ℕ) order, s.cancelledOrders[id]? = some order →
      OnRung rungs order.rungIndex order.side order.price) :
    (∀ (id : ℕ) order, s'.orders[id]? = some order → OnRung rungs order.rungIndex order.side order.price) ∧
      ∀ (id : ℕ) order, s'.cancelledOrders[id]? = some order →
        OnRung rungs order.rungIndex order.side order.price := by
  simp only [confirmEntry, bind_eq_ok, Except.ok.injEq] at h
  obtain ⟨free, -, rfl⟩ := h
  constructor
  · intro id order hid
    simp only [lookup_erase] at hid
    split at hid
    · cases hid
    · exact horders id order hid
  · intro id cancelled hid
    simp only [retire] at hid
    split at hid
    · rename_i order horder
      rw [lookup_insert] at hid
      split at hid
      · cases hid
        exact horders _ order horder
      · exact hcancelled id cancelled hid
    · exact hcancelled id cancelled hid

lemma confirmPage_onLadder {page : PendingPage} (hon : OnLadder st) (h : confirmPage env st page = .ok st') :
    OnLadder st' ∧ SameGrid st st' ∧ st'.placements = st.placements := by
  simp only [confirmPage, bind_eq_ok, loadBot_eq_ok, ensure_eq_ok, exists_const, Except.ok.injEq] at h
  obtain ⟨bot, ⟨-, hbot⟩, settled, hfold, -, rfl⟩ := h
  have hsettled := foldChecked_invariant (motive := fun s _ =>
    (∀ (id : ℕ) order, s.orders[id]? = some order → OnRung st.rungs order.rungIndex order.side order.price) ∧
      ∀ (id : ℕ) order, s.cancelledOrders[id]? = some order →
        OnRung st.rungs order.rungIndex order.side order.price) hfold ⟨hon.orders, hon.cancelled⟩ ?_
  · refine ⟨⟨by simp, ?_, hsettled.1, hsettled.2, hon.placements⟩, ?_, rfl⟩
    · intro bot' hbot'
      cases hbot'
      exact hon.laid bot hbot
    · intro g hg
      rw [hbot] at hg
      exact ⟨hg, rfl⟩
  · intro s entry rest s' hstep hs
    exact confirmEntry_onRungs hstep hs.1 hs.2

lemma OnLadder.erase (hon : OnLadder st) (id : ℕ) :
    OnLadder { st with placements := st.placements.erase id } := by
  refine ⟨hon.unbuilt, hon.laid, hon.orders, hon.cancelled, ?_⟩
  intro id' plan hid
  simp only [lookup_erase] at hid
  split at hid
  · cases hid
  · exact hon.placements id' plan hid

lemma restoreSinglePlacement_climbs {plan : PlacementPlan} {reason : String} (hon : OnLadder st)
    (h : restoreSinglePlacement st id plan reason = .ok (st', r)) : Climbs st st' r.messages := by
  simp only [restoreSinglePlacement, bind_eq_ok, loadBot_eq_ok, Except.ok.injEq, Prod.mk.injEq] at h
  obtain ⟨_, -, bot, ⟨-, hbot⟩, free, -, _, -, rfl, rfl⟩ := h
  have hrestored : Stays st { st with bot := some { bot.setFree plan.side.tokenIndex free with
      activeOrders := bot.activeOrders - 1 } } := .of_same rfl (by rw [hbot]; rfl) rfl rfl rfl
  exact ⟨(hrestored.onLadder hon).erase id, fun g hg => ⟨(hrestored.sameGrid g hg).1, rfl⟩, by simp [AllFit]⟩

lemma recordPlacement_climbs {plan : PlacementPlan} {ids : List ℕ} (hon : OnLadder st)
    (hplan : st.placements[id]? = some plan) (h : recordPlacement q env st id plan ids = .ok (st', r)) :
    Climbs st st' r.messages := by
  simp only [recordPlacement, bind_eq_ok, loadBot_eq_ok, Except.ok.injEq, Prod.mk.injEq] at h
  obtain ⟨_, -, bot, ⟨-, hbot⟩, orders, hfold, rfl, rfl⟩ := h
  have hrecorded : OnLadder { st with orders } := by
    refine ⟨hon.unbuilt, hon.laid, ?_, hon.cancelled, hon.placements⟩
    refine (foldChecked_invariant (motive := fun orders rest =>
      rest ⊆ ids.zip (plan.rungs.zip plan.grossAmounts) ∧ ∀ (id : ℕ) order, orders[id]? = some order →
        OnRung st.rungs order.rungIndex order.side order.price) hfold ⟨List.Subset.refl _, hon.orders⟩ ?_).2
    rintro orders ⟨orderId, i, gross⟩ rest orders' hstep ⟨hsub, horders⟩
    refine ⟨fun e he => hsub (List.mem_cons_of_mem _ he), ?_⟩
    have hi : i ∈ plan.rungs := (List.of_mem_zip (List.of_mem_zip (hsub List.mem_cons_self)).2).1
    obtain ⟨price, hprice⟩ := hon.placements id plan hplan i hi
    simp only [recordOrder, bind_eq_ok, ensure_eq_ok, exists_const, orError_eq_ok, Except.ok.injEq,
      decide_eq_true_eq] at hstep
    obtain ⟨-, onChain, -, rung, hrung, ⟨-, -, hsame, -⟩, rfl⟩ := hstep
    intro id' order hid
    rw [lookup_insert] at hid
    split at hid
    · cases hid
      rw [OnRung, hrung, Option.some.injEq] at hprice
      rw [OnRung, hrung, hsame, hprice]
    · exact horders id' order hid
  exact ⟨hrecorded.erase id, fun g hg => ⟨hg, rfl⟩, by simp [AllFit]⟩

theorem reply_climbs {result : Except String (List (String × String))} (hon : OnLadder st)
    (h : reply q env st id result = .ok (st', r)) : Climbs st st' r.messages := by
  simp only [reply] at h
  split at h
  · simp only [handlePendingPage] at h
    split at h
    · simp only [bind_eq_ok, Except.ok.injEq, Prod.mk.injEq] at h
      obtain ⟨st₁, hconfirm, rfl, rfl⟩ := h
      obtain ⟨hon₁, hsame, -⟩ := confirmPage_onLadder hon hconfirm
      exact ⟨⟨hon₁.unbuilt, hon₁.laid, hon₁.orders, hon₁.cancelled, hon₁.placements⟩, hsame, by simp [AllFit]⟩
    · cases h
      exact ⟨⟨hon.unbuilt, hon.laid, hon.orders, hon.cancelled, hon.placements⟩, fun g hg => ⟨hg, rfl⟩,
        by simp [AllFit]⟩
  · simp only [bind_eq_ok, orError_eq_ok, replyToPlacement] at h
    obtain ⟨plan, hplan, h⟩ := h
    split at h
    · split at h
      · exact restoreSinglePlacement_climbs hon h
      · cases h
    · simp only [bind_eq_ok] at h
      obtain ⟨ids, -, h⟩ := h
      split at h
      · exact restoreSinglePlacement_climbs hon h
      · exact recordPlacement_climbs hon hplan h

end Replying

section Running

variable {W : Type} {C : Chain W} {st st' : Storage} {w w' : W} {ms new : List (SubMsg CosmosMsg)}
  {m : SubMsg CosmosMsg} {o : Except String (List (String × String))} {info : MessageInfo} {msg : ExecuteMsg}
  {log : Log} {g : Grid}

/-- The side of a price that orders of one side stay on. -/
def OnSide (limit : Decimal) : LimitOrderSide → Decimal → Prop
  | .bid, price => price < limit
  | .ask, price => limit < price

lemma Laid.onSide {rungs : ExtTreeMap ℕ Rung} {i : ℕ} {side : LimitOrderSide} {price : Decimal} (h : Laid rungs g)
    (hon : OnRung rungs i side price) : OnSide g.referencePrice side price := by
  cases side with
  | bid => exact h.bid_below hon
  | ask => exact h.ask_above hon

lemma OnSide.apart {limit price price' : Decimal} {side side' : LimitOrderSide} (h : OnSide limit side price)
    (h' : OnSide limit side' price') (hne : side' ≠ side) : OnSide price' side price := by
  cases side with
  | bid =>
    cases side' with
    | bid => exact absurd rfl hne
    | ask => exact Nat.lt_trans h h'
  | ask =>
    cases side' with
    | bid => exact Nat.lt_trans h' h
    | ask => exact absurd rfl hne

lemma deliver_climbs (hon : OnLadder st) (hfit : AllFit st (m :: ms))
    (h : Deliver C.host st w m o st' w' new) : OnLadder st' ∧ SameGrid st st' ∧ AllFit st' (new ++ ms) := by
  have hrest : AllFit st ms := fun x hx => hfit x (List.mem_cons_of_mem m hx)
  have hanswer : ∀ {w₁ : W} {id : ℕ} {result : Except String (List (String × String))},
      C.host.reply st w₁ id result = .ok (st', new) → OnLadder st' ∧ SameGrid st st' ∧ AllFit st' (new ++ ms) := by
    intro w₁ id result hreply
    simp only [Chain.host, bind_eq_ok, Except.ok.injEq, Prod.exists, Prod.mk.injEq] at hreply
    obtain ⟨_, response, hreply, rfl, rfl⟩ := hreply
    have hclimbs := reply_climbs hon hreply
    exact ⟨hclimbs.onLadder, hclimbs.grid, hclimbs.fit.append (hrest.mono hclimbs.grid)⟩
  cases h with
  | sent silent ran => exact ⟨hon, fun g hg => ⟨hg, rfl⟩, hrest⟩
  | replied asked ran answer => exact hanswer answer
  | caught asked failed answer => exact hanswer answer

lemma instantiate_onLadder {q : Querier} {msg : InstantiateMsg} {r : Response CosmosMsg}
    (h : instantiate q info msg = .ok (st, r)) : OnLadder st := by
  obtain ⟨config, rfl, -⟩ := instantiate_spec h
  exact ⟨fun _ => rfl, by simp [emptyVault], by simp [emptyVault], by simp [emptyVault], by simp [emptyVault]⟩

theorem reachable_onLadder (h : Reachable C st w) : OnLadder st := by
  refine (h.invariant (I := fun st _ ms => OnLadder st ∧ AllFit st ms) ?_ ?_ ?_ ?_).1
  · intro w info msg st response fresh hinst
    exact ⟨instantiate_onLadder hinst, by simp [AllFit]⟩
  · intro st w w' hst hdrift
    exact hst
  · intro st w info msg st' response hst hexec
    have hclimbs := execute_climbs hst.1 hexec
    exact ⟨hclimbs.onLadder, hclimbs.fit⟩
  · intro st w m ms o st' w' new hst hdeliver
    obtain ⟨hon, -, hfit⟩ := deliver_climbs hst.1 hst.2 hdeliver
    exact ⟨hon, hfit⟩

lemma tx_sameGrid (hon : OnLadder st) (h : Tx C st w info msg log st' w') : SameGrid st st' := by
  obtain ⟨st₁, response, hexec, hrun⟩ := h
  have hclimbs := execute_climbs hon hexec
  refine (hrun.invariant (motive := fun s _ ms => OnLadder s ∧ SameGrid st s ∧ AllFit s ms) ?_
    ⟨hclimbs.onLadder, hclimbs.grid, hclimbs.fit⟩).2.1
  rintro s w m ms o s₁ w₁ new ⟨hs, hsame, hfit⟩ hdeliver
  obtain ⟨hs₁, hsame₁, hfit₁⟩ := deliver_climbs hs hfit hdeliver
  exact ⟨hs₁, hsame.trans hsame₁, hfit₁⟩

lemma later_sameGrid (h : Reachable C st w) (hlater : Later C st w st' w') : SameGrid st st' := by
  induction hlater with
  | now => exact fun g hg => ⟨hg, rfl⟩
  | drifted _ _ ih => exact ih
  | executed before htx ih => exact ih.trans (tx_sameGrid (reachable_onLadder (before.reachable h)) htx)

/-- A grid once built stays as it was laid, and every order on it stays on a rung of its own side. -/
theorem grid_lasts (h : Reachable C st w) (hlater : Later C st w st' w') (hgrid : st.bot.map gridOf = some g) :
    st'.bot.map gridOf = some g ∧ st'.rungs = st.rungs ∧ Laid st'.rungs g ∧
      (∀ (id : ℕ) order, st'.orders[id]? = some order →
        OnRung st.rungs order.rungIndex order.side order.price ∧ OnSide g.referencePrice order.side order.price) ∧
      ∀ (id : ℕ) order, st'.cancelledOrders[id]? = some order →
        OnRung st.rungs order.rungIndex order.side order.price ∧ OnSide g.referencePrice order.side order.price := by
  obtain ⟨hgrid', hrungs⟩ := later_sameGrid h hlater g hgrid
  have hon := reachable_onLadder (hlater.reachable h)
  obtain ⟨bot, hbot, rfl⟩ := Option.map_eq_some_iff.mp hgrid'
  have hlaid := hon.laid bot hbot
  refine ⟨hgrid', hrungs, hlaid, ?_, ?_⟩
  · intro id order hid
    have hrung := hon.orders id order hid
    exact ⟨hrungs ▸ hrung, hlaid.onSide hrung⟩
  · intro id order hid
    have hrung := hon.cancelled id order hid
    exact ⟨hrungs ▸ hrung, hlaid.onSide hrung⟩

theorem grid_lasts_deposit : ∃ st w st' w' log g, OrderBook.scenario [.donated ![0, 1000000]] = .ok (st, w) ∧
    OrderBook.transact st w ⟨"token1", []⟩ (.receive ⟨"owner", u128 1000000, some (.deposit 1)⟩) =
      .ok (st', w', log) ∧ g.gridCount = 5 ∧ st'.bot.map gridOf = some g ∧ st'.orders.size = 4 ∧
    ∀ (id : ℕ) order, st'.orders[id]? = some order → OnSide g.referencePrice order.side order.price := by
  have hruns : okAnd (OrderBook.scenario [.donated ![0, 1000000]]) (fun r =>
      decide ((r.1.bot.map gridOf).map Grid.gridCount = some 5) &&
        okAnd (OrderBook.transact r.1 r.2 ⟨"token1", []⟩ (.receive ⟨"owner", u128 1000000, some (.deposit 1)⟩))
          fun s => decide (s.1.orders.size = 4)) = true := by decide
  obtain ⟨⟨st, w⟩, hbefore, htests⟩ := okAnd_iff.mp hruns
  simp only [Bool.and_eq_true, okAnd_iff, decide_eq_true_eq] at htests
  obtain ⟨hcount, ⟨st', w', log⟩, htx, hsize⟩ := htests
  obtain ⟨g, hgrid, hfive⟩ := Option.map_eq_some_iff.mp hcount
  obtain ⟨hgrid', -, -, horders, -⟩ := grid_lasts (OrderBook.scenario_reachable hbefore)
    (.executed .now (OrderBook.transact_tx htx)) hgrid
  exact ⟨st, w, st', w', log, g, hbefore, htx, hfive, hgrid', hsize, fun id order hid => (horders id order hid).2⟩

/-- Every batch a transaction hands to the pair fits the grid and crosses none of the vault's own orders. -/
theorem batches_fit {e : SubMsg CosmosMsg × Except String (List (String × String))} {token contract : Addr}
    {total : Uint128} {side : LimitOrderSide} {items : List LimitOrderPlacementItem} (h : Reachable C st w)
    (tx : Tx C st w info msg log st' w') (he : e ∈ log)
    (hmsg : e.1.msg = .token token (.send contract total (.placeLimitOrderBatch side items))) :
    ∃ g, st'.bot.map gridOf = some g ∧ Fits st'.rungs g token contract total side items ∧ ∀ item ∈ items,
      OnSide g.referencePrice side item.price ∧ ∀ (id : ℕ) order, st'.orders[id]? = some order →
        order.side ≠ side → OnSide order.price side item.price := by
  have hend : OnLadder st' := reachable_onLadder (.executed h tx)
  obtain ⟨st₁, response, hexec, hrun⟩ := tx
  have hclimbs := execute_climbs (reachable_onLadder h) hexec
  have hlogged := (hrun.logged (motive := fun s _ ms => OnLadder s ∧ AllFit s ms) (P := fun s m => AllFit s [m])
    ?_ ?_ ?_ ⟨hclimbs.onLadder, hclimbs.fit⟩).2 e he
  · obtain ⟨g, hgrid, hfits⟩ := hlogged e.1 List.mem_cons_self token contract total side items hmsg
    obtain ⟨bot, hbot, rfl⟩ := Option.map_eq_some_iff.mp hgrid
    have hlaid := hend.laid bot hbot
    refine ⟨gridOf bot, hgrid, hfits, ?_⟩
    intro item hitem
    obtain ⟨-, i, hrung⟩ := hfits.placed item hitem
    refine ⟨hlaid.onSide hrung, ?_⟩
    intro id order hid hne
    exact (hlaid.onSide hrung).apart (hlaid.onSide (hend.orders id order hid)) hne
  · rintro s w m ms o s₁ w₁ new ⟨hs, hfit⟩ hdeliver
    obtain ⟨hs₁, -, hfit₁⟩ := deliver_climbs hs hfit hdeliver
    exact ⟨hs₁, hfit₁⟩
  · rintro s w m ms ⟨-, hfit⟩ x hx
    rw [List.mem_singleton.mp hx]
    exact hfit m List.mem_cons_self
  · rintro s w m ms o s₁ w₁ new x ⟨hs, hfit⟩ hdeliver hx
    exact hx.mono (deliver_climbs hs hfit hdeliver).2.1

theorem batches_fit_bids : ∃ st w st' w' log g items, OrderBook.scenario [.donated ![0, 1000000]] = .ok (st, w) ∧
    OrderBook.transact st w ⟨"token1", []⟩ (.receive ⟨"owner", u128 1000000, some (.deposit 1)⟩) =
      .ok (st', w', log) ∧ Fits st'.rungs g "token1" "pair" (u128 1000000) .bid items ∧ items.length = 2 := by
  have hruns : okAnd (OrderBook.scenario [.donated ![0, 1000000]]) (fun r =>
      okAnd (OrderBook.transact r.1 r.2 ⟨"token1", []⟩ (.receive ⟨"owner", u128 1000000, some (.deposit 1)⟩))
        fun s => decide (s.2.2.map (fun e => e.1.msg) = [.token "token1" (.send "pair" (u128 1000000)
          (.placeLimitOrderBatch .bid [⟨⟨u128 (5 * 10 ^ 17)⟩, u128 500000, maxAdjustSteps, some 101, none⟩,
            ⟨⟨u128 (75 * 10 ^ 16)⟩, u128 500000, maxAdjustSteps, some 101, none⟩]))])) = true := by decide
  obtain ⟨⟨st, w⟩, hbefore, htests⟩ := okAnd_iff.mp hruns
  simp only [okAnd_iff, decide_eq_true_eq, List.map_eq_singleton_iff] at htests
  obtain ⟨⟨st', w', log⟩, htx, e, rfl, hmsg⟩ := htests
  obtain ⟨g, -, hfits, -⟩ := batches_fit (OrderBook.scenario_reachable hbefore) (OrderBook.transact_tx htx)
    List.mem_cons_self hmsg
  exact ⟨st, w, st', w', _, g, _, hbefore, htx, hfits, rfl⟩

end Running

end Cl8yDexBots.LimitGrid.Ladder
