import Cl8yDexBots.LimitGrid.FeeRates
import Cl8yDexBots.LimitGrid.OrderBook
import Cl8yDexBots.LimitGrid.Reconciliation
import Cl8yDexBots.Vaults.FeeMint

/-! The assets a reconciliation charges its fee on, and those that are really there. -/

namespace Cl8yDexBots.LimitGrid.FeeBase

open Std Foundation.Checked Foundation.Words Foundation.SubMessages Foundation.StorageMap
open Foundation.ProRata CosmWasm.Std CosmWasm.Pair
open State Pricing Orders Vault Transactions Effects Reconciliation FeeRates Vaults.FeeMint

variable {q : Querier} {env : Env} {st st' : Storage} {info : MessageInfo} {bot : Bot} {assets : Uint128}
  {botId : ℕ} {ids : List ℕ}

def onPair (q : Querier) (pair : Addr) (orderId : ℕ) : ℕ :=
  match q.limitOrder pair orderId with
  | .ok onChain => onChain.remaining.val
  | .error _ =>
    match q.expiredLimitRefund pair orderId with
    | .ok (some refund) => refund.remaining.val
    | _ => 0

/-- What was filled of an order before its remainder was parked for a refund. -/
def filledBeforeExpiry (q : Querier) (env : Env) (st : Storage) (pair : Addr) (orderId : ℕ)
    (order : GridOrder) : ℕ :=
  match orderStatus q env st pair orderId order with
  | .ok (.parked refund) => if isZero refund then 0 else order.remaining.val - refund.val
  | _ => 0

def ofToken (i : Fin 2) (amount : ℕ → GridOrder → ℕ) (orderId : ℕ) (order : GridOrder) : ℕ :=
  if order.side.tokenIndex = i then amount orderId order else 0

def overOrders (orders : ExtTreeMap ℕ GridOrder) (i : Fin 2) (amount : ℕ → GridOrder → ℕ) : ℕ :=
  keyedTotal orders (ofToken i amount)

def inRecord (_ : ℕ) (order : GridOrder) : ℕ := order.remaining.val

def inToken0 (price : Decimal) (held : Fin 2 → ℕ) : ℕ :=
  held 0 + held 1 * decimalFractional / price.atomics.val

/-- The bot as a reconciliation synchronises it, and the assets that its fee is charged on. -/
def ChargedOn (q : Querier) (env : Env) (st : Storage) (info : MessageInfo) (botId : ℕ) (ids : List ℕ)
    (bot : Bot) (assets : Uint128) : Prop :=
  ∃ st₁ credited sweep, settle q env st info botId ids = .ok (st₁, bot, credited, sweep) ∧
    botAssetValue st₁.orders bot = .ok assets

def CompleteBatch (q : Querier) (st : Storage) (pair : Addr) (ids : List ℕ) : Prop :=
  ∀ id order, st.orders[id]? = some order → id ∉ ids → onPair q pair id = order.remaining.val

def holdings (q : Querier) (st : Storage) (bot : Bot) (i : Fin 2) : ℕ :=
  (bot.freeBalances i).val + overOrders st.orders i fun id _ => onPair q bot.pair id

def overstated (q : Querier) (env : Env) (st : Storage) (bot : Bot) (i : Fin 2) : ℕ :=
  overOrders st.orders i (filledBeforeExpiry q env st bot.pair)

lemma addEscrow_eq_ok {held held' : Fin 2 → Uint128} {e : ℕ × GridOrder}
    (h : addEscrow held e = .ok held') (i : Fin 2) :
    (held' i).val = (held i).val + ofToken i inRecord e.1 e.2 := by
  simp only [addEscrow, bind_eq_ok, checkedAdd_eq_ok, Except.ok.injEq] at h
  obtain ⟨next, hnext, rfl⟩ := h
  by_cases hi : e.2.side.tokenIndex = i
  · subst hi
    rw [Function.update_self, ofToken, if_pos rfl, hnext, inRecord]
  · rw [Function.update_of_ne (Ne.symm hi), ofToken, if_neg hi, Nat.add_zero]

lemma addEscrows_eq_ok {es : List (ℕ × GridOrder)} {held held' : Fin 2 → Uint128}
    (h : foldChecked addEscrow held es = .ok held') (i : Fin 2) :
    (held' i).val = (held i).val + (es.map fun e => ofToken i inRecord e.1 e.2).sum := by
  induction es generalizing held with
  | nil =>
    cases h
    rfl
  | cons e es ih =>
    simp only [foldChecked, bind_eq_ok] at h
    obtain ⟨held₁, hfirst, hrest⟩ := h
    rw [ih hrest, addEscrow_eq_ok hfirst, List.map_cons, List.sum_cons, Nat.add_assoc]

lemma botAssetValue_spec {orders : ExtTreeMap ℕ GridOrder} (h : botAssetValue orders bot = .ok assets) :
    assets.val = inToken0 bot.referencePrice fun i =>
      (bot.freeBalances i).val + overOrders orders i inRecord := by
  simp only [botAssetValue, bind_eq_ok, checkedAdd_eq_ok, Pricing.checkedRatio, checkedRatioOr_eq_ok,
    Decimal.one_atomics_val] at h
  obtain ⟨_, -, held, hheld, token1, ⟨-, htoken1⟩, hassets⟩ := h
  have hsum := addEscrows_eq_ok hheld
  rw [hassets, htoken1, hsum 0, hsum 1]
  rfl

lemma onPair_of_onBook {pair : Addr} {id : ℕ} {side : LimitOrderSide} {price : Decimal}
    {remaining : Uint128} (h : OnBook q env pair id side price remaining) :
    onPair q pair id = remaining.val := by
  simp only [onPair, show q.limitOrder pair id = _ from h]

lemma onPair_of_parked {pair : Addr} {id : ℕ} {side : LimitOrderSide} {refund : Uint128}
    (h : Parked q env pair id side refund) : onPair q pair id = refund.val := by
  obtain ⟨⟨e, hbook⟩, hparked⟩ := h
  simp only [onPair, hbook, hparked]

lemma onPair_of_offBook {pair : Addr} {id : ℕ} (h : OffBook q pair id)
    (hnone : q.expiredLimitRefund pair id = .ok none) : onPair q pair id = 0 := by
  obtain ⟨e, hbook⟩ := h
  simp only [onPair, hbook, hnone]

lemma filledBeforeExpiry_of_recorded {pair : Addr} {id : ℕ} {order : GridOrder}
    (h : onPair q pair id = order.remaining.val) : filledBeforeExpiry q env st pair id order = 0 := by
  rw [filledBeforeExpiry]
  split
  · rename_i refund hstatus
    rcases orderStatus_spec hstatus with ⟨_, hcase, -⟩ | ⟨refund', hcase, -, hparked⟩ | ⟨hcase, -⟩
    · cases hcase
    · cases hcase
      rw [onPair_of_parked hparked] at h
      split
      · rfl
      · omega
    · rcases hcase with hcase | hcase <;> cases hcase
  · rfl

lemma swept_recorded {pair : Addr} {id : ℕ} {order : GridOrder} {status : OrderStatus} {s : Sweep}
    (hstatus : orderStatus q env st pair id order = .ok status) (h : Swept id order s status) (i : Fin 2) :
    keyedWeight s.orders (ofToken i inRecord) id =
      ofToken i (fun id order => onPair q pair id + filledBeforeExpiry q env st pair id order) id order := by
  have hspec := orderStatus_spec hstatus
  cases h with
  | @queued refund owed tracked claim =>
    rcases hspec with ⟨_, hcase, -⟩ | ⟨refund', hcase, hle, hparked⟩ | ⟨hcase, -⟩
    · cases hcase
    · cases hcase
      have hfilled : filledBeforeExpiry q env st pair id order = order.remaining.val - refund.val := by
        simp [filledBeforeExpiry, hstatus, owed]
      have hrefund : refund.val ≤ order.remaining.val := hle
      simp only [keyedWeight, tracked, Option.map_some, Option.getD_some, ofToken, inRecord, hfilled,
        onPair_of_parked hparked]
      split <;> omega
    · rcases hcase with hcase | hcase <;> cases hcase
  | dropped terminal nothing untracked =>
    have hpair : onPair q pair id = 0 := by
      rcases hspec with ⟨remaining, rfl, -, hbook⟩ | ⟨refund, rfl, -, hparked⟩ | ⟨-, hoff, hnone, -⟩
      · rw [onPair_of_onBook hbook]
        exact isZero_iff.mp terminal
      · rw [onPair_of_parked hparked]
        exact isZero_iff.mp nothing
      · exact onPair_of_offBook hoff hnone
    have hfilled : filledBeforeExpiry q env st pair id order = 0 := by
      rw [filledBeforeExpiry]
      rw [hstatus]
      split
      · rename_i refund hcase
        obtain rfl := Except.ok.inj hcase
        exact if_pos nothing
      · rfl
    simp [keyedWeight, untracked, ofToken, hpair, hfilled]
  | @recorded remaining some_left tracked =>
    rcases hspec with ⟨remaining', hcase, -, hbook⟩ | ⟨_, hcase, -⟩ | ⟨hcase, -⟩
    · cases hcase
      have hfilled : filledBeforeExpiry q env st pair id order = 0 := by
        simp [filledBeforeExpiry, hstatus]
      simp only [keyedWeight, tracked, Option.map_some, Option.getD_some, ofToken, inRecord, hfilled,
        onPair_of_onBook hbook, Nat.add_zero]
    · cases hcase
    · rcases hcase with hcase | hcase <;> cases hcase

lemma overOrders_add (orders : ExtTreeMap ℕ GridOrder) (i : Fin 2) (f g : ℕ → GridOrder → ℕ) :
    overOrders orders i (fun id order => f id order + g id order) =
      overOrders orders i f + overOrders orders i g := by
  simp only [overOrders, keyedTotal]
  rw [← List.sum_map_add]
  congr 1
  apply List.map_congr_left
  intro e _
  simp only [ofToken]
  split <;> rfl

lemma settle_spec {st₁ : Storage} {credited : Fin 2 → Uint128} {sweep : Sweep}
    (h : settle q env st info botId ids = .ok (st₁, bot, credited, sweep)) :
    botId = BOT_ID ∧ st₁ = { st with orders := sweep.orders } ∧
      ∃ activeOrders, SweepOf q env st bot.pair ⟨st.orders, activeOrders, [], [], 0, 0, 0⟩ sweep ids := by
  simp only [settle, bind_eq_ok, loadBot_eq_ok, Except.ok.injEq, Prod.exists, Prod.mk.injEq] at h
  obtain ⟨_, -, _, -, bot₀, ⟨hid, -⟩, _, -, _, -, _, -, _, -, _, bot₁, hsync, sweep', hsweep, _, -, rfl, rfl, rfl,
    rfl⟩ := h
  exact ⟨hid, rfl, _, sweep_spec hsweep⟩

/-- What the books count for an order once a batch is reconciled. -/
def afterBatch (q : Querier) (env : Env) (st : Storage) (pair : Addr) (ids : List ℕ) (id : ℕ) (order : GridOrder) : ℕ :=
  if id ∈ ids then onPair q pair id + filledBeforeExpiry q env st pair id order else order.remaining.val

lemma overOrders_swept {pair : Addr} {activeOrders : ℕ} {sweep : Sweep}
    (h : SweepOf q env st pair ⟨st.orders, activeOrders, [], [], 0, 0, 0⟩ sweep ids) (i : Fin 2) :
    overOrders sweep.orders i inRecord = overOrders st.orders i (afterBatch q env st pair ids) := by
  apply keyedTotal_congr
  intro id
  by_cases hid : id ∈ ids
  · obtain ⟨order, status, horder, hstatus, hswept⟩ := h.batch id hid
    rw [swept_recorded hstatus hswept, keyedWeight, show st.orders[id]? = _ from horder]
    simp [ofToken, afterBatch, hid]
  · have hsame : sweep.orders[id]? = st.orders[id]? := h.others id hid
    cases horder : st.orders[id]? with
    | none => simp [keyedWeight, hsame, horder]
    | some order => simp [keyedWeight, hsame, horder, ofToken, inRecord, afterBatch, hid]

theorem fee_base_eq (h : ChargedOn q env st info botId ids bot assets)
    (complete : CompleteBatch q st bot.pair ids) :
    assets.val = inToken0 bot.referencePrice fun i => holdings q st bot i + overstated q env st bot i := by
  obtain ⟨st₁, credited, sweep, hsettle, hvalue⟩ := h
  obtain ⟨-, rfl, activeOrders, hloop⟩ := settle_spec hsettle
  rw [botAssetValue_spec hvalue]
  congr 1
  funext i
  rw [holdings, overstated, Nat.add_assoc, ← overOrders_add, overOrders_swept hloop]
  congr 1
  apply keyedTotal_congr
  intro id
  cases horder : st.orders[id]? with
  | none => simp [keyedWeight, horder]
  | some order =>
    have hcounted : afterBatch q env st bot.pair ids id order =
        onPair q bot.pair id + filledBeforeExpiry q env st bot.pair id order := by
      by_cases hid : id ∈ ids
      · exact if_pos hid
      · have hpair := complete id order horder hid
        rw [afterBatch, if_neg hid, hpair, filledBeforeExpiry_of_recorded hpair, Nat.add_zero]
    simp only [keyedWeight, horder, Option.map_some, Option.getD_some, ofToken, hcounted]

/-- The fee is charged on the value of the holdings exactly where no parked order that sells token 0 had
been filled in part, and what those that sell token 1 had lost to fills is lost in the rounding. -/
theorem fee_base_exact_iff (h : ChargedOn q env st info botId ids bot assets)
    (complete : CompleteBatch q st bot.pair ids) :
    assets.val = inToken0 bot.referencePrice (holdings q st bot) ↔
      overstated q env st bot 0 = 0 ∧
        (holdings q st bot 1 + overstated q env st bot 1) * decimalFractional / bot.referencePrice.atomics.val =
          holdings q st bot 1 * decimalFractional / bot.referencePrice.atomics.val := by
  rw [fee_base_eq h complete]
  simp only [inToken0]
  have hle : holdings q st bot 1 * decimalFractional / bot.referencePrice.atomics.val ≤
      (holdings q st bot 1 + overstated q env st bot 1) * decimalFractional /
        bot.referencePrice.atomics.val := by
    apply Nat.div_le_div_right
    apply Nat.mul_le_mul_right
    omega
  constructor
  · intro heq
    constructor <;> omega
  · rintro ⟨hask, hbid⟩
    omega

lemma chargeFee_none {st₁ : Storage} {bot₁ : Bot} {credited : Fin 2 → Uint128}
    (h : chargeFee q st bot credited = .ok (st₁, bot₁, none)) : st₁.shares = st.shares := by
  simp only [chargeFee] at h
  split at h
  · rename_i registry collector _ _
    obtain ⟨cache, hcache⟩ := resolveFee_cache (q := q) st registry bot.owner
    split at h
    · cases h
      rw [hcache]
    · simp only [bind_eq_ok, Prod.exists] at h
      obtain ⟨_, -, _, -, _, feeShares, -, h⟩ := h
      split at h
      · cases h
        rw [hcache]
      · simp only [mintFee, bind_eq_ok, Except.ok.injEq, Prod.mk.injEq, reduceCtorEq, and_false,
          exists_false] at h
  · cases h
    rfl

theorem reconcile_charged {r : Response CosmosMsg} (h : executeReconcile q env st info botId ids = .ok (st', r)) :
    st'.shares = st.shares ∨ ∃ bot assets fee bot', ChargedOn q env st info botId ids bot assets ∧
      st'.bot = some bot' ∧
      bot'.totalShares.val = bot.totalShares.val + feeShares fee assets.val bot.totalShares.val := by
  rw [executeReconcile_eq] at h
  simp only [bind_eq_ok, Prod.exists] at h
  obtain ⟨st₁, bot, credited, sweep, hsettle, st₂, bot₂, fee, hfee, st₃, r₃, hclaim, hpay⟩ := h
  obtain ⟨rfl, rfl, -⟩ := settle_spec hsettle
  obtain ⟨_, -, -, -, pending, next, rfl⟩ := claimPages_spec hclaim
  obtain ⟨gasCredit, rfl, -⟩ := payKeeper_spec rfl hpay
  cases fee with
  | none =>
    have hsame := chargeFee_none hfee
    exact .inl hsame
  | some fee =>
    obtain ⟨value, assets, -, hassets, -, hshares, -, -, htotal⟩ := limitGrid_charged hfee
    refine .inr ⟨bot, assets, value.val * fee.feeBps / 10000, _, ⟨_, _, _, hsettle, hassets⟩, rfl, ?_⟩
    rw [htotal, hshares]

lemma completeBatch_of_list {pair : Addr}
    (h : ∀ e ∈ st.orders.toList, e.1 ∉ ids → onPair q pair e.1 = e.2.remaining.val) :
    CompleteBatch q st pair ids := by
  intro id order horder hid
  exact h (id, order) (mem_toList_iff.mpr horder) hid

theorem fee_base_exact_iff_executed : ∃ (st : Storage) (w : OrderBook.World) (bot : Bot) (assets : Uint128),
    OrderBook.scenario [.filled 0 .closed 0 ![0, 625000]] = .ok (st, w) ∧
    (assets.val = inToken0 bot.referencePrice (holdings (OrderBook.querier w) st bot) ↔
      overstated (OrderBook.querier w) (OrderBook.chain.env w) st bot 0 = 0 ∧
        (holdings (OrderBook.querier w) st bot 1 +
            overstated (OrderBook.querier w) (OrderBook.chain.env w) st bot 1) * decimalFractional /
          bot.referencePrice.atomics.val =
          holdings (OrderBook.querier w) st bot 1 * decimalFractional / bot.referencePrice.atomics.val) := by
  have hruns : okAnd (OrderBook.scenario [.filled 0 .closed 0 ![0, 625000]]) (fun r =>
      okAnd (settle (OrderBook.querier r.2) (OrderBook.chain.env r.2) r.1 OrderBook.keeper BOT_ID [0]) fun s =>
        okAnd (botAssetValue s.1.orders s.2.1) fun _ =>
          decide (∀ e ∈ r.1.orders.toList, e.1 ∉ [0] →
            onPair (OrderBook.querier r.2) s.2.1.pair e.1 = e.2.remaining.val)) = true := by
    decide
  obtain ⟨⟨st, w⟩, h, hruns⟩ := okAnd_iff.mp hruns
  obtain ⟨⟨st₁, bot, credited, sweep⟩, hsettle, hruns⟩ := okAnd_iff.mp hruns
  obtain ⟨assets, hassets, hcomplete⟩ := okAnd_iff.mp hruns
  exact ⟨st, w, bot, assets, h, fee_base_exact_iff ⟨st₁, credited, sweep, hsettle, hassets⟩
    (completeBatch_of_list (of_decide_eq_true hcomplete))⟩

/-- A quarter of the deposit is sold from an order that then expires: the fee is charged on that quarter
beside its proceeds. -/
theorem parked_fill_counted_twice : ∃ st w st' w' log bot, ∃ assets : Uint128,
    OrderBook.scenario [.filled 0 .book (u128 250000) ![0, 312500], .expired 0] = .ok (st, w) ∧
    Reachable OrderBook.chain st w ∧ st.vaultMode = .active ∧
    CompleteBatch (OrderBook.querier w) st bot.pair [0] ∧
    Tx OrderBook.chain st w OrderBook.keeper (.reconcile BOT_ID [0]) log st' w' ∧
    ChargedOn (OrderBook.querier w) (OrderBook.chain.env w) st OrderBook.keeper BOT_ID [0] bot assets ∧
    assets.val = 1312500 ∧
    inToken0 bot.referencePrice (holdings (OrderBook.querier w) st bot) = 1062500 := by
  have hruns : okAnd (OrderBook.scenario
      [.filled 0 .book (u128 250000) ![0, 312500], .expired 0]) (fun r =>
      okAnd (OrderBook.transact r.1 r.2 OrderBook.keeper (.reconcile BOT_ID [0])) fun _ =>
      okAnd (settle (OrderBook.querier r.2) (OrderBook.chain.env r.2) r.1 OrderBook.keeper BOT_ID [0]) fun s =>
        okAnd (botAssetValue s.1.orders s.2.1) fun assets =>
          decide (r.1.vaultMode = .active ∧ (∀ e ∈ r.1.orders.toList, e.1 ∉ [0] →
            onPair (OrderBook.querier r.2) s.2.1.pair e.1 = e.2.remaining.val) ∧ assets.val = 1312500 ∧
            inToken0 s.2.1.referencePrice (holdings (OrderBook.querier r.2) r.1 s.2.1) = 1062500)) = true := by
    decide
  obtain ⟨⟨st, w⟩, h, hruns⟩ := okAnd_iff.mp hruns
  obtain ⟨⟨st', w', log⟩, htx, hruns⟩ := okAnd_iff.mp hruns
  obtain ⟨⟨st₁, bot, credited, sweep⟩, hsettle, hruns⟩ := okAnd_iff.mp hruns
  obtain ⟨assets, hassets, htests⟩ := okAnd_iff.mp hruns
  obtain ⟨hactive, hcomplete, hbase, hvalue⟩ := of_decide_eq_true htests
  exact ⟨st, w, st', w', log, bot, assets, h, OrderBook.scenario_reachable h, hactive,
    completeBatch_of_list hcomplete, OrderBook.transact_tx htx, ⟨st₁, credited, sweep, hsettle, hassets⟩,
    hbase, hvalue⟩

end Cl8yDexBots.LimitGrid.FeeBase
