import Cl8yDexBots.LimitGrid.FeeBase
import Cl8yDexBots.LimitGrid.LedgerInvariant

/-! What an owner's deposit does to the value of the fee collector's shares. -/

namespace Cl8yDexBots.LimitGrid.DepositDilution

open Std Foundation.Checked Foundation.Words Foundation.SubMessages Foundation.StorageMap Foundation.ProRata
open CosmWasm.Std
open State Pricing Orders Vault Transactions Effects FeeBase LedgerInvariant

variable {q : Querier} {env : Env} {st st' : Storage} {info : MessageInfo} {bot bot' : Bot} {i : Fin 2}
  {r r' : Response CosmosMsg}

def worth (price : Decimal) (held : Fin 2 → ℕ) : ℚ :=
  held 0 + held 1 * (decimalFractional / price.atomics.val : ℚ)

def only (i : Fin 2) (amount : ℕ) : Fin 2 → ℕ := fun j => if i = j then amount else 0

def escrowing (i : Fin 2) : CosmosMsg → ℕ
  | .token _ (.send _ total (.placeLimitOrderBatch side _)) => if side.tokenIndex = i then total.val else 0
  | _ => 0

def onTheWay (i : Fin 2) (ms : List (SubMsg CosmosMsg)) : ℕ := (ms.map fun m => escrowing i m.msg).sum

/-- The free balance of a token, what the orders escrow of it, and what is on its way into orders. -/
def botAssets (st : Storage) (bot : Bot) (ms : List (SubMsg CosmosMsg)) (i : Fin 2) : ℕ :=
  (bot.freeBalances i).val + overOrders st.orders i inRecord + onTheWay i ms

def claimOf (st : Storage) (bot : Bot) (ms : List (SubMsg CosmosMsg)) (holder : Addr) : ℚ :=
  (sharesOf st holder).val * worth bot.referencePrice (botAssets st bot ms) / bot.totalShares.val

/-- A deposit worth `deposited` mints no more shares at par than a holder's claim bears, where the assets
are worth `assets` and the holder has `shares` out of `supply`. -/
def ParMintBearable (shares supply : ℕ) (assets deposited : ℚ) : Prop :=
  (⌊deposited⌋₊ : ℚ) * (shares * (assets - supply) - supply) ≤
    supply * (supply + shares * (deposited - ⌊deposited⌋₊))

lemma worth_only {price : Decimal} (amount : ℕ) (i : Fin 2) :
    worth price (only i amount) =
      if i = 0 then (amount : ℚ) else amount * (decimalFractional / price.atomics.val : ℚ) := by
  fin_cases i <;> simp [worth, only]

lemma worth_add (price : Decimal) (a b : Fin 2 → ℕ) :
    worth price (fun i => a i + b i) = worth price a + worth price b := by
  simp only [worth]
  push_cast
  ring

lemma depositShares_floor {amount minted : Uint128} {price : Decimal}
    (h : depositShares amount i price = .ok minted) : minted.val = ⌊worth price (only i amount.val)⌋₊ := by
  rw [worth_only]
  rw [depositShares] at h
  split at h
  · rename_i hi
    cases h
    rw [if_pos hi, Nat.floor_natCast]
  · rename_i hi
    simp only [bind_eq_ok, checkedRatio, checkedRatioOr_eq_ok, Decimal.one_atomics_val] at h
    obtain ⟨_, -, -, hminted⟩ := h
    rw [if_neg hi, hminted, ← mul_div_assoc, ← Nat.cast_mul, Nat.floor_div_eq_div]

lemma onTheWay_append (i : Fin 2) (ms ns : List (SubMsg CosmosMsg)) :
    onTheWay i (ms ++ ns) = onTheWay i ms + onTheWay i ns := by
  simp [onTheWay]

structure Moved (st : Storage) (bot : Bot) (ms : List (SubMsg CosmosMsg)) (st' : Storage)
    (ms' : List (SubMsg CosmosMsg)) : Prop where
  shares : st'.shares = st.shares
  after : ∃ bot', st'.bot = some bot' ∧ bot'.totalShares = bot.totalShares ∧
    bot'.referencePrice = bot.referencePrice ∧ botAssets st' bot' ms' = botAssets st bot ms

lemma Moved.same (hbot : st.bot = some bot) (ms : List (SubMsg CosmosMsg)) : Moved st bot ms st ms :=
  ⟨rfl, bot, hbot, rfl, rfl, rfl⟩

lemma addPlacement_moved {botId : ℕ} {side : LimitOrderSide} {rungs : List ℕ} {amountEach : Uint128}
    {expiresAt : ℕ} (hbot : st.bot = some bot)
    (h : addPlacement st r botId side rungs amountEach expiresAt = .ok (st', r')) :
    Moved st bot r.messages st' r'.messages := by
  rw [addPlacement] at h
  split at h
  · cases h
    exact .same hbot _
  · simp only [bind_eq_ok, loadBot_eq_ok] at h
    obtain ⟨total, -, current, ⟨-, hcurrent⟩, h⟩ := h
    obtain rfl := Option.some.inj (hbot.symm.trans hcurrent)
    split at h
    · cases h
      exact .same hbot _
    · simp only [submitPlacement, nextReplyId, bind_eq_ok, checkedSub_eq_ok, Except.ok.injEq, Prod.exists,
        Prod.mk.injEq] at h
      obtain ⟨_, -, free, ⟨hle, hfree⟩, _, -, items, -, _, _, ⟨_, -, rfl, rfl⟩, rfl, rfl⟩ := h
      refine ⟨rfl, _, rfl, rfl, rfl, ?_⟩
      funext i
      simp only [botAssets, Response.addMessage_messages, onTheWay_append]
      have hsent : onTheWay i [(.replyAlways (.token (bot.assetTokens side.tokenIndex)
          (.send bot.pair total (.placeLimitOrderBatch side items))) st.nextReplyId : SubMsg CosmosMsg)] =
          if side.tokenIndex = i then total.val else 0 := by
        simp [onTheWay, escrowing, SubMsg.replyAlways]
      rw [hsent]
      by_cases hi : side.tokenIndex = i
      · subst hi
        simp only [Bot.setFree, Function.update_self, if_true]
        omega
      · simp only [Bot.setFree, Function.update_of_ne (Ne.symm hi), if_neg hi]
        omega

lemma allocateSide_moved {botId : ℕ} {bot₀ : Bot} {side : LimitOrderSide} {expiresAt : ℕ}
    (hbot : st.bot = some bot) (h : allocateSide st r botId bot₀ side expiresAt = .ok (st', r')) :
    Moved st bot r.messages st' r'.messages := by
  simp only [allocateSide, bind_eq_ok] at h
  obtain ⟨_, -, _, -, _, -, h⟩ := h
  exact addPlacement_moved hbot h

lemma executeReceive_deposits {receive : Cw20ReceiveMsg} (hbot : st.bot = some bot)
    (token : tokenPosition bot info.sender = some i)
    (h : executeReceive q env st info receive = .ok (st', r)) :
    ∃ bot', st'.bot = some bot' ∧ bot'.referencePrice = bot.referencePrice ∧
      bot'.totalShares.val =
        bot.totalShares.val + ⌊worth bot.referencePrice (only i receive.amount.val)⌋₊ ∧
      (botAssets st' bot' r.messages = fun j => botAssets st bot [] j + only i receive.amount.val j) ∧
      ∀ holder, (sharesOf st' holder).val = (sharesOf st holder).val +
        if holder = bot.owner then ⌊worth bot.referencePrice (only i receive.amount.val)⌋₊ else 0 := by
  simp only [executeReceive, bind_eq_ok, loadBot_eq_ok, ensure_eq_ok, decide_eq_true_eq, orError_eq_ok,
    checkedAdd_eq_ok] at h
  obtain ⟨_, -, _, -, ⟨botId⟩, -, depositor, -, b, ⟨-, hb⟩, _, howner, _, -, _, -, _, -, i', hi', _, -, actual, -, free,
    hfree, _, -, minted, hminted, _, -, supply, hsupply, shares, hshares, expires, -, h⟩ := h
  obtain rfl := Option.some.inj (hbot.symm.trans hb)
  obtain rfl := Option.some.inj (token.symm.trans hi')
  obtain rfl := howner
  rw [← depositShares_floor hminted]
  obtain ⟨hsame, bot', hbot', htotal, hprice, hassets⟩ := allocateSide_moved rfl h
  refine ⟨bot', hbot', hprice, by rw [htotal, hsupply], ?_, ?_⟩
  · rw [hassets]
    funext j
    by_cases hj : i = j
    · subst hj
      simp only [botAssets, Bot.setFree, Function.update_self, hfree, only, if_true, onTheWay, List.map_nil,
        List.sum_nil]
      omega
    · simp only [botAssets, Bot.setFree, Function.update_of_ne (Ne.symm hj), only, if_neg hj, onTheWay,
        List.map_nil, List.sum_nil, Nat.add_zero]
  · intro holder
    rw [show sharesOf st' holder = (st'.shares[holder]?).getD 0 from rfl, hsame, lookup_insert]
    by_cases hh : bot.owner = holder
    · subst hh
      rw [if_pos rfl, if_pos rfl, Option.getD_some, hshares]
    · rw [if_neg hh, if_neg (Ne.symm hh), Nat.add_zero]
      rfl

lemma worth_nonneg (price : Decimal) (held : Fin 2 → ℕ) : 0 ≤ worth price held := by
  rw [worth]
  positivity

variable {W : Type} {C : Chain W} {w : W} {holder : Addr}

lemma shares_le_supply (h : Reachable C st w) (hbot : st.bot = some bot) (holder : Addr) :
    (sharesOf st holder).val ≤ bot.totalShares.val := by
  rw [← (reachable_booked h).shares bot hbot, ← weight_shares]
  exact weight_le_total _ _ _

/-- A deposit leaves a holder's claim on the assets, up to one unit, exactly where the holder is the owner
or the shares that are minted at par are few enough. -/
theorem claim_kept_iff {receive : Cw20ReceiveMsg} (reachable : Reachable C st w) (hbot : st.bot = some bot)
    (holding : (sharesOf st holder).val ≠ 0) (token : tokenPosition bot info.sender = some i)
    (h : execute (C.querier w) (C.env w) st info (.receive receive) = .ok (st', r)) (hbot' : st'.bot = some bot') :
    claimOf st bot [] holder ≤ claimOf st' bot' r.messages holder + 1 ↔
      holder = bot.owner ∨ ParMintBearable (sharesOf st holder).val bot.totalShares.val
        (worth bot.referencePrice (botAssets st bot []))
        (worth bot.referencePrice (only i receive.amount.val)) := by
  obtain ⟨b, hb, hprice, htotal, hassets, hshares⟩ := executeReceive_deposits hbot token h
  obtain rfl := Option.some.inj (hbot'.symm.trans hb)
  have hle := shares_le_supply reachable hbot holder
  have hsupply : (0 : ℚ) < bot.totalShares.val := by
    rw [Nat.cast_pos]
    omega
  have hclaim : claimOf st' bot' r.messages holder =
      ((sharesOf st holder).val + (if holder = bot.owner then
          ⌊worth bot.referencePrice (only i receive.amount.val)⌋₊ else 0 : ℕ)) *
        (worth bot.referencePrice (botAssets st bot []) +
          worth bot.referencePrice (only i receive.amount.val)) /
        (bot.totalShares.val + ⌊worth bot.referencePrice (only i receive.amount.val)⌋₊) := by
    rw [claimOf, hprice, hassets, worth_add, htotal, hshares holder]
    push_cast
    rfl
  rw [hclaim, claimOf]
  by_cases howner : holder = bot.owner
  · simp only [howner, if_true, true_or, iff_true]
    have hminted : (0 : ℚ) ≤ ⌊worth bot.referencePrice (only i receive.amount.val)⌋₊ := Nat.cast_nonneg _
    have hkept := own_mint_keeps hsupply hminted (Nat.cast_le.mpr (howner ▸ hle))
      (worth_nonneg bot.referencePrice (botAssets st bot []))
      (worth_nonneg bot.referencePrice (only i receive.amount.val)) (Nat.cast_nonneg _)
    linarith
  · simp only [howner, if_false, false_or, Nat.cast_zero, add_zero]
    exact par_mint_keeps_iff hsupply (Nat.cast_nonneg _)

def appreciated (amount : ℕ) : List OrderBook.Event :=
  [.filled 0 .closed 0 ![0, 625000], .sent OrderBook.keeper (.reconcile BOT_ID [0]), .donated ![amount, 0]]

def secondDeposit (amount : ℕ) : Cw20ReceiveMsg := ⟨"owner", u128 amount, some (.deposit BOT_ID)⟩

def fromToken0 : MessageInfo := ⟨"token0", []⟩

theorem claim_kept_iff_small : ∃ st w bot st' r bot', OrderBook.scenario (appreciated 1000) = .ok (st, w) ∧
    execute (OrderBook.querier w) (OrderBook.chain.env w) st fromToken0 (.receive (secondDeposit 1000)) =
      .ok (st', r) ∧
    (claimOf st bot [] "collector" ≤ claimOf st' bot' r.messages "collector" + 1 ↔
      "collector" = bot.owner ∨ ParMintBearable (sharesOf st "collector").val bot.totalShares.val
        (worth bot.referencePrice (botAssets st bot []))
        (worth bot.referencePrice (only 0 (secondDeposit 1000).amount.val))) := by
  have hruns : okAnd (OrderBook.scenario (appreciated 1000)) (fun s =>
      okAnd (execute (OrderBook.querier s.2) (OrderBook.chain.env s.2) s.1 fromToken0
        (.receive (secondDeposit 1000))) fun t =>
        s.1.bot.any (fun bot => tokenPosition bot fromToken0.sender = some 0) && t.1.bot.isSome &&
          decide ((sharesOf s.1 "collector").val ≠ 0)) = true := by
    decide
  obtain ⟨⟨st, w⟩, h, hruns⟩ := okAnd_iff.mp hruns
  obtain ⟨⟨st', r⟩, hexec, htests⟩ := okAnd_iff.mp hruns
  simp only [Bool.and_eq_true, Option.any_eq_true, decide_eq_true_eq, Option.isSome_iff_exists] at htests
  obtain ⟨⟨⟨bot, hbot, htoken⟩, bot', hbot'⟩, hholding⟩ := htests
  exact ⟨st, w, bot, st', r, bot', h, hexec,
    claim_kept_iff (OrderBook.scenario_reachable h) hbot hholding htoken hexec hbot'⟩

/-- A second deposit as large as the first one takes more than a twentieth of what the collector's shares are worth. -/
theorem deposit_dilutes_collector : ∃ st w bot st' r bot',
    OrderBook.scenario (appreciated 1000000) = .ok (st, w) ∧ Reachable OrderBook.chain st w ∧
    st.bot = some bot ∧ st.config.feeCollector = some "collector" ∧ (sharesOf st "collector").val = 5586 ∧
    execute (OrderBook.querier w) (OrderBook.chain.env w) st fromToken0
      (.receive (secondDeposit 1000000)) = .ok (st', r) ∧
    st'.bot = some bot' ∧
    ¬ claimOf st bot [] "collector" ≤ claimOf st' bot' r.messages "collector" + 1 := by
  have hruns : okAnd (OrderBook.scenario (appreciated 1000000)) (fun s =>
      okAnd (execute (OrderBook.querier s.2) (OrderBook.chain.env s.2) s.1 fromToken0
        (.receive (secondDeposit 1000000))) fun t =>
        s.1.bot.any (fun bot => t.1.bot.any fun bot' =>
          decide (¬ claimOf s.1 bot [] "collector" ≤ claimOf t.1 bot' t.2.messages "collector" + 1)) &&
          decide (s.1.config.feeCollector = some "collector" ∧ (sharesOf s.1 "collector").val = 5586)) = true := by
    decide +kernel
  obtain ⟨⟨st, w⟩, h, hruns⟩ := okAnd_iff.mp hruns
  obtain ⟨⟨st', r⟩, hexec, htests⟩ := okAnd_iff.mp hruns
  simp only [Bool.and_eq_true, Option.any_eq_true, decide_eq_true_eq] at htests
  obtain ⟨⟨bot, hbot, bot', hbot', hlost⟩, hcollector, hshares⟩ := htests
  exact ⟨st, w, bot, st', r, bot', h, OrderBook.scenario_reachable h, hbot, hcollector, hshares, hexec, hbot',
    hlost⟩

end Cl8yDexBots.LimitGrid.DepositDilution
