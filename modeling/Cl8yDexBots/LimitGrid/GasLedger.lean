import Cl8yDexBots.CosmWasm.Coins
import Cl8yDexBots.LimitGrid.Reconciliation

/-! What each entry point of the limit-grid vault does to the gas credit, and the coins it sends. -/

namespace Cl8yDexBots.LimitGrid.GasLedger

open Std Foundation.Checked Foundation.Words Foundation.SubMessages Foundation.StorageMap
open CosmWasm.Std CosmWasm.Pair CosmWasm.Coins
open State Pricing Orders Vault Effects PendingMessages Reconciliation

def terms (st : Storage) : String × Uint128 × Uint128 :=
  (st.config.gasDenom, st.config.keeperReward, st.config.minimumGasReserve)

def gauge (st : Storage) : Option (Uint128 × Uint128) := st.bot.map fun bot => (bot.gasCredit, bot.totalShares)

def credit (st : Storage) : ℕ := ((gauge st).map fun g => g.1.val).getD 0

/-- A bot with shares outstanding has its reserve. -/
def Reserved (st : Storage) : Prop :=
  ∀ gas shares, gauge st = some (gas, shares) → shares.val ≠ 0 → st.config.minimumGasReserve.val ≤ gas.val

def payout (denom : String) : CosmosMsg → ℕ
  | .bank _ coins => total denom coins
  | _ => 0

def due (denom : String) (ms : List (SubMsg CosmosMsg)) : ℕ := (ms.map fun m => payout denom m.msg).sum

def NoCoins (ms : List (SubMsg CosmosMsg)) : Prop := ∀ m ∈ ms, ¬ isBank m.msg

def PaysGas (denom : String) (ms : List (SubMsg CosmosMsg)) : Prop :=
  ∀ m ∈ ms, isBank m.msg → ∃ recipient, ∃ amount : Uint128, 0 < amount.val ∧ m.msg = .bank recipient [⟨denom, amount⟩]

section Messages

variable {denom : String} {ms ns : List (SubMsg CosmosMsg)}

lemma NoCoins.nil : NoCoins [] := fun _ hm => absurd hm List.not_mem_nil

@[simp] lemma due_nil (denom : String) : due denom [] = 0 := rfl

lemma due_append (denom : String) (ms ns : List (SubMsg CosmosMsg)) :
    due denom (ms ++ ns) = due denom ms + due denom ns := by
  simp [due]

def gasPayment (denom recipient : String) (amount : Uint128) : SubMsg CosmosMsg :=
  .plain (.bank recipient [⟨denom, amount⟩])

lemma due_gasPayment (denom recipient : String) (amount : Uint128) :
    due denom [gasPayment denom recipient amount] = amount.val := by
  rw [due, List.map_singleton, List.sum_singleton]
  exact total_single denom amount

lemma paysGas_gasPayment {recipient : String} {amount : Uint128} (h : 0 < amount.val) :
    PaysGas denom [gasPayment denom recipient amount] := by
  intro m hm _
  rw [List.mem_singleton.mp hm]
  exact ⟨recipient, amount, h, rfl⟩

lemma NoCoins.due (h : NoCoins ms) : due denom ms = 0 := by
  apply List.sum_eq_zero
  intro n hn
  obtain ⟨m, hm, rfl⟩ := List.mem_map.mp hn
  have hno := h m hm
  cases hmsg : m.msg with
  | token contractAddr msg => rfl
  | pair contractAddr msg => rfl
  | bank recipient coins =>
    rw [hmsg] at hno
    exact absurd trivial hno

lemma NoCoins.append (hm : NoCoins ms) (hn : NoCoins ns) : NoCoins (ms ++ ns) := by
  intro m h
  rcases List.mem_append.mp h with h | h
  · exact hm m h
  · exact hn m h

lemma NoCoins.paysGas (h : NoCoins ms) : PaysGas denom ms := fun m hm hbank => absurd hbank (h m hm)

lemma PaysGas.append (hm : PaysGas denom ms) (hn : PaysGas denom ns) : PaysGas denom (ms ++ ns) := by
  intro m h
  rcases List.mem_append.mp h with h | h
  · exact hm m h
  · exact hn m h

lemma noCoins_transfers (bot : Bot) (recipient : Addr) (amounts : Fin 2 → Uint128) :
    NoCoins (transfers bot recipient amounts) := by
  intro m hm
  rw [transfers, List.mem_filterMap] at hm
  obtain ⟨i, -, hi⟩ := hm
  split at hi
  · cases hi
  · cases hi
    exact id

end Messages

variable {q : Querier} {env : Env} {st st' st'' : Storage} {info : MessageInfo} {r r' r'' : Response CosmosMsg}
  {botId : ℕ}

/-- Nothing that concerns gas: messages without coins, the credit and the shares as they were. -/
structure Quiet (st st' : Storage) (ms ms' : List (SubMsg CosmosMsg)) : Prop where
  terms : terms st' = terms st
  gauge : gauge st' = gauge st
  messages : ∃ new, ms' = ms ++ new ∧ NoCoins new

section Quiet

lemma Quiet.refl (st : Storage) (ms : List (SubMsg CosmosMsg)) : Quiet st st ms ms :=
  ⟨rfl, rfl, [], (List.append_nil ms).symm, .nil⟩

lemma Quiet.trans {ms ms' ms'' : List (SubMsg CosmosMsg)} (h : Quiet st st' ms ms') (h' : Quiet st' st'' ms' ms'') :
    Quiet st st'' ms ms'' := by
  obtain ⟨new, rfl, hnew⟩ := h.messages
  obtain ⟨new', rfl, hnew'⟩ := h'.messages
  exact ⟨h'.terms.trans h.terms, h'.gauge.trans h.gauge, new ++ new', List.append_assoc .., hnew.append hnew'⟩

lemma addPlacement_quiet {side : LimitOrderSide} {rungs : List ℕ} {amountEach : Uint128} {expiresAt : ℕ}
    (h : addPlacement st r botId side rungs amountEach expiresAt = .ok (st', r')) :
    Quiet st st' r.messages r'.messages := by
  rw [addPlacement] at h
  split at h
  · cases h
    exact .refl ..
  · simp only [bind_eq_ok, narrow_eq_ok, loadBot_eq_ok] at h
    obtain ⟨total, -, current, ⟨-, hcurrent⟩, h⟩ := h
    split at h
    · cases h
      exact .refl ..
    · simp only [submitPlacement, nextReplyId, bind_eq_ok, ensure_eq_ok, exists_const, Except.ok.injEq, Prod.exists,
        Prod.mk.injEq] at h
      obtain ⟨-, free, -, -, items, -, _, _, ⟨-, rfl, rfl⟩, rfl, rfl⟩ := h
      refine ⟨rfl, ?_, _, rfl, ?_⟩
      · simp [gauge, hcurrent, Bot.setFree]
      · intro m hm
        rw [List.mem_singleton.mp hm]
        exact id

lemma allocateSide_quiet {bot : Bot} {side : LimitOrderSide} {expiresAt : ℕ}
    (h : allocateSide st r botId bot side expiresAt = .ok (st', r')) : Quiet st st' r.messages r'.messages := by
  simp only [allocateSide, bind_eq_ok, ensure_eq_ok, exists_const] at h
  obtain ⟨-, _, -, _, -, h⟩ := h
  exact addPlacement_quiet h

lemma addPages_quiet {pair : Addr} {kind : PageKind} {cs : List (List PendingPageEntry)}
    (h : foldChecked (addPage botId pair kind) (st, r) cs = .ok (st', r')) : Quiet st st' r.messages r'.messages := by
  obtain ⟨pages, hmsgs, hadded⟩ := addPages_spec h
  obtain ⟨pending, rfl⟩ := hadded.frame
  exact ⟨rfl, rfl, pages, hmsgs, fun m hm => (hadded.only m hm).2⟩

lemma addConfirmablePages_quiet {pair : Addr} {cancels claims : List PendingPageEntry} {limit : ℕ}
    (h : addConfirmablePages st r botId pair cancels claims limit = .ok (st', r')) :
    Quiet st st' r.messages r'.messages := by
  simp only [addConfirmablePages, bind_eq_ok, Prod.exists] at h
  obtain ⟨st₁, r₁, hcancel, hclaim⟩ := h
  exact (addPages_quiet hcancel).trans (addPages_quiet hclaim)

lemma executeAllocate_quiet (h : executeAllocate q env st info botId = .ok (st', r)) : Quiet st st' [] r.messages := by
  simp only [executeAllocate, bind_eq_ok, ensure_eq_ok, exists_const, Except.ok.injEq, Prod.exists,
    Prod.mk.injEq] at h
  obtain ⟨_, -, _, -, bot, -, _, -, _, -, -, -, expires, -, st₁, r₁, h₁, st₂, r₂, h₂, -, rfl, rfl⟩ := h
  exact (allocateSide_quiet h₁).trans (allocateSide_quiet h₂)

lemma executeSyncBalances_quiet (h : executeSyncBalances q env st info botId = .ok (st', r)) :
    Quiet st st' [] r.messages := by
  simp only [executeSyncBalances, bind_eq_ok, loadBot_eq_ok, Except.ok.injEq, Prod.exists, Prod.mk.injEq] at h
  obtain ⟨_, -, bot, ⟨-, hbot⟩, _, -, credited, bot', hsync, rfl, rfl⟩ := h
  obtain ⟨live, rfl, -⟩ := syncFreeBalances_spec hsync
  exact ⟨rfl, by simp [gauge, hbot], [], rfl, .nil⟩

lemma executeRecoverOrder_quiet {orderId rungIndex : ℕ}
    (h : executeRecoverOrder q env st info botId orderId rungIndex = .ok (st', r)) : Quiet st st' [] r.messages := by
  simp only [executeRecoverOrder, bind_eq_ok, ensure_eq_ok, exists_const, loadBot_eq_ok, Prod.exists] at h
  obtain ⟨_, -, bot, ⟨-, hbot⟩, _, -, -, -, _, -, rung, -, side, -, remaining, parked, -, -, h⟩ := h
  have hrecovered : ∀ orders, Quiet st
      { st with bot := some { bot with activeOrders := bot.activeOrders + 1 }, orders := orders } [] [] := by
    intro orders
    exact ⟨rfl, by simp [gauge, hbot], [], rfl, .nil⟩
  split at h
  · exact (hrecovered _).trans (addConfirmablePages_quiet h)
  · cases h
    exact hrecovered _

lemma executeCancelAll_quiet (h : executeCancelAll q env st info botId = .ok (st', r)) :
    Quiet st st' [] r.messages := by
  simp only [executeCancelAll, bind_eq_ok] at h
  obtain ⟨_, -, bot, -, _, -, _, -, h⟩ := h
  split at h
  · cases h
    exact .refl ..
  · simp only [bind_eq_ok, Except.ok.injEq, Prod.exists, Prod.mk.injEq] at h
    obtain ⟨entries, -, limit, -, st₁, r₁, hpages, rfl, rfl⟩ := h
    exact addConfirmablePages_quiet hpages

lemma executeEmergencyCancel_quiet (h : executeEmergencyCancel q env st info botId = .ok (st', r)) :
    Quiet st st' [] r.messages := by
  simp only [executeEmergencyCancel, bind_eq_ok, Except.ok.injEq, Prod.exists, Prod.mk.injEq] at h
  obtain ⟨_, -, _, -, bot, -, _, -, _, -, entries, -, st₁, r₁, hpages, rfl, rfl⟩ := h
  exact addConfirmablePages_quiet hpages

lemma updateTokenPolicy_quiet {token action : String} {update : Addr → Storage}
    (h : updateTokenPolicy q st info token action update = .ok (st', r))
    (policy : ∀ token, terms (update token) = terms st ∧ gauge (update token) = gauge st) :
    Quiet st st' [] r.messages := by
  simp only [updateTokenPolicy, bind_eq_ok, Except.ok.injEq, Prod.mk.injEq] at h
  obtain ⟨_, -, _, -, token, -, rfl, rfl⟩ := h
  exact ⟨(policy token).1, (policy token).2, [], rfl, .nil⟩

lemma switchMode_quiet {source target : VaultMode} {action : String}
    (h : switchMode st info source target action = .ok (st', r)) : Quiet st st' [] r.messages := by
  simp only [switchMode, bind_eq_ok, Except.ok.injEq, Prod.mk.injEq] at h
  obtain ⟨_, -, _, -, _, -, rfl, rfl⟩ := h
  exact ⟨rfl, rfl, [], rfl, .nil⟩

lemma reply_quiet {id : ℕ} {result : Except String (List (String × String))}
    (h : reply q env st id result = .ok (st', r)) : Quiet st st' [] r.messages := by
  rw [reply] at h
  split at h
  · rename_i page _
    simp only [handlePendingPage] at h
    split at h
    · simp only [confirmPage, bind_eq_ok, loadBot_eq_ok, ensure_eq_ok, exists_const, Except.ok.injEq,
        Prod.mk.injEq] at h
      obtain ⟨_, ⟨bot, ⟨-, hbot⟩, settled, -, -, rfl⟩, rfl, rfl⟩ := h
      exact ⟨rfl, by simp [gauge, hbot], [], rfl, .nil⟩
    · cases h
      exact ⟨rfl, rfl, [], rfl, .nil⟩
  · simp only [bind_eq_ok, orError_eq_ok] at h
    obtain ⟨plan, -, h⟩ := h
    have hrestored : ∀ {reason}, restoreSinglePlacement st id plan reason = .ok (st', r) →
        Quiet st st' [] r.messages := by
      intro reason h
      simp only [restoreSinglePlacement, bind_eq_ok, loadBot_eq_ok, ensure_eq_ok, exists_const, Except.ok.injEq,
        Prod.mk.injEq] at h
      obtain ⟨amount, -, bot, ⟨-, hbot⟩, free, -, -, rfl, rfl⟩ := h
      exact ⟨rfl, by simp [gauge, hbot, Bot.setFree], [], rfl, .nil⟩
    simp only [replyToPlacement] at h
    split at h
    · split at h
      · exact hrestored h
      · cases h
    · simp only [bind_eq_ok] at h
      obtain ⟨ids, -, h⟩ := h
      split at h
      · exact hrestored h
      · simp only [recordPlacement, bind_eq_ok, ensure_eq_ok, exists_const, Except.ok.injEq, Prod.mk.injEq] at h
        obtain ⟨-, bot, -, orders, -, rfl, rfl⟩ := h
        exact ⟨rfl, rfl, [], rfl, .nil⟩

end Quiet

/-- What a message does to the gas, where `paid` is what came with it. -/
structure GasMove (st st' : Storage) (paid : ℕ) (ms : List (SubMsg CosmosMsg)) : Prop where
  terms : terms st' = terms st
  credit : credit st' + due st.config.gasDenom ms ≤ credit st + paid
  reserve : Reserved st → Reserved st'
  coins : 0 < st.config.keeperReward.val → PaysGas st.config.gasDenom ms

section Moves

variable {paid : ℕ}

lemma credit_of_gauge (h : gauge st' = gauge st) : credit st' = credit st := by
  rw [credit, credit, h]

lemma Quiet.reserved {ms ms' : List (SubMsg CosmosMsg)} (h : Quiet st st' ms ms') (hst : Reserved st) :
    Reserved st' := by
  intro gas shares hgauge hshares
  have hreserve : st'.config.minimumGasReserve = st.config.minimumGasReserve :=
    congrArg (fun t => t.2.2) h.terms
  rw [hreserve]
  exact hst gas shares (h.gauge ▸ hgauge) hshares

lemma Quiet.gasMove {ms : List (SubMsg CosmosMsg)} (h : Quiet st st' [] ms) : GasMove st st' paid ms := by
  obtain ⟨new, rfl, hnew⟩ := h.messages
  refine ⟨h.terms, ?_, h.reserved, fun _ => hnew.paysGas⟩
  rw [hnew.due, credit_of_gauge h.gauge]
  omega

lemma GasMove.quiet {ms ms' : List (SubMsg CosmosMsg)} (h : GasMove st st' paid ms) (h' : Quiet st' st'' ms ms') :
    GasMove st st'' paid ms' := by
  obtain ⟨new, rfl, hnew⟩ := h'.messages
  refine ⟨h'.terms.trans h.terms, ?_, fun hst => h'.reserved (h.reserve hst),
    fun hreward => (h.coins hreward).append hnew.paysGas⟩
  rw [due_append, hnew.due, credit_of_gauge h'.gauge]
  exact h.credit

lemma credit_of_bot {bot : Bot} (h : st.bot = some bot) : credit st = bot.gasCredit.val := by
  simp [credit, gauge, h]

lemma gauge_of_bot {bot : Bot} (h : st.bot = some bot) : gauge st = some (bot.gasCredit, bot.totalShares) := by
  simp [gauge, h]

lemma reserved_of_bot {bot : Bot} (h : st.bot = some bot)
    (hreserve : bot.totalShares.val ≠ 0 → st.config.minimumGasReserve.val ≤ bot.gasCredit.val) : Reserved st := by
  intro gas shares hgauge hshares
  rw [gauge_of_bot h] at hgauge
  cases hgauge
  exact hreserve hshares

lemma paidAmount_le {denom : String} {amount : Uint128} (h : paidAmount info denom = .ok amount) :
    amount.val ≤ total denom info.funds := by
  simp only [paidAmount, bind_eq_ok, ensure_eq_ok, exists_const, Except.ok.injEq] at h
  obtain ⟨-, rfl⟩ := h
  cases hfind : info.funds.find? fun coin => coin.denom = denom with
  | none => exact Nat.zero_le _
  | some coin =>
    have hmem := List.mem_of_find?_eq_some hfind
    have hdenom := List.find?_some hfind
    rw [decide_eq_true_eq] at hdenom
    have hterm : (if coin.denom = denom then coin.amount.val else 0) ∈
        info.funds.map fun coin => if coin.denom = denom then coin.amount.val else 0 :=
      List.mem_map_of_mem hmem
    have hle := List.single_le_sum (fun _ _ => Nat.zero_le _) _ hterm
    rw [if_pos hdenom] at hle
    exact hle

lemma requiredGas_le {required : Uint128} (h : requiredGas st.config = .ok required) :
    st.config.minimumGasReserve.val + st.config.keeperReward.val = required.val := by
  simp only [requiredGas, checkedAdd_eq_ok] at h
  exact h.symm

lemma executeCreateBot_move {pair : String} {lowerPrice upperPrice : Decimal} {gridCount : ℕ}
    (h : executeCreateBot q st info pair lowerPrice upperPrice gridCount = .ok (st', r)) :
    GasMove st st' (total st.config.gasDenom info.funds) r.messages := by
  simp only [executeCreateBot, bind_eq_ok, ensure_eq_ok, exists_const, Except.ok.injEq, Prod.exists,
    Prod.mk.injEq] at h
  obtain ⟨_, -, hfresh, -, -, pair, -, pairInfo, codeId, tokens, hpair, _, -, _, -, _, -, _, -, -, _, -,
    -, _, -, -, price, -, -, prices, -, -, -, gas, hgas, _, -, -, rfl, rfl⟩ := h
  have hconfig : (adoptTokens st tokens).config = st.config := by
    rw [adoptTokens]
    split <;> rfl
  rw [hconfig] at hgas
  refine ⟨congrArg (fun c : Config => (c.gasDenom, c.keeperReward, c.minimumGasReserve)) hconfig, ?_, ?_,
    fun _ _ hm => absurd hm List.not_mem_nil⟩
  · rw [credit_of_bot rfl, due_nil]
    have hle := paidAmount_le hgas
    dsimp only
    omega
  · intro _
    exact reserved_of_bot rfl fun hshares => absurd rfl hshares

lemma executeReceive_move {receive : Cw20ReceiveMsg} (h : executeReceive q env st info receive = .ok (st', r)) :
    GasMove st st' paid r.messages := by
  simp only [executeReceive, bind_eq_ok, ensure_eq_ok, exists_const, orError_eq_ok, loadBot_eq_ok,
    decide_eq_true_eq] at h
  obtain ⟨_, -, -, ⟨botId⟩, -, depositor, -, bot, ⟨rfl, hbot⟩, -, _, -, required, hrequired, hgas, index, -, -, _, -,
    free, -, -, minted, -, -, totalShares, -, shares, -, expires, -, h⟩ := h
  have hreserve := requiredGas_le hrequired
  have hdeposited : GasMove st { st with
      bot := some { bot.setFree index free with totalShares }
      shares := st.shares.insert depositor shares } paid [] := by
    refine ⟨rfl, ?_, ?_, fun _ _ hm => absurd hm List.not_mem_nil⟩
    · rw [credit_of_bot rfl, credit_of_bot hbot]
      exact Nat.le_add_right ..
    · intro _
      apply reserved_of_bot rfl
      intro _
      have hle : required.val ≤ bot.gasCredit.val := hgas
      show st.config.minimumGasReserve.val ≤ bot.gasCredit.val
      omega
  exact hdeposited.quiet (allocateSide_quiet h)

lemma executeFundGas_move (h : executeFundGas st info botId = .ok (st', r)) :
    GasMove st st' (total st.config.gasDenom info.funds) r.messages := by
  simp only [executeFundGas, bind_eq_ok, ensure_eq_ok, exists_const, loadBot_eq_ok, checkedAdd_eq_ok, Except.ok.injEq,
    Prod.mk.injEq] at h
  obtain ⟨amount, hamount, -, bot, ⟨-, hbot⟩, gasCredit, hgas, rfl, rfl⟩ := h
  have hle := paidAmount_le hamount
  refine ⟨rfl, ?_, ?_, fun _ _ hm => absurd hm List.not_mem_nil⟩
  · rw [credit_of_bot rfl, credit_of_bot hbot, due_nil]
    dsimp only
    omega
  · intro hst
    apply reserved_of_bot rfl
    intro hshares
    have hkept := hst _ _ (gauge_of_bot hbot) hshares
    dsimp only
    omega

lemma executeWithdrawGas_move {amount : Uint128} {recipient : Option String}
    (h : executeWithdrawGas q st info botId amount recipient = .ok (st', r)) : GasMove st st' paid r.messages := by
  simp only [executeWithdrawGas, bind_eq_ok, ensure_eq_ok, exists_const, loadBot_eq_ok, checkedSub_eq_ok,
    decide_eq_true_eq, Except.ok.injEq, Prod.mk.injEq] at h
  obtain ⟨_, -, hamount, recipient, -, bot, ⟨-, hbot⟩, _, -, remaining, ⟨hle, hremaining⟩, required, hrequired, hguard,
    rfl, rfl⟩ := h
  have hreserve := requiredGas_le hrequired
  refine ⟨rfl, ?_, ?_, fun _ => paysGas_gasPayment ?_⟩
  · have hdue := due_gasPayment st.config.gasDenom recipient amount
    rw [gasPayment] at hdue
    rw [credit_of_bot rfl, credit_of_bot hbot, hdue]
    dsimp only
    omega
  · intro _
    apply reserved_of_bot rfl
    intro hshares
    have hleft : required.val ≤ remaining.val := by
      apply Nat.le_of_not_lt
      intro hlt
      exact hguard ⟨.inr fun hzero => hshares (isZero_iff.mp hzero), hlt⟩
    dsimp only
    omega
  · apply Nat.pos_of_ne_zero
    intro hzero
    rw [isZero_iff.mpr hzero] at hamount
    cases hamount

lemma payKeeper_move {bot : Bot} {required : Uint128} (h : payKeeper st r info BOT_ID = .ok (st', r'))
    (hbot : st.bot = some bot) (hrequired : requiredGas st.config = .ok required)
    (hgas : required.val ≤ bot.gasCredit.val) (hms : NoCoins r.messages) :
    Reserved st' ∧ GasMove st st' paid r'.messages := by
  have hreserve := requiredGas_le hrequired
  rw [payKeeper] at h
  split at h
  · simp only [bind_eq_ok, loadBot_eq_ok, checkedSub_eq_ok, Except.ok.injEq, Prod.mk.injEq] at h
    obtain ⟨_, ⟨-, hsame⟩, gasCredit, ⟨hle, hleft⟩, rfl, rfl⟩ := h
    obtain rfl := Option.some.inj (hbot.symm.trans hsame)
    have hreserved : Reserved { st with bot := some { bot with gasCredit } } := by
      apply reserved_of_bot rfl
      intro _
      dsimp only
      omega
    have hdue := due_gasPayment st.config.gasDenom info.sender st.config.keeperReward
    refine ⟨hreserved, rfl, ?_, fun _ => hreserved, ?_⟩
    · show _ + due _ (r.messages ++ [gasPayment st.config.gasDenom info.sender st.config.keeperReward]) ≤ _
      rw [credit_of_bot rfl, credit_of_bot hbot, due_append, hms.due, hdue]
      dsimp only
      omega
    · intro hreward
      exact hms.paysGas.append (paysGas_gasPayment hreward)
  · cases h
    refine ⟨reserved_of_bot hbot fun _ => by omega, rfl, ?_, fun hst => hst, fun _ => hms.paysGas⟩
    rw [hms.due]
    omega

lemma executeReconcile_move {ids : List ℕ} (h : executeReconcile q env st info botId ids = .ok (st', r)) :
    GasMove st st' paid r.messages := by
  simp only [executeReconcile, bind_eq_ok, ensure_eq_ok, exists_const, loadBot_eq_ok, Prod.exists,
    decide_eq_true_eq] at h
  obtain ⟨_, -, _, -, bot, ⟨rfl, hbot⟩, -, _, -, required, hrequired, hgas, credited, bot₁, hsync, sweep, -, -, st₂,
    bot₂, fee, hfee, st₃, r₃, hclaim, hpay⟩ := h
  obtain ⟨live, rfl, -⟩ := syncFreeBalances_spec hsync
  obtain ⟨cache, shares, totalShares, rfl, rfl⟩ := chargeFee_frame hfee
  obtain ⟨pages, hpages, -, honly, pending, next, rfl⟩ := claimPages_spec hclaim
  have hnocoins : NoCoins r₃.messages := by
    rw [hpages]
    exact fun m hm => (honly m hm).2
  have hpaid : Reserved st' ∧ GasMove _ st' paid r.messages := payKeeper_move hpay rfl hrequired hgas hnocoins
  refine ⟨hpaid.2.terms, ?_, fun _ => hpaid.1, hpaid.2.coins⟩
  rw [credit_of_bot hbot]
  exact hpaid.2.credit

lemma burn_move {bot bot' : Bot} {shares : ExtTreeMap Addr Uint128} {ms : List (SubMsg CosmosMsg)}
    (hbot : st.bot = some bot) (hcredit : bot'.gasCredit = bot.gasCredit)
    (hburned : bot'.totalShares.val ≤ bot.totalShares.val) (hms : NoCoins ms) :
    GasMove st { st with bot := some bot', shares } paid ms := by
  refine ⟨rfl, ?_, ?_, fun _ => hms.paysGas⟩
  · rw [credit_of_bot rfl, credit_of_bot hbot, hms.due, hcredit]
    exact Nat.le_add_right ..
  · intro hst
    apply reserved_of_bot rfl
    intro hshares
    rw [hcredit]
    apply hst _ _ (gauge_of_bot hbot)
    intro hzero
    rw [hzero] at hburned
    exact hshares (Nat.le_zero.mp hburned)

lemma redeem_move {bot : Bot} {holder : Addr} {shares : Uint128} {recipient : Option String}
    {attributes : List (String × String)} (hbot : st.bot = some bot)
    (h : redeem q st bot holder shares recipient attributes = .ok (st', r)) : GasMove st st' paid r.messages := by
  simp only [redeem, bind_eq_ok, checkedSub_eq_ok, Except.ok.injEq, Prod.mk.injEq] at h
  obtain ⟨_, -, _, -, recipient, -, _, -, _, -, totalShares, ⟨-, hburned⟩, _, -, rfl, rfl⟩ := h
  refine burn_move hbot ?_ ?_ (noCoins_transfers bot recipient _)
  · rfl
  · dsimp only
    omega

lemma executeWithdraw_move {shares : Uint128} {recipient : Option String}
    (h : executeWithdraw q st info botId shares recipient = .ok (st', r)) : GasMove st st' paid r.messages := by
  simp only [executeWithdraw, bind_eq_ok, loadBot_eq_ok] at h
  obtain ⟨_, -, _, -, bot, ⟨-, hbot⟩, _, -, _, -, _, -, _, -, h⟩ := h
  exact redeem_move hbot h

lemma executeRedeemShares_move {recipient : Option String}
    (h : executeRedeemShares q st info botId recipient = .ok (st', r)) : GasMove st st' paid r.messages := by
  simp only [executeRedeemShares, bind_eq_ok, loadBot_eq_ok] at h
  obtain ⟨_, -, collector, -, _, -, bot, ⟨-, hbot⟩, _, -, _, -, h⟩ := h
  exact redeem_move hbot h

lemma executeEmergencyWithdraw_move {recipient : Option String}
    (h : executeEmergencyWithdraw q env st info botId recipient = .ok (st', r)) : GasMove st st' paid r.messages := by
  simp only [executeEmergencyWithdraw, bind_eq_ok, loadBot_eq_ok, checkedSub_eq_ok, Except.ok.injEq, Prod.exists,
    Prod.mk.injEq] at h
  obtain ⟨_, -, _, -, bot, ⟨-, hbot⟩, _, -, _, -, _, -, recipient, -, _, _, -, _, _, -, totalShares, ⟨-, hburned⟩,
    rfl, rfl⟩ := h
  refine burn_move hbot ?_ ?_ (noCoins_transfers bot recipient _)
  · rfl
  · dsimp only
    omega

lemma executeUpdatePairCode_quiet {codeId : ℕ} (h : executeUpdatePairCode st info botId codeId = .ok (st', r)) :
    Quiet st st' [] r.messages := by
  simp only [executeUpdatePairCode, bind_eq_ok, loadBot_eq_ok, Except.ok.injEq, Prod.mk.injEq] at h
  obtain ⟨_, -, _, -, _, -, bot, ⟨-, hbot⟩, rfl, rfl⟩ := h
  exact ⟨rfl, by simp [gauge, hbot], [], rfl, .nil⟩

lemma executeUpdateKeeper_quiet {keeper : String} (h : executeUpdateKeeper q st info keeper = .ok (st', r)) :
    Quiet st st' [] r.messages := by
  simp only [executeUpdateKeeper, bind_eq_ok, Except.ok.injEq, Prod.mk.injEq] at h
  obtain ⟨_, -, _, -, keeper, -, rfl, rfl⟩ := h
  exact ⟨rfl, rfl, [], rfl, .nil⟩

lemma executeTransferAdmin_quiet {admin : String} (h : executeTransferAdmin q st info admin = .ok (st', r)) :
    Quiet st st' [] r.messages := by
  simp only [executeTransferAdmin, bind_eq_ok, Except.ok.injEq, Prod.mk.injEq] at h
  obtain ⟨_, -, admin, -, _, -, rfl, rfl⟩ := h
  exact ⟨rfl, rfl, [], rfl, .nil⟩

lemma executeAcceptAdmin_quiet (h : executeAcceptAdmin st info = .ok (st', r)) : Quiet st st' [] r.messages := by
  simp only [executeAcceptAdmin, bind_eq_ok, Except.ok.injEq, Prod.mk.injEq] at h
  obtain ⟨_, -, _, -, rfl, rfl⟩ := h
  exact ⟨rfl, rfl, [], rfl, .nil⟩

lemma executeEnterExit_quiet (h : executeEnterExit st info botId = .ok (st', r)) : Quiet st st' [] r.messages := by
  simp only [executeEnterExit, bind_eq_ok, Except.ok.injEq, Prod.mk.injEq] at h
  obtain ⟨_, -, bot, -, _, -, _, -, rfl, rfl⟩ := h
  exact ⟨rfl, rfl, [], rfl, .nil⟩

theorem execute_move {msg : ExecuteMsg} (h : execute q env st info msg = .ok (st', r)) :
    GasMove st st' (total st.config.gasDenom info.funds) r.messages := by
  cases msg with
  | createBot pair lowerPrice upperPrice gridCount => exact executeCreateBot_move h
  | receive msg => exact executeReceive_move h
  | fundGas botId => exact executeFundGas_move h
  | withdrawGas botId amount recipient => exact executeWithdrawGas_move h
  | allocate botId => exact (executeAllocate_quiet h).gasMove
  | syncBalances botId => exact (executeSyncBalances_quiet h).gasMove
  | reconcile botId orderIds => exact executeReconcile_move h
  | recoverOrder botId orderId rungIndex => exact (executeRecoverOrder_quiet h).gasMove
  | cancelAll botId => exact (executeCancelAll_quiet h).gasMove
  | withdraw botId shares recipient => exact executeWithdraw_move h
  | redeemShares botId recipient => exact executeRedeemShares_move h
  | updateKeeper keeper => exact (executeUpdateKeeper_quiet h).gasMove
  | updatePairCode botId codeId => exact (executeUpdatePairCode_quiet h).gasMove
  | addAllowedToken token => exact (updateTokenPolicy_quiet h fun _ => ⟨rfl, rfl⟩).gasMove
  | removeAllowedToken token => exact (updateTokenPolicy_quiet h fun _ => ⟨rfl, rfl⟩).gasMove
  | quarantineToken token => exact (updateTokenPolicy_quiet h fun _ => ⟨rfl, rfl⟩).gasMove
  | unquarantineToken token => exact (updateTokenPolicy_quiet h fun _ => ⟨rfl, rfl⟩).gasMove
  | transferAdmin admin => exact (executeTransferAdmin_quiet h).gasMove
  | acceptAdmin => exact (executeAcceptAdmin_quiet h).gasMove
  | pause => exact (switchMode_quiet h).gasMove
  | resume => exact (switchMode_quiet h).gasMove
  | enterExit botId => exact (executeEnterExit_quiet h).gasMove
  | emergencyCancel botId => exact (executeEmergencyCancel_quiet h).gasMove
  | emergencyWithdraw botId recipient => exact executeEmergencyWithdraw_move h

lemma instantiate_gas {msg : InstantiateMsg} (h : instantiate q info msg = .ok (st, r)) :
    gauge st = none ∧ 0 < st.config.keeperReward.val ∧ r.messages = [] := by
  obtain ⟨config, rfl, hmessages, hreward, -⟩ := instantiate_spec h
  exact ⟨rfl, Nat.pos_of_ne_zero hreward, hmessages⟩

end Moves

end Cl8yDexBots.LimitGrid.GasLedger
