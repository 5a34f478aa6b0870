import Cl8yDexBots.LimitGrid.FeeBase

/-! The solvency query, which compares the ledger with balances and orders as they are reported. -/

namespace Cl8yDexBots.LimitGrid.SolvencyQuery

open Std (ExtTreeMap)
open Foundation.Checked Foundation.Words Foundation.StorageMap CosmWasm.Std
open State Effects FeeBase

structure Audit where
  expected : Fin 2 → Uint128
  onChainEscrow : Fin 2 → Uint128
  activeEscrowOrders : ℕ
  parkedRefundOrders : ℕ
  executedOrders : ℕ
  cancelledOrders : ℕ
  unverifiableOrders : ℕ
  warnings : List String

structure SolvencyResponse where
  expected : Fin 2 → Uint128
  actual : Fin 2 → Uint128
  activeEscrowOrders : ℕ
  parkedRefundOrders : ℕ
  executedOrders : ℕ
  cancelledOrders : ℕ
  unverifiableOrders : ℕ
  warnings : List String

def Audit.unverifiable (s : Audit) (warning : String) : Audit :=
  { s with unverifiableOrders := s.unverifiableOrders + 1, warnings := s.warnings ++ [warning] }

def Audit.addEscrow (s : Audit) (index : Fin 2) (amount : Uint128) : Except StdError Audit := do
  let escrow ← checkedAdd (s.onChainEscrow index) amount
  .ok { s with onChainEscrow := Function.update s.onChainEscrow index escrow }

def auditParked (q : Querier) (env : Env) (st : Storage) (pair : Addr) (s : Audit) (orderId : ℕ) (order : GridOrder) :
    Except StdError Audit :=
  match q.expiredLimitRefund pair orderId with
  | .ok (some refund) =>
    if refund.orderId = orderId ∧ refund.owner = env.contract ∧ refund.side = order.side ∧
        refund.remaining ≤ order.remaining then do
      let s ← s.addEscrow order.side.tokenIndex refund.remaining
      .ok { s with parkedRefundOrders := s.parkedRefundOrders + 1 }
    else .ok (s.unverifiable s!"order {orderId} parked refund fields are invalid")
  | .ok none =>
    if st.cancelledOrders.contains orderId then .ok { s with cancelledOrders := s.cancelledOrders + 1 }
    else .ok { s with executedOrders := s.executedOrders + 1 }
  | .error _ => .ok (s.unverifiable s!"order {orderId} escrow could not be verified")

def auditOrder (q : Querier) (env : Env) (st : Storage) (pair : Addr) (s : Audit) (tracked : ℕ × GridOrder) :
    Except StdError Audit := do
  let (orderId, order) := tracked
  let index := order.side.tokenIndex
  let expected ← checkedAdd (s.expected index) order.remaining
  let s := { s with expected := Function.update s.expected index expected }
  (match q.limitOrder pair orderId with
  | .ok onChain =>
    if onChain.orderId = orderId ∧ onChain.owner = env.contract ∧ onChain.side = order.side ∧
        onChain.price = order.price ∧ onChain.remaining ≤ order.remaining then do
      let s ← s.addEscrow index onChain.remaining
      .ok { s with activeEscrowOrders := s.activeEscrowOrders + 1 }
    else .ok (s.unverifiable s!"order {orderId} active escrow fields are invalid")
  | .error _ => auditParked q env st pair s orderId order : Except StdError Audit)

def actualBalance (q : Querier) (env : Env) (bot : Bot) (s : Audit) (i : Fin 2) : Except StdError Uint128 := do
  let balance ← q.balance (bot.assetTokens i) env.contract
  checkedAdd balance (s.onChainEscrow i)

def checkSolvency (q : Querier) (env : Env) (st : Storage) (botId : ℕ) : Except StdError SolvencyResponse := do
  let bot ← orError (if botId = BOT_ID then st.bot else none) (.notFound "bot")
  let s ← foldChecked (auditOrder q env st bot.pair) ⟨bot.freeBalances, fun _ => 0, 0, 0, 0, 0, 0, []⟩ st.orders.toList
  let actual0 ← actualBalance q env bot s 0
  let actual1 ← actualBalance q env bot s 1
  .ok ⟨s.expected, ![actual0, actual1], s.activeEscrowOrders, s.parkedRefundOrders, s.executedOrders,
    s.cancelledOrders, s.unverifiableOrders, s.warnings⟩

variable {q : Querier} {env : Env} {st : Storage} {pair : Addr} {s : Audit}

def AsRecorded (q : Querier) (env : Env) (pair : Addr) (id : ℕ) (order : GridOrder) : Prop :=
  OnBook q env pair id order.side order.price order.remaining

lemma checkedAdd_of_lt {a b : Uint128} (h : a.val + b.val < 2 ^ 128) :
    ∃ c : Uint128, (checkedAdd a b : Except StdError Uint128) = .ok c ∧ c.val = a.val + b.val := by
  refine ⟨⟨a.val + b.val, h⟩, ?_, rfl⟩
  rw [checkedAdd_eq_ok]

lemma update_add {f : Fin 2 → Uint128} {index : Fin 2} {c amount : Uint128} (h : c.val = (f index).val + amount.val)
    (i : Fin 2) : (Function.update f index c i).val = (f i).val + if index = i then amount.val else 0 := by
  by_cases hi : index = i
  · subst hi
    rw [Function.update_self, if_pos rfl, h]
  · rw [Function.update_of_ne (Ne.symm hi), if_neg hi, Nat.add_zero]

structure Found (s s' : Audit) (n : ℕ) (escrow : Fin 2 → ℕ) : Prop where
  expected : ∀ i, (s'.expected i).val = (s.expected i).val + escrow i
  onChainEscrow : ∀ i, (s'.onChainEscrow i).val = (s.onChainEscrow i).val + escrow i
  active : s'.activeEscrowOrders = s.activeEscrowOrders + n
  parked : s'.parkedRefundOrders = s.parkedRefundOrders
  executed : s'.executedOrders = s.executedOrders
  cancelled : s'.cancelledOrders = s.cancelledOrders
  unverifiable : s'.unverifiableOrders = s.unverifiableOrders
  warnings : s'.warnings = s.warnings

lemma Found.trans {s s' s'' : Audit} {m n : ℕ} {f g : Fin 2 → ℕ} (h : Found s s' m f) (h' : Found s' s'' n g) :
    Found s s'' (m + n) fun i => f i + g i where
  expected i := by rw [h'.expected, h.expected, Nat.add_assoc]
  onChainEscrow i := by rw [h'.onChainEscrow, h.onChainEscrow, Nat.add_assoc]
  active := by rw [h'.active, h.active, Nat.add_assoc]
  parked := h'.parked.trans h.parked
  executed := h'.executed.trans h.executed
  cancelled := h'.cancelled.trans h.cancelled
  unverifiable := h'.unverifiable.trans h.unverifiable
  warnings := h'.warnings.trans h.warnings

lemma auditOrder_recorded (st : Storage) {e : ℕ × GridOrder} (h : AsRecorded q env pair e.1 e.2)
    (covered : ∀ i, (s.onChainEscrow i).val ≤ (s.expected i).val)
    (room : ∀ i, (s.expected i).val + ofToken i inRecord e.1 e.2 < 2 ^ 128) :
    ∃ s', auditOrder q env st pair s e = .ok s' ∧ Found s s' 1 fun i => ofToken i inRecord e.1 e.2 := by
  obtain ⟨id, order⟩ := e
  dsimp only at h room ⊢
  have hroom := room order.side.tokenIndex
  rw [ofToken, if_pos rfl, inRecord] at hroom
  have hcovered := covered order.side.tokenIndex
  obtain ⟨expected, hexpected, hsum⟩ := checkedAdd_of_lt hroom
  obtain ⟨escrow, hescrow, hheld⟩ := checkedAdd_of_lt (a := s.onChainEscrow order.side.tokenIndex)
    (b := order.remaining) (by omega)
  have hbook : q.limitOrder pair id = .ok ⟨id, env.contract, order.side, order.price, order.remaining⟩ := h
  refine ⟨{ s with
    expected := Function.update s.expected order.side.tokenIndex expected
    onChainEscrow := Function.update s.onChainEscrow order.side.tokenIndex escrow
    activeEscrowOrders := s.activeEscrowOrders + 1 }, ?_, ?_⟩
  · simp only [auditOrder, hexpected, ok_bind, hbook, le_refl, and_self, if_true, Audit.addEscrow, hescrow]
  · exact ⟨update_add hsum, update_add hheld, rfl, rfl, rfl, rfl, rfl, rfl⟩

lemma audit_recorded (st : Storage) {es : List (ℕ × GridOrder)} (h : ∀ e ∈ es, AsRecorded q env pair e.1 e.2)
    (covered : ∀ i, (s.onChainEscrow i).val ≤ (s.expected i).val)
    (room : ∀ i, (s.expected i).val + (es.map fun e => ofToken i inRecord e.1 e.2).sum < 2 ^ 128) :
    ∃ s', foldChecked (auditOrder q env st pair) s es = .ok s' ∧
      Found s s' es.length fun i => (es.map fun e => ofToken i inRecord e.1 e.2).sum := by
  induction es generalizing s with
  | nil => exact ⟨s, rfl, fun _ => rfl, fun _ => rfl, rfl, rfl, rfl, rfl, rfl, rfl⟩
  | cons e es ih =>
    have hroom : ∀ i, (s.expected i).val + ofToken i inRecord e.1 e.2 +
        (es.map fun e => ofToken i inRecord e.1 e.2).sum < 2 ^ 128 := by
      intro i
      have hi := room i
      rwa [List.map_cons, List.sum_cons, ← Nat.add_assoc] at hi
    obtain ⟨s₁, hfirst, hfound⟩ := auditOrder_recorded st (h e List.mem_cons_self) covered fun i =>
      (Nat.le_add_right ..).trans_lt (hroom i)
    obtain ⟨s', hrest, hfound'⟩ := ih (s := s₁) (fun e he => h e (List.mem_cons_of_mem _ he))
      (fun i => by
        rw [hfound.expected, hfound.onChainEscrow]
        exact Nat.add_le_add_right (covered i) _)
      (fun i => by
        rw [hfound.expected]
        exact hroom i)
    refine ⟨s', ?_, ?_⟩
    · rw [foldChecked, hfirst]
      exact hrest
    · have hboth := hfound.trans hfound'
      simpa only [List.map_cons, List.sum_cons, List.length_cons, Nat.add_comm 1] using hboth

/-- A report of the free balances with the recorded remainders on one side, the live balances with what the pair holds
on the other, which finds everything where the ledger has it. -/
structure Exact (q : Querier) (env : Env) (st : Storage) (bot : Bot) (report : SolvencyResponse) : Prop where
  expected : ∀ i, (report.expected i).val = (bot.freeBalances i).val + overOrders st.orders i inRecord
  actual : ∀ i, ∃ live, q.balance (bot.assetTokens i) env.contract = .ok live ∧
    (report.actual i).val = live.val + overOrders st.orders i fun id _ => onPair q bot.pair id
  balanced : ∀ i, report.expected i = report.actual i
  active : report.activeEscrowOrders = st.orders.size
  parked : report.parkedRefundOrders = 0
  executed : report.executedOrders = 0
  cancelled : report.cancelledOrders = 0
  unverifiable : report.unverifiableOrders = 0
  silent : report.warnings = []

lemma onPair_recorded (recorded : ∀ id order, st.orders[id]? = some order → AsRecorded q env pair id order)
    (i : Fin 2) : (overOrders st.orders i fun id _ => onPair q pair id) = overOrders st.orders i inRecord := by
  apply keyedTotal_congr
  intro id
  cases horder : st.orders[id]? with
  | none => simp [keyedWeight, horder]
  | some order => simp [keyedWeight, horder, ofToken, inRecord, onPair_of_onBook (recorded id order horder)]

theorem checkSolvency_exact {bot : Bot} (hbot : st.bot = some bot)
    (recorded : ∀ id order, st.orders[id]? = some order → AsRecorded q env bot.pair id order)
    (balances : ∀ i, q.balance (bot.assetTokens i) env.contract = .ok (bot.freeBalances i))
    (room : ∀ i, (bot.freeBalances i).val + overOrders st.orders i inRecord < 2 ^ 128) :
    ∃ report, checkSolvency q env st BOT_ID = .ok report ∧ Exact q env st bot report := by
  have hstart : ∀ e ∈ st.orders.toList, AsRecorded q env bot.pair e.1 e.2 :=
    fun e he => recorded e.1 e.2 (mem_toList_iff.mp he)
  obtain ⟨s, haudit, hfound⟩ := audit_recorded st (s := ⟨bot.freeBalances, fun _ => 0, 0, 0, 0, 0, 0, []⟩)
    hstart (fun i => Nat.zero_le _) room
  have hescrow : ∀ i, (s.onChainEscrow i).val = overOrders st.orders i inRecord := by
    intro i
    exact (hfound.onChainEscrow i).trans (Nat.zero_add _)
  have hexpected : ∀ i, (s.expected i).val = (bot.freeBalances i).val + overOrders st.orders i inRecord :=
    hfound.expected
  have hactual : ∀ i, actualBalance q env bot s i = .ok (s.expected i) := by
    intro i
    simp only [actualBalance, balances i, ok_bind, checkedAdd_eq_ok, hescrow]
    exact hexpected i
  refine ⟨⟨s.expected, ![s.expected 0, s.expected 1], s.activeEscrowOrders, s.parkedRefundOrders, s.executedOrders,
    s.cancelledOrders, s.unverifiableOrders, s.warnings⟩, ?_, ?_⟩
  · simp only [checkSolvency, if_true, hbot, orError, ok_bind, haudit, hactual]
  · have hbalanced : ∀ i, s.expected i = ![s.expected 0, s.expected 1] i := by
      intro i
      fin_cases i <;> rfl
    refine ⟨hexpected, ?_, hbalanced, ?_, hfound.parked, hfound.executed, hfound.cancelled, hfound.unverifiable,
      hfound.warnings⟩
    · intro i
      refine ⟨bot.freeBalances i, balances i, ?_⟩
      rw [onPair_recorded recorded, ← hexpected, hbalanced i]
    · rw [← ExtTreeMap.length_toList]
      exact hfound.active.trans (Nat.zero_add _)

end Cl8yDexBots.LimitGrid.SolvencyQuery
