import Cl8yDexBots.MarketGrid.DepositFairness
import Cl8yDexBots.MarketGrid.FeeRedemption

/-! Leaving the market-grid vault: any holders, any parts of their shares, in any order. -/

namespace Cl8yDexBots.MarketGrid.FullExit

open Foundation.Checked Foundation.Words Foundation.SubMessages Foundation.ProRata Foundation.StorageMap CosmWasm.Std
open SwapVault.Pricing State Planning Vault Runs DepositFairness ShareLedger FeeRedemption

/-- Committed messages one after the other; while the swap of a rebalance is under way, others may come. -/
inductive Committed : Storage → Storage → Prop
  | done {st} : Committed st st
  | message {q env st info msg st₁ r st'} (other : ∀ deadline, msg ≠ .rebalance deadline)
      (h : execute q env st info msg = .ok (st₁, r)) (rest : Committed st₁ st') : Committed st st'
  | rebalance {q env st info deadline st₁ r st₂ q' env' st₃ r' st'}
      (h : execute q env st info (.rebalance deadline) = .ok (st₁, r)) (swap : Committed st₁ st₂)
      (answer : reply q' env' st₂ rebalanceReplyId = .ok (st₃, r')) (rest : Committed st₃ st') : Committed st st'

/-- The states between the transactions of a run. -/
def Between (st : Storage) : Prop :=
  ∃ q info msg st₀ r, instantiate q info msg = .ok (st₀, r) ∧ Committed st₀ st

variable {q : Querier} {env : Env} {st st' : Storage} {info : MessageInfo} {r : Response WasmMsg}

section Transactions

lemma execute_pending {msg : ExecuteMsg} (other : ∀ deadline, msg ≠ .rebalance deadline)
    (h : execute q env st info msg = .ok (st', r)) : st'.pendingSwap = st.pendingSwap := by
  cases msg with
  | receive msg =>
    simp only [execute, executeReceive, bind_eq_ok, Except.ok.injEq, Prod.mk.injEq] at h
    obtain ⟨_, -, _, -, _, -, _, -, _, -, _, -, _, -, _, -, _, -, _, -, _, -, _, -, _, -, rfl, -⟩ := h
    rfl
  | withdraw shares recipient =>
    simp only [execute, executeWithdraw, bind_eq_ok, Except.ok.injEq, Prod.mk.injEq] at h
    obtain ⟨_, -, _, -, _, -, _, -, _, -, _, -, _, -, _, -, _, -, _, -, rfl, -⟩ := h
    rfl
  | rebalance deadline => exact absurd rfl (other deadline)
  | updateConfig msg =>
    simp only [execute, executeUpdateConfig, bind_eq_ok, Except.ok.injEq, Prod.mk.injEq] at h
    obtain ⟨_, -, _, -, _, -, _, -, _, -, _, -, _, -, _, -, _, -, _, -, rfl, -⟩ := h
    rfl
  | transferAdmin admin =>
    simp only [execute, executeTransferAdmin, bind_eq_ok, Except.ok.injEq, Prod.mk.injEq] at h
    obtain ⟨_, -, _, -, _, -, _, -, rfl, -⟩ := h
    rfl
  | acceptAdmin =>
    simp only [execute, executeAcceptAdmin, bind_eq_ok, Except.ok.injEq, Prod.mk.injEq] at h
    obtain ⟨_, -, _, -, st₁, hmoved, rfl, -⟩ := h
    exact (moveShares_keeps hmoved).2
  | pause =>
    simp only [execute, executePause, bind_eq_ok, Except.ok.injEq, Prod.mk.injEq] at h
    obtain ⟨_, -, _, -, _, -, rfl, -⟩ := h
    rfl
  | resume =>
    simp only [execute, executeResume, bind_eq_ok, Except.ok.injEq, Prod.mk.injEq] at h
    obtain ⟨_, -, _, -, _, -, rfl, -⟩ := h
    rfl
  | redeemShares botId recipient =>
    simp only [execute, executeRedeemShares, bind_eq_ok, Except.ok.injEq, Prod.mk.injEq] at h
    obtain ⟨_, -, _, -, _, -, _, -, _, -, _, -, _, -, _, -, _, -, _, -, _, -, rfl, -⟩ := h
    rfl

lemma executeRebalance_idle {deadline : ℕ} (h : execute q env st info (.rebalance deadline) = .ok (st', r)) :
    st.pendingSwap = none := by
  simp only [execute, executeRebalance, bind_eq_ok, ensure_eq_ok, Option.isNone_iff_eq_none] at h
  obtain ⟨_, -, _, -, _, hnone, -⟩ := h
  exact hnone

lemma chargeFee_frame {value assetValue : Uint128} {fee : Option FeeApplied}
    (h : chargeFee q st value assetValue = .ok (st', fee)) :
    ∃ effectiveFeeCache shares totalShares, st' = { st with effectiveFeeCache, shares, totalShares } := by
  have hresolve : ∀ registry, ∃ cache, (resolveFee q st registry).1 = { st with effectiveFeeCache := cache } := by
    intro registry
    rw [resolveFee]
    split
    · exact ⟨_, rfl⟩
    · split <;> exact ⟨_, rfl⟩
  rw [chargeFee] at h
  split at h
  · rename_i registry collector _ _
    obtain ⟨cache, hcache⟩ := hresolve registry
    split at h
    · cases h
      exact ⟨_, _, _, rfl⟩
    · simp only [hcache] at h
      split at h
      · cases h
        exact ⟨_, _, _, rfl⟩
      · simp only [bind_eq_ok] at h
        obtain ⟨feeValue, -, h⟩ := h
        split at h
        · cases h
          exact ⟨_, _, _, rfl⟩
        · simp only [bind_eq_ok] at h
          obtain ⟨feeShares, -, h⟩ := h
          split at h
          · cases h
            exact ⟨_, _, _, rfl⟩
          · simp only [mintFee, bind_eq_ok, Except.ok.injEq, Prod.mk.injEq] at h
            obtain ⟨_, ⟨_, -, _, -, rfl⟩, rfl, -⟩ := h
            exact ⟨_, _, _, rfl⟩
  · cases h
    exact ⟨_, _, _, rfl⟩

lemma reply_idle {id : ℕ} (h : reply q env st id = .ok (st', r)) : st'.pendingSwap = none := by
  simp only [reply, bind_eq_ok, Except.ok.injEq, Prod.mk.injEq, Prod.exists] at h
  obtain ⟨_, -, pending, -, settled, -, current, within, -, config, hconfig, value, -, assetValue, -, st₁, fee, hfee,
    rfl, -⟩ := h
  obtain ⟨cache, shares, totalShares, rfl⟩ := chargeFee_frame hfee
  rfl

lemma Committed.pending (h : Committed st st') : st'.pendingSwap = st.pendingSwap := by
  induction h with
  | done => rfl
  | message other h rest ih => exact ih.trans (execute_pending other h)
  | rebalance h swap answer rest ihswap ihrest =>
    rw [ihrest, reply_idle answer, executeRebalance_idle h]

lemma Committed.reachable (h : Committed st st') (start : Reachable st) : Reachable st' := by
  induction h with
  | done => exact start
  | message other h rest ih => exact ih (start.executed h)
  | rebalance h swap answer rest ihswap ihrest => exact ihrest ((ihswap (start.executed h)).replied answer)

lemma Between.reachable (h : Between st) : Reachable st := by
  obtain ⟨q, info, msg, st₀, r, hopening, hrun⟩ := h
  exact hrun.reachable (.instantiated hopening)

lemma Between.idle (h : Between st) : st.pendingSwap = none := by
  obtain ⟨q, info, msg, st₀, r, hopening, hrun⟩ := h
  rw [hrun.pending]
  simp only [instantiate, bind_eq_ok, Except.ok.injEq, Prod.mk.injEq] at hopening
  obtain ⟨_, -, _, -, _, -, _, -, _, -, _, -, _, -, _, -, _, -, _, -, _, -, _, -, _, -, _, -, _, -, _, -, _, -, rfl,
    -⟩ := hopening
  rfl

end Transactions

section Leaving

abbrev Held := Fin 2 → Uint128

def without (held : Held) (paid : Fin 2 → ℕ) : Held :=
  fun i => ⟨(held i).val - paid i, (Nat.sub_le _ _).trans_lt (held i).lt⟩

structure Request where
  holder : Addr
  shares : Uint128
  recipient : Option String

def Request.to (request : Request) : Addr := request.recipient.getD request.holder

/-- The transfers of a response that take tokens away from the vault: a token that the vault sends to itself stays. -/
def goingOut (vault : Addr) (messages : List (SubMsg WasmMsg)) : List (SubMsg WasmMsg) :=
  messages.filter fun m => match m.msg.msg with
    | .transfer recipient _ => recipient ≠ vault
    | _ => true

/-- Withdrawals one after the other, with what each sends away taken from the vault's balances. -/
def leave (chain : Held → Querier) (env : Env) :
    Storage → Held → List Request → Result (Storage × Held × List (Fin 2 → ℕ))
  | st, held, [] => .ok (st, held, [])
  | st, held, request :: requests => do
    let (st', r) ← execute (chain held) env st ⟨request.holder, []⟩ (.withdraw request.shares request.recipient)
    let paid := paidOut st.config r.messages
    let sent := paidOut st.config (goingOut env.contract r.messages)
    let (st'', held', rest) ← leave chain env st' (without held sent) requests
    .ok (st'', held', paid :: rest)

def asked (requests : List Request) : List ℕ := requests.map fun request => request.shares.val

def parts (vault : Addr) (requests : List Request) : List (ℕ × Bool) :=
  requests.map fun request => (request.shares.val, decide (request.to = vault))

def askedBy (holder : Addr) (requests : List Request) : ℕ :=
  (asked (requests.filter fun request => request.holder = holder)).sum

/-- Tokens that tell the vault's balances as they are, and addresses that are good. -/
structure Honest (chain : Held → Querier) (env : Env) (config : Config) (requests : List Request) : Prop where
  told : ∀ held i, (chain held).balance (config.assetTokens i) env.contract = .ok (held i)
  valid : ∀ request ∈ requests, ∀ held, (chain held).addrValidate request.to = .ok request.to

variable {chain : Held → Querier} {held : Held} {request : Request} {requests : List Request}

lemma goingOut_transfers (vault recipient : Addr) (config : Config) (amounts : Fin 2 → Uint128) :
    goingOut vault (transfers config recipient amounts) =
      if recipient = vault then [] else transfers config recipient amounts := by
  have hkeeps : ∀ m ∈ transfers config recipient amounts, ∃ amount, m.msg.msg = .transfer recipient amount := by
    intro m hm
    simp only [transfers, List.mem_filterMap] at hm
    obtain ⟨i, -, hm⟩ := hm
    split at hm
    · cases hm
    · cases hm
      exact ⟨_, rfl⟩
  split
  · rename_i hsame
    rw [goingOut, List.filter_eq_nil_iff]
    intro m hm
    obtain ⟨amount, hmsg⟩ := hkeeps m hm
    simp [hmsg, hsame]
  · rename_i hne
    rw [goingOut, List.filter_eq_self]
    intro m hm
    obtain ⟨amount, hmsg⟩ := hkeeps m hm
    simp [hmsg, hne]

lemma withdraw_accepted (held : Held) (hreach : Reachable st) (hidle : st.pendingSwap = none)
    (honest : Honest chain env st.config (request :: requests)) (some_shares : request.shares.val ≠ 0)
    (owned : request.shares.val ≤ (sharesOf st request.holder).val) :
    ∃ st' r, execute (chain held) env st ⟨request.holder, []⟩ (.withdraw request.shares request.recipient) =
        .ok (st', r) ∧ st'.config = st.config ∧ st'.pendingSwap = none ∧
      st'.totalShares.val + request.shares.val = st.totalShares.val ∧
      (∀ holder, (sharesOf st' holder).val + (if holder = request.holder then request.shares.val else 0) =
        (sharesOf st holder).val) ∧
      ∀ i, paidOut st.config r.messages i = slice (held i).val request.shares.val st.totalShares.val ∧
        paidOut st.config (goingOut env.contract r.messages) i =
          if request.to = env.contract then 0 else slice (held i).val request.shares.val st.totalShares.val := by
  have hrecipient : (chain held).addrValidate (request.recipient.getD request.holder) = .ok request.to :=
    honest.valid request List.mem_cons_self held
  have htotal : request.shares.val ≤ st.totalShares.val := owned.trans (sharesOf_le hreach request.holder)
  have hheld : balances (chain held) env.contract st.config = (.ok held : Result _) :=
    balances_eq_ok.mpr ⟨honest.told held 0, honest.told held 1⟩
  obtain ⟨amount0, hamount0, hpaid0⟩ :=
    multiplyRatio_of_le (ε := ContractError) (a := held 0) (d := st.totalShares.val) (by omega) htotal
  obtain ⟨amount1, hamount1, hpaid1⟩ :=
    multiplyRatio_of_le (ε := ContractError) (a := held 1) (d := st.totalShares.val) (by omega) htotal
  have hpos : isZero request.shares = false := isZero_eq_false.mpr some_shares
  have howned : request.shares ≤ sharesOf st request.holder ∧ request.shares ≤ st.totalShares := ⟨owned, htotal⟩
  obtain ⟨total, htotal', hleft⟩ : ∃ total : Uint128,
      (checkedSub st.totalShares request.shares : Result _) = .ok total ∧
        total.val + request.shares.val = st.totalShares.val :=
    ⟨_, checkedSub_of_le htotal, Nat.sub_add_cancel htotal⟩
  obtain ⟨rest, hrest, hkept⟩ : ∃ rest : Uint128, (checkedSub (sharesOf st request.holder) request.shares : Result _) =
      .ok rest ∧ rest.val + request.shares.val = (sharesOf st request.holder).val :=
    ⟨_, checkedSub_of_le owned, Nat.sub_add_cancel owned⟩
  have hexec : execute (chain held) env st ⟨request.holder, []⟩ (.withdraw request.shares request.recipient) =
      .ok ({ st with totalShares := total, shares := st.shares.insert request.holder rest },
        ⟨transfers st.config request.to ![amount0, amount1],
          [("action", "withdraw"), ("burned_shares", toString request.shares.val)]⟩) := by
    simp only [execute, executeWithdraw, assertNoFunds, ensure, List.isEmpty_nil, hpos, howned, hidle, hheld,
      hrecipient, liftStd, hamount0, hamount1, htotal', hrest, ok_bind, if_true, Option.isNone_none, Bool.not_false,
      decide_true, and_self]
  refine ⟨_, _, hexec, rfl, hidle, hleft, fun holder => ?_, fun i => ?_⟩
  · rw [sharesOf, lookup_insert]
    split
    · rename_i heq
      rw [if_pos heq.symm, ← heq]
      exact hkept
    · rename_i hne
      rw [if_neg (Ne.symm hne)]
      rfl
  · have hpaid : (![amount0, amount1] i).val = slice (held i).val request.shares.val st.totalShares.val := by
      fin_cases i
      · exact hpaid0
      · exact hpaid1
    rw [goingOut_transfers, ← hpaid]
    split
    · exact ⟨paidOut_transfers hreach.valid.tokens _ _ i, rfl⟩
    · exact ⟨paidOut_transfers hreach.valid.tokens _ _ i, paidOut_transfers hreach.valid.tokens _ _ i⟩

lemma askedBy_cons (holder : Addr) : askedBy holder (request :: requests) =
    (if holder = request.holder then request.shares.val else 0) + askedBy holder requests := by
  rw [askedBy, List.filter_cons]
  by_cases h : request.holder = holder
  · simp [h, asked, askedBy]
  · simp [h, Ne.symm h, asked, askedBy]

lemma leave_drains (held : Held) (hreach : Reachable st) (hidle : st.pendingSwap = none)
    (honest : Honest chain env st.config requests) (some_shares : ∀ request ∈ requests, request.shares.val ≠ 0)
    (owned : ∀ holder, askedBy holder requests ≤ (sharesOf st holder).val) :
    ∃ st' held' paids, leave chain env st held requests = .ok (st', held', paids) ∧
      st'.totalShares.val + (asked requests).sum = st.totalShares.val ∧
      ∀ i, paids.map (fun paid => paid i) = drain (held i).val st.totalShares.val (parts env.contract requests) ∧
        (held' i).val = drained (held i).val st.totalShares.val (parts env.contract requests) := by
  induction requests generalizing st held with
  | nil => exact ⟨st, held, [], rfl, rfl, fun i => ⟨rfl, rfl⟩⟩
  | cons request requests ih =>
    have hown := owned request.holder
    rw [askedBy_cons, if_pos rfl] at hown
    obtain ⟨st₁, r, hexec, hconfig, hidle₁, htotal, hshares, hpaid⟩ :=
      withdraw_accepted held hreach hidle honest (some_shares request List.mem_cons_self) (by omega)
    have honest₁ : Honest chain env st₁.config requests :=
      ⟨hconfig ▸ honest.told, fun r hr => honest.valid r (List.mem_cons_of_mem _ hr)⟩
    obtain ⟨st', held', paids, hrest, hsum, heach⟩ :=
      ih (without held (paidOut st.config (goingOut env.contract r.messages))) (hreach.executed hexec) hidle₁ honest₁
        (fun r hr => some_shares r (List.mem_cons_of_mem _ hr)) (fun holder => by
          have hholder := owned holder
          have hleft := hshares holder
          rw [askedBy_cons] at hholder
          omega)
    refine ⟨st', held', paidOut st.config r.messages :: paids, ?_, ?_, fun i => ?_⟩
    · simp only [leave, hexec, ok_bind, hrest]
    · simp only [asked, List.map_cons, List.sum_cons] at hsum ⊢
      omega
    · obtain ⟨hdrain, hdrained⟩ := heach i
      obtain ⟨hfirst, hsent⟩ := hpaid i
      have htotal₁ : st₁.totalShares.val = st.totalShares.val - request.shares.val := by omega
      have hleft : (held i).val - paidOut st.config (goingOut env.contract r.messages) i =
          if decide (request.to = env.contract) then (held i).val
          else (held i).val - slice (held i).val request.shares.val st.totalShares.val := by
        rw [hsent]
        by_cases hback : request.to = env.contract <;> simp [hback]
      simp only [without, hleft, htotal₁] at hdrain hdrained
      rw [List.map_cons, parts, List.map_cons, drain, drained, hfirst]
      exact ⟨congrArg _ hdrain, hdrained⟩

/-- Between any two transactions, holders who withdraw what they please of their shares, in any order, are all served,
each with at least what the shares would have brought before the others left; and when all the shares are out, and the
last payment does not go to the vault itself, nothing stays behind. -/
theorem leave_in_any_order (held : Held) (between : Between st) (honest : Honest chain env st.config requests)
    (some_shares : ∀ request ∈ requests, request.shares.val ≠ 0)
    (owned : ∀ holder, askedBy holder requests ≤ (sharesOf st holder).val) :
    ∃ st' held' paids, leave chain env st held requests = .ok (st', held', paids) ∧
      st'.totalShares.val + (asked requests).sum = st.totalShares.val ∧
      ∀ i, List.Forall₂ (fun request paid => slice (held i).val request.shares.val st.totalShares.val ≤ paid i) requests
          paids ∧
        (held' i).val + (List.zipWith (fun request paid => if request.to = env.contract then 0 else paid i) requests
          paids).sum = (held i).val ∧
        (∀ last ∈ requests.getLast?, last.to ≠ env.contract → st'.totalShares.val = 0 → (held' i).val = 0) := by
  obtain ⟨st', held', paids, hleave, hsum, heach⟩ :=
    leave_drains held between.reachable between.idle honest some_shares owned
  refine ⟨st', held', paids, hleave, hsum, fun i => ?_⟩
  obtain ⟨hdrain, hdrained⟩ := heach i
  have hasked : (parts env.contract requests).map Prod.fst = asked requests := by
    rw [parts, List.map_map]
    rfl
  have hparts : ((parts env.contract requests).map Prod.fst).sum ≤ st.totalShares.val := by
    rw [hasked]
    omega
  refine ⟨?_, ?_, fun last hlast hout hzero => ?_⟩
  · have hslices := slice_le_drain (held i).val hparts
    rw [← hdrain, parts, List.forall₂_map_left_iff, List.forall₂_map_right_iff] at hslices
    exact hslices
  · have hadd := drained_add (held i).val hparts
    rw [← hdrain, ← hdrained, parts, List.zipWith_map] at hadd
    simpa only [decide_eq_true_eq] using hadd
  · rw [hdrained]
    refine drained_eq_zero _ (by rw [hasked]; omega) ⟨last.shares.val, ?_, ?_⟩
    · rw [parts, List.getLast?_map, hlast]
      simp [hout]
    · exact Nat.pos_of_ne_zero (some_shares last (List.mem_of_getLast? hlast))

def chainHolding (held : Held) : Querier := fixedChain held .one 0

def opened : Result Storage := do
  let (st, _) ← instantiate (chainHolding ![u128 10, 0]) ⟨"admin", []⟩ (fixedMsg .one ⟨u128 (2 * 10 ^ 18)⟩ 10)
  let (st, _) ← execute (chainHolding ![u128 10, 0]) ⟨0, 0, "vault"⟩ st ⟨"token0", []⟩
    (.receive ⟨"admin", u128 10, some .deposit⟩)
  .ok st

def threeParts : List Request :=
  [⟨"admin", u128 4, none⟩, ⟨"admin", u128 2, some "vault"⟩, ⟨"admin", u128 4, some "safe"⟩]

theorem leave_in_three_parts : ∃ st st' held' paids, opened = .ok st ∧
    leave chainHolding ⟨0, 0, "vault"⟩ st ![u128 13, u128 5] threeParts = .ok (st', held', paids) ∧
      st'.totalShares.val = 0 ∧ (held' 0).val = 0 ∧ (held' 1).val = 0 := by
  have hruns : okAnd opened (fun st => decide (st.config.assetTokens = ![ "token0", "token1"] ∧
      st.totalShares.val = 10 ∧ (sharesOf st "admin").val = 10)) = true := by
    decide
  obtain ⟨st, hst, hchecked⟩ := okAnd_iff.mp hruns
  obtain ⟨htokens, htotal, hadmin⟩ := of_decide_eq_true hchecked
  have hbetween : Between st := by
    simp only [opened, bind_eq_ok, Prod.exists, Except.ok.injEq] at hst
    obtain ⟨st₀, r₀, hfresh, st₁, r₁, hdeposit, rfl⟩ := hst
    exact ⟨_, _, _, st₀, r₀, hfresh, .message (by simp) hdeposit .done⟩
  have honest : Honest chainHolding ⟨0, 0, "vault"⟩ st.config threeParts := by
    refine ⟨fun held i => ?_, fun request _ held => rfl⟩
    rw [htokens]
    fin_cases i <;> rfl
  have howned : ∀ holder, askedBy holder threeParts ≤ (sharesOf st holder).val := by
    intro holder
    rw [threeParts, askedBy_cons, askedBy_cons, askedBy_cons]
    by_cases hholder : holder = "admin"
    · subst hholder
      exact hadmin.symm ▸ (by decide)
    · rw [if_neg hholder, if_neg hholder]
      exact Nat.zero_le _
  obtain ⟨st', held', paids, hleave, hsum, heach⟩ :=
    leave_in_any_order ![u128 13, u128 5] hbetween honest (by decide) howned
  have hout : st'.totalShares.val = 0 := by
    rw [htotal] at hsum
    exact Nat.add_right_cancel (hsum.trans (Nat.zero_add 10).symm)
  have hlast : ∀ i, (held' i).val = 0 :=
    fun i => (heach i).2.2 ⟨"admin", u128 4, some "safe"⟩ rfl (by decide) hout
  exact ⟨st, st', held', paids, hst, hleave, hout, hlast 0, hlast 1⟩

end Leaving

end Cl8yDexBots.MarketGrid.FullExit
