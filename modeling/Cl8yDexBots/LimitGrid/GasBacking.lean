import Cl8yDexBots.Foundation.Reentrancy
import Cl8yDexBots.LimitGrid.GasLedger
import Cl8yDexBots.LimitGrid.OrderBook

/-! The coins behind the gas credit, whoever calls the vault and at whatever moment. -/

namespace Cl8yDexBots.LimitGrid.GasBacking

open Foundation.Checked Foundation.Words Foundation.SubMessages Foundation.Reentrancy
open CosmWasm.Std CosmWasm.Coins
open State Orders Vault Effects PendingMessages GasLedger

abbrev Answer := List (String × String)

/-- The vault among parties that call it with whatever they like, answer its queries as they like, and never get at
its coins. The vault itself sends no coins along with a message. -/
def actor (vault : Addr) : Actor Storage Bank CosmosMsg Answer where
  enters st b st' b' new := ∃ q env info msg r, env.contract = vault ∧ (info.sender = vault → info.funds = []) ∧
    transfer info.sender vault b info.funds = some b' ∧ execute q env st info msg = .ok (st', r) ∧ new = r.messages
  settles b msg b' := ∃ recipient coins, msg = .bank recipient coins ∧ transfer vault recipient b coins = some b'
  hands msg := ¬ isBank msg
  drifts b b' := ∀ denom, b vault denom ≤ b' vault denom
  replies st _ id result st' new := ∃ q env r, env.contract = vault ∧ reply q env st id result = .ok (st', r) ∧
    new = r.messages

/-- What the vault and its callers may get to from its instantiation. -/
def Reachable (vault : Addr) (c : Config Storage Bank CosmosMsg) : Prop :=
  ∃ q info msg st r b, instantiate q info msg = .ok (st, r) ∧
    Relation.ReflTransGen (Step (actor vault)) ⟨st, b, [⟨none, r.messages⟩]⟩ c

structure Backed (vault : Addr) (st : Storage) (b : Bank) (ms : List (SubMsg CosmosMsg)) : Prop where
  rewarding : 0 < st.config.keeperReward.val
  reserved : Reserved st
  covered : credit st + due st.config.gasDenom ms ≤ b vault st.config.gasDenom
  payments : PaysGas st.config.gasDenom ms

variable {vault : Addr} {st st' : Storage} {b b' : Bank} {ms new : List (SubMsg CosmosMsg)} {m : SubMsg CosmosMsg}

lemma backed_move {paid : ℕ} (h : Backed vault st b ms) (move : GasMove st st' paid new)
    (received : b vault st.config.gasDenom + paid ≤ b' vault st.config.gasDenom) : Backed vault st' b' (new ++ ms) := by
  have hdenom : st'.config.gasDenom = st.config.gasDenom := congrArg (fun t => t.1) move.terms
  have hreward : st'.config.keeperReward = st.config.keeperReward := congrArg (fun t => t.2.1) move.terms
  refine ⟨hreward ▸ h.rewarding, move.reserve h.reserved, ?_, ?_⟩
  · have hcredit := move.credit
    have hcovered := h.covered
    rw [hdenom, due_append]
    omega
  · rw [hdenom]
    exact (move.coins h.rewarding).append h.payments

lemma Backed.pays (h : Backed vault st b (m :: ms)) (hbank : isBank m.msg) :
    ∃ recipient, ∃ amount : Uint128, m.msg = .bank recipient [⟨st.config.gasDenom, amount⟩] ∧ 0 < amount.val ∧
      credit st + due st.config.gasDenom ms + amount.val ≤ b vault st.config.gasDenom := by
  obtain ⟨recipient, amount, hpositive, hmsg⟩ := h.payments m List.mem_cons_self hbank
  refine ⟨recipient, amount, hmsg, hpositive, ?_⟩
  have hcovered := h.covered
  have hpayout : payout st.config.gasDenom m.msg = amount.val := by
    rw [hmsg]
    exact total_single ..
  rw [due, List.map_cons, List.sum_cons, hpayout, ← due] at hcovered
  omega

lemma Backed.rest (h : Backed vault st b (m :: ms)) : PaysGas st.config.gasDenom ms :=
  fun n hn => h.payments n (List.mem_cons_of_mem _ hn)

theorem backed_kept : Kept (actor vault) (Backed vault) where
  drifts := by
    intro st b b' ms h hdrift
    exact ⟨h.rewarding, h.reserved, h.covered.trans (hdrift _), h.payments⟩
  enters := by
    rintro st b st' b' new ms h ⟨q, env, info, msg, r, -, hself, htransfer, hexec, rfl⟩
    apply backed_move h (execute_move hexec)
    have hbalance := transfer_balance htransfer vault st.config.gasDenom
    by_cases hsender : vault = info.sender
    · rw [hself hsender.symm, total_nil] at hbalance ⊢
      simp only [ite_self] at hbalance
      omega
    · rw [if_neg hsender, if_pos rfl] at hbalance
      omega
  settles := by
    rintro st b b' m ms h ⟨recipient, coins, hmsg, htransfer⟩
    obtain ⟨recipient', amount, hpays, -, hcovered⟩ := h.pays (by rw [hmsg]; trivial)
    cases hmsg.symm.trans hpays
    refine ⟨h.rewarding, h.reserved, ?_, h.rest⟩
    have hbalance := transfer_balance htransfer vault st.config.gasDenom
    rw [if_pos rfl, total_single] at hbalance
    omega
  hands := by
    intro st b m ms h hmsg
    refine ⟨h.rewarding, h.reserved, ?_, h.rest⟩
    have hcovered := h.covered
    rw [due, List.map_cons, List.sum_cons, ← due] at hcovered
    omega
  replies := by
    rintro st b id result st' new ms h ⟨q, env, r, -, hreply, rfl⟩
    have hmove : GasMove st st' 0 r.messages := (reply_quiet hreply).gasMove
    exact backed_move h hmove le_rfl

lemma reachable_backed {c : Config Storage Bank CosmosMsg} (h : Reachable vault c) :
    Backed vault c.storage c.world c.pending := by
  obtain ⟨q, info, msg, st, r, b, hinit, hrun⟩ := h
  obtain ⟨hgauge, hreward, hmessages⟩ := instantiate_gas hinit
  apply steps_kept backed_kept hrun
  have hpending : (⟨st, b, [⟨none, r.messages⟩]⟩ : Config Storage Bank CosmosMsg).pending = [] := by
    rw [hmessages]
    rfl
  rw [hpending]
  refine ⟨hreward, ?_, ?_, nofun⟩
  · intro gas shares hsome
    rw [hgauge] at hsome
    cases hsome
  · rw [credit, hgauge]
    exact Nat.zero_le _

/-- At every moment the vault has the coins of the gas credit, a bot with shares has its reserve, and a reward or a
withdrawal that the vault has decided on can be paid. -/
theorem gas_credit_backed {c : Config Storage Bank CosmosMsg} (h : Reachable vault c) :
    (∀ bot, c.storage.bot = some bot → bot.gasCredit.val ≤ c.world vault c.storage.config.gasDenom ∧
      (0 < bot.totalShares.val → c.storage.config.minimumGasReserve.val ≤ bot.gasCredit.val)) ∧
    ∀ m rest frames, c.frames = ⟨none, m :: rest⟩ :: frames → isBank m.msg →
      ∃ b', (actor vault).settles c.world m.msg b' := by
  have hbacked := reachable_backed h
  constructor
  · intro bot hbot
    have hcovered := hbacked.covered
    rw [credit_of_bot hbot] at hcovered
    refine ⟨by omega, fun hshares => ?_⟩
    exact hbacked.reserved _ _ (gauge_of_bot hbot) (Nat.ne_of_gt hshares)
  · intro m rest frames hframes hbank
    have hpending : c.pending = m :: (rest ++ frames.flatMap Frame.rest) := by
      rw [Config.pending, hframes]
      rfl
    rw [hpending] at hbacked
    obtain ⟨recipient, amount, hmsg, hpositive, hcovered⟩ := hbacked.pays hbank
    have hfunds : amount.val ≤ c.world vault c.storage.config.gasDenom := by omega
    obtain ⟨b', hpaid⟩ : ∃ b', transfer vault recipient c.world [⟨c.storage.config.gasDenom, amount⟩] = some b' :=
      transfer_single hpositive hfunds
    exact ⟨b', recipient, _, hmsg, hpaid⟩

instance : DecidablePred isBank := fun msg =>
  match msg with
  | .bank _ _ => isTrue trivial
  | .token _ _ => isFalse id
  | .pair _ _ => isFalse id

section Chains

open Transactions

variable {W : Type} {C : Chain W} {w w' : W} {info : MessageInfo} {log : Log}

lemma delivered_run {o : Except String Answer} (h : Deliver C.host st w m o st' w' new) (hmsg : ¬ isBank m.msg)
    (b : Bank) (rest : List (SubMsg CosmosMsg)) :
    Relation.ReflTransGen (Step (actor C.vault)) ⟨st, b, [⟨none, m :: rest⟩]⟩ ⟨st', b, [⟨none, new ++ rest⟩]⟩ := by
  have hreplies : ∀ {v result}, C.host.reply st v m.id result = .ok (st', new) →
      (actor C.vault).replies st b m.id result st' new := by
    intro v result answer
    simp only [Chain.host, bind_eq_ok, Except.ok.injEq, Prod.exists, Prod.mk.injEq] at answer
    obtain ⟨_, r, hreply, rfl, rfl⟩ := answer
    exact ⟨_, _, r, rfl, hreply, rfl⟩
  cases h with
  | sent silent ran => exact .tail (.single (.handed hmsg)) (.returned silent)
  | replied asked ran answer => exact .tail (.single (.handed hmsg)) (.replied asked (hreplies answer))
  | caught asked failed answer => exact .single (.caught asked hmsg (hreplies answer))

lemma tx_run {msg : ExecuteMsg} (h : Tx C st w info msg log st' w') (unpaid : ∀ e ∈ log, ¬ isBank e.1.msg)
    (own : info.sender = C.vault → info.funds = []) (funded : transfer info.sender C.vault b info.funds = some b') :
    Relation.ReflTransGen (Step (actor C.vault)) ⟨st, b, []⟩ ⟨st', b', []⟩ := by
  obtain ⟨st₁, r, hexec, hrun⟩ := h
  have hdispatch : ∀ {st w ms log st' w'}, Dispatch C.host st w ms log st' w' → (∀ e ∈ log, ¬ isBank e.1.msg) →
      Relation.ReflTransGen (Step (actor C.vault)) ⟨st, b', [⟨none, ms⟩]⟩ ⟨st', b', [⟨none, []⟩]⟩ := by
    intro st w ms log st' w' h hlog
    induction h with
    | done => exact .refl
    | @step s w m ms o s₁ w₁ new log s' w' first rest ih =>
      have hfirst := delivered_run first (hlog _ List.mem_cons_self) b' ms
      exact hfirst.trans (ih fun e he => hlog e (List.mem_cons_of_mem _ he))
  have hentered : Step (actor C.vault) ⟨st, b, []⟩ ⟨st₁, b', [⟨none, r.messages⟩]⟩ :=
    .entered trivial ⟨_, _, info, msg, r, rfl, own, funded, hexec, rfl⟩
  exact .tail (.head hentered (hdispatch hrun unpaid)) .finished

end Chains

open OrderBook in
/-- With a deposit on the pair, the owner withdraws 20 of 100 coins of gas. -/
theorem gas_credit_backed_withdrawing : ∃ c : Config Storage Bank CosmosMsg, ∃ m bot,
    c.frames = [⟨none, [m]⟩] ∧ c.storage.bot = some bot ∧ 0 < bot.totalShares.val ∧
    c.storage.config.minimumGasReserve.val ≤ bot.gasCredit.val ∧
    bot.gasCredit.val ≤ c.world "vault" c.storage.config.gasDenom ∧
    ∃ b', (actor "vault").settles c.world m.msg b' := by
  let gas : MessageInfo := ⟨"owner", [⟨"uluna", u128 100⟩]⟩
  let funded : World := { opening with held := ![1000000, 0] }
  have hruns : okAnd (instantiate (querier opening) ⟨"founder", []⟩ founding) (fun r₀ =>
      okAnd (transact r₀.1 opening gas (.createBot "pair" ⟨u128 (5 * 10 ^ 17)⟩ ⟨u128 (15 * 10 ^ 17)⟩ 5)) fun r₁ =>
      (r₁.2.2.all fun e => decide (¬ isBank e.1.msg)) &&
      okAnd (transact r₁.1 funded ⟨"token0", []⟩ (.receive ⟨"owner", u128 1000000, some (.deposit 1)⟩)) fun r₂ =>
      (r₂.2.2.all fun e => decide (¬ isBank e.1.msg)) &&
      okAnd (execute (querier r₂.2.1) (chain.env r₂.2.1) r₂.1 owner (.withdrawGas 1 (u128 20) none)) fun r₃ =>
      decide (r₃.2.messages.length = 1) && (r₃.2.messages.all fun m => decide (isBank m.msg)) &&
      r₃.1.bot.any fun bot => decide (0 < bot.totalShares.val)) = true := by
    decide
  simp only [okAnd_iff, Bool.and_eq_true, List.all_eq_true, decide_eq_true_eq, Prod.exists] at hruns
  obtain ⟨st₀, r₀, hinit, st₁, w₁, log₁, htx₁, hlog₁, st₂, w₂, log₂, htx₂, hlog₂, st₃, r₃, hexec, ⟨hone, hbank⟩,
    hshares⟩ := hruns
  obtain ⟨m, hmessages⟩ := List.length_eq_one_iff.mp hone
  obtain ⟨bot, hbot, hpositive⟩ := (Option.any_eq_true _ _).mp hshares
  let coins : Bank := put (fun _ _ => 0) "owner" "uluna" 100
  obtain ⟨b₁, hfunds⟩ : ∃ b', transfer "owner" "vault" coins gas.funds = some b' :=
    transfer_single (by decide) (by decide)
  have hopened : Relation.ReflTransGen (Step (actor "vault")) ⟨st₀, coins, [⟨none, r₀.messages⟩]⟩ ⟨st₀, coins, []⟩ := by
    rw [(instantiate_gas hinit).2.2]
    exact .single .finished
  have hcreated : Relation.ReflTransGen (Step (actor "vault")) ⟨st₀, coins, []⟩ ⟨st₁, b₁, []⟩ :=
    tx_run (transact_tx htx₁) hlog₁ (by decide) hfunds
  have hdeposited : Relation.ReflTransGen (Step (actor "vault")) ⟨st₁, b₁, []⟩ ⟨st₂, b₁, []⟩ :=
    tx_run (transact_tx htx₂) hlog₂ (by decide) rfl
  have hentered : Step (actor "vault") ⟨st₂, b₁, []⟩ ⟨st₃, b₁, [⟨none, r₃.messages⟩]⟩ :=
    .entered trivial ⟨_, _, owner, _, r₃, rfl, fun _ => rfl, rfl, hexec, rfl⟩
  rw [hmessages] at hentered hbank
  have hreachable : Reachable "vault" ⟨st₃, b₁, [⟨none, [m]⟩]⟩ :=
    ⟨_, _, _, st₀, r₀, coins, hinit, ((hopened.trans hcreated).trans hdeposited).tail hentered⟩
  obtain ⟨hbacked, hpays⟩ := gas_credit_backed hreachable
  obtain ⟨hcovered, hreserve⟩ := hbacked bot hbot
  have hheld := of_decide_eq_true hpositive
  exact ⟨_, m, bot, rfl, hbot, hheld, hreserve hheld, hcovered,
    hpays m [] [] rfl (hbank m (List.mem_singleton_self m))⟩

end Cl8yDexBots.LimitGrid.GasBacking
