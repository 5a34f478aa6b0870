import Cl8yDexBots.Rebalancer.LockedShares

/-! What the first deposit mints, and what of it stays for good. -/

namespace Cl8yDexBots.Rebalancer.BootstrapLock

open Foundation.Checked Foundation.Words Foundation.SubMessages CosmWasm.Std CosmWasm.Cw20Base
open State Liquidity Binding Protocol ProtocolSafety LockedShares

/-- A mint changes nobody's balance but the recipient's. -/
class MintsAlone (L : Type) [Token L] : Prop where
  others {env : Env} {l l' : L} {info : MessageInfo} {recipient : String} {amount : Uint128} {r : Answer}
    (h : Token.execute env l info (.mint recipient amount) = .ok (l', r)) {a : Addr} (other : a ≠ recipient) :
    Token.balance l' a = Token.balance l a

variable {L W : Type} [Token L] {C : Chain W} {w w₁ w' : World L W} {log : Log L W}

def Bootstraps (st : Shares L) : Prop := ∃ depositor preBalances preSupply price minShares swap,
  st.pending = some (.deposit depositor preBalances preSupply price minShares swap) ∧ preSupply.val = 0

/-- Transactions, migrations, and whatever the liquidity contract is asked or told in between. -/
inductive Since (C : Chain W) (w : World L W) : World L W → Prop
  | now : Since C w w
  | ran {w₁ w₂ log} (before : Since C w w₁) (h : Run C .outside w₁ log w₂) : Since C w w₂
  | called {w₁ q env info msg l r} (before : Since C w w₁) (other : info.sender ≠ C.liquidity)
      (h : Liquidity.execute q env w₁.liquidity info msg = .ok (l, r)) : Since C w { w₁ with liquidity := l }
  | answered {w₁ q env id result l r} (before : Since C w w₁) (here : env.contract = C.liquidity)
      (h : Liquidity.reply q env w₁.liquidity id result = .ok (l, r)) : Since C w { w₁ with liquidity := l }
  | vaultMigrated {w₁ codeId st r} (before : Since C w w₁) (h : Vault.migrate w₁.vault codeId = .ok (st, r)) :
      Since C w { w₁ with vault := st }
  | liquidityMigrated {w₁ supported l r} (before : Since C w w₁)
      (h : Liquidity.migrate w₁.liquidity supported = .ok (l, r)) : Since C w { w₁ with liquidity := l }

section Completion

variable {q : VaultQuerier} {env : Env} {info : MessageInfo} {depositor : Addr} {preBalances : Fin 2 → Uint128}
  {preSupply minShares : Uint128} {price : Decimal} {swap : Option SwapParams} {st l : Shares L}
  {r : Response State.WasmMsg}

lemma completeDeposit_bootstraps
    (waits : st.pending = some (.deposit depositor preBalances preSupply price minShares swap))
    (first : preSupply.val = 0) (h : completeDeposit q env st = .ok (l, r)) :
    ∃ postBalances preNav postNav lockedShares userShares token,
      q.vaultBalances st.config.vault = .ok postBalances ∧ nav preBalances price = .ok preNav ∧
      nav postBalances price = .ok postNav ∧ lockedShares.val = preNav.val + lockedInitialShares.val ∧
      lockedShares.val + userShares.val = postNav.val ∧
      mintShares env st.token env.contract lockedShares = .ok token ∧
      mintShares env token depositor userShares = .ok l.token := by
  rw [completeDeposit] at h
  rw [waits] at h
  simp only [bind_eq_ok, liftStd_eq_ok, withError_eq_ok, checkedSub_eq_ok, Except.ok.injEq, Prod.exists,
    Prod.mk.injEq] at h
  obtain ⟨postBalances, hpost, _, -, status, -, vaultConfig, -, _, -, preNav, hpre, postNav, hpostNav, depositValue,
    ⟨hle, hvalue⟩, token, userShares, hshares, _, -, _, -, minted, hmint, rfl, -⟩ := h
  have hempty : isZero preSupply = true := isZero_iff.mpr first
  simp only [depositShares, hempty, if_true, bind_eq_ok, ensure_eq_ok, checkedAdd_eq_ok, subOrPanic_eq_ok,
    Except.ok.injEq, Prod.mk.injEq] at hshares
  obtain ⟨_, -, lockedShares, hlocked, locked, hmintLocked, user, ⟨henough, huser⟩, rfl, rfl⟩ := hshares
  refine ⟨postBalances, preNav, postNav, lockedShares, user, locked, hpost, hpre, hpostNav, hlocked, ?_, hmintLocked,
    hmint⟩
  omega

lemma deposit_completes [LawfulToken L] {config : LiquidityConfig} {amounts : Fin 2 → Uint128}
    {messages : List (SubMsg State.WasmMsg)}
    (owed : messages = payIn config depositor amounts ++
      [.replyOnSuccess (.vault config.vault (settleDeposit swap)) depositReplyId])
    (run : Run C (.deliverLiquidity messages) w log w') (serves : config.vault = C.vault) (linked : Linked C w)
    (locked : Locked C w)
    (waits : w.liquidity.pending = some (.deposit depositor preBalances preSupply price minShares swap)) :
    ∃ w₁ q env l r, Linked C w₁ ∧ Locked C w₁ ∧ LiquidityReads C w₁ q ∧ env.contract = C.liquidity ∧
      w₁.vault.config.assetTokens = w.vault.config.assetTokens ∧
      w₁.liquidity.pending = some (.deposit depositor preBalances preSupply price minShares swap) ∧
      completeDeposit q env w₁.liquidity = .ok (l, r) ∧ w' = { w₁ with liquidity := l } := by
  induction messages generalizing w log amounts with
  | nil => exact absurd owed.symm (List.append_ne_nil_of_right_ne_nil _ (List.cons_ne_nil _ _))
  | cons m ms ih =>
    cases run with
    | @liquiditySent _ _ _ log₁ w₁ log₂ _ silent first rest =>
      rcases payIn_cons owed with ⟨rfl, -⟩ | ⟨token, amount, amounts', rfl, howed⟩
      · cases silent
      · have hstill := (run_meets first linked).1 nofun
        have hgrows := run_secures first linked locked nofun
        obtain ⟨w₂, q, env, l, r, hlinked, hlocked, hreads, hhere, htokens, hwaits, h, hdone⟩ :=
          ih howed rest hstill.linked hgrows.locked (hstill.pending.trans waits)
        exact ⟨w₂, q, env, l, r, hlinked, hlocked, hreads, hhere, htokens.trans hgrows.assetTokens, hwaits, h, hdone⟩
    | @liquidityReplied _ _ _ log₁ w₁ q env l r log₂ _ asked first reads here h rest =>
      rcases payIn_cons owed with ⟨rfl, rfl⟩ | ⟨token, amount, amounts', rfl, -⟩
      · have hasks : asks (settleDeposit swap) = true := by cases swap <;> rfl
        have htold := congrArg (State.WasmMsg.vault · (settleDeposit swap)) serves
        have hasked := (run_meets first linked).2.1 (settleDeposit swap) rfl htold hasks
        have hgrows := run_secures first linked locked nofun
        have hwaits := hasked.pending.trans waits
        obtain ⟨hsilent, -⟩ := deposit_answered hwaits h
        rw [hsilent] at rest
        cases rest with
        | liquidityDone =>
          exact ⟨w₁, q, env, l, r, hasked.linked, hgrows.locked, reads, here, hgrows.assetTokens, hwaits, h, rfl⟩
      · cases asked
    | liquidityCaught asked reads here h rest =>
      rcases payIn_cons owed with ⟨rfl, -⟩ | ⟨token, amount, amounts', rfl, -⟩
      · cases asked
      · cases asked

end Completion

section Since

variable [LawfulToken L]

structure Holds (C : Chain W) (least : ℕ) (w : World L W) : Prop where
  linked : Linked C w
  locked : Locked C w
  reserve : least ≤ reserve C w

omit [LawfulToken L] in
lemma Holds.grown {least : ℕ} (h : Holds C least w) (linked : Linked C w') (grows : Grows C w w') : Holds C least w' :=
  ⟨linked, grows.locked, h.reserve.trans grows.reserve⟩

lemma Holds.supply {least : ℕ} (h : Holds C least w) : least ≤ supply w :=
  h.reserve.trans (LawfulToken.balance_le _ _)

lemma since_holds {least : ℕ} (some_locked : 0 < least) (start : Holds C least w) (h : Since C w w') :
    Holds C least w' := by
  induction h with
  | now => exact start
  | ran before h ih =>
    have hgrows : Grows C _ _ := run_secures h ih.linked ih.locked
    exact ih.grown (run_linked h ih.linked) hgrows
  | called before other h ih =>
    have hsupply := ih.supply
    have hgrows := locked_executed ih.locked other.symm ih.linked.serves (fun _ => by omega) h
    exact ih.grown (ih.linked.liquidity_executed h) hgrows
  | answered before here h ih => exact ih.grown (ih.linked.liquidity_replied h) (locked_replied ih.locked here h)
  | vaultMigrated before h ih =>
    obtain ⟨hunbound, -, htokens, -⟩ := vault_migrate_binding h
    refine ih.grown (ih.linked.of_vault (.migrated ih.linked.vault h) (fun liquidity hl => ?_) htokens)
      (.of_vault ih.locked htokens)
    cases hunbound.symm.trans hl
  | liquidityMigrated before h ih =>
    obtain ⟨hsame, -, hidle⟩ := liquidity_migrate h
    have hlinked := ih.linked.of_liquidity hsame fun transfers n hpending => by cases hidle.symm.trans hpending
    exact ih.grown hlinked (locked_migrated ih.locked h)

lemma Holds.unbootstrapped {least : ℕ} (some_locked : 0 < least) (h : Holds C least w) : ¬ Bootstraps w.liquidity := by
  rintro ⟨depositor, preBalances, preSupply, price, minShares, swap, hwaits, hzero⟩
  have hempty := h.locked.bootstraps _ _ _ _ _ _ hwaits hzero
  have hsupply := h.supply
  omega

end Since

section First

variable [LawfulToken L] [MintsAlone L]

lemma mintShares_balance {env : Env} {token token' : L} {recipient : String} {amount : Uint128}
    (h : mintShares env token recipient amount = .ok token') :
    (Token.balance token' recipient).val = (Token.balance token recipient).val + amount.val ∧
      ∀ a, a ≠ recipient → Token.balance token' a = Token.balance token a := by
  obtain ⟨answer, hmint⟩ := mintShares_eq_ok.mp h
  exact ⟨LawfulToken.mints hmint, fun a => MintsAlone.others hmint⟩

omit [MintsAlone L] in
lemma balance_of_empty {token : L} (empty : (Token.totalSupply token).val = 0) (a : Addr) :
    (Token.balance token a).val = 0 :=
  Nat.le_zero.mp (empty ▸ LawfulToken.balance_le token a)

/-- The first deposit that completes mints the value of the vault: what was there before it and a thousand to the
liquidity contract itself, the rest to the depositor. That much stays with the contract whatever follows, and no deposit
is a first one again. -/
theorem bootstrap_locks (L W : Type) [Token L] [LawfulToken L] [MintsAlone L] (C : Chain W) {w w' : World L W}
    {q : VaultQuerier} {env : Env} {info : MessageInfo} {amounts : Fin 2 → Uint128} {minShares : Uint128}
    {deadline : ℕ} {swap : Option SwapParams} {l : Shares L} {r : Response State.WasmMsg} {log : Log L W}
    (reachable : Reachable C w) (empty : (Token.totalSupply w.liquidity.token).val = 0) (alien : C.Alien info.sender)
    (reads : LiquidityReads C w q)
    (accepted : Liquidity.execute q env w.liquidity info (.deposit amounts minShares deadline swap) = .ok (l, r))
    (completed : Run C (.deliverLiquidity r.messages) { w with liquidity := l } log w') :
    ∃ price preNav postNav, q.vaultPrice C.vault = .ok price ∧
      nav ![C.held w.outside (w.vault.config.assetTokens 0) C.vault,
        C.held w.outside (w.vault.config.assetTokens 1) C.vault] price = .ok preNav ∧
      nav ![C.held w'.outside (w.vault.config.assetTokens 0) C.vault,
        C.held w'.outside (w.vault.config.assetTokens 1) C.vault] price = .ok postNav ∧
      (Token.totalSupply w'.liquidity.token).val = postNav.val ∧
      (Token.balance w'.liquidity.token C.liquidity).val = preNav.val + lockedInitialShares.val ∧
      preNav.val + lockedInitialShares.val + (Token.balance w'.liquidity.token info.sender).val = postNav.val ∧
      ∀ w'', Since C w' w'' →
        preNav.val + lockedInitialShares.val ≤ (Token.balance w''.liquidity.token C.liquidity).val ∧
        preNav.val + lockedInitialShares.val ≤ (Token.totalSupply w''.liquidity.token).val ∧
        ¬ Bootstraps w''.liquidity := by
  obtain ⟨hlinked, -, -⟩ := reachable_idle reachable
  have hlocked := reachable_locked reachable
  have hbegun := hlinked.liquidity_executed accepted
  have hgrows := locked_executed hlocked alien.2.symm hlinked.serves (fun hvault => absurd hvault alien.1) accepted
  simp only [Liquidity.execute, executeDeposit, bind_eq_ok, liftStd_eq_ok, Except.ok.injEq, Prod.mk.injEq] at accepted
  obtain ⟨_, -, _, -, _, -, _, -, preBalances, hbalances, price, hprice, rfl, rfl⟩ := accepted
  rw [hlinked.serves] at hbalances hprice
  obtain rfl := Except.ok.inj (reads.balances.symm.trans hbalances)
  obtain ⟨w₁, q₁, env₁, l, r, hlinked₁, hlocked₁, hreads₁, hhere₁, htokens, hwaits, h, rfl⟩ :=
    deposit_completes rfl completed hlinked.serves hbegun hgrows.locked rfl
  obtain ⟨postBalances, preNav, postNav, lockedShares, userShares, token, hpost, hpreNav, hpostNav, hlockedShares, hsum,
    hmintLocked, hmintUser⟩ := completeDeposit_bootstraps hwaits empty h
  rw [hlinked₁.serves] at hpost
  obtain rfl := Except.ok.inj (hreads₁.balances.symm.trans hpost)
  rw [htokens] at hpostNav
  have hempty : (Token.totalSupply w₁.liquidity.token).val = 0 := hlocked₁.bootstraps _ _ _ _ _ _ hwaits empty
  have hsupply : (Token.totalSupply l.token).val = postNav.val := by
    rw [mintShares_supply hmintUser, mintShares_supply hmintLocked, hempty]
    omega
  rw [hhere₁] at hmintLocked
  obtain ⟨hlocks, hunlocked⟩ := mintShares_balance hmintLocked
  obtain ⟨hpays, hunpaid⟩ := mintShares_balance hmintUser
  have hreserve : (Token.balance l.token C.liquidity).val = preNav.val + lockedInitialShares.val := by
    rw [hunpaid _ alien.2.symm, hlocks, balance_of_empty hempty, Nat.zero_add, hlockedShares]
  refine ⟨price, preNav, postNav, hprice, hpreNav, hpostNav, hsupply, hreserve, ?_, ?_⟩
  · rw [hpays, hunlocked _ alien.2, balance_of_empty hempty]
    omega
  · intro w'' hsince
    have hsome : 0 < preNav.val + lockedInitialShares.val := Nat.add_pos_right _ (by decide)
    have hreplied := locked_deposited hlocked₁ hhere₁ h
    have hheld : Holds C (preNav.val + lockedInitialShares.val) w'' :=
      since_holds hsome ⟨run_linked completed hbegun, hreplied.locked, hreserve.ge⟩ hsince
    exact ⟨hheld.reserve, hheld.supply, hheld.unbootstrapped hsome⟩

end First

section Ledgers

open CosmWasm.TokenLedger

instance : MintsAlone Ledger where
  others {env l l' info recipient amount r} h a other := by
    obtain ⟨hook, h⟩ := Ledger.token_execute h
    simp only [Ledger.execute, bind_eq_ok, Except.ok.injEq, Prod.mk.injEq] at h
    obtain ⟨_, -, _, hcredit, rfl, -⟩ := h
    have hheld := (Ledger.credit_ok hcredit).2.2 a
    rw [if_neg other.symm] at hheld
    exact eq_iff.mpr hheld

theorem first_deposit_locks : ∃ w' preNav, funded = .ok w' ∧
    (Token.balance w'.liquidity.token "liquidity").val = preNav + 1000 ∧
    ∀ w'', Since ledgerChain w' w'' → ¬ Bootstraps w''.liquidity := by
  have hfirst : okAnd (created >>= bound) (fun w => (Token.totalSupply w.liquidity.token).val = 0 ∧
      okAnd (deposited w) fun _ => true) = true := by
    decide
  obtain ⟨w, hw, hboth⟩ := okAnd_iff.mp hfirst
  obtain ⟨hempty, hdeposited⟩ := of_decide_eq_true hboth
  obtain ⟨w', hw', -⟩ := okAnd_iff.mp hdeposited
  obtain ⟨w₀, hcreated, hbound⟩ := bind_eq_ok.mp hw
  obtain ⟨_, hboundRun⟩ := bound_runs hbound
  obtain ⟨_, hrun⟩ := deposited_runs hw'
  have hreachable : Reachable ledgerChain w := .ran (created_reachable hcreated) hboundRun
  cases hrun with
  | liquidity reads here accepted completed =>
    obtain ⟨price, preNav, postNav, -, -, -, -, hreserve, -, hsince⟩ := bootstrap_locks Ledger Tokens ledgerChain
      hreachable hempty ⟨by decide, by decide⟩ reads accepted completed
    refine ⟨w', preNav.val, ?_, hreserve, fun w'' h => (hsince w'' h).2.2⟩
    simp only [funded, hcreated, hbound, ok_bind]
    exact hw'

end Ledgers

end Cl8yDexBots.Rebalancer.BootstrapLock
