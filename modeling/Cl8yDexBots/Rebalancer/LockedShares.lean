import Cl8yDexBots.Rebalancer.ProtocolSafety

/-! The shares that the first deposit locks in the liquidity contract stay there. -/

namespace Cl8yDexBots.Rebalancer.LockedShares

open Foundation.Checked Foundation.Words Foundation.SubMessages CosmWasm.Std CosmWasm.Cw20Base
open State Liquidity Binding Protocol ProtocolSafety

variable {L W : Type} [Token L] {C : Chain W} {w w₁ w' : World L W} {log : Log L W}

structure Spares (owner : Addr) (token token' : L) : Prop where
  unallowed : ∀ spender, (Token.allowance token' owner spender).val = 0
  balance : (Token.balance token owner).val ≤ (Token.balance token' owner).val
  supply : (Token.totalSupply token').val ≠ 0 →
    (Token.totalSupply token).val ≠ 0 ∨ (Token.balance token' owner).val ≠ 0

section Token

variable {env : Env} {info : MessageInfo} {owner : Addr} {token token' token'' : L} {amount : Uint128} {r : Answer}
  {recipient : String}

lemma Spares.trans (h₁ : Spares owner token token') (h₂ : Spares owner token' token'') :
    Spares owner token token'' := by
  refine ⟨h₂.unallowed, h₁.balance.trans h₂.balance, fun hsupply => ?_⟩
  rcases h₂.supply hsupply with hsupply' | hbalance
  · rcases h₁.supply hsupply' with hold | hbalance
    · exact .inl hold
    · have hgrown := h₂.balance
      exact .inr (by omega)
  · exact .inr hbalance

variable [LawfulToken L]

lemma spares_of_execute {msg : BaseExecuteMsg} (unallowed : ∀ spender, (Token.allowance token owner spender).val = 0)
    (other : owner ≠ info.sender) (unminted : msg.minted = 0)
    (h : Token.execute env token info msg = .ok (token', r)) : Spares owner token token' := by
  refine ⟨fun spender => ?_, ?_, fun hsupply => ?_⟩
  · have hgrant := LawfulToken.grants h owner spender fun _ => other
    rw [unallowed spender] at hgrant
    exact Nat.le_zero.mp hgrant
  · rcases LawfulToken.spends h owner with hle | ⟨amount, -, hallowed, hle⟩
    · exact hle
    · have hallowance := hallowed other
      rw [unallowed] at hallowance
      omega
  · have hsum := LawfulToken.supply h
    exact .inl (by omega)

lemma spares_of_burn (unallowed : ∀ spender, (Token.allowance token owner spender).val = 0)
    (other : owner ≠ info.sender) (h : burnShares env token info amount = .ok token') : Spares owner token token' := by
  obtain ⟨answer, hburn⟩ := burnShares_eq_ok.mp h
  exact spares_of_execute unallowed other rfl hburn

lemma burnShares_supply (h : burnShares env token info amount = .ok token') :
    (Token.totalSupply token').val + amount.val = (Token.totalSupply token).val := by
  obtain ⟨answer, hburn⟩ := burnShares_eq_ok.mp h
  exact LawfulToken.supply hburn

lemma mintShares_supply (h : mintShares env token recipient amount = .ok token') :
    (Token.totalSupply token').val = (Token.totalSupply token).val + amount.val := by
  obtain ⟨answer, hmint⟩ := mintShares_eq_ok.mp h
  exact LawfulToken.supply hmint

lemma spares_of_mint (unallowed : ∀ spender, (Token.allowance token owner spender).val = 0)
    (backed : (Token.totalSupply token).val ≠ 0 ∨ (Token.balance token owner).val ≠ 0 ∨
      recipient = owner ∧ amount.val ≠ 0)
    (h : mintShares env token recipient amount = .ok token') : Spares owner token token' := by
  obtain ⟨answer, hmint⟩ := mintShares_eq_ok.mp h
  have hbalance : (Token.balance token owner).val ≤ (Token.balance token' owner).val := by
    rcases LawfulToken.spends hmint owner with hle | ⟨_, hspent, -⟩
    · exact hle
    · cases hspent
  refine ⟨fun spender => ?_, hbalance, fun _ => ?_⟩
  · have hgrant := LawfulToken.grants hmint owner spender nofun
    rw [unallowed spender] at hgrant
    exact Nat.le_zero.mp hgrant
  · rcases backed with hsupply | hheld | ⟨rfl, hamount⟩
    · exact .inl hsupply
    · exact .inr (by omega)
    · have hgrown := LawfulToken.mints hmint
      exact .inr (by omega)

end Token

def supply (w : World L W) : ℕ := (Token.totalSupply w.liquidity.token).val

def reserve (C : Chain W) (w : World L W) : ℕ := (Token.balance w.liquidity.token C.liquidity).val

/-- Wherever there are shares, the contract itself has some, and nobody may take them. -/
structure Locked (C : Chain W) (w : World L W) : Prop where
  unallowed : ∀ spender, (Token.allowance w.liquidity.token C.liquidity spender).val = 0
  reserved : supply w ≠ 0 → reserve C w ≠ 0
  deposits : ∀ depositor preBalances preSupply price minShares swap,
    w.liquidity.pending = some (.deposit depositor preBalances preSupply price minShares swap) →
      preSupply.val ≠ 0 → reserve C w ≠ 0
  bootstraps : ∀ depositor preBalances preSupply price minShares swap,
    w.liquidity.pending = some (.deposit depositor preBalances preSupply price minShares swap) →
      preSupply.val = 0 → supply w = 0
  owners : ∀ owner shares recipient payoutToken baseAmount prePayoutBalance minAmount swap,
    w.liquidity.pending =
      some (.withdrawSingle owner shares recipient payoutToken baseAmount prePayoutBalance minAmount swap) →
      owner ≠ C.liquidity

structure Grows (C : Chain W) (w w' : World L W) : Prop where
  locked : Locked C w'
  reserve : reserve C w ≤ reserve C w'
  assetTokens : w'.vault.config.assetTokens = w.vault.config.assetTokens

lemma Grows.refl (h : Locked C w) : Grows C w w := ⟨h, le_rfl, rfl⟩

lemma Grows.trans (h₁ : Grows C w w₁) (h₂ : Grows C w₁ w') : Grows C w w' :=
  ⟨h₂.locked, h₁.reserve.trans h₂.reserve, h₂.assetTokens.trans h₁.assetTokens⟩

lemma Locked.drifted (h : Locked C w) (outside : W) : Locked C { w with outside } :=
  ⟨h.unallowed, h.reserved, h.deposits, h.bootstraps, h.owners⟩

lemma Locked.of_vault (h : Locked C w) (st : Storage) : Locked C { w with vault := st } :=
  ⟨h.unallowed, h.reserved, h.deposits, h.bootstraps, h.owners⟩

lemma Grows.supply_pos [LawfulToken L] (h : Grows C w w') (locked : Locked C w) (hsupply : supply w ≠ 0) :
    supply w' ≠ 0 := by
  have hreserve := locked.reserved hsupply
  have hgrown := h.reserve
  have hle := LawfulToken.balance_le w'.liquidity.token C.liquidity
  simp only [supply, LockedShares.reserve] at *
  omega

structure Grounded (C : Chain W) (w : World L W) (l : Shares L) : Prop where
  deposits : ∀ depositor preBalances preSupply price minShares swap,
    l.pending = some (.deposit depositor preBalances preSupply price minShares swap) →
      preSupply.val ≠ 0 → reserve C w ≠ 0
  bootstraps : ∀ depositor preBalances preSupply price minShares swap,
    l.pending = some (.deposit depositor preBalances preSupply price minShares swap) →
      preSupply.val = 0 → (Token.totalSupply l.token).val = 0
  owners : ∀ owner shares recipient payoutToken baseAmount prePayoutBalance minAmount swap,
    l.pending = some (.withdrawSingle owner shares recipient payoutToken baseAmount prePayoutBalance minAmount swap) →
      owner ≠ C.liquidity

lemma Locked.grounded {l : Shares L} (h : Locked C w) (token : l.token = w.liquidity.token)
    (pending : l.pending = w.liquidity.pending) : Grounded C w l := by
  refine ⟨?_, ?_, ?_⟩
  · rw [pending]
    exact h.deposits
  · rw [pending, token]
    exact h.bootstraps
  · rw [pending]
    exact h.owners

lemma grounded_none {l : Shares L} (idle : l.pending = none) : Grounded C w l := by
  refine ⟨?_, ?_, ?_⟩ <;> rw [idle] <;> exact nofun

lemma grounded_transfers {l : Shares L} {transfers : List AuthorizedTransfer} {n : ℕ}
    (waits : l.pending = some (.authorizedTransfers transfers n)) : Grounded C w l := by
  refine ⟨?_, ?_, ?_⟩ <;> rw [waits] <;> exact nofun

lemma Locked.stepped {l : Shares L} (h : Locked C w) (spares : Spares C.liquidity w.liquidity.token l.token)
    (grounded : Grounded C w l) : Grows C w { w with liquidity := l } := by
  refine ⟨⟨spares.unallowed, fun hsupply => ?_, fun _ _ _ _ _ _ hp hs => ?_, grounded.bootstraps, grounded.owners⟩,
    spares.balance, rfl⟩
  · rcases spares.supply hsupply with hold | hnew
    · have hreserve := h.reserved hold
      have hbalance := spares.balance
      simp only [LockedShares.reserve] at *
      omega
    · exact hnew
  · have hreserve := grounded.deposits _ _ _ _ _ _ hp hs
    have hbalance := spares.balance
    simp only [LockedShares.reserve] at *
    omega

lemma Locked.kept {l : Shares L} (h : Locked C w) (token : l.token = w.liquidity.token)
    (grounded : Grounded C w l) : Grows C w { w with liquidity := l } :=
  h.stepped ⟨token ▸ h.unallowed, token ▸ le_rfl, fun hsupply => .inl (token ▸ hsupply)⟩ grounded

section Liquidity

variable [LawfulToken L] {q : VaultQuerier} {env : Env} {info : MessageInfo} {l : Shares L}
  {r : Response State.WasmMsg}

lemma locked_cw20 {base : BaseExecuteMsg} (locked : Locked C w) (other : C.liquidity ≠ info.sender)
    (unminted : base.minted = 0) (h : executeCw20 env w.liquidity info base = .ok (l, r)) :
    Grows C w { w with liquidity := l } := by
  have hidle := (executeCw20_spec h).1
  simp only [executeCw20, cw20Result_eq_ok, bind_eq_ok, Except.ok.injEq, Prod.exists, Prod.mk.injEq] at h
  obtain ⟨_, -, token, answer, hexec, rfl, -⟩ := h
  exact locked.stepped (spares_of_execute locked.unallowed other unminted hexec) (grounded_none hidle)

lemma locked_withdraw {shares : Uint128} {recipient : Option String} {deadline : ℕ} {output : WithdrawalType}
    (locked : Locked C w) (other : C.liquidity ≠ info.sender)
    (h : executeWithdraw q env w.liquidity info shares recipient deadline output = .ok (l, r)) :
    Grows C w { w with liquidity := l } := by
  simp only [executeWithdraw, bind_eq_ok] at h
  obtain ⟨_, -, _, -, _, -, _, -, balances, -, claim0, -, claim1, -, payee, -, h⟩ := h
  have single : ∀ {payout minAmount swap},
      executeSingleWithdraw q w.liquidity info payee shares ![claim0, claim1] payout
      minAmount swap deadline = .ok (l, r) → Grows C w { w with liquidity := l } := by
    intro payout minAmount swap h
    simp only [executeSingleWithdraw, bind_eq_ok, Except.ok.injEq, Prod.mk.injEq] at h
    obtain ⟨_, -, _, -, rfl, -⟩ := h
    refine locked.kept rfl ⟨by simp, by simp, ?_⟩
    rintro _ _ _ _ _ _ _ _ ⟨⟩
    exact other.symm
  cases output with
  | proRata minAssets =>
    obtain ⟨transfers, -, -, hpending, -, hburn, -⟩ := executeProRata_spec h
    exact locked.stepped (spares_of_burn locked.unallowed other hburn) (grounded_transfers hpending)
  | token0 minAmount swap => exact single h
  | token1 minAmount swap => exact single h

lemma locked_executed {msg : LiquidityExecuteMsg} (locked : Locked C w) (other : C.liquidity ≠ info.sender)
    (serves : w.liquidity.config.vault = C.vault) (vault : info.sender = C.vault → supply w ≠ 0)
    (h : Liquidity.execute q env w.liquidity info msg = .ok (l, r)) : Grows C w { w with liquidity := l } := by
  by_cases hmsg : administers msg = true
  · obtain ⟨htoken, hpending, -, -⟩ := execute_administered hmsg h
    exact locked.kept htoken (locked.grounded htoken hpending)
  · cases msg with
    | deposit amounts minShares deadline swap =>
      simp only [Liquidity.execute, executeDeposit, bind_eq_ok, Except.ok.injEq, Prod.mk.injEq] at h
      obtain ⟨_, -, _, -, _, -, _, -, preBalances, -, price, -, rfl, -⟩ := h
      refine locked.kept rfl ⟨?_, ?_, by simp⟩
      · rintro _ _ _ _ _ _ ⟨⟩
        exact locked.reserved
      · rintro _ _ _ _ _ _ ⟨⟩
        exact id
    | withdraw shares recipient deadline output => exact locked_withdraw locked other h
    | mintTo recipient amount =>
      simp only [Liquidity.execute, executeMintTo, bind_eq_ok, ensure_eq_ok, decide_eq_true_eq, Except.ok.injEq,
        Prod.mk.injEq] at h
      obtain ⟨_, hsender, _, -, _, -, token, hmint, rfl, -⟩ := h
      have hsupply := vault (hsender.trans serves)
      refine locked.stepped (spares_of_mint locked.unallowed (.inl hsupply) hmint) ⟨locked.deposits, ?_, locked.owners⟩
      exact fun _ _ _ _ _ _ hp hs => absurd (locked.bootstraps _ _ _ _ _ _ hp hs) hsupply
    | updateConfig | transferAdmin | acceptAdmin | cancelAdminTransfer => exact absurd rfl hmsg
    | _ => exact locked_cw20 locked other rfl h

lemma locked_deposited (locked : Locked C w) (here : env.contract = C.liquidity)
    (h : completeDeposit q env w.liquidity = .ok (l, r)) : Grows C w { w with liquidity := l } := by
  rw [completeDeposit] at h
  split at h
  · rename_i depositor preBalances preSupply price minShares swap hpending
    simp only [bind_eq_ok, Except.ok.injEq, Prod.exists, Prod.mk.injEq] at h
    obtain ⟨_, -, _, -, _, -, _, -, _, -, preNav, -, _, -, _, -, token, userShares, hshares, _, -, _, -, minted, hmint,
      rfl, -⟩ := h
    have hbacked : Spares C.liquidity w.liquidity.token token ∧ (Token.balance token C.liquidity).val ≠ 0 := by
      rw [depositShares] at hshares
      split at hshares
      · simp only [bind_eq_ok, checkedAdd_eq_ok, Except.ok.injEq, Prod.mk.injEq] at hshares
        obtain ⟨_, -, lockedShares, hlocked, token', hmint', _, -, rfl, -⟩ := hshares
        have hamount : lockedShares.val ≠ 0 := by
          rw [hlocked]
          exact Nat.ne_of_gt (Nat.add_pos_right _ (by decide))
        obtain ⟨_, hminted⟩ := mintShares_eq_ok.mp hmint'
        have hheld := LawfulToken.mints hminted
        rw [here] at hheld
        exact ⟨spares_of_mint locked.unallowed (.inr (.inr ⟨here, hamount⟩)) hmint', by omega⟩
      · rename_i hsome
        simp only [bind_eq_ok, Except.ok.injEq, Prod.mk.injEq] at hshares
        obtain ⟨_, -, rfl, -⟩ := hshares
        refine ⟨⟨locked.unallowed, le_rfl, .inl⟩, ?_⟩
        exact locked.deposits _ _ _ _ _ _ hpending (mt isZero_iff.mpr hsome)
    exact locked.stepped (hbacked.1.trans (spares_of_mint hbacked.1.unallowed (.inr (.inl hbacked.2)) hmint))
      (grounded_none rfl)
  · cases h
  · cases h

lemma locked_replied {id : ℕ} {result : Except String Unit} (locked : Locked C w) (here : env.contract = C.liquidity)
    (h : Liquidity.reply q env w.liquidity id result = .ok (l, r)) : Grows C w { w with liquidity := l } := by
  rw [Liquidity.reply] at h
  split at h
  · exact locked_deposited locked here h
  · split at h
    · rw [completeSingleWithdraw] at h
      split at h
      · rename_i owner shares recipient payoutToken baseAmount prePayoutBalance minAmount swap hpending
        have howner := locked.owners _ _ _ _ _ _ _ _ hpending
        split at h
        · cases h
          exact locked.kept rfl (grounded_none rfl)
        · simp only [bind_eq_ok, Except.ok.injEq, Prod.mk.injEq] at h
          obtain ⟨_, -, _, -, payout, -, _, -, token, hburn, rfl, -⟩ := h
          exact locked.stepped (spares_of_burn locked.unallowed howner.symm hburn) (grounded_transfers rfl)
      · cases h
      · cases h
    · split at h
      · rw [completeAuthorizedTransfer] at h
        split at h
        · split at h
          · cases h
          · cases h
            exact locked.kept rfl (grounded_none rfl)
          · cases h
            exact locked.kept rfl (grounded_transfers rfl)
        · cases h
        · cases h
      · cases h

omit [LawfulToken L] in
lemma locked_migrated {supported : Bool} (locked : Locked C w)
    (h : Liquidity.migrate w.liquidity supported = .ok (l, r)) : Grows C w { w with liquidity := l } := by
  simp only [Liquidity.migrate, bind_eq_ok, Except.ok.injEq, Prod.mk.injEq] at h
  obtain ⟨_, -, _, -, rfl, -⟩ := h
  exact locked.kept rfl (locked.grounded rfl rfl)

end Liquidity

section Runs

variable [LawfulToken L]

def Mints (m : SubMsg State.WasmMsg) : Prop := ∃ addr recipient amount, m.msg = .mintTo addr recipient amount

/-- What a run of each kind leaves of the locked shares: the vault has shares minted only where there are some. -/
def Secures (C : Chain W) (w w' : World L W) : Task → Prop
  | .outside | .vault _ _ => Grows C w w'
  | .liquidity info _ => C.liquidity ≠ info.sender → (info.sender = C.vault → supply w ≠ 0) → Grows C w w'
  | .send sender m => ((∃ addr recipient amount, m = .mintTo addr recipient amount) → sender = C.vault ∧ supply w ≠ 0) →
      Grows C w w'
  | .deliverVault messages => (∀ m ∈ messages, Mints m → supply w ≠ 0) → Grows C w w'
  | .deliverLiquidity messages => (∀ m ∈ messages, ¬ Mints m) → Grows C w w'

omit [LawfulToken L] in
lemma Grows.of_vault {st : Storage} (locked : Locked C w)
    (assetTokens : st.config.assetTokens = w.vault.config.assetTokens) : Grows C w { w with vault := st } :=
  ⟨locked.of_vault st, le_rfl, assetTokens⟩

omit [LawfulToken L] in
lemma vault_unminted {q : Querier} {env : Env} {info : MessageInfo} {msg : VaultExecuteMsg} {st : Storage}
    {r : Response State.WasmMsg} (linked : Linked C w) (reads : VaultReads C w q)
    (h : Vault.execute q env w.vault info msg = .ok (st, r)) : ∀ m ∈ r.messages, ¬ Mints m := by
  rintro m hm ⟨addr, recipient, amount, hmint⟩
  cases vault_sends linked reads h with
  | silent quiet pending nothing =>
    rw [nothing] at hm
    cases hm
  | transferred sender same guarded justified sends =>
    rw [sends, List.mem_singleton] at hm
    subst hm
    cases hmint
  | swapped sender same guarded justified swaps sends =>
    rw [sends, List.mem_singleton] at hm
    subst hm
    cases hmint
  | rebalanced keeper idle free swaps sends =>
    rw [sends, List.mem_singleton] at hm
    subst hm
    cases hmint

omit [Token L] [LawfulToken L] in
lemma transferMessages_unminted {config : LiquidityConfig} {transfers : List AuthorizedTransfer} :
    ∀ m ∈ transferMessages config transfers, ¬ Mints m := by
  rintro m hm ⟨_, _, _, hmint⟩
  obtain ⟨transfer, -, rfl⟩ := List.mem_map.mp hm
  cases hmint

omit [Token L] [LawfulToken L] in
lemma liquidity_unminted {st l : Shares L} {messages : List (SubMsg State.WasmMsg)} (h : Begins st l messages) :
    ∀ m ∈ messages, ¬ Mints m := by
  rintro m hm ⟨_, _, _, hmint⟩
  cases h with
  | same pending hooks =>
    obtain ⟨hook, rfl⟩ := hooks m hm
    cases hmint
  | begun idle waits owed whole =>
    cases owed with
    | deposit =>
      rcases List.mem_append.mp hm with hm | hm
      · obtain ⟨_, _, rfl⟩ := payIn_plain _ _ _ m hm
        cases hmint
      · rw [List.mem_singleton] at hm
        subst hm
        cases hmint
    | withdrawSingle =>
      rw [List.mem_singleton] at hm
      subst hm
      cases hmint
    | transfers => exact transferMessages_unminted m hm ⟨_, _, _, hmint⟩

omit [Token L] [LawfulToken L] in
lemma reply_unminted {st l : Shares L} {messages : List (SubMsg State.WasmMsg)} {op : PendingOperation} {id : ℕ}
    {result : Except String Unit} (h : Answers st l messages op id result) : ∀ m ∈ messages, ¬ Mints m := by
  cases h with
  | swapped waits asks =>
    rw [asks]
    exact transferMessages_unminted
  | deposited settled silent | swapFailed settled silent | lastTransfer settled silent
  | transferred more waits silent =>
    rw [silent]
    exact fun m hm => absurd hm List.not_mem_nil

omit [LawfulToken L] in
lemma vault_reply_minted {q : Querier} {env : Env} {id : ℕ} {st : Storage} {r : Response State.WasmMsg}
    (linked : Linked C w) (reads : VaultReads C w q) (h : Vault.reply q env w.vault id = .ok (st, r)) :
    ∀ m ∈ r.messages, supply w ≠ 0 := by
  intro m hm
  obtain ⟨-, -, hnil | ⟨liquidity, _, _, tokenInfo, hbound, htold, hsupply, -⟩⟩ := vault_reply_spec h
  · rw [hnil] at hm
    cases hm
  · obtain rfl := linked.bound _ hbound
    rw [reads.supply _ htold] at hsupply
    exact hsupply

theorem run_secures {task : Task} (h : Run C task w log w') (linked : Linked C w) (locked : Locked C w) :
    Secures C w w' task := by
  induction h with
  | quiet => exact .refl locked
  | drifted h rest ih =>
    have hrest := ih (linked.drifted _) (locked.drifted _)
    exact ⟨hrest.locked, hrest.reserve, hrest.assetTokens⟩
  | enteredVault alien first rest ih₁ ih₂ =>
    have hfirst := ih₁ linked locked
    exact hfirst.trans (ih₂ (run_linked first linked) hfirst.locked)
  | enteredLiquidity alien first rest ih₁ ih₂ =>
    have hfirst := ih₁ linked locked alien.2.symm fun hvault => absurd hvault alien.1
    exact hfirst.trans (ih₂ (run_linked first linked) hfirst.locked)
  | vault reads here h rest ih =>
    have hstep := Grows.of_vault locked (Runs.execute_keeps h).assetTokens
    refine hstep.trans (ih (linked.vault_executed reads h) hstep.locked fun m hm hmint => ?_)
    exact absurd hmint (vault_unminted linked reads h m hm)
  | liquidity reads here h rest ih =>
    intro other vault
    have hstep := locked_executed locked other linked.serves vault h
    exact hstep.trans (ih (linked.liquidity_executed h) hstep.locked (liquidity_unminted (liquidity_execute h).2))
  | toVault h ih => exact fun _ => ih linked locked
  | toLiquidity h ih =>
    intro hmint
    obtain ⟨hvault, hsupply⟩ := hmint ⟨_, _, _, rfl⟩
    exact ih linked locked (hvault ▸ C.apart.symm) fun _ => hsupply
  | toToken h rest silent ih =>
    intro _
    have hrest := ih (linked.drifted _) (locked.drifted _)
    exact ⟨hrest.locked, hrest.reserve, hrest.assetTokens⟩
  | toReceiver rest ih => exact fun _ => ih linked locked
  | toOtherVault other rest ih => exact fun _ => ih linked locked
  | toOtherLiquidity other rest ih => exact fun _ => ih linked locked
  | vaultDone => exact fun _ => .refl locked
  | vaultSent silent first rest ih₁ ih₂ =>
    intro hms
    have hfirst := ih₁ linked locked fun hmint => ⟨rfl, hms _ List.mem_cons_self hmint⟩
    refine hfirst.trans (ih₂ (run_linked first linked) hfirst.locked fun m hm hmint => ?_)
    exact hfirst.supply_pos locked (hms m (List.mem_cons_of_mem _ hm) hmint)
  | vaultReplied asked first reads here h rest ih₁ ih₂ =>
    intro hms
    have hfirst := ih₁ linked locked fun hmint => ⟨rfl, hms _ List.mem_cons_self hmint⟩
    have hlinked := run_linked first linked
    have hreplied := Grows.of_vault hfirst.locked (vault_reply_binding h).2.2
    refine hfirst.trans (hreplied.trans (ih₂ (hlinked.vault_replied h) hreplied.locked fun m hm hmint => ?_))
    rcases List.mem_append.mp hm with hm | hm
    · have hminted := vault_reply_minted hlinked reads h m hm
      exact hminted
    · exact hfirst.supply_pos locked (hms m (List.mem_cons_of_mem _ hm) hmint)
  | liquidityDone => exact fun _ => .refl locked
  | liquiditySent silent first rest ih₁ ih₂ =>
    intro hms
    have hfirst := ih₁ linked locked fun hmint => absurd hmint (hms _ List.mem_cons_self)
    exact hfirst.trans (ih₂ (run_linked first linked) hfirst.locked fun m hm => hms m (List.mem_cons_of_mem _ hm))
  | liquidityReplied asked first reads here h rest ih₁ ih₂ =>
    intro hms
    have hfirst := ih₁ linked locked fun hmint => absurd hmint (hms _ List.mem_cons_self)
    have hlinked := run_linked first linked
    obtain ⟨-, op, -, hanswers⟩ := liquidity_reply h
    have hreplied := locked_replied hfirst.locked here h
    refine hfirst.trans (hreplied.trans (ih₂ (hlinked.liquidity_replied h) hreplied.locked fun m hm => ?_))
    rcases List.mem_append.mp hm with hm | hm
    · exact reply_unminted hanswers m hm
    · exact hms m (List.mem_cons_of_mem _ hm)
  | liquidityCaught asked reads here h rest ih =>
    intro hms
    obtain ⟨-, op, -, hanswers⟩ := liquidity_reply h
    have hreplied := locked_replied locked here h
    refine hreplied.trans (ih (linked.liquidity_replied h) hreplied.locked fun m hm => ?_)
    rcases List.mem_append.mp hm with hm | hm
    · exact reply_unminted hanswers m hm
    · exact hms m (List.mem_cons_of_mem _ hm)

theorem reachable_locked (h : Reachable C w) : Locked C w := by
  induction h with
  | started here there created bound addr tokens joined =>
    simp only [Liquidity.instantiate, bind_eq_ok, cw20Result_eq_ok, Except.ok.injEq, Prod.mk.injEq] at joined
    obtain ⟨_, -, _, -, _, -, config, -, _, -, token0, -, token1, -, token, htoken, rfl, -⟩ := joined
    obtain ⟨hsupply, hallowance⟩ := LawfulToken.instantiate htoken
    refine ⟨fun spender => ?_, fun hne => ?_, nofun, nofun, nofun⟩
    · rw [hallowance]
      rfl
    · exact absurd (congrArg Uint.val hsupply) hne
  | ran before h ih => exact (run_secures h (reachable_idle before).1 ih).locked
  | vaultMigrated before h ih => exact ih.of_vault _
  | @liquidityMigrated w supported l r before h ih =>
    exact (locked_migrated ih h).locked

end Runs

end Cl8yDexBots.Rebalancer.LockedShares
