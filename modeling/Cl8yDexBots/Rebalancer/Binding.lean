import Cl8yDexBots.Rebalancer.Liquidity
import Cl8yDexBots.Rebalancer.Runs

/-! What ties a bot-vault and its bot-liquidity contract together, and what each call leaves of it. -/

namespace Cl8yDexBots.Rebalancer.Binding

open Foundation.Checked Foundation.Words Foundation.SubMessages CosmWasm.Std CosmWasm.Cw20Base
open State Runs Liquidity

section Vault

variable {q : Querier} {env : Env} {st st' : Storage} {info : MessageInfo} {msg : VaultExecuteMsg}
  {r : Response WasmMsg}

/-- The liquidity contract stays, is forgotten, or is bound as one that names this vault and its tokens. -/
inductive Rebound (q : Querier) (vault : Addr) (st st' : Storage) : Prop
  | kept (same : st'.config.liquidityContract = st.config.liquidityContract)
  | released (unbound : st'.config.liquidityContract = none)
  | bound {candidate config} (told : q.liquidityConfig candidate = .ok config) (names : config.vault = vault)
      (tokens : config.assetTokens = st.config.assetTokens)
      (now : st'.config.liquidityContract = some candidate)

lemma execute_rebound (h : Vault.execute q env st info msg = .ok (st', r)) : Rebound q env.contract st st' := by
  by_cases hbinds : rebinds msg = false
  · exact .kept ((execute_keeps h).binding hbinds).1
  · cases msg with
    | setLiquidityContract liquidityContract =>
      simp only [Vault.execute, Vault.executeSetLiquidity, bind_eq_ok, withError_eq_ok, ensure_eq_ok,
        decide_eq_true_eq, beq_iff_eq, Except.ok.injEq, Prod.mk.injEq] at h
      obtain ⟨_, -, _, -, candidate, -, config, htold, _, hnames, _, htokens, _, -, _, -, rfl, -⟩ := h
      exact .bound htold hnames htokens rfl
    | revokeLiquidityContract =>
      simp only [Vault.execute, Vault.executeRevokeLiquidity, bind_eq_ok, Except.ok.injEq, Prod.mk.injEq] at h
      obtain ⟨_, -, rfl, -⟩ := h
      exact .released rfl
    | pause =>
      simp only [Vault.execute, Vault.executePause, bind_eq_ok, Except.ok.injEq, Prod.mk.injEq] at h
      obtain ⟨_, -, _, -, rfl, -⟩ := h
      exact .kept rfl
    | resume =>
      simp only [Vault.execute, Vault.executeResume, bind_eq_ok, Except.ok.injEq, Prod.mk.injEq] at h
      obtain ⟨_, -, _, -, _, -, _, -, _, -, rfl, -⟩ := h
      exact .kept rfl
    | _ => exact absurd rfl hbinds

lemma execute_guarded (h : Vault.execute q env st info msg = .ok (st', r))
    (guarded : st.config.liquidityContract ≠ none ∨ st.paused = true) :
    st'.config.liquidityContract ≠ none ∨ st'.paused = true := by
  by_cases hbinds : rebinds msg = false
  · obtain ⟨hsame, hpaused⟩ := (execute_keeps h).binding hbinds
    rwa [hsame, hpaused]
  · cases msg with
    | setLiquidityContract liquidityContract =>
      simp only [Vault.execute, Vault.executeSetLiquidity, bind_eq_ok, Except.ok.injEq, Prod.mk.injEq] at h
      obtain ⟨_, -, _, -, candidate, -, _, -, _, -, _, -, _, -, _, -, rfl, -⟩ := h
      exact .inl (Option.some_ne_none candidate)
    | revokeLiquidityContract =>
      simp only [Vault.execute, Vault.executeRevokeLiquidity, bind_eq_ok, Except.ok.injEq, Prod.mk.injEq] at h
      obtain ⟨_, -, rfl, -⟩ := h
      exact .inr rfl
    | pause =>
      simp only [Vault.execute, Vault.executePause, bind_eq_ok, Except.ok.injEq, Prod.mk.injEq] at h
      obtain ⟨_, -, _, -, rfl, -⟩ := h
      exact .inr rfl
    | resume =>
      simp only [Vault.execute, Vault.executeResume, bind_eq_ok, orError_eq_ok, Except.ok.injEq,
        Prod.mk.injEq] at h
      obtain ⟨_, -, _, -, liquidity, hbound, _, -, _, -, rfl, -⟩ := h
      exact .inl (hbound ▸ Option.some_ne_none liquidity)
    | _ => exact absurd rfl hbinds

lemma vault_reply_binding {id : ℕ} (h : Vault.reply q env st id = .ok (st', r)) :
    st'.config.liquidityContract = st.config.liquidityContract ∧ st'.paused = st.paused ∧
      st'.config.assetTokens = st.config.assetTokens := by
  obtain ⟨_, _, _, _, _, _, _, _, _, _, -, -, -, -, -, -, -, rfl, -⟩ := reply_ok h
  exact ⟨rfl, rfl, rfl⟩

lemma vault_migrate_binding {codeId : ℕ} (h : Vault.migrate st codeId = .ok (st', r)) :
    st'.config.liquidityContract = none ∧ st'.paused = true ∧ st'.config.assetTokens = st.config.assetTokens ∧
      st'.pendingRebalance = st.pendingRebalance := by
  simp only [Vault.migrate, bind_eq_ok, Except.ok.injEq, Prod.mk.injEq] at h
  obtain ⟨_, -, _, -, rfl, -⟩ := h
  exact ⟨rfl, rfl, rfl, rfl⟩

lemma assertLiquidity_eq_ok {sender : Addr} (h : Vault.assertLiquidity q st sender = .ok ()) :
    st.config.liquidityContract = some sender := by
  simp only [Vault.assertLiquidity, bind_eq_ok, orError_eq_ok, ensure_eq_ok, decide_eq_true_eq] at h
  obtain ⟨liquidity, hbound, _, rfl, -⟩ := h
  exact hbound

lemma queryLiquidityAuthorization_eq_ok {authorization : LiquidityAuthorizationResponse} :
    Vault.queryLiquidityAuthorization q st.config = .ok authorization ↔
      ∃ liquidity, st.config.liquidityContract = some liquidity ∧ q.authorization liquidity = .ok authorization := by
  simp only [Vault.queryLiquidityAuthorization, bind_eq_ok, orError_eq_ok, liftStd_eq_ok]

lemma executeTransfer_spec {token recipient : String} {amount : Uint128}
    (h : Vault.executeTransfer q st info token amount recipient = .ok (st', r)) :
    ∃ validToken validRecipient authorization, q.addrValidate token = .ok validToken ∧
      q.addrValidate recipient = .ok validRecipient ∧ st.config.liquidityContract = some info.sender ∧
      st.pendingRebalance = none ∧ q.authorization info.sender = .ok authorization ∧
      ⟨validToken, amount, validRecipient⟩ ∈ authorization.transfers ∧ st' = st ∧
      r.messages = [.plain (.cw20 validToken (.transfer validRecipient amount))] := by
  simp only [Vault.executeTransfer, Vault.assertNoRebalance, bind_eq_ok, ensure_eq_ok, liftStd_eq_ok,
    queryLiquidityAuthorization_eq_ok, Option.isNone_iff_eq_none, decide_eq_true_eq, Except.ok.injEq,
    Prod.mk.injEq] at h
  obtain ⟨⟨⟩, hliquidity, _, hidle, validToken, htoken, _, -, _, -, validRecipient, hrecipient, authorization,
    ⟨liquidity, hbound, htold⟩, _, hlisted, rfl, rfl⟩ := h
  have hsender := assertLiquidity_eq_ok hliquidity
  obtain rfl := Option.some.inj (hsender.symm.trans hbound)
  exact ⟨validToken, validRecipient, authorization, htoken, hrecipient, hsender, hidle, htold, hlisted, rfl, rfl⟩

def movesTokens : VaultExecuteMsg → Bool
  | .liquiditySwap _ | .transferTo .. | .rebalance _ => true
  | _ => false

lemma execute_silent (hmsg : movesTokens msg = false) (h : Vault.execute q env st info msg = .ok (st', r)) :
    r.messages = [] := by
  cases msg with
  | liquiditySwap params => cases hmsg
  | transferTo token amount recipient => cases hmsg
  | rebalance deadline => cases hmsg
  | setLiquidityContract liquidityContract =>
    simp only [Vault.execute, Vault.executeSetLiquidity, bind_eq_ok, Except.ok.injEq, Prod.mk.injEq] at h
    obtain ⟨_, -, _, -, _, -, _, -, _, -, _, -, _, -, _, -, -, rfl⟩ := h
    rfl
  | finalizeLiquidityOperation =>
    simp only [Vault.execute, Vault.executeFinalize, bind_eq_ok, Except.ok.injEq, Prod.mk.injEq] at h
    obtain ⟨_, -, _, -, _, -, _, -, _, -, -, rfl⟩ := h
    rfl
  | syncReference =>
    simp only [Vault.execute, Vault.executeSyncReference, bind_eq_ok, Except.ok.injEq, Prod.mk.injEq] at h
    obtain ⟨_, -, _, -, _, -, _, -, _, -, _, -, -, rfl⟩ := h
    rfl
  | updateKeeper keeper =>
    simp only [Vault.execute, Vault.executeUpdateKeeper, bind_eq_ok, Except.ok.injEq, Prod.mk.injEq] at h
    obtain ⟨_, -, _, -, -, rfl⟩ := h
    rfl
  | updateThresholds next =>
    simp only [Vault.execute, Vault.executeUpdateThresholds, bind_eq_ok, Except.ok.injEq, Prod.mk.injEq] at h
    obtain ⟨_, -, _, -, _, -, _, -, _, -, -, rfl⟩ := h
    rfl
  | updateFeeConfig feeRegistry feeCollector =>
    simp only [Vault.execute, Vault.executeUpdateFeeConfig, bind_eq_ok, Except.ok.injEq, Prod.mk.injEq] at h
    obtain ⟨_, -, _, -, _, -, -, rfl⟩ := h
    rfl
  | transferAdmin admin =>
    simp only [Vault.execute, Vault.executeTransferAdmin, bind_eq_ok, Except.ok.injEq, Prod.mk.injEq] at h
    obtain ⟨_, -, _, -, -, rfl⟩ := h
    rfl
  | acceptAdmin =>
    simp only [Vault.execute, Vault.executeAcceptAdmin, bind_eq_ok, Except.ok.injEq, Prod.mk.injEq] at h
    obtain ⟨_, -, _, -, -, rfl⟩ := h
    rfl
  | cancelAdminTransfer =>
    simp only [Vault.execute, Vault.executeCancelAdminTransfer, bind_eq_ok, Except.ok.injEq, Prod.mk.injEq] at h
    obtain ⟨_, -, -, rfl⟩ := h
    rfl
  | revokeLiquidityContract =>
    simp only [Vault.execute, Vault.executeRevokeLiquidity, bind_eq_ok, Except.ok.injEq, Prod.mk.injEq] at h
    obtain ⟨_, -, -, rfl⟩ := h
    rfl
  | pause =>
    simp only [Vault.execute, Vault.executePause, bind_eq_ok, Except.ok.injEq, Prod.mk.injEq] at h
    obtain ⟨_, -, _, -, -, rfl⟩ := h
    rfl
  | resume =>
    simp only [Vault.execute, Vault.executeResume, bind_eq_ok, Except.ok.injEq, Prod.mk.injEq] at h
    obtain ⟨_, -, _, -, _, -, _, -, _, -, -, rfl⟩ := h
    rfl

lemma executeLiquiditySwap_spec {params : SwapParams}
    (h : Vault.executeLiquiditySwap q env st info params = .ok (st', r)) :
    ∃ authorization, st.config.liquidityContract = some info.sender ∧ st.pendingRebalance = none ∧
      q.authorization info.sender = .ok authorization ∧ authorization.swap = some params ∧ st' = st ∧
      r.messages = [.plain (Vault.proxySwapMessage st.config params)] := by
  simp only [Vault.executeLiquiditySwap, Vault.assertNoRebalance, bind_eq_ok, ensure_eq_ok,
    queryLiquidityAuthorization_eq_ok, Option.isNone_iff_eq_none, decide_eq_true_eq, Except.ok.injEq,
    Prod.mk.injEq] at h
  obtain ⟨⟨⟩, hliquidity, _, -, _, hidle, authorization, ⟨liquidity, hbound, htold⟩, _, hlisted, _, -, rfl, rfl⟩ := h
  have hsender := assertLiquidity_eq_ok hliquidity
  obtain rfl := Option.some.inj (hsender.symm.trans hbound)
  exact ⟨authorization, hsender, hidle, htold, hlisted, rfl, rfl⟩

lemma executeRebalance_spec {deadline : ℕ} (h : Vault.executeRebalance q env st info deadline = .ok (st', r)) :
    info.sender = st.config.keeper ∧ st.paused = false ∧ st.pendingRebalance = none ∧
      Vault.ensureNoLiquidityOperation q st.config = .ok () ∧ st'.config = st.config ∧ st'.paused = st.paused ∧
      ∃ params, r.messages = [.replyOnSuccess (Vault.proxySwapMessage st.config params) Vault.rebalanceReplyId] := by
  simp only [Vault.executeRebalance, Vault.assertKeeper, Vault.assertNotPaused, Vault.assertNoRebalance, bind_eq_ok,
    ensure_eq_ok, Option.isNone_iff_eq_none, decide_eq_true_eq, Bool.not_eq_true', Except.ok.injEq, Prod.mk.injEq] at h
  obtain ⟨_, hkeeper, _, hpaused, _, hidle, ⟨⟩, hfree, _, -, _, -, plan, -, _, -, offerToken, -, amount, -, least, -,
    pool, -, _, -, rfl, rfl⟩ := h
  exact ⟨hkeeper, hpaused, hidle, hfree, rfl, rfl, _, rfl⟩

lemma chargeFee_mints {config : Config} {value nav : Uint128} {fee : Option Vault.FeeApplied} {mints : List WasmMsg}
    (h : Vault.chargeFee q st config value nav = .ok (st', fee, mints)) :
    mints = [] ∨ ∃ liquidity collector shares tokenInfo, config.liquidityContract = some liquidity ∧
      q.tokenInfo liquidity = .ok tokenInfo ∧ tokenInfo.totalSupply.val ≠ 0 ∧
      mints = [.mintTo liquidity collector shares] := by
  simp only [Vault.chargeFee] at h
  split at h
  · rename_i registry collector _ _
    split at h
    · cases h
      exact .inl rfl
    · split at h
      · cases h
        exact .inl rfl
      · rename_i liquidity hliquidity
        split at h
        · cases h
          exact .inl rfl
        · simp only [bind_eq_ok] at h
          obtain ⟨feeValue, -, h⟩ := h
          split at h
          · cases h
            exact .inl rfl
          · simp only [bind_eq_ok, liftStd_eq_ok] at h
            obtain ⟨tokenInfo, htold, h⟩ := h
            split at h
            · cases h
              exact .inl rfl
            · rename_i hsupply
              simp only [bind_eq_ok] at h
              obtain ⟨shares, -, h⟩ := h
              split at h
              · cases h
                exact .inl rfl
              · cases h
                exact .inr ⟨liquidity, collector, shares, tokenInfo, hliquidity, htold,
                  mt isZero_iff.mpr hsupply, rfl⟩
  · cases h
    exact .inl rfl

lemma vault_reply_spec {id : ℕ} (h : Vault.reply q env st id = .ok (st', r)) :
    id = Vault.rebalanceReplyId ∧ st'.pendingRebalance = none ∧ (r.messages = [] ∨
      ∃ liquidity collector shares tokenInfo, st.config.liquidityContract = some liquidity ∧
        q.tokenInfo liquidity = .ok tokenInfo ∧ tokenInfo.totalSupply.val ≠ 0 ∧
        r.messages = [.plain (.mintTo liquidity collector shares)]) := by
  obtain ⟨_, _, _, _, _, _, _, mints, _, _, rfl, -, -, -, -, -, hfee, rfl, hmessages⟩ := reply_ok h
  refine ⟨rfl, rfl, ?_⟩
  rw [hmessages]
  rcases chargeFee_mints hfee with rfl | ⟨liquidity, collector, shares, tokenInfo, hbound, htold, hsupply, rfl⟩
  · exact .inl rfl
  · exact .inr ⟨liquidity, collector, shares, tokenInfo, hbound, htold, hsupply, rfl⟩

end Vault

section Liquidity

variable {L : Type} [Token L] {q : VaultQuerier} {env : Env} {st st' : Shares L} {info : MessageInfo}
  {msg : LiquidityExecuteMsg} {r : Response WasmMsg}

def SameVault (st st' : Shares L) : Prop :=
  st'.config.vault = st.config.vault ∧ st'.config.assetTokens = st.config.assetTokens

omit [Token L] in
lemma cw20Result_eq_ok {α : Type} {x : Except String α} {a : α} : cw20Result x = .ok a ↔ x = .ok a := by
  cases x <;> simp [cw20Result]

lemma burnShares_eq_ok {token token' : L} {amount : Uint128} : burnShares env token info amount = .ok token' ↔
    ∃ answer, Token.execute env token info (.burn amount) = .ok (token', answer) := by
  simp only [burnShares, bind_eq_ok, cw20Result_eq_ok, Except.ok.injEq, Prod.exists, exists_and_right, exists_eq_right]

lemma mintShares_eq_ok {token token' : L} {recipient : String} {amount : Uint128} :
    mintShares env token recipient amount = .ok token' ↔
      ∃ answer, Token.execute env token ⟨env.contract, []⟩ (.mint recipient amount) = .ok (token', answer) := by
  simp only [mintShares, bind_eq_ok, cw20Result_eq_ok, Except.ok.injEq, Prod.exists, exists_and_right, exists_eq_right]

lemma executeCw20_spec {base : BaseExecuteMsg} (h : executeCw20 env st info base = .ok (st', r)) :
    st.pending = none ∧ st'.pending = none ∧ st'.config = st.config ∧
      ∀ m ∈ r.messages, ∃ hook, m = .plain (.receive hook) := by
  simp only [executeCw20, assertNoPending, bind_eq_ok, ensure_eq_ok, Option.isNone_iff_eq_none, Except.ok.injEq,
    Prod.exists, Prod.mk.injEq] at h
  obtain ⟨_, hidle, token, answer, -, rfl, rfl⟩ := h
  refine ⟨hidle, hidle, rfl, ?_⟩
  intro m hm
  obtain ⟨hook, -, rfl⟩ := List.mem_map.mp hm
  exact ⟨hook, rfl⟩

def transferMessages (config : LiquidityConfig) (transfers : List AuthorizedTransfer) : List (SubMsg WasmMsg) :=
  transfers.map fun transfer => .replyOnSuccess (vaultTransfer config transfer) transferReplyId

/-- The messages whose replies settle an operation. -/
inductive Owed (config : LiquidityConfig) : PendingOperation → List (SubMsg WasmMsg) → Prop
  | deposit {depositor preBalances preSupply price minShares swap} {amounts : Fin 2 → Uint128} :
      Owed config (.deposit depositor preBalances preSupply price minShares swap)
        (payIn config depositor amounts ++
          [.replyOnSuccess (.vault config.vault (settleDeposit swap)) depositReplyId])
  | withdrawSingle {owner shares recipient payoutToken baseAmount prePayoutBalance minAmount swap} :
      Owed config (.withdrawSingle owner shares recipient payoutToken baseAmount prePayoutBalance minAmount swap)
        [.replyAlways (.vault config.vault (.liquiditySwap swap)) withdrawReplyId]
  | transfers {paid rest} (some_left : rest ≠ []) :
      Owed config (.authorizedTransfers (paid ++ rest) rest.length) (transferMessages config rest)

lemma Owed.transfers_ne {config : LiquidityConfig} {transfers : List AuthorizedTransfer} {remaining : ℕ}
    {messages : List (SubMsg WasmMsg)} (h : Owed config (.authorizedTransfers transfers remaining) messages) :
    transfers ≠ [] := by
  cases h with
  | transfers some_left => exact List.append_ne_nil_of_right_ne_nil _ some_left

/-- A call leaves the pending operation alone, or begins one. -/
inductive Begins (st st' : Shares L) (messages : List (SubMsg WasmMsg)) : Prop
  | same (pending : st'.pending = st.pending) (hooks : ∀ m ∈ messages, ∃ hook, m = .plain (.receive hook))
  | begun {op} (idle : st.pending = none) (waits : st'.pending = some op) (owed : Owed st.config op messages)
      (whole : ∀ transfers n, op = .authorizedTransfers transfers n → messages = transferMessages st.config transfers)

lemma executeDeposit_begins {amounts : Fin 2 → Uint128} {minShares : Uint128} {deadline : ℕ}
    {swap : Option SwapParams} (h : executeDeposit q env st info amounts minShares deadline swap = .ok (st', r)) :
    st'.config = st.config ∧ Begins st st' r.messages := by
  simp only [executeDeposit, assertNoPending, bind_eq_ok, ensure_eq_ok, Option.isNone_iff_eq_none,
    Except.ok.injEq, Prod.mk.injEq] at h
  obtain ⟨_, hidle, _, -, _, -, _, -, preBalances, -, price, -, rfl, rfl⟩ := h
  exact ⟨rfl, .begun hidle rfl .deposit (by simp)⟩

omit [Token L] in
lemma executeSingleWithdraw_begins {recipient : Addr} {shares minAmount : Uint128} {claims : Fin 2 → Uint128}
    {payout : Fin 2} {swap : SwapParams} {deadline : ℕ} (idle : st.pending = none)
    (h : executeSingleWithdraw q st info recipient shares claims payout minAmount swap deadline = .ok (st', r)) :
    st'.config = st.config ∧ Begins st st' r.messages := by
  simp only [executeSingleWithdraw, bind_eq_ok, Except.ok.injEq, Prod.mk.injEq] at h
  obtain ⟨_, -, balances, -, rfl, rfl⟩ := h
  exact ⟨rfl, .begun idle rfl .withdrawSingle (by simp)⟩

lemma executeProRata_spec {recipient : Addr} {shares : Uint128} {claims minAssets : Fin 2 → Uint128}
    (h : executeProRata env st info recipient shares claims minAssets = .ok (st', r)) :
    ∃ transfers, transfers = (([0, 1] : List (Fin 2)).filterMap fun i => if isZero (claims i) then none
        else some (⟨st.config.assetTokens i, claims i, recipient⟩ : AuthorizedTransfer)) ∧ transfers ≠ [] ∧
      st'.pending = some (.authorizedTransfers transfers transfers.length) ∧ st'.config = st.config ∧
      burnShares env st.token info shares = .ok st'.token ∧ r.messages = transferMessages st.config transfers := by
  simp only [executeProRata, bind_eq_ok, ensure_eq_ok, Except.ok.injEq, Prod.mk.injEq] at h
  obtain ⟨_, -, _, hsome, token, hburn, rfl, rfl⟩ := h
  refine ⟨_, rfl, ?_, rfl, rfl, hburn, rfl⟩
  intro hnil
  rw [hnil] at hsome
  cases hsome

lemma executeWithdraw_begins {shares : Uint128} {recipient : Option String} {deadline : ℕ}
    {output : WithdrawalType} (h : executeWithdraw q env st info shares recipient deadline output = .ok (st', r)) :
    st'.config = st.config ∧ Begins st st' r.messages := by
  simp only [executeWithdraw, assertNoPending, bind_eq_ok, ensure_eq_ok, Option.isNone_iff_eq_none] at h
  obtain ⟨_, hidle, _, -, _, -, _, -, balances, -, claim0, -, claim1, -, payee, -, h⟩ := h
  cases output with
  | proRata minAssets =>
    obtain ⟨transfers, -, hsome, hpending, hconfig, -, hmessages⟩ := executeProRata_spec h
    refine ⟨hconfig, .begun hidle hpending ?_ ?_⟩
    · rw [hmessages]
      exact @Owed.transfers st.config [] transfers hsome
    · rintro _ _ ⟨⟩
      exact hmessages
  | token0 minAmount swap => exact executeSingleWithdraw_begins hidle h
  | token1 minAmount swap => exact executeSingleWithdraw_begins hidle h

def administers : LiquidityExecuteMsg → Bool
  | .updateConfig _ | .transferAdmin _ | .acceptAdmin | .cancelAdminTransfer => true
  | _ => false

structure Administered (st st' : Shares L) (messages : List (SubMsg WasmMsg)) : Prop where
  token : st'.token = st.token
  pending : st'.pending = st.pending
  same : SameVault st st'
  silent : messages = []

lemma execute_administered (hmsg : administers msg = true) (h : Liquidity.execute q env st info msg = .ok (st', r)) :
    Administered st st' r.messages := by
  cases msg with
  | updateConfig minimum =>
    simp only [Liquidity.execute, executeUpdateConfig, bind_eq_ok] at h
    obtain ⟨_, -, h⟩ := h
    cases minimum with
    | none =>
      cases h
      exact ⟨rfl, rfl, ⟨rfl, rfl⟩, rfl⟩
    | some value =>
      simp only [bind_eq_ok, Except.ok.injEq, Prod.mk.injEq] at h
      obtain ⟨_, -, _, -, rfl, rfl⟩ := h
      exact ⟨rfl, rfl, ⟨rfl, rfl⟩, rfl⟩
  | transferAdmin admin =>
    simp only [Liquidity.execute, Liquidity.executeTransferAdmin, bind_eq_ok, Except.ok.injEq, Prod.mk.injEq] at h
    obtain ⟨_, -, _, -, rfl, rfl⟩ := h
    exact ⟨rfl, rfl, ⟨rfl, rfl⟩, rfl⟩
  | acceptAdmin =>
    simp only [Liquidity.execute, Liquidity.executeAcceptAdmin, bind_eq_ok, Except.ok.injEq, Prod.mk.injEq] at h
    obtain ⟨_, -, rfl, rfl⟩ := h
    exact ⟨rfl, rfl, ⟨rfl, rfl⟩, rfl⟩
  | cancelAdminTransfer =>
    simp only [Liquidity.execute, Liquidity.executeCancelAdminTransfer, bind_eq_ok, Except.ok.injEq,
      Prod.mk.injEq] at h
    obtain ⟨_, -, rfl, rfl⟩ := h
    exact ⟨rfl, rfl, ⟨rfl, rfl⟩, rfl⟩
  | _ => cases hmsg

lemma liquidity_execute (h : Liquidity.execute q env st info msg = .ok (st', r)) :
    SameVault st st' ∧ Begins st st' r.messages := by
  have base : ∀ {b : BaseExecuteMsg}, executeCw20 env st info b = .ok (st', r) →
      SameVault st st' ∧ Begins st st' r.messages := by
    intro b hb
    obtain ⟨hidle, hidle', hconfig, hhooks⟩ := executeCw20_spec hb
    exact ⟨⟨by rw [hconfig], by rw [hconfig]⟩, .same (hidle'.trans hidle.symm) hhooks⟩
  have begun : st'.config = st.config ∧ Begins st st' r.messages → SameVault st st' ∧ Begins st st' r.messages := by
    rintro ⟨hconfig, hbegins⟩
    exact ⟨⟨by rw [hconfig], by rw [hconfig]⟩, hbegins⟩
  by_cases hmsg : administers msg = true
  · obtain ⟨-, hpending, hsame, hsilent⟩ := execute_administered hmsg h
    refine ⟨hsame, .same hpending ?_⟩
    rw [hsilent]
    exact fun m hm => absurd hm List.not_mem_nil
  · cases msg with
    | deposit amounts minShares deadline swap => exact begun (executeDeposit_begins h)
    | withdraw shares recipient deadline output => exact begun (executeWithdraw_begins h)
    | mintTo recipient amount =>
      simp only [Liquidity.execute, executeMintTo, bind_eq_ok, Except.ok.injEq, Prod.mk.injEq] at h
      obtain ⟨_, -, _, -, _, -, token, -, rfl, rfl⟩ := h
      exact ⟨⟨rfl, rfl⟩, .same rfl (by simp)⟩
    | updateConfig | transferAdmin | acceptAdmin | cancelAdminTransfer => exact absurd rfl hmsg
    | _ => exact base h

omit [Token L] in
lemma liquidity_migrate {supported : Bool} (h : Liquidity.migrate st supported = .ok (st', r)) :
    SameVault st st' ∧ st.pending = none ∧ st'.pending = none := by
  simp only [Liquidity.migrate, assertNoPending, bind_eq_ok, ensure_eq_ok, Option.isNone_iff_eq_none,
    Except.ok.injEq, Prod.mk.injEq] at h
  obtain ⟨_, -, _, hidle, rfl, -⟩ := h
  exact ⟨⟨rfl, rfl⟩, hidle, hidle⟩

/-- A reply settles the operation, counts one transfer, or turns a swapped withdrawal into a transfer. -/
inductive Answers (st st' : Shares L) (messages : List (SubMsg WasmMsg)) :
    PendingOperation → ℕ → Except String Unit → Prop
  | deposited {depositor preBalances preSupply price minShares swap result} (settled : st'.pending = none)
      (silent : messages = []) :
      Answers st st' messages (.deposit depositor preBalances preSupply price minShares swap) depositReplyId result
  | swapFailed {owner shares recipient payoutToken baseAmount prePayoutBalance minAmount swap e}
      (settled : st' = { st with pending := none }) (silent : messages = []) :
      Answers st st' messages
        (.withdrawSingle owner shares recipient payoutToken baseAmount prePayoutBalance minAmount swap)
        withdrawReplyId (.error e)
  | swapped {owner shares recipient payoutToken baseAmount prePayoutBalance minAmount swap transfer}
      (waits : st'.pending = some (.authorizedTransfers [transfer] 1))
      (asks : messages = transferMessages st.config [transfer]) :
      Answers st st' messages
        (.withdrawSingle owner shares recipient payoutToken baseAmount prePayoutBalance minAmount swap)
        withdrawReplyId (.ok ())
  | lastTransfer {transfers result} (settled : st' = { st with pending := none }) (silent : messages = []) :
      Answers st st' messages (.authorizedTransfers transfers 1) transferReplyId result
  | transferred {transfers remaining result} (more : 0 < remaining)
      (waits : st' = { st with pending := some (.authorizedTransfers transfers remaining) }) (silent : messages = []) :
      Answers st st' messages (.authorizedTransfers transfers (remaining + 1)) transferReplyId result

lemma liquidity_reply {id : ℕ} {result : Except String Unit}
    (h : Liquidity.reply q env st id result = .ok (st', r)) :
    SameVault st st' ∧ ∃ op, st.pending = some op ∧ Answers st st' r.messages op id result := by
  rw [Liquidity.reply] at h
  split at h
  · rename_i hid
    subst hid
    rw [completeDeposit] at h
    split at h
    · rename_i depositor preBalances preSupply price minShares swap hpending
      simp only [bind_eq_ok, Except.ok.injEq, Prod.exists, Prod.mk.injEq] at h
      obtain ⟨_, -, _, -, _, -, _, -, _, -, _, -, _, -, _, -, _, _, -, _, -, _, -, _, -, rfl, rfl⟩ := h
      exact ⟨⟨rfl, rfl⟩, _, hpending, .deposited rfl rfl⟩
    · cases h
    · cases h
  · split at h
    · rename_i hid
      subst hid
      rw [completeSingleWithdraw] at h
      split at h
      · rename_i hpending
        split at h
        · cases h
          exact ⟨⟨rfl, rfl⟩, _, hpending, .swapFailed rfl rfl⟩
        · simp only [bind_eq_ok, Except.ok.injEq, Prod.mk.injEq] at h
          obtain ⟨_, -, _, -, payout, -, _, -, token, -, rfl, rfl⟩ := h
          exact ⟨⟨rfl, rfl⟩, _, hpending, .swapped rfl rfl⟩
      · cases h
      · cases h
    · split at h
      · rename_i hid
        subst hid
        rw [completeAuthorizedTransfer] at h
        split at h
        · rename_i transfers repliesRemaining hpending
          split at h
          · cases h
          · cases h
            exact ⟨⟨rfl, rfl⟩, _, hpending, .lastTransfer rfl rfl⟩
          · rename_i remaining hremaining
            cases h
            refine ⟨⟨rfl, rfl⟩, _, hpending, .transferred (Nat.pos_of_ne_zero ?_) rfl rfl⟩
            rintro rfl
            exact hremaining rfl
        · cases h
        · cases h
      · cases h

lemma deposit_answered {depositor : Addr} {preBalances : Fin 2 → Uint128} {preSupply : Uint128} {price : Decimal}
    {minShares : Uint128} {swap : Option SwapParams} {id : ℕ} {result : Except String Unit}
    (waits : st.pending = some (.deposit depositor preBalances preSupply price minShares swap))
    (h : Liquidity.reply q env st id result = .ok (st', r)) : r.messages = [] ∧ st'.pending = none := by
  obtain ⟨-, op, hop, hanswers⟩ := liquidity_reply h
  obtain rfl := Option.some.inj (waits.symm.trans hop)
  cases hanswers with
  | deposited settled silent => exact ⟨silent, settled⟩

lemma completeSingleWithdraw_spec {owner recipient payoutToken : Addr} {swap : SwapParams}
    {shares baseAmount prePayoutBalance minAmount : Uint128}
    (waits : st.pending =
      some (.withdrawSingle owner shares recipient payoutToken baseAmount prePayoutBalance minAmount swap))
    (h : completeSingleWithdraw q env st (.ok ()) = .ok (st', r)) :
    ∃ current payout, q.balance payoutToken st.config.vault = .ok current ∧ prePayoutBalance.val ≤ current.val ∧
      payout.val = baseAmount.val + (current.val - prePayoutBalance.val) ∧
      burnShares env st.token ⟨owner, []⟩ shares = .ok st'.token ∧
      st'.pending = some (.authorizedTransfers [⟨payoutToken, payout, recipient⟩] 1) ∧
      r.messages = transferMessages st.config [⟨payoutToken, payout, recipient⟩] := by
  rw [completeSingleWithdraw] at h
  rw [waits] at h
  simp only [bind_eq_ok, liftStd_eq_ok, withError_eq_ok, checkedSub_eq_ok, checkedAdd_eq_ok, Except.ok.injEq,
    Prod.mk.injEq] at h
  obtain ⟨current, hcurrent, received, ⟨hle, hreceived⟩, payout, hpayout, _, -, token, hburn, rfl, rfl⟩ := h
  exact ⟨current, payout, hcurrent, hle, by rw [hpayout, hreceived], hburn, rfl, rfl⟩

lemma transfer_counted {transfers : List AuthorizedTransfer} {remaining : ℕ} {result : Except String Unit}
    (waits : st.pending = some (.authorizedTransfers transfers (remaining + 1)))
    (h : Liquidity.reply q env st transferReplyId result = .ok (st', r)) :
    r.messages = [] ∧ st' = { st with
      pending := if remaining = 0 then none else some (.authorizedTransfers transfers remaining) } := by
  obtain ⟨-, op, hop, hanswers⟩ := liquidity_reply h
  obtain rfl := Option.some.inj (waits.symm.trans hop)
  cases hanswers with
  | lastTransfer settled silent => exact ⟨silent, settled⟩
  | transferred more settled silent =>
    rw [if_neg more.ne']
    exact ⟨silent, settled⟩

end Liquidity

end Cl8yDexBots.Rebalancer.Binding
