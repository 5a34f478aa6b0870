import Cl8yDexBots.Foundation.ProRata
import Cl8yDexBots.Rebalancer.LockedShares

/-! No liquidity operation leaves less of either token behind the shares that remain. -/

namespace Cl8yDexBots.Rebalancer.BackingPerShare

open Foundation.Checked Foundation.Words Foundation.SubMessages Foundation.ProRata CosmWasm.Std CosmWasm.Cw20Base
open State Liquidity Binding Protocol ProtocolSafety LockedShares

variable {L W : Type} [Token L] {C : Chain W} {w w₁ w' : World L W} {log log₁ log₂ : Log L W}

def spent : State.Cw20ExecuteMsg → ℕ
  | .transfer _ amount | .transferFrom _ _ amount | .send _ amount _ => amount.val

/-- Standard tokens that take from the vault what it spends and nothing else; whatever a swap pays is on top. -/
structure Honest (C : Chain W) : Prop where
  standard : StandardTokens C
  drifts : ∀ o o' token, C.drifts o o' → (C.held o token C.vault).val ≤ (C.held o' token C.vault).val
  vaultPays : ∀ o o' token msg other, C.carries o C.vault token msg o' →
    (C.held o other C.vault).val ≤ (C.held o' other C.vault).val + if token = other then spent msg else 0
  othersPay : ∀ o o' sender token msg other, sender ≠ C.vault → C.carries o sender token msg o' →
    (C.held o other C.vault).val ≤ (C.held o' other C.vault).val

def heldIn (C : Chain W) (w : World L W) (token : Addr) : ℕ := (C.held w.outside token C.vault).val

/-- A part of a run in which no shares move and the vault pays out at most so much. -/
structure Pays (C : Chain W) (amounts : Addr → ℕ) (w w' : World L W) : Prop where
  token : w'.liquidity.token = w.liquidity.token
  held : ∀ other, heldIn C w other ≤ heldIn C w' other + amounts other

def Backed (C : Chain W) (w w' : World L W) : Prop :=
  ∀ i, heldIn C w (w.vault.config.assetTokens i) * supply w' ≤
    heldIn C w' (w.vault.config.assetTokens i) * supply w

def Own (C : Chain W) (log : Log L W) : Prop :=
  ∀ w caller token msg, (w, .paid caller token msg) ∈ log → caller = C.liquidity

omit [Token L] in
lemma Own.left (h : Own C (log₁ ++ log₂)) : Own C log₁ :=
  fun w caller token msg hm => h w caller token msg (List.mem_append_left _ hm)

omit [Token L] in
lemma Own.right (h : Own C (log₁ ++ log₂)) : Own C log₂ :=
  fun w caller token msg hm => h w caller token msg (List.mem_append_right _ hm)

omit [Token L] in
lemma Pays.refl : Pays C 0 w w := ⟨rfl, fun _ => le_rfl⟩

omit [Token L] in
lemma Pays.trans {a b : Addr → ℕ} (h₁ : Pays C a w w₁) (h₂ : Pays C b w₁ w') : Pays C (a + b) w w' := by
  refine ⟨h₂.token.trans h₁.token, fun other => ?_⟩
  have hfirst := h₁.held other
  have hsecond := h₂.held other
  rw [Pi.add_apply]
  omega

omit [Token L] in
lemma Pays.mono {a b : Addr → ℕ} (h : Pays C a w w') (hle : ∀ other, a other ≤ b other) : Pays C b w w' :=
  ⟨h.token, fun other => (h.held other).trans (Nat.add_le_add_left (hle other) _)⟩

lemma Pays.supply {a : Addr → ℕ} (h : Pays C a w w') : supply w' = supply w := by
  rw [LockedShares.supply, h.token]
  rfl

lemma Pays.backed (h : Pays C 0 w w') : Backed C w w' := by
  intro i
  rw [h.supply]
  exact Nat.mul_le_mul_right _ (h.held _)

lemma Backed.after (h : Pays C 0 w w₁) (same : w₁.vault.config.assetTokens = w.vault.config.assetTokens)
    (rest : Backed C w₁ w') : Backed C w w' := by
  intro i
  have hrest := rest i
  rw [same, h.supply] at hrest
  exact (Nat.mul_le_mul_right _ (h.held _)).trans hrest

lemma Backed.trans (h₁ : Backed C w w₁) (same : w₁.vault.config.assetTokens = w.vault.config.assetTokens)
    (some_left : supply w₁ ≠ 0) (h₂ : Backed C w₁ w') : Backed C w w' := by
  intro i
  have hsecond := h₂ i
  rw [same] at hsecond
  exact backing_trans some_left (h₁ i) hsecond

def spentBy : VaultExecuteMsg → Addr → ℕ
  | .transferTo token amount _, other => if token = other then amount.val else 0
  | .liquiditySwap params, other => if params.offerToken = other then params.amount.val else 0
  | _, _ => 0

def spentFor (messages : List (SubMsg State.WasmMsg)) (other : Addr) : ℕ :=
  (messages.map fun m =>
    match m.msg with
    | .vault _ msg => spentBy msg other
    | _ => 0).sum

def sends : LiquidityExecuteMsg → Bool
  | .send .. | .sendFrom .. => true
  | _ => false

def sendsShares : BaseExecuteMsg → Bool
  | .send .. | .sendFrom .. => true
  | _ => false

class HooksOnSend (L : Type) [Token L] : Prop where
  silent {env : Env} {l l' : L} {info : MessageInfo} {msg : BaseExecuteMsg} {r : Answer}
    (h : Token.execute env l info msg = .ok (l', r)) (unsent : sendsShares msg = false) : r.hook = none

def Completes (C : Chain W) (messages : List (SubMsg State.WasmMsg)) (w w' : World L W) : PendingOperation → Prop
  | .deposit _ preBalances preSupply _ _ _ => preSupply.val = supply w → preSupply.val ≠ 0 →
      ∀ i, (preBalances i).val * supply w' ≤ heldIn C w' (w.vault.config.assetTokens i) * supply w
  | .withdrawSingle _ shares _ payoutToken baseAmount prePayoutBalance _ swap => Pays C 0 w w' ∨
      supply w' + shares.val = supply w ∧ prePayoutBalance.val ≤ heldIn C w' payoutToken + baseAmount.val ∧
        ∀ other, other ≠ payoutToken →
          heldIn C w other ≤ heldIn C w' other + if swap.offerToken = other then swap.amount.val else 0
  | .authorizedTransfers _ _ => Pays C (spentFor messages) w w'

/-- What a run of each kind does to the pool, while an operation waits and while none does. -/
def Leaves (C : Chain W) (w : World L W) (log : Log L W) (w' : World L W) : Task → Prop
  | .outside => (w.liquidity.pending ≠ none → Guarded w → Pays C 0 w w') ∧
      (w.liquidity.pending = none → Own C log → supply w ≠ 0 → Backed C w w')
  | .vault info msg => (C.Alien info.sender → (w.liquidity.pending ≠ none → Guarded w) →
        (w.liquidity.pending = none → Own C log) → Pays C 0 w w') ∧
      (info.sender = C.liquidity → asks msg = true → w.liquidity.pending ≠ none → Pays C (spentBy msg) w w')
  | .liquidity info msg => C.Alien info.sender → (w.liquidity.pending ≠ none → Pays C 0 w w') ∧
      (w.liquidity.pending = none → (sends msg = true → Own C log) → supply w ≠ 0 → Backed C w w')
  | .send sender m => (sender = C.vault → ∀ token msg, m = .cw20 token msg → w.liquidity.pending ≠ none → Guarded w →
        Pays C (fun other => if token = other then spent msg else 0) w w') ∧
      (sender = C.liquidity →
        (∀ token owner recipient amount, m = .cw20 token (.transferFrom owner recipient amount) → Pays C 0 w w') ∧
        (∀ hook, m = .receive hook → w.liquidity.pending = none → Own C log → supply w ≠ 0 → Backed C w w') ∧
        ∀ msg, m = .vault C.vault msg → asks msg = true → w.liquidity.pending ≠ none → Pays C (spentBy msg) w w')
  | .deliverVault messages => (messages = [] → w' = w) ∧
      ∀ token msg, messages = [.plain (.cw20 token msg)] → w.liquidity.pending ≠ none → Guarded w →
        Pays C (fun other => if token = other then spent msg else 0) w w'
  | .deliverLiquidity messages => (messages = [] → w' = w) ∧
      ((∀ m ∈ messages, ∃ hook, m = .plain (.receive hook)) → w.liquidity.pending = none → Own C log → supply w ≠ 0 →
        Backed C w w') ∧
      ∀ config op, config.vault = C.vault → Owed config op messages → w.liquidity.pending = some op →
        Completes C messages w w' op

section Vault

variable {q : Querier} {env : Env} {info : MessageInfo} {msg : VaultExecuteMsg} {st : Storage}
  {r : Response State.WasmMsg}

lemma leaves_vault (linked : Linked C w) (reads : VaultReads C w q)
    (run : Vault.execute q env w.vault info msg = .ok (st, r))
    (rest : Leaves C { w with vault := st } log w' (.deliverVault r.messages)) :
    Leaves C w ((paidBy info.sender r.messages).map (Prod.mk w) ++ log) w' (.vault info msg) := by
  obtain ⟨hdone, hpays⟩ := rest
  constructor
  · intro alien hguarded hown
    cases vault_sends linked reads run with
    | silent quiet pending nothing =>
      obtain rfl := hdone nothing
      exact ⟨rfl, fun _ => le_rfl⟩
    | transferred sender => exact absurd sender alien.2
    | swapped sender => exact absurd sender alien.2
    | rebalanced keeper idle free swaps sends =>
      rw [sends] at hown
      have hsender := hown (free hguarded) w info.sender _ _ List.mem_cons_self
      exact absurd hsender alien.2
  · intro sender hasks hwaits
    cases vault_sends linked reads run with
    | silent quiet pending nothing =>
      obtain rfl := hdone nothing
      exact ⟨rfl, fun _ => Nat.le_add_right _ _⟩
    | transferred sender same guarded justified sends =>
      obtain rfl := same
      exact hpays _ _ sends hwaits guarded
    | swapped sender same guarded justified swaps sends =>
      obtain rfl := same
      have hpaid := hpays _ _ sends hwaits guarded
      cases swaps
      exact hpaid
    | rebalanced => cases hasks

end Vault

section Liquidity

variable [LawfulToken L] {q : VaultQuerier} {env : Env} {info : MessageInfo} {l : Shares L}
  {r : Response State.WasmMsg}

omit [LawfulToken L] in
lemma waiting_quiet {msg : LiquidityExecuteMsg} {st : Shares L} (alien : info.sender ≠ st.config.vault)
    (waits : st.pending ≠ none) (h : Liquidity.execute q env st info msg = .ok (l, r)) :
    r.messages = [] ∧ l.token = st.token := by
  by_cases hmsg : administers msg = true
  · obtain ⟨htoken, -, -, hsilent⟩ := execute_administered hmsg h
    exact ⟨hsilent, htoken⟩
  · cases msg with
    | deposit amounts minShares deadline swap =>
      simp only [Liquidity.execute, executeDeposit, assertNoPending, bind_eq_ok, ensure_eq_ok,
        Option.isNone_iff_eq_none] at h
      obtain ⟨_, hidle, -⟩ := h
      exact absurd hidle waits
    | withdraw shares recipient deadline output =>
      simp only [Liquidity.execute, executeWithdraw, assertNoPending, bind_eq_ok, ensure_eq_ok,
        Option.isNone_iff_eq_none] at h
      obtain ⟨_, hidle, -⟩ := h
      exact absurd hidle waits
    | mintTo recipient amount =>
      simp only [Liquidity.execute, executeMintTo, bind_eq_ok, ensure_eq_ok, decide_eq_true_eq] at h
      obtain ⟨_, hsender, -⟩ := h
      exact absurd hsender alien
    | updateConfig | transferAdmin | acceptAdmin | cancelAdminTransfer => exact absurd rfl hmsg
    | _ => exact absurd (executeCw20_spec h).1 waits

omit [LawfulToken L] in
lemma executeWithdraw_claims {shares : Uint128} {recipient : Option String} {deadline : ℕ} {output : WithdrawalType}
    (linked : Linked C w) (reads : LiquidityReads C w q)
    (h : executeWithdraw q env w.liquidity info shares recipient deadline output = .ok (l, r)) :
    ∃ claims : Fin 2 → Uint128, ∃ payee,
      (∀ i, (claims i).val = slice (heldIn C w (w.vault.config.assetTokens i)) shares.val (supply w)) ∧
      (match output with
      | .proRata minAssets => executeProRata env w.liquidity info payee shares claims minAssets
      | .token0 minAmount swap =>
        executeSingleWithdraw q w.liquidity info payee shares claims 0 minAmount swap deadline
      | .token1 minAmount swap =>
        executeSingleWithdraw q w.liquidity info payee shares claims 1 minAmount swap deadline) = .ok (l, r) := by
  simp only [executeWithdraw, bind_eq_ok, liftStd_eq_ok, SwapVault.Pricing.checkedRatio_eq_ok] at h
  obtain ⟨_, -, _, -, _, -, _, -, balances, hbalances, claim0, ⟨-, h0⟩, claim1, ⟨-, h1⟩, payee, -, h⟩ := h
  rw [linked.serves] at hbalances
  obtain rfl := Except.ok.inj (reads.balances.symm.trans hbalances)
  exact ⟨![claim0, claim1], payee, Fin.forall_fin_two.mpr ⟨h0, h1⟩, h⟩

lemma spentFor_transfers (config : LiquidityConfig) (transfers : List AuthorizedTransfer) (other : Addr) :
    spentFor (transferMessages config transfers) other =
      (transfers.map fun t => if t.token = other then t.amount.val else 0).sum := by
  rw [spentFor, transferMessages, List.map_map]
  rfl

lemma spentFor_claims {config : LiquidityConfig} {claims : Fin 2 → Uint128} {recipient : Addr}
    (distinct : config.assetTokens 0 ≠ config.assetTokens 1) (i : Fin 2) :
    spentFor (transferMessages config (([0, 1] : List (Fin 2)).filterMap fun i => if isZero (claims i) then none
      else some (⟨config.assetTokens i, claims i, recipient⟩ : AuthorizedTransfer))) (config.assetTokens i) =
      (claims i).val := by
  rw [spentFor_transfers]
  by_cases h0 : (claims 0).val = 0 <;> by_cases h1 : (claims 1).val = 0 <;> fin_cases i <;>
    simp [isZero, h0, h1, distinct, distinct.symm]

lemma leaves_proRata {recipient : Addr} {shares : Uint128} {claims minAssets : Fin 2 → Uint128}
    (linked : Linked C w)
    (slices : ∀ i, (claims i).val = slice (heldIn C w (w.vault.config.assetTokens i)) shares.val (supply w))
    (h : executeProRata env w.liquidity info recipient shares claims minAssets = .ok (l, r))
    (rest : Leaves C { w with liquidity := l } log w' (.deliverLiquidity r.messages)) : Backed C w w' := by
  obtain ⟨transfers, htransfers, hsome, hpending, -, hburn, hmessages⟩ := executeProRata_spec h
  rw [hmessages] at rest
  have hpays : Pays C (spentFor (transferMessages w.liquidity.config transfers)) { w with liquidity := l } w' :=
    rest.2.2 w.liquidity.config _ linked.serves (@Owed.transfers _ [] transfers hsome) hpending
  have hburned : supply w' + shares.val = supply w := by
    rw [hpays.supply]
    exact burnShares_supply hburn
  intro i
  refine backing_of_slice hburned ?_
  have hheld := hpays.held (w.vault.config.assetTokens i)
  have hdistinct : w.liquidity.config.assetTokens 0 ≠ w.liquidity.config.assetTokens 1 := by
    rw [linked.tokens]
    exact (Runs.Reachable.valid linked.vault).tokens
  rw [← linked.tokens, htransfers, spentFor_claims hdistinct, slices, linked.tokens] at hheld
  rw [← linked.tokens] at hheld ⊢
  exact hheld

omit [Token L] [LawfulToken L] in
lemma held_val (tokens : Fin 2 → Addr) (i : Fin 2) :
    ((![C.held w.outside (tokens 0) C.vault, C.held w.outside (tokens 1) C.vault] : Fin 2 → Uint128) i).val =
      heldIn C w (tokens i) := by
  fin_cases i <;> rfl

omit [LawfulToken L] in
lemma leaves_single {recipient : Addr} {shares minAmount : Uint128} {claims : Fin 2 → Uint128} {payout : Fin 2}
    {swap : SwapParams} {deadline : ℕ} (linked : Linked C w) (reads : LiquidityReads C w q)
    (slices : ∀ i, (claims i).val = slice (heldIn C w (w.vault.config.assetTokens i)) shares.val (supply w))
    (h : executeSingleWithdraw q w.liquidity info recipient shares claims payout minAmount swap deadline = .ok (l, r))
    (rest : Leaves C { w with liquidity := l } log w' (.deliverLiquidity r.messages)) : Backed C w w' := by
  simp only [executeSingleWithdraw, bind_eq_ok, ensure_eq_ok, liftStd_eq_ok, decide_eq_true_eq, Except.ok.injEq,
    Prod.mk.injEq] at h
  obtain ⟨_, ⟨hoffer, hamount, -⟩, balances, hbalances, rfl, rfl⟩ := h
  rw [linked.serves] at hbalances
  obtain rfl := Except.ok.inj (reads.balances.symm.trans hbalances)
  have hdistinct := (Runs.Reachable.valid linked.vault).tokens
  rcases rest.2.2 w.liquidity.config _ linked.serves .withdrawSingle rfl with hpays | ⟨hburned, hpayout, hothers⟩
  · exact Pays.backed ⟨hpays.token, hpays.held⟩
  · intro i
    refine backing_of_slice hburned ?_
    rw [← slices, ← linked.tokens]
    by_cases hi : i = payout
    · subst hi
      rw [held_val, ← linked.tokens] at hpayout
      exact hpayout
    · have hi' : 1 - payout = i := by
        fin_cases i <;> fin_cases payout <;> first | rfl | exact absurd rfl hi
      have htoken : w.liquidity.config.assetTokens i ≠ w.liquidity.config.assetTokens payout := by
        rw [linked.tokens]
        fin_cases i <;> fin_cases payout <;> first | exact absurd rfl hi | exact hdistinct | exact hdistinct.symm
      have hother := hothers _ htoken
      rw [hi'] at hoffer hamount
      rw [if_pos hoffer, hamount] at hother
      exact hother

omit [LawfulToken L] in
lemma leaves_deposit {amounts : Fin 2 → Uint128} {minShares : Uint128} {deadline : ℕ} {swap : Option SwapParams}
    (linked : Linked C w) (reads : LiquidityReads C w q) (some_shares : supply w ≠ 0)
    (h : executeDeposit q env w.liquidity info amounts minShares deadline swap = .ok (l, r))
    (rest : Leaves C { w with liquidity := l } log w' (.deliverLiquidity r.messages)) : Backed C w w' := by
  simp only [executeDeposit, bind_eq_ok, liftStd_eq_ok, Except.ok.injEq, Prod.mk.injEq] at h
  obtain ⟨_, -, _, -, _, -, _, -, preBalances, hbalances, price, -, rfl, rfl⟩ := h
  rw [linked.serves] at hbalances
  obtain rfl := Except.ok.inj (reads.balances.symm.trans hbalances)
  have hcompletes := rest.2.2 w.liquidity.config _ linked.serves .deposit rfl rfl some_shares
  intro i
  have hi := hcompletes i
  rwa [held_val] at hi

lemma executeCw20_supply {base : BaseExecuteMsg} (unminted : base.minted = 0) (unburned : base.burned = 0)
    (h : executeCw20 env w.liquidity info base = .ok (l, r)) :
    (Token.totalSupply l.token).val = (Token.totalSupply w.liquidity.token).val := by
  simp only [executeCw20, cw20Result_eq_ok, bind_eq_ok, Except.ok.injEq, Prod.exists, Prod.mk.injEq] at h
  obtain ⟨_, -, token, answer, hexec, rfl, -⟩ := h
  have hsupply := LawfulToken.supply hexec
  rw [unminted, unburned] at hsupply
  exact hsupply

lemma leaves_cw20 [HooksOnSend L] {base : BaseExecuteMsg} (locked : Locked C w) (other : C.liquidity ≠ info.sender)
    (unminted : base.minted = 0) (hown : sendsShares base = true → Own C log) (some_shares : supply w ≠ 0)
    (h : executeCw20 env w.liquidity info base = .ok (l, r))
    (rest : Leaves C { w with liquidity := l } log w' (.deliverLiquidity r.messages)) : Backed C w w' := by
  have hgrows := locked_cw20 locked other unminted h
  obtain ⟨-, hidle, -, hhooks⟩ := executeCw20_spec h
  simp only [executeCw20, cw20Result_eq_ok, bind_eq_ok, Except.ok.injEq, Prod.exists, Prod.mk.injEq] at h
  obtain ⟨_, -, token, answer, hexec, rfl, rfl⟩ := h
  have hsupply := LawfulToken.supply hexec
  have hfirst : Backed C w { w with liquidity := { w.liquidity with token } } := by
    intro i
    refine Nat.mul_le_mul_left _ ?_
    simp only [supply]
    omega
  by_cases hsends : sendsShares base = true
  · exact hfirst.trans rfl (hgrows.supply_pos locked some_shares)
      (rest.2.1 hhooks hidle (hown hsends) (hgrows.supply_pos locked some_shares))
  · have hsilent := HooksOnSend.silent hexec (Bool.eq_false_iff.mpr hsends)
    rw [hsilent] at rest
    obtain rfl := rest.1 rfl
    exact hfirst

lemma leaves_liquidity [HooksOnSend L] {msg : LiquidityExecuteMsg} (linked : Linked C w) (locked : Locked C w)
    (reads : LiquidityReads C w q) (run : Liquidity.execute q env w.liquidity info msg = .ok (l, r))
    (rest : Leaves C { w with liquidity := l } log w' (.deliverLiquidity r.messages)) {before : Log L W} :
    Leaves C w (before ++ log) w' (.liquidity info msg) := by
  intro alien
  have hvault : info.sender ≠ w.liquidity.config.vault := linked.serves ▸ alien.1
  refine ⟨fun hwaits => ?_, fun hidle hown some_shares => ?_⟩
  · obtain ⟨hsilent, htoken⟩ := waiting_quiet hvault hwaits run
    obtain rfl := rest.1 hsilent
    exact ⟨htoken, fun _ => le_rfl⟩
  · have base : ∀ {b : BaseExecuteMsg}, executeCw20 env w.liquidity info b = .ok (l, r) → b.minted = 0 →
        (sendsShares b = true → sends msg = true) → Backed C w w' := by
      intro b h unminted hsends
      exact leaves_cw20 locked alien.2.symm unminted (fun hb => (hown (hsends hb)).right) some_shares h rest
    by_cases hmsg : administers msg = true
    · obtain ⟨htoken, -, -, hsilent⟩ := execute_administered hmsg run
      obtain rfl := rest.1 hsilent
      exact Pays.backed ⟨htoken, fun _ => le_rfl⟩
    · cases msg with
      | deposit amounts minShares deadline swap => exact leaves_deposit linked reads some_shares run rest
      | withdraw shares recipient deadline output =>
        obtain ⟨claims, payee, hslices, h⟩ := executeWithdraw_claims linked reads run
        cases output with
        | proRata minAssets => exact leaves_proRata linked hslices h rest
        | token0 minAmount swap => exact leaves_single linked reads hslices h rest
        | token1 minAmount swap => exact leaves_single linked reads hslices h rest
      | mintTo recipient amount =>
        simp only [Liquidity.execute, executeMintTo, bind_eq_ok, ensure_eq_ok, decide_eq_true_eq] at run
        obtain ⟨_, hsender, -⟩ := run
        exact absurd hsender hvault
      | send contract amount text => exact base run rfl fun _ => rfl
      | sendFrom owner contract amount text => exact base run rfl fun _ => rfl
      | updateConfig | transferAdmin | acceptAdmin | cancelAdminTransfer => exact absurd rfl hmsg
      | _ => exact base run rfl fun hsends => absurd hsends Bool.false_ne_true

lemma completeDeposit_spec {st : Shares L} {depositor : Addr} {preBalances : Fin 2 → Uint128} {preSupply : Uint128}
    {price : Decimal} {minShares : Uint128} {swap : Option SwapParams}
    (waits : st.pending = some (.deposit depositor preBalances preSupply price minShares swap))
    (some_shares : preSupply.val ≠ 0) (h : completeDeposit q env st = .ok (l, r)) :
    ∃ postBalances, ∃ userShares : ℕ, q.vaultBalances st.config.vault = .ok postBalances ∧
      (Token.totalSupply l.token).val = (Token.totalSupply st.token).val + userShares ∧
      ∀ i, (preBalances i).val * (preSupply.val + userShares) ≤ (postBalances i).val * preSupply.val := by
  rw [completeDeposit] at h
  rw [waits] at h
  simp only [bind_eq_ok, ensure_eq_ok, decide_eq_true_eq, liftStd_eq_ok, Except.ok.injEq, Prod.exists,
    Prod.mk.injEq] at h
  obtain ⟨postBalances, hpost, _, ⟨hle0, hle1⟩, _, -, _, -, _, -, preNav, -, _, -, _, -, token, userShares, hshares, _,
    -, _, -, minted, hmint, rfl, -⟩ := h
  have hsome : ¬ isZero preSupply = true := fun hzero => some_shares (isZero_iff.mp hzero)
  simp only [depositShares, hsome, if_false, Bool.false_eq_true, proportionalDepositShares, bind_eq_ok,
    withError_eq_ok, checkedSub_eq_ok, SwapVault.Pricing.checkedRatio_eq_ok, Except.ok.injEq, Prod.mk.injEq] at hshares
  obtain ⟨_, ⟨_, -, added0, ⟨-, hadded0⟩, added1, ⟨-, hadded1⟩, shares0, ⟨-, hshares0⟩, shares1, ⟨-, hshares1⟩, rfl⟩,
    rfl, rfl⟩ := hshares
  refine ⟨postBalances, _, hpost, mintShares_supply hmint, Fin.forall_fin_two.mpr ⟨?_, ?_⟩⟩
  · refine backing_of_minted hle0 ?_
    have hmin : (min shares0 shares1).val ≤ shares0.val := min_le_left shares0 shares1
    rwa [hshares0, hadded0] at hmin
  · refine backing_of_minted hle1 ?_
    have hmin : (min shares0 shares1).val ≤ shares1.val := min_le_right shares0 shares1
    rwa [hshares1, hadded1] at hmin

variable {sent : SubMsg State.WasmMsg} {ms : List (SubMsg State.WasmMsg)}

lemma leaves_liquiditySent (linked : Linked C w) (locked : Locked C w) (silent : sent.replyOn.onSuccess = false)
    (firstRun : Run C (.send C.liquidity sent.msg) w log₁ w₁) (first : Leaves C w log₁ w₁ (.send C.liquidity sent.msg))
    (rest : Locked C w₁ → Leaves C w₁ log₂ w' (.deliverLiquidity ms)) :
    Leaves C w (log₁ ++ log₂) w' (.deliverLiquidity (sent :: ms)) := by
  refine ⟨fun h => absurd h (List.cons_ne_nil _ _), fun hooks hidle hown some_shares => ?_,
    fun config op serves howed hop => ?_⟩
  · obtain ⟨hook, rfl⟩ := hooks sent List.mem_cons_self
    have hstill := (run_meets firstRun linked).1 nofun
    have hgrows := run_secures firstRun linked locked nofun
    have hleft := hgrows.supply_pos locked some_shares
    have hfirst := (first.2 rfl).2.1 hook rfl hidle hown.left some_shares
    have hrest := (rest hgrows.locked).2.1 (fun m hm => hooks m (List.mem_cons_of_mem _ hm))
      (hstill.pending.trans hidle) hown.right hleft
    exact hfirst.trans hgrows.assetTokens hleft hrest
  · generalize hms : sent :: ms = messages at howed
    cases howed with
    | deposit =>
      rcases payIn_cons hms with ⟨rfl, -⟩ | ⟨token, amount, amounts', rfl, rfl⟩
      · cases silent
      · have hstill := (run_meets firstRun linked).1 nofun
        have hgrows := run_secures firstRun linked locked nofun
        have hpays := (first.2 rfl).1 token _ _ amount rfl
        have hrest := (rest hgrows.locked).2.2 config _ serves .deposit (hstill.pending.trans hop)
        intro hsupply some_shares i
        have hi := hrest (hsupply.trans hpays.supply.symm) some_shares i
        rwa [hgrows.assetTokens, hpays.supply] at hi
    | withdrawSingle =>
      cases hms
      cases silent
    | @transfers paid left some_left =>
      cases left with
      | nil => cases hms
      | cons transfer left =>
        cases hms
        cases silent

lemma leaves_liquidityReplied (linked : Linked C w) (locked : Locked C w) (asked : sent.replyOn.onSuccess = true)
    (firstRun : Run C (.send C.liquidity sent.msg) w log₁ w₁) (first : Leaves C w log₁ w₁ (.send C.liquidity sent.msg))
    (reads : LiquidityReads C w₁ q) (here : env.contract = C.liquidity)
    (run : Liquidity.reply q env w₁.liquidity sent.id (.ok ()) = .ok (l, r))
    (rest : Locked C { w₁ with liquidity := l } →
      Leaves C { w₁ with liquidity := l } log₂ w' (.deliverLiquidity (r.messages ++ ms))) {between : Log L W} :
    Leaves C w (log₁ ++ (between ++ log₂)) w' (.deliverLiquidity (sent :: ms)) := by
  refine ⟨fun h => absurd h (List.cons_ne_nil _ _), fun hooks => ?_, fun config op serves howed hop => ?_⟩
  · obtain ⟨hook, rfl⟩ := hooks sent List.mem_cons_self
    cases asked
  · have hlinked := run_linked firstRun linked
    generalize hms : sent :: ms = messages at howed
    cases howed with
    | @deposit depositor preBalances preSupply _ _ swap amounts =>
      rcases payIn_cons hms with ⟨rfl, rfl⟩ | ⟨token, amount, amounts', rfl, rfl⟩
      · have hasks : asks (settleDeposit swap) = true := by cases swap <;> rfl
        have htold := congrArg (State.WasmMsg.vault · (settleDeposit swap)) serves
        have hpays := (first.2 rfl).2.2 (settleDeposit swap) htold hasks (hop ▸ Option.some_ne_none _)
        have hasked := (run_meets firstRun linked).2.1 (settleDeposit swap) rfl htold hasks
        have hgrows := run_secures firstRun linked locked nofun
        have hpending := hasked.pending.trans hop
        obtain ⟨hsilent, -⟩ := deposit_answered hpending run
        replace rest := rest (locked_replied hgrows.locked here run).locked
        rw [hsilent] at rest
        obtain rfl := rest.1 rfl
        intro hsupply some_shares i
        obtain ⟨postBalances, userShares, hpost, hminted, hbacked⟩ := completeDeposit_spec hpending some_shares run
        rw [hlinked.serves] at hpost
        obtain rfl := Except.ok.inj (reads.balances.symm.trans hpost)
        have hi := hbacked i
        rw [held_val, hsupply, hgrows.assetTokens] at hi
        have hsum : supply { w₁ with liquidity := l } = supply w + userShares := by
          rw [← hpays.supply]
          exact hminted
        rw [hsum]
        exact hi
      · cases asked
    | @withdrawSingle owner shares recipient payoutToken baseAmount prePayoutBalance minAmount swap =>
      cases hms
      have htold := congrArg (State.WasmMsg.vault · (VaultExecuteMsg.liquiditySwap swap)) serves
      have hpays := (first.2 rfl).2.2 (.liquiditySwap swap) htold rfl (hop ▸ Option.some_ne_none _)
      have hasked := (run_meets firstRun linked).2.1 (.liquiditySwap swap) rfl htold rfl
      have hpending := hasked.pending.trans hop
      obtain ⟨current, payout, hcurrent, hle, hpayout, hburn, hwaits, hmessages⟩ :=
        completeSingleWithdraw_spec hpending run
      rw [hlinked.serves] at hcurrent
      obtain rfl := Except.ok.inj ((reads.balance payoutToken).symm.trans hcurrent)
      have hgrows := run_secures firstRun linked locked nofun
      replace rest := rest (locked_replied hgrows.locked here run).locked
      rw [hmessages, List.append_nil] at rest
      have hpaid : Pays C (spentFor (transferMessages w₁.liquidity.config [⟨payoutToken, payout, recipient⟩])) _ w' :=
        rest.2.2 w₁.liquidity.config _ hlinked.serves (@Owed.transfers _ [] _ (List.cons_ne_nil _ _)) hwaits
      have hsupply : supply w' + shares.val = supply w := by
        rw [hpaid.supply, ← hpays.supply]
        exact burnShares_supply hburn
      refine .inr ⟨hsupply, ?_, fun other hother => ?_⟩
      · have hheld := hpaid.held payoutToken
        simp only [spentFor_transfers, List.map_cons, List.map_nil, if_true, List.sum_singleton] at hheld
        simp only [heldIn] at hheld ⊢
        omega
      · have hfirst := hpays.held other
        have hheld := hpaid.held other
        simp only [spentFor_transfers, List.map_cons, List.map_nil, hother.symm, if_false, List.sum_singleton] at hheld
        simp only [heldIn, spentBy] at hfirst hheld ⊢
        omega
    | @transfers paid left some_left =>
      cases left with
      | nil => exact absurd rfl some_left
      | cons transfer left =>
        cases hms
        have htold := congrArg (State.WasmMsg.vault ·
          (VaultExecuteMsg.transferTo transfer.token transfer.amount transfer.recipient)) serves
        have hpays := (first.2 rfl).2.2 _ htold rfl (hop ▸ Option.some_ne_none _)
        have hasked := (run_meets firstRun linked).2.1 _ rfl htold rfl
        have hpending := hasked.pending.trans hop
        have hgrows := run_secures firstRun linked locked nofun
        replace rest := rest (locked_replied hgrows.locked here run).locked
        obtain ⟨hsilent, rfl⟩ := transfer_counted hpending run
        rw [hsilent, List.nil_append] at rest
        have hrest : Pays C (spentFor (transferMessages config left)) w₁ w' := by
          by_cases hleft : left = []
          · subst hleft
            obtain rfl := rest.1 rfl
            exact ⟨rfl, fun _ => Nat.le_add_right _ _⟩
          · have hlength : left.length ≠ 0 := fun hzero => hleft (List.length_eq_zero_iff.mp hzero)
            have hpaid : Pays C (spentFor (transferMessages config left)) _ w' := rest.2.2 config
              (.authorizedTransfers (paid ++ [transfer] ++ left) left.length) serves (.transfers hleft)
              (by rw [List.append_assoc]; exact if_neg hlength)
            exact ⟨hpaid.token, hpaid.held⟩
        exact hpays.trans hrest

omit [LawfulToken L] in
lemma leaves_liquidityCaught {e : String} (asked : sent.replyOn.onError = true)
    (run : Liquidity.reply q env w.liquidity sent.id (.error e) = .ok (l, r))
    (rest : Leaves C { w with liquidity := l } log w' (.deliverLiquidity (r.messages ++ ms))) :
    Leaves C w log w' (.deliverLiquidity (sent :: ms)) := by
  refine ⟨fun h => absurd h (List.cons_ne_nil _ _), fun hooks => ?_, fun config op serves howed hop => ?_⟩
  · obtain ⟨hook, rfl⟩ := hooks sent List.mem_cons_self
    cases asked
  · generalize hms : sent :: ms = messages at howed
    cases howed with
    | deposit =>
      rcases payIn_cons hms with ⟨rfl, -⟩ | ⟨token, amount, amounts', rfl, -⟩
      · cases asked
      · cases asked
    | @transfers paid left some_left =>
      cases left with
      | nil => cases hms
      | cons transfer left =>
        cases hms
        cases asked
    | withdrawSingle =>
      cases hms
      obtain ⟨-, op, hop', hanswers⟩ := liquidity_reply run
      obtain rfl := Option.some.inj (hop.symm.trans hop')
      generalize hresult : (.error e : Except String Unit) = result at hanswers
      cases hanswers with
      | swapped => cases hresult
      | swapFailed settled silent =>
        rw [silent] at rest
        obtain rfl := rest.1 rfl
        obtain rfl := settled
        exact .inl ⟨rfl, fun _ => le_rfl⟩

end Liquidity

section Runs

variable [LawfulToken L] [HooksOnSend L]

omit [LawfulToken L] [HooksOnSend L] in
lemma leaves_toToken (honest : Honest C) {sender token : Addr} {msg : State.Cw20ExecuteMsg} {outside : W}
    (carried : C.carries w.outside sender token msg outside) (rest : Leaves C { w with outside } log w' .outside)
    (silent : ¬ C.hooked msg → log = [] ∧ w' = { w with outside }) :
    Leaves C w log w' (.send sender (.cw20 token msg)) := by
  constructor
  · rintro hvault token' msg' ⟨⟩ hwaits hguarded
    have hrest := rest.1 hwaits hguarded
    refine ⟨hrest.token, fun other => ?_⟩
    rw [hvault] at carried
    have hcarried := honest.vaultPays _ _ _ _ other carried
    have hheld := hrest.held other
    simp only [heldIn, Pi.zero_apply, Nat.add_zero] at hheld ⊢
    omega
  · intro hliquidity
    refine ⟨?_, nofun, nofun⟩
    rintro token' owner recipient amount ⟨⟩
    obtain ⟨rfl, rfl⟩ := silent fun hhooked => by
      obtain ⟨_, _, _, hsend⟩ := honest.standard _ hhooked
      cases hsend
    rw [hliquidity] at carried
    exact ⟨rfl, fun other => honest.othersPay _ _ _ _ _ other C.apart.symm carried⟩

omit [LawfulToken L] [HooksOnSend L] in
lemma leaves_send {sender : Addr} {m : State.WasmMsg} (foreign : ∀ token msg, m ≠ .cw20 token msg)
    (received : ∀ hook, m = .receive hook → sender = C.liquidity → w.liquidity.pending = none → Own C log →
      supply w ≠ 0 → Backed C w w')
    (asked : ∀ msg, m = .vault C.vault msg → sender = C.liquidity → asks msg = true → w.liquidity.pending ≠ none →
      Pays C (spentBy msg) w w') : Leaves C w log w' (.send sender m) := by
  refine ⟨fun _ token msg h => absurd h (foreign token msg), fun hliquidity => ⟨?_, ?_, ?_⟩⟩
  · intro token owner recipient amount h
    exact absurd h (foreign token _)
  · intro hook h
    exact received hook h hliquidity
  · intro msg h
    exact asked msg h hliquidity

theorem run_leaves {task : Task} (honest : Honest C) (h : Run C task w log w') (linked : Linked C w)
    (locked : Locked C w) : Leaves C w log w' task := by
  induction h with
  | quiet => exact ⟨fun _ _ => .refl, fun _ _ _ => Pays.refl.backed⟩
  | @drifted w out log w' h rest ih =>
    obtain ⟨hwaiting, hidle⟩ := ih (linked.drifted _) (locked.drifted _)
    have hdrift : Pays C 0 w { w with outside := out } := ⟨rfl, fun other => honest.drifts _ _ other h⟩
    exact ⟨fun hwaits hguarded => hdrift.trans (hwaiting hwaits hguarded),
      fun hnone hown some_shares => .after hdrift rfl (hidle hnone hown some_shares)⟩
  | enteredVault alien first rest ih₁ ih₂ =>
    have hstill := (run_meets first linked).1 alien
    have hgrows := run_secures first linked locked
    obtain ⟨hwaiting, hidle⟩ := ih₂ hstill.linked hgrows.locked
    have hfirst := (ih₁ linked locked).1 alien
    constructor
    · intro hwaits hguarded
      have hpays := hfirst (fun _ => hguarded) fun hnone => absurd hnone hwaits
      exact hpays.trans (hwaiting (hstill.pending ▸ hwaits) (hstill.guarded hguarded))
    · intro hnone hown some_shares
      have hpays := hfirst (fun hwaits => absurd hnone hwaits) fun _ => hown.left
      exact .after hpays hgrows.assetTokens (hidle (hstill.pending.trans hnone) hown.right
        (hgrows.supply_pos locked some_shares))
  | enteredLiquidity alien first rest ih₁ ih₂ =>
    have hstill : Still C _ _ _ := run_meets first linked
    have hgrows := run_secures first linked locked alien.2.symm fun hvault => absurd hvault alien.1
    obtain ⟨hwaiting, hidle⟩ := ih₂ hstill.linked hgrows.locked
    obtain ⟨hpays, hbacked⟩ := ih₁ linked locked alien
    constructor
    · intro hwaits hguarded
      exact (hpays hwaits).trans (hwaiting (hstill.pending ▸ hwaits) (hstill.guarded hguarded))
    · intro hnone hown some_shares
      have hleft := hgrows.supply_pos locked some_shares
      exact (hbacked hnone (fun _ => hown.left) some_shares).trans hgrows.assetTokens hleft
        (hidle (hstill.pending.trans hnone) hown.right hleft)
  | vault reads here h rest ih =>
    exact leaves_vault linked reads h (ih (linked.vault_executed reads h) (locked.of_vault _))
  | @liquidity w q env info msg l r log w' reads here h rest ih =>
    intro alien
    have hgrows := locked_executed locked alien.2.symm linked.serves (fun hvault => absurd hvault alien.1) h
    exact leaves_liquidity linked locked reads h (ih (linked.liquidity_executed h) hgrows.locked) alien
  | toVault h ih =>
    refine leaves_send (by simp) (by simp) ?_
    rintro msg ⟨⟩ hliquidity hasks hwaits
    exact (ih linked locked).2 hliquidity hasks hwaits
  | toLiquidity h ih => exact leaves_send (by simp) (by simp) (by simp)
  | toToken h rest silent ih => exact leaves_toToken honest h (ih (linked.drifted _) (locked.drifted _)) silent
  | toReceiver rest ih =>
    refine leaves_send (by simp) ?_ (by simp)
    rintro hook ⟨⟩ -
    exact (ih linked locked).2
  | toOtherVault other rest ih =>
    refine leaves_send (by simp) (by simp) ?_
    rintro msg ⟨⟩
    exact absurd rfl other
  | toOtherLiquidity other rest ih => exact leaves_send (by simp) (by simp) (by simp)
  | vaultDone => exact ⟨fun _ => rfl, nofun⟩
  | vaultSent silent first rest ih₁ ih₂ =>
    refine ⟨nofun, ?_⟩
    rintro token msg ⟨⟩ hwaits hguarded
    have hgrows := run_secures first linked locked nofun
    obtain rfl := (ih₂ (run_linked first linked) hgrows.locked).1 rfl
    exact (ih₁ linked locked).1 rfl token msg rfl hwaits hguarded
  | vaultReplied asked first reads here h rest ih₁ ih₂ =>
    refine ⟨nofun, ?_⟩
    rintro token msg ⟨⟩
    cases asked
  | liquidityDone =>
    refine ⟨fun _ => rfl, fun _ _ _ _ => Pays.refl.backed, ?_⟩
    intro config op serves howed hop
    generalize hms : ([] : List (SubMsg State.WasmMsg)) = messages at howed
    cases howed with
    | deposit => exact absurd hms.symm (List.append_ne_nil_of_right_ne_nil _ (List.cons_ne_nil _ _))
    | withdrawSingle => cases hms
    | transfers some_left => exact absurd (List.map_eq_nil_iff.mp hms.symm) some_left
  | liquiditySent silent first rest ih₁ ih₂ =>
    exact leaves_liquiditySent linked locked silent first (ih₁ linked locked) (ih₂ (run_linked first linked))
  | liquidityReplied asked first reads here h rest ih₁ ih₂ =>
    have hlinked := (run_linked first linked).liquidity_replied h
    exact leaves_liquidityReplied linked locked asked first (ih₁ linked locked) reads here h (ih₂ hlinked)
  | liquidityCaught asked reads here h rest ih =>
    exact leaves_liquidityCaught asked h (ih (linked.liquidity_replied h) (locked_replied locked here h).locked)

/-- With honest tokens, whatever is asked of the liquidity contract leaves no share that remains with less of either
token behind it. A send moves shares only; what its receiver has the keeper do meanwhile is not the send's. -/
theorem backing_per_share_kept (L W : Type) [Token L] [LawfulToken L] [HooksOnSend L] (C : Chain W)
    (honest : Honest C) {w w' : World L W} {info : MessageInfo} {msg : LiquidityExecuteMsg} {log : Log L W}
    (reachable : Reachable C w) (some_shares : (Token.totalSupply w.liquidity.token).val ≠ 0)
    (alien : C.Alien info.sender) (run : Run C (.liquidity info msg) w log w') :
    ((sends msg = true → Own C log) → ∀ i,
      (C.held w.outside (w.vault.config.assetTokens i) C.vault).val * (Token.totalSupply w'.liquidity.token).val ≤
        (C.held w'.outside (w.vault.config.assetTokens i) C.vault).val * (Token.totalSupply w.liquidity.token).val) ∧
    (sends msg = true → ∀ q env l r, Liquidity.execute q env w.liquidity info msg = .ok (l, r) →
      (Token.totalSupply l.token).val = (Token.totalSupply w.liquidity.token).val) := by
  obtain ⟨hlinked, hidle, -⟩ := reachable_idle reachable
  have hleaves := run_leaves honest run hlinked (reachable_locked reachable)
  refine ⟨fun hown i => (hleaves alien).2 hidle hown some_shares i, fun hsends q env l r h => ?_⟩
  cases msg with
  | send contract amount text => exact executeCw20_supply rfl rfl h
  | sendFrom owner contract amount text => exact executeCw20_supply rfl rfl h
  | _ => cases hsends

section Ledgers

open CosmWasm.TokenLedger

instance : HooksOnSend Ledger where
  silent {env l l' info msg r} h unsent := by
    simp only [Token.execute, bind_eq_ok, Except.ok.injEq, Prod.mk.injEq, Prod.exists] at h
    obtain ⟨_, hook, h, rfl, rfl⟩ := h
    cases msg with
    | send | sendFrom => cases unsent
    | updateMarketing | uploadLogo => cases h
    | transfer | burn | increaseAllowance =>
      simp only [Ledger.execute, bind_eq_ok, Except.ok.injEq, Prod.mk.injEq] at h
      obtain ⟨_, -, -, rfl⟩ := h
      rfl
    | mint | transferFrom | burnFrom =>
      simp only [Ledger.execute, bind_eq_ok, Except.ok.injEq, Prod.mk.injEq] at h
      obtain ⟨_, -, _, -, -, rfl⟩ := h
      rfl
    | decreaseAllowance =>
      cases h
      rfl

def payer (sender : Addr) : State.Cw20ExecuteMsg → Addr
  | .transferFrom owner _ _ => owner
  | .transfer .. | .send .. => sender

lemma carryOne_held {ledger ledger' : Ledger} {sender : Addr} {msg : State.Cw20ExecuteMsg}
    (h : carryOne ledger sender msg = .ok ledger') (account : Addr) :
    (ledger.held account).val ≤ (ledger'.held account).val + if payer sender msg = account then spent msg else 0 := by
  cases msg with
  | transfer recipient amount => exact (Ledger.move_ok h).2.2 account
  | send contract amount hook => exact (Ledger.move_ok h).2.2 account
  | transferFrom owner recipient amount =>
    simp only [carryOne, bind_eq_ok] at h
    obtain ⟨between, hdeduct, hmove⟩ := h
    have hheld := (Ledger.move_ok hmove).2.2 account
    rw [(Ledger.deduct_ok hdeduct).2.2.1] at hheld
    exact hheld

lemma carry_held {tokens tokens' : Tokens} {sender token : Addr} {msg : State.Cw20ExecuteMsg}
    (h : carry tokens sender token msg = .ok tokens') (other account : Addr) :
    ((tokens other).held account).val ≤
      ((tokens' other).held account).val + if token = other ∧ payer sender msg = account then spent msg else 0 := by
  simp only [carry, bind_eq_ok, Except.ok.injEq] at h
  obtain ⟨ledger, hledger, rfl⟩ := h
  by_cases hother : token = other
  · subst hother
    rw [Function.update_self]
    have hheld := carryOne_held hledger account
    simpa only [true_and] using hheld
  · rw [if_neg fun hboth => hother hboth.1, Function.update_of_ne (Ne.symm hother)]
    exact Nat.le_add_right _ _

lemma ledgerChain_honest : Honest ledgerChain where
  standard _ h := h
  drifts o o' token h := h token
  vaultPays o o' token msg other h := by
    refine (carry_held h.1 other _).trans (Nat.add_le_add_left ?_ _)
    by_cases htoken : token = other
    · rw [if_pos htoken]
      split <;> omega
    · rw [if_neg htoken, if_neg fun hboth => htoken hboth.1]
  othersPay o o' sender token msg other hsender h := by
    have hheld := carry_held h.1 other "vault"
    rwa [if_neg] at hheld
    rintro ⟨-, hpayer⟩
    cases msg with
    | transferFrom owner recipient amount =>
      obtain rfl : owner = "vault" := hpayer
      exact h.2 _ _ rfl
    | transfer recipient amount => exact hsender hpayer
    | send contract amount hook => exact hsender hpayer

theorem second_deposit_backed : ∃ w w', funded = .ok w ∧ deposited w = .ok w' ∧
    Token.totalSupply w'.liquidity.token = ⟨40000, by decide⟩ ∧ ∀ i,
      ((w.outside (w.vault.config.assetTokens i)).held "vault").val * (Token.totalSupply w'.liquidity.token).val ≤
        ((w'.outside (w.vault.config.assetTokens i)).held "vault").val *
          (Token.totalSupply w.liquidity.token).val := by
  have hfunded : okAnd funded (fun w => Token.totalSupply w.liquidity.token ≠ 0 ∧
      okAnd (deposited w) fun w' => Token.totalSupply w'.liquidity.token = ⟨40000, by decide⟩) = true := by
    decide
  obtain ⟨w, hw, hboth⟩ := okAnd_iff.mp hfunded
  obtain ⟨hsome, hdeposited⟩ := of_decide_eq_true hboth
  obtain ⟨w', hw', hsupply⟩ := okAnd_iff.mp hdeposited
  obtain ⟨log, hrun⟩ := deposited_runs hw'
  have hsome' : (Token.totalSupply w.liquidity.token).val ≠ 0 := fun hzero => hsome (eq_iff.mpr hzero)
  obtain ⟨hbacked, -⟩ := backing_per_share_kept Ledger Tokens ledgerChain ledgerChain_honest
    (funded_reachable hw) hsome' ⟨by decide, by decide⟩ hrun
  exact ⟨w, w', hw, hw', of_decide_eq_true hsupply, hbacked nofun⟩

end Ledgers

end Runs

end Cl8yDexBots.Rebalancer.BackingPerShare
