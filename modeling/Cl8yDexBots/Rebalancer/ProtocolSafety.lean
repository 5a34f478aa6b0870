import Cl8yDexBots.CosmWasm.TokenLedger
import Cl8yDexBots.Rebalancer.Binding
import Cl8yDexBots.Rebalancer.Protocol

/-! No operation outlives its transaction, and the vault pays out what is authorized, once. -/

namespace Cl8yDexBots.Rebalancer.ProtocolSafety

open Foundation.Checked Foundation.Words Foundation.SubMessages CosmWasm.Std CosmWasm.Cw20Base
open State Liquidity Binding Protocol

variable {L W : Type} [Token L] {C : Chain W} {w w₁ w' : World L W} {log log₁ log₂ : Log L W}

/-- A standard token calls its receiver upon a send, and nobody upon anything else. -/
def StandardTokens (C : Chain W) : Prop :=
  ∀ msg, C.hooked msg → ∃ contract amount hook, msg = .send contract amount hook

/-- The two contracts know each other, and the vault at most forgets. -/
structure Linked (C : Chain W) (w : World L W) : Prop where
  vault : Runs.Reachable w.vault
  bound : ∀ liquidity, w.vault.config.liquidityContract = some liquidity → liquidity = C.liquidity
  serves : w.liquidity.config.vault = C.vault
  tokens : w.liquidity.config.assetTokens = w.vault.config.assetTokens
  waiting : ∀ transfers n, w.liquidity.pending = some (.authorizedTransfers transfers n) → transfers ≠ []

def Guarded (w : World L W) : Prop := w.vault.config.liquidityContract ≠ none ∨ w.vault.paused = true

def Listed (w : World L W) (token : Addr) (msg : State.Cw20ExecuteMsg) : Prop :=
  (∃ recipient amount, msg = .transfer recipient amount ∧
    ⟨token, amount, recipient⟩ ∈ (liquidityAuthorization w.liquidity).transfers) ∨
  ∃ params, (liquidityAuthorization w.liquidity).swap = some params ∧
    .cw20 token msg = Vault.proxySwapMessage w.vault.config params

/-- A token message of the vault is one that the liquidity contract asks for and has authorized, or a rebalance of the
keeper; and it is sent while no rebalance waits. -/
structure Justified (C : Chain W) (w : World L W) (caller token : Addr) (msg : State.Cw20ExecuteMsg) : Prop where
  idle : w.vault.pendingRebalance = none
  listed : caller = C.liquidity → Listed w token msg
  rebalancing : caller ≠ C.liquidity → caller = w.vault.config.keeper ∧
    ∃ params, .cw20 token msg = Vault.proxySwapMessage w.vault.config params

def AllJustified (C : Chain W) (log : Log L W) : Prop :=
  ∀ w caller token msg, (w, .paid caller token msg) ∈ log → Justified C w caller token msg

def Undisturbed (C : Chain W) (log : Log L W) : Prop :=
  ∀ w caller token msg, (w, .paid caller token msg) ∈ log → caller ≠ C.liquidity → w.liquidity.pending = none

inductive Due where
  | listed (transfers : List AuthorizedTransfer)
  | made (transfer : AuthorizedTransfer)
  deriving DecidableEq

def due : Move → Option Due
  | .authorized transfers => some (.listed transfers)
  | .paid _ token (.transfer recipient amount) => some (.made ⟨token, amount, recipient⟩)
  | .paid .. => none

def dues (log : Log L W) : List Due := log.filterMap fun e => due e.2

/-- Whatever is authorized is then transferred, each transfer once and nothing else. -/
inductive Settled : List Due → Prop
  | nil : Settled []
  | block {transfers rest} (h : Settled rest) : Settled (.listed transfers :: (transfers.map .made ++ rest))

lemma Settled.append {a b : List Due} (ha : Settled a) (hb : Settled b) : Settled (a ++ b) := by
  induction ha with
  | nil => exact hb
  | block h ih =>
    rw [List.cons_append, List.append_assoc]
    exact .block ih

omit [Token L] in
@[simp] lemma dues_append (log₁ log₂ : Log L W) : dues (log₁ ++ log₂) = dues log₁ ++ dues log₂ :=
  List.filterMap_append

section Linked

omit [Token L] in
lemma Linked.of_vault {st : Storage} (h : Linked C w) (reach : Runs.Reachable st)
    (bound : ∀ liquidity, st.config.liquidityContract = some liquidity → liquidity = C.liquidity)
    (tokens : st.config.assetTokens = w.vault.config.assetTokens) : Linked C { w with vault := st } :=
  ⟨reach, bound, h.serves, h.tokens.trans tokens.symm, h.waiting⟩

omit [Token L] in
lemma Linked.of_liquidity {l : Shares L} (h : Linked C w) (same : SameVault w.liquidity l)
    (waiting : ∀ transfers n, l.pending = some (.authorizedTransfers transfers n) → transfers ≠ []) :
    Linked C { w with liquidity := l } :=
  ⟨h.vault, h.bound, same.1.trans h.serves, same.2.trans h.tokens, waiting⟩

lemma Linked.vault_executed {q : Querier} {env : Env} {info : MessageInfo} {msg : VaultExecuteMsg} {st : Storage}
    {r : Response State.WasmMsg} (h : Linked C w) (reads : VaultReads C w q)
    (run : Vault.execute q env w.vault info msg = .ok (st, r)) : Linked C { w with vault := st } := by
  refine h.of_vault (.executed h.vault run) (fun liquidity hliquidity => ?_) (Runs.execute_keeps run).assetTokens
  cases execute_rebound run with
  | kept same => exact h.bound liquidity (same ▸ hliquidity)
  | released unbound => cases unbound.symm.trans hliquidity
  | bound told names tokens now =>
    obtain rfl := Option.some.inj (now.symm.trans hliquidity)
    exact (reads.config _ _ told).1

omit [Token L] in
lemma Linked.vault_replied {q : Querier} {env : Env} {id : ℕ} {st : Storage} {r : Response State.WasmMsg}
    (h : Linked C w) (run : Vault.reply q env w.vault id = .ok (st, r)) : Linked C { w with vault := st } := by
  obtain ⟨hbound, -, htokens⟩ := vault_reply_binding run
  exact h.of_vault (.replied h.vault run) (fun liquidity hliquidity => h.bound liquidity (hbound ▸ hliquidity)) htokens

lemma Linked.liquidity_executed {q : VaultQuerier} {env : Env} {info : MessageInfo} {msg : LiquidityExecuteMsg}
    {l : Shares L} {r : Response State.WasmMsg} (h : Linked C w)
    (run : Liquidity.execute q env w.liquidity info msg = .ok (l, r)) : Linked C { w with liquidity := l } := by
  obtain ⟨hsame, hbegins⟩ := liquidity_execute run
  refine h.of_liquidity hsame fun transfers n hpending => ?_
  cases hbegins with
  | same pending hooks => exact h.waiting transfers n (pending ▸ hpending)
  | begun idle waits owed whole =>
    obtain rfl := Option.some.inj (waits.symm.trans hpending)
    exact owed.transfers_ne

lemma Linked.liquidity_replied {q : VaultQuerier} {env : Env} {id : ℕ} {result : Except String Unit} {l : Shares L}
    {r : Response State.WasmMsg} (h : Linked C w)
    (run : Liquidity.reply q env w.liquidity id result = .ok (l, r)) : Linked C { w with liquidity := l } := by
  obtain ⟨hsame, op, hop, hanswers⟩ := liquidity_reply run
  refine h.of_liquidity hsame fun transfers n hpending => ?_
  cases hanswers with
  | deposited settled silent => cases settled.symm.trans hpending
  | swapFailed settled silent =>
    rw [settled] at hpending
    cases hpending
  | swapped waits asks =>
    cases waits.symm.trans hpending
    exact List.cons_ne_nil _ _
  | lastTransfer settled silent =>
    rw [settled] at hpending
    cases hpending
  | transferred more waits silent =>
    rw [waits] at hpending
    cases hpending
    exact h.waiting _ _ hop

omit [Token L] in
lemma Linked.drifted (h : Linked C w) (outside : W) : Linked C { w with outside } :=
  ⟨h.vault, h.bound, h.serves, h.tokens, h.waiting⟩

lemma run_linked {task : Task} (h : Run C task w log w') (linked : Linked C w) : Linked C w' := by
  refine h.keeps (fun w out hw => hw.drifted out) ?_ ?_ ?_ ?_ linked
  · intro w q env info msg st r hw reads run
    exact hw.vault_executed reads run
  · intro w q env id st r hw run
    exact hw.vault_replied run
  · intro w q env info msg l r hw run
    exact hw.liquidity_executed run
  · intro w q env id result l r hw run
    exact hw.liquidity_replied run

end Linked

inductive Sends (C : Chain W) (w : World L W) (info : MessageInfo) (st : Storage)
    (messages : List (SubMsg State.WasmMsg)) : VaultExecuteMsg → Prop
  | silent {msg} (quiet : movesTokens msg = false) (pending : st.pendingRebalance = w.vault.pendingRebalance)
      (nothing : messages = []) : Sends C w info st messages msg
  | transferred {token amount recipient} (sender : info.sender = C.liquidity) (same : st = w.vault)
      (guarded : Guarded w) (justified : Justified C w C.liquidity token (.transfer recipient amount))
      (sends : messages = [.plain (.cw20 token (.transfer recipient amount))]) :
      Sends C w info st messages (.transferTo token amount recipient)
  | swapped {params token m} (sender : info.sender = C.liquidity) (same : st = w.vault) (guarded : Guarded w)
      (justified : Justified C w C.liquidity token m)
      (swaps : .cw20 token m = Vault.proxySwapMessage w.vault.config params)
      (sends : messages = [.plain (.cw20 token m)]) : Sends C w info st messages (.liquiditySwap params)
  | rebalanced {deadline params token m} (keeper : info.sender = w.vault.config.keeper)
      (idle : w.vault.pendingRebalance = none)
      (free : (w.liquidity.pending ≠ none → Guarded w) → w.liquidity.pending = none)
      (swaps : .cw20 token m = Vault.proxySwapMessage w.vault.config params)
      (sends : messages = [.replyOnSuccess (.cw20 token m) Vault.rebalanceReplyId]) :
      Sends C w info st messages (.rebalance deadline)

section Vault

variable {q : Querier} {env : Env} {info : MessageInfo} {msg : VaultExecuteMsg} {st : Storage}
  {r : Response State.WasmMsg}

omit [Token L] in
lemma idle_of_authorization (h : Linked C w) (free : (liquidityAuthorization w.liquidity).swap.isNone = true)
    (unlisted : (liquidityAuthorization w.liquidity).transfers = [])
    (unfinished : (liquidityAuthorization w.liquidity).finalize = false) : w.liquidity.pending = none := by
  cases hp : w.liquidity.pending with
  | none => rfl
  | some op =>
    simp only [liquidityAuthorization, hp] at free unlisted unfinished
    cases op with
    | deposit depositor preBalances preSupply price minShares swap => cases free.symm.trans unfinished
    | withdrawSingle => cases free
    | authorizedTransfers transfers remaining => exact absurd unlisted (h.waiting transfers remaining hp)

lemma rebalance_free (h : Linked C w) (reads : VaultReads C w q)
    (free : Vault.ensureNoLiquidityOperation q w.vault.config = .ok ())
    (bound : w.vault.config.liquidityContract ≠ none) : w.liquidity.pending = none := by
  obtain ⟨liquidity, hbound⟩ := Option.ne_none_iff_exists'.mp bound
  obtain rfl := h.bound liquidity hbound
  simp only [Vault.ensureNoLiquidityOperation, hbound, Option.isNone_some, Bool.false_eq_true, if_false, bind_eq_ok,
    queryLiquidityAuthorization_eq_ok, ensure_eq_ok, Bool.and_eq_true, Bool.not_eq_true', List.isEmpty_iff] at free
  obtain ⟨authorization, ⟨liquidity, hsame, htold⟩, ⟨hswap, htransfers⟩, hfinalize⟩ := free
  obtain rfl := Option.some.inj hsame
  obtain rfl := Except.ok.inj (reads.authorization.symm.trans htold)
  exact idle_of_authorization h hswap htransfers hfinalize

lemma vault_sends (h : Linked C w) (reads : VaultReads C w q)
    (run : Vault.execute q env w.vault info msg = .ok (st, r)) : Sends C w info st r.messages msg := by
  by_cases hmoves : movesTokens msg = false
  · refine .silent hmoves ((Runs.execute_keeps run).pending ?_) (execute_silent hmoves run)
    rintro deadline rfl
    cases hmoves
  · cases msg with
    | transferTo token amount recipient =>
      obtain ⟨_, _, _, htoken, hrecipient, hsender, hidle, htold, hlisted, rfl, hmessages⟩ := executeTransfer_spec run
      obtain rfl := reads.addr _ _ htoken
      obtain rfl := reads.addr _ _ hrecipient
      have hsame := h.bound _ hsender
      rw [hsame] at htold
      obtain rfl := Except.ok.inj (reads.authorization.symm.trans htold)
      refine .transferred hsame rfl (.inl ?_) ⟨hidle, fun _ => .inl ⟨_, _, rfl, hlisted⟩, fun hne => absurd rfl hne⟩
        hmessages
      rw [hsender]
      exact Option.some_ne_none _
    | liquiditySwap params =>
      obtain ⟨_, hsender, hidle, htold, hlisted, rfl, hmessages⟩ := executeLiquiditySwap_spec run
      have hsame := h.bound _ hsender
      rw [hsame] at htold
      obtain rfl := Except.ok.inj (reads.authorization.symm.trans htold)
      refine .swapped hsame rfl (.inl ?_) ⟨hidle, fun _ => .inr ⟨params, hlisted, rfl⟩, fun hne => absurd rfl hne⟩ rfl
        hmessages
      rw [hsender]
      exact Option.some_ne_none _
    | rebalance deadline =>
      obtain ⟨hkeeper, hpaused, hidle, hfree, -, -, params, hmessages⟩ := executeRebalance_spec run
      refine .rebalanced hkeeper hidle (fun hguarded => ?_) rfl hmessages
      by_contra hwaits
      rcases hguarded hwaits with hbound | hpaused'
      · exact hwaits (rebalance_free h reads hfree hbound)
      · cases hpaused.symm.trans hpaused'
    | _ => exact absurd rfl hmoves

end Vault

structure Kept (C : Chain W) (w : World L W) (log : Log L W) (w' : World L W) : Prop where
  linked : Linked C w'
  guarded : Guarded w → Guarded w'
  justified : AllJustified C log

structure Calm (C : Chain W) (w : World L W) (log : Log L W) (w' : World L W) : Prop extends Kept C w log w' where
  pending : w'.liquidity.pending = w.liquidity.pending
  settled : w.liquidity.pending = none → Settled (dues log)
  nothing : w.liquidity.pending ≠ none → dues log = []
  undisturbed : StandardTokens C → (w.liquidity.pending ≠ none → Guarded w) → Undisturbed C log

structure Still (C : Chain W) (w : World L W) (log : Log L W) (w' : World L W) : Prop extends Calm C w log w' where
  rebalance : w'.vault.pendingRebalance = w.vault.pendingRebalance

omit [Token L] in
lemma AllJustified.append (h₁ : AllJustified C log₁) (h₂ : AllJustified C log₂) : AllJustified C (log₁ ++ log₂) := by
  intro w caller token msg h
  rcases List.mem_append.mp h with h | h
  · exact h₁ _ _ _ _ h
  · exact h₂ _ _ _ _ h

omit [Token L] in
lemma Undisturbed.append (h₁ : Undisturbed C log₁) (h₂ : Undisturbed C log₂) : Undisturbed C (log₁ ++ log₂) := by
  intro w caller token msg h
  rcases List.mem_append.mp h with h | h
  · exact h₁ _ _ _ _ h
  · exact h₂ _ _ _ _ h

omit [Token L] in
lemma Kept.trans (h₁ : Kept C w log₁ w₁) (h₂ : Kept C w₁ log₂ w') : Kept C w (log₁ ++ log₂) w' :=
  ⟨h₂.linked, fun h => h₂.guarded (h₁.guarded h), h₁.justified.append h₂.justified⟩

omit [Token L] in
lemma Calm.trans (h₁ : Calm C w log₁ w₁) (h₂ : Calm C w₁ log₂ w') : Calm C w (log₁ ++ log₂) w' where
  toKept := h₁.toKept.trans h₂.toKept
  pending := h₂.pending.trans h₁.pending
  settled h := by
    rw [dues_append]
    exact (h₁.settled h).append (h₂.settled (h₁.pending.trans h))
  nothing h := by
    rw [dues_append, h₁.nothing h, h₂.nothing (h₁.pending ▸ h), List.nil_append]
  undisturbed standard h :=
    (h₁.undisturbed standard h).append
      (h₂.undisturbed standard fun hwaits => h₁.guarded (h (h₁.pending ▸ hwaits)))

omit [Token L] in
lemma Still.trans (h₁ : Still C w log₁ w₁) (h₂ : Still C w₁ log₂ w') : Still C w (log₁ ++ log₂) w' :=
  ⟨h₁.toCalm.trans h₂.toCalm, h₂.rebalance.trans h₁.rebalance⟩

omit [Token L] in
lemma AllJustified.nil : AllJustified C ([] : Log L W) := fun _ _ _ _ h => absurd h List.not_mem_nil

omit [Token L] in
lemma Undisturbed.nil : Undisturbed C ([] : Log L W) := fun _ _ _ _ h => absurd h List.not_mem_nil

omit [Token L] in
lemma Still.refl (h : Linked C w) : Still C w [] w where
  linked := h
  guarded := id
  justified := .nil
  pending := rfl
  settled _ := .nil
  nothing _ := rfl
  undisturbed _ _ := .nil
  rebalance := rfl

omit [Token L] in
lemma Still.drifted {outside : W} (h : Still C { w with outside } log w') : Still C w log w' :=
  ⟨⟨⟨h.linked, h.guarded, h.justified⟩, h.pending, h.settled, h.nothing, h.undisturbed⟩, h.rebalance⟩

omit [Token L] in
lemma Calm.after_vault {st : Storage} (guarded : Guarded w → Guarded { w with vault := st })
    (h : Calm C { w with vault := st } log w') : Calm C w log w' where
  linked := h.linked
  guarded hw := h.guarded (guarded hw)
  justified := h.justified
  pending := h.pending
  settled := h.settled
  nothing := h.nothing
  undisturbed standard hw := h.undisturbed standard fun hwaits => guarded (hw hwaits)

def made : VaultExecuteMsg → List Due
  | .transferTo token amount recipient => [.made ⟨token, amount, recipient⟩]
  | _ => []

structure Asked (C : Chain W) (msg : VaultExecuteMsg) (w : World L W) (log : Log L W) (w' : World L W) : Prop
    extends Kept C w log w' where
  pending : w'.liquidity.pending = w.liquidity.pending
  rebalance : w'.vault.pendingRebalance = w.vault.pendingRebalance
  due : w.liquidity.pending ≠ none → dues log = made msg
  undisturbed : StandardTokens C → Undisturbed C log
  swapped : ∀ params, msg = .liquiditySwap params → ∃ token m, (w, .paid C.liquidity token m) ∈ log ∧
    .cw20 token m = Vault.proxySwapMessage w.vault.config params

def owed (messages : List (SubMsg State.WasmMsg)) : List Due :=
  messages.flatMap fun m =>
    match m.msg with
    | .vault _ msg => made msg
    | _ => []

def Swapped (C : Chain W) (swap : SwapParams) (log : Log L W) : Prop :=
  ∃ w token m, (w, .paid C.liquidity token m) ∈ log ∧ .cw20 token m = Vault.proxySwapMessage w.vault.config swap

structure Finished (C : Chain W) (op : PendingOperation) (messages : List (SubMsg State.WasmMsg)) (w : World L W)
    (log : Log L W) (w' : World L W) : Prop extends Kept C w log w' where
  pending : w'.liquidity.pending = none
  rebalance : w'.vault.pendingRebalance = w.vault.pendingRebalance
  due : ∃ rest, Settled rest ∧ dues log = owed messages ++ rest
  undisturbed : StandardTokens C → Undisturbed C log
  swapped : ∀ owner shares recipient payoutToken baseAmount prePayoutBalance minAmount swap,
    op = .withdrawSingle owner shares recipient payoutToken baseAmount prePayoutBalance minAmount swap →
      Swapped C swap log ∨ log = [] ∧ w' = { w with liquidity := { w.liquidity with pending := none } }

def asks : VaultExecuteMsg → Bool
  | .liquiditySwap _ | .transferTo .. | .finalizeLiquidityOperation => true
  | _ => false

def Plain (m : SubMsg State.WasmMsg) : Prop := m.replyOn.onSuccess = false ∧ ∀ addr msg, m.msg ≠ .vault addr msg

/-- What a run of each kind comes to. -/
def Meets (C : Chain W) (w : World L W) (log : Log L W) (w' : World L W) : Task → Prop
  | .outside => Still C w log w'
  | .vault info msg => (C.Alien info.sender → Still C w log w') ∧
      (info.sender = C.liquidity → asks msg = true → Asked C msg w log w')
  | .liquidity _ _ => Still C w log w'
  | .send sender m => ((∀ addr msg, m ≠ .vault addr msg) → Still C w log w') ∧
      (∀ msg, sender = C.liquidity → m = .vault C.vault msg → asks msg = true → Asked C msg w log w') ∧
      ∀ token msg, m = .cw20 token msg → ¬ C.hooked msg → log = []
  | .deliverVault messages => (messages = [] → log = [] ∧ w' = w) ∧ ((∀ m ∈ messages, Plain m) → Still C w log w') ∧
      ∀ token msg, messages = [.replyOnSuccess (.cw20 token msg) Vault.rebalanceReplyId] →
        Calm C w log w' ∧ w'.vault.pendingRebalance = none
  | .deliverLiquidity messages => (messages = [] → log = [] ∧ w' = w) ∧
      ((∀ m ∈ messages, ∃ hook, m = .plain (.receive hook)) → Still C w log w') ∧
      ∀ config op, config.vault = C.vault → Owed config op messages → w.liquidity.pending = some op →
        Finished C op messages w log w'

section Vault

variable {q : Querier} {env : Env} {info : MessageInfo} {msg : VaultExecuteMsg} {st : Storage}
  {r : Response State.WasmMsg} {caller token : Addr} {m : State.Cw20ExecuteMsg}

omit [Token L] in
lemma AllJustified.cons (hj : Justified C w caller token m) (h : AllJustified C log) :
    AllJustified C ((w, .paid caller token m) :: log) := by
  intro v caller' token' m' hmem
  rcases List.mem_cons.mp hmem with heq | hmem
  · cases heq
    exact hj
  · exact h _ _ _ _ hmem

omit [Token L] in
lemma Undisturbed.cons (hfree : caller ≠ C.liquidity → w.liquidity.pending = none) (h : Undisturbed C log) :
    Undisturbed C ((w, .paid caller token m) :: log) := by
  intro v caller' token' m' hmem
  rcases List.mem_cons.mp hmem with heq | hmem
  · cases heq
    exact hfree
  · exact h _ _ _ _ hmem

lemma swap_due {config : Config} {params : SwapParams} (h : .cw20 token m = Vault.proxySwapMessage config params) :
    due (.paid caller token m) = none := by
  cases h
  rfl

omit [Token L] in
lemma dues_cons_none {v : World L W} {move : Move} (h : due move = none) : dues ((v, move) :: log) = dues log :=
  List.filterMap_cons_none h

omit [Token L] in
lemma Calm.paid (hj : Justified C w caller token m) (hdue : due (.paid caller token m) = none)
    (hfree : (w.liquidity.pending ≠ none → Guarded w) → caller ≠ C.liquidity → w.liquidity.pending = none)
    (h : Calm C w log w') : Calm C w ((w, .paid caller token m) :: log) w' where
  linked := h.linked
  guarded := h.guarded
  justified := h.justified.cons hj
  pending := h.pending
  settled hidle := by
    rw [dues_cons_none hdue]
    exact h.settled hidle
  nothing hwaits := by
    rw [dues_cons_none hdue]
    exact h.nothing hwaits
  undisturbed standard hguarded := (h.undisturbed standard hguarded).cons (hfree hguarded)

lemma meets_vault (linked : Linked C w) (reads : VaultReads C w q)
    (run : Vault.execute q env w.vault info msg = .ok (st, r))
    (rest : Meets C { w with vault := st } log w' (.deliverVault r.messages)) :
    Meets C w ((paidBy info.sender r.messages).map (Prod.mk w) ++ log) w' (.vault info msg) := by
  obtain ⟨hdone, hplain, hreplied⟩ := rest
  constructor
  · intro alien
    cases vault_sends linked reads run with
    | silent quiet pending nothing =>
      rw [nothing] at hplain ⊢
      have hstill := hplain (fun m hm => absurd hm List.not_mem_nil)
      exact ⟨hstill.toCalm.after_vault (execute_guarded run), hstill.rebalance.trans pending⟩
    | transferred sender => exact absurd sender alien.2
    | swapped sender => exact absurd sender alien.2
    | rebalanced keeper idle free swaps sends =>
      rw [sends] at hreplied ⊢
      obtain ⟨hcalm, hnone⟩ := hreplied _ _ rfl
      have hjustified : Justified C w info.sender _ _ :=
        ⟨idle, fun heq => absurd heq alien.2, fun _ => ⟨keeper, _, swaps⟩⟩
      refine ⟨(hcalm.after_vault (execute_guarded run)).paid hjustified (swap_due swaps) ?_, hnone.trans idle.symm⟩
      intro hguarded _
      exact free hguarded
  · intro sender hasks
    cases vault_sends linked reads run with
    | silent quiet pending nothing =>
      rw [nothing] at hplain hdone ⊢
      have hstill := hplain (fun m hm => absurd hm List.not_mem_nil)
      obtain ⟨rfl, -⟩ := hdone rfl
      refine ⟨(hstill.toCalm.after_vault (execute_guarded run)).toKept, hstill.pending, hstill.rebalance.trans pending,
        fun _ => ?_, fun _ => .nil, ?_⟩
      · cases msg <;> first | rfl | cases quiet
      · rintro params rfl
        cases quiet
    | transferred sender same guarded justified sends =>
      obtain rfl := same
      rw [sends] at hplain ⊢
      have hstill : Still C w log w' := hplain (by simp [Plain, SubMsg.plain, ReplyOn.onSuccess])
      rw [sender]
      refine ⟨⟨hstill.linked, hstill.guarded, hstill.justified.cons justified⟩, hstill.pending, hstill.rebalance,
        fun hwaits => ?_, fun standard => ?_, nofun⟩
      · rw [made, ← hstill.nothing hwaits]
        rfl
      · exact (hstill.undisturbed standard fun _ => guarded).cons fun hne => absurd rfl hne
    | swapped sender same guarded justified swaps sends =>
      obtain rfl := same
      rw [sends] at hplain ⊢
      have hstill : Still C w log w' := hplain (by simp [Plain, SubMsg.plain, ReplyOn.onSuccess])
      rw [sender]
      refine ⟨⟨hstill.linked, hstill.guarded, hstill.justified.cons justified⟩, hstill.pending, hstill.rebalance,
        fun hwaits => ?_, fun standard => ?_, ?_⟩
      · exact (dues_cons_none (swap_due swaps)).trans (hstill.nothing hwaits)
      · exact (hstill.undisturbed standard fun _ => guarded).cons fun hne => absurd rfl hne
      · rintro _ ⟨⟩
        exact ⟨_, _, List.mem_cons_self, swaps⟩
    | rebalanced => cases hasks

omit [Token L] in
lemma meets_vaultReplied {sent : SubMsg State.WasmMsg} {ms : List (SubMsg State.WasmMsg)}
    (asked : sent.replyOn.onSuccess = true) (first : Meets C w log₁ w₁ (.send C.vault sent.msg))
    (run : Vault.reply q env w₁.vault sent.id = .ok (st, r))
    (rest : Linked C { w₁ with vault := st } →
      Meets C { w₁ with vault := st } log₂ w' (.deliverVault (r.messages ++ ms))) :
    Meets C w (log₁ ++ ((paidBy C.vault r.messages).map (Prod.mk w₁) ++ log₂)) w' (.deliverVault (sent :: ms)) := by
  refine ⟨nofun, fun hplain => ?_, ?_⟩
  · have hsilent := (hplain sent List.mem_cons_self).1
    cases asked.symm.trans hsilent
  · rintro token m ⟨⟩
    have hfirst := first.1 (by rintro _ _ ⟨⟩)
    obtain ⟨-, hnone, hmessages⟩ := vault_reply_spec run
    obtain ⟨hbound, hpaused, -⟩ := vault_reply_binding run
    have hpaid : paidBy C.vault r.messages = [] ∧ ∀ m ∈ r.messages ++ [], Plain m := by
      rcases hmessages with hnil | ⟨_, _, _, _, -, -, -, hmint⟩
      · rw [hnil]
        exact ⟨rfl, fun m hm => absurd hm List.not_mem_nil⟩
      · rw [hmint]
        exact ⟨rfl, by simp [Plain, SubMsg.plain, ReplyOn.onSuccess]⟩
    have hrest := (rest (hfirst.linked.vault_replied run)).2.1 hpaid.2
    have hguarded : Guarded w₁ → Guarded { w₁ with vault := st } := by
      simp only [Guarded, hbound, hpaused]
      exact id
    rw [hpaid.1]
    exact ⟨hfirst.toCalm.trans (hrest.toCalm.after_vault hguarded), hrest.rebalance.trans hnone⟩

end Vault

section Liquidity

variable {q : VaultQuerier} {env : Env} {info : MessageInfo} {msg : LiquidityExecuteMsg} {l : Shares L}
  {r : Response State.WasmMsg} {before after : Option PendingOperation}

omit [Token L] in
lemma authorized_justified (w : World L W) : AllJustified C ((newlyAuthorized before after).map (Prod.mk w)) := by
  intro v caller token m h
  obtain ⟨move, hmove, heq⟩ := List.mem_map.mp h
  cases heq
  simp only [newlyAuthorized] at hmove
  split at hmove <;> simp at hmove

omit [Token L] in
lemma authorized_undisturbed (w : World L W) : Undisturbed C ((newlyAuthorized before after).map (Prod.mk w)) := by
  intro v caller token m h
  obtain ⟨move, hmove, heq⟩ := List.mem_map.mp h
  cases heq
  simp only [newlyAuthorized] at hmove
  split at hmove <;> simp at hmove

@[simp] lemma newlyAuthorized_self : newlyAuthorized before before = [] := by
  cases before with
  | none => rfl
  | some op => cases op <;> rfl

@[simp] lemma newlyAuthorized_none : newlyAuthorized before none = [] := by
  cases before with
  | none => rfl
  | some op => cases op <;> rfl

lemma owed_transfers (config : LiquidityConfig) (transfers : List AuthorizedTransfer) :
    owed (transferMessages config transfers) = transfers.map .made := by
  induction transfers with
  | nil => rfl
  | cons transfer rest ih =>
    rw [List.map_cons, ← ih]
    rfl

lemma payIn_plain (config : LiquidityConfig) (depositor : Addr) (amounts : Fin 2 → Uint128) :
    ∀ m ∈ payIn config depositor amounts, ∃ token amount,
      m = .plain (.cw20 token (.transferFrom depositor config.vault amount)) := by
  intro m hm
  obtain ⟨i, -, hi⟩ := List.mem_filterMap.mp hm
  split at hi
  · cases hi
  · cases hi
    exact ⟨_, _, rfl⟩

lemma owed_payIn (config : LiquidityConfig) (depositor vault : Addr) (amounts : Fin 2 → Uint128)
    (swap : Option SwapParams) : owed (payIn config depositor amounts ++
      [.replyOnSuccess (.vault vault (settleDeposit swap)) depositReplyId]) = [] := by
  have hpay : owed (payIn config depositor amounts) = [] := by
    rw [owed, List.flatMap_eq_nil_iff]
    intro m hm
    obtain ⟨token, amount, rfl⟩ := payIn_plain config depositor amounts m hm
    rfl
  rw [owed, List.flatMap_append, ← owed, hpay]
  cases swap <;> rfl

omit [Token L] in
lemma Still.after_liquidity (same : l.pending = w.liquidity.pending) (h : Still C { w with liquidity := l } log w') :
    Still C w log w' where
  linked := h.linked
  guarded := h.guarded
  justified := h.justified
  pending := h.pending.trans same
  settled hidle := h.settled (same.trans hidle)
  nothing hwaits := h.nothing fun hidle => hwaits (same.symm.trans hidle)
  undisturbed standard hguarded := h.undisturbed standard fun hwaits => hguarded fun hidle => hwaits (same.trans hidle)
  rebalance := h.rebalance

omit [Token L] in
lemma begun_settled {config : LiquidityConfig} {op : PendingOperation} {messages : List (SubMsg State.WasmMsg)}
    (howed : Owed config op messages)
    (whole : ∀ transfers n, op = .authorizedTransfers transfers n → messages = transferMessages config transfers)
    (hdue : ∃ rest, Settled rest ∧ dues log = owed messages ++ rest) :
    Settled (dues ((newlyAuthorized none (some op)).map (Prod.mk w) ++ log)) := by
  obtain ⟨rest, hrest, hdues⟩ := hdue
  rw [dues_append, hdues]
  cases op with
  | deposit =>
    cases howed
    rw [owed_payIn]
    exact hrest
  | withdrawSingle =>
    cases howed
    exact hrest
  | authorizedTransfers transfers n =>
    rw [whole transfers n rfl, owed_transfers]
    exact .block hrest

lemma meets_liquidity (run : Liquidity.execute q env w.liquidity info msg = .ok (l, r))
    (rest : Meets C { w with liquidity := l } log w' (.deliverLiquidity r.messages))
    (serves : w.liquidity.config.vault = C.vault) :
    Meets C w ((newlyAuthorized w.liquidity.pending l.pending).map (Prod.mk w) ++ log) w' (.liquidity info msg) := by
  obtain ⟨hsame, hbegins⟩ := liquidity_execute run
  cases hbegins with
  | same pending hooks =>
    rw [pending, newlyAuthorized_self]
    exact (rest.2.1 hooks).after_liquidity pending
  | @begun op idle waits owed whole =>
    have hfinished := rest.2.2 _ op serves owed waits
    rw [idle, waits]
    refine ⟨⟨⟨hfinished.linked, hfinished.guarded, (authorized_justified w).append hfinished.justified⟩,
      hfinished.pending.trans idle.symm, fun _ => begun_settled owed whole hfinished.due, fun hwaits => ?_,
      fun standard _ => (authorized_undisturbed w).append (hfinished.undisturbed standard)⟩, hfinished.rebalance⟩
    exact absurd idle hwaits

lemma payIn_cons {config : LiquidityConfig} {depositor : Addr} {amounts : Fin 2 → Uint128}
    {m last : SubMsg State.WasmMsg} {ms : List (SubMsg State.WasmMsg)}
    (h : m :: ms = payIn config depositor amounts ++ [last]) :
    m = last ∧ ms = [] ∨ ∃ token amount rest, m = .plain (.cw20 token (.transferFrom depositor config.vault amount)) ∧
      ms = payIn config depositor rest ++ [last] := by
  by_cases h0 : isZero (amounts 0) = true <;> by_cases h1 : isZero (amounts 1) = true
  · simp only [payIn, List.filterMap_cons, h0, h1, if_true, List.filterMap_nil, List.nil_append] at h
    cases h
    exact .inl ⟨rfl, rfl⟩
  · simp only [payIn, List.filterMap_cons, h0, h1, if_true, if_false, Bool.false_eq_true, List.filterMap_nil,
      List.cons_append, List.nil_append] at h
    cases h
    exact .inr ⟨_, _, 0, rfl, rfl⟩
  · simp only [payIn, List.filterMap_cons, h0, h1, if_true, if_false, Bool.false_eq_true, List.filterMap_nil,
      List.cons_append, List.nil_append] at h
    cases h
    exact .inr ⟨_, _, 0, rfl, rfl⟩
  · simp only [payIn, List.filterMap_cons, h0, h1, if_false, Bool.false_eq_true, List.filterMap_nil,
      List.cons_append, List.nil_append] at h
    cases h
    have hzero : isZero (0 : Uint128) = true := rfl
    refine .inr ⟨_, _, ![0, amounts 1], rfl, ?_⟩
    simp only [payIn, List.filterMap_cons, Matrix.cons_val_zero, Matrix.cons_val_one, Matrix.cons_val_fin_one, hzero,
      h1, if_true, if_false, Bool.false_eq_true, List.filterMap_nil, List.cons_append, List.nil_append]

variable {sent : SubMsg State.WasmMsg} {ms : List (SubMsg State.WasmMsg)}

omit [Token L] in
lemma Finished.after_payIn {depositor : Addr} {preBalances : Fin 2 → Uint128} {preSupply : Uint128} {price : Decimal}
    {minShares : Uint128} {swap : Option SwapParams} {messages messages' : List (SubMsg State.WasmMsg)}
    (hop : w.liquidity.pending = some (.deposit depositor preBalances preSupply price minShares swap))
    (first : Still C w log₁ w₁) (quiet : StandardTokens C → log₁ = []) (same : owed messages = owed messages')
    (h : Finished C (.deposit depositor preBalances preSupply price minShares swap) messages' w₁ log₂ w') :
    Finished C (.deposit depositor preBalances preSupply price minShares swap) messages w (log₁ ++ log₂) w' where
  toKept := first.toKept.trans h.toKept
  pending := h.pending
  rebalance := h.rebalance.trans first.rebalance
  due := by
    obtain ⟨rest, hrest, hdues⟩ := h.due
    refine ⟨rest, hrest, ?_⟩
    rw [dues_append, first.nothing (hop ▸ Option.some_ne_none _), hdues, same, List.nil_append]
  undisturbed standard := by
    rw [quiet standard]
    exact h.undisturbed standard
  swapped := nofun

omit [Token L] in
lemma meets_liquiditySent (silent : sent.replyOn.onSuccess = false)
    (first : Meets C w log₁ w₁ (.send C.liquidity sent.msg))
    (rest : Linked C w₁ → Meets C w₁ log₂ w' (.deliverLiquidity ms)) :
    Meets C w (log₁ ++ log₂) w' (.deliverLiquidity (sent :: ms)) := by
  refine ⟨fun h => absurd h (List.cons_ne_nil _ _), fun hooks => ?_, fun config op serves howed hop => ?_⟩
  · obtain ⟨hook, rfl⟩ := hooks sent List.mem_cons_self
    have hfirst := first.1 (by rintro _ _ ⟨⟩)
    exact hfirst.trans ((rest hfirst.linked).2.1 fun m hm => hooks m (List.mem_cons_of_mem _ hm))
  · generalize hms : sent :: ms = messages at howed
    cases howed with
    | @deposit depositor _ _ _ _ _ amounts =>
      rcases payIn_cons hms with ⟨rfl, -⟩ | ⟨token, amount, amounts', rfl, rfl⟩
      · cases silent
      · have hfirst := first.1 (by rintro _ _ ⟨⟩)
        have hrest := (rest hfirst.linked).2.2 config _ serves .deposit (hfirst.pending.trans hop)
        refine Finished.after_payIn hop hfirst (fun standard => first.2.2 token _ rfl fun hhooked => ?_) ?_ hrest
        · obtain ⟨_, _, _, hsend⟩ := standard _ hhooked
          cases hsend
        · rw [owed_payIn, owed_payIn]
    | withdrawSingle =>
      cases hms
      cases silent
    | @transfers paid left some_left =>
      cases left with
      | nil => cases hms
      | cons transfer left =>
        cases hms
        cases silent

lemma meets_liquidityReplied (asked : sent.replyOn.onSuccess = true)
    (first : Meets C w log₁ w₁ (.send C.liquidity sent.msg))
    (run : Liquidity.reply q env w₁.liquidity sent.id (.ok ()) = .ok (l, r))
    (rest : Linked C { w₁ with liquidity := l } →
      Meets C { w₁ with liquidity := l } log₂ w' (.deliverLiquidity (r.messages ++ ms))) :
    Meets C w (log₁ ++ ((newlyAuthorized w₁.liquidity.pending l.pending).map (Prod.mk w₁) ++ log₂)) w'
      (.deliverLiquidity (sent :: ms)) := by
  refine ⟨fun h => absurd h (List.cons_ne_nil _ _), fun hooks => ?_, fun config op serves howed hop => ?_⟩
  · obtain ⟨hook, rfl⟩ := hooks sent List.mem_cons_self
    cases asked
  · generalize hms : sent :: ms = messages at howed
    cases howed with
    | @deposit depositor _ _ _ _ swap amounts =>
      rcases payIn_cons hms with ⟨rfl, rfl⟩ | ⟨token, amount, amounts', rfl, rfl⟩
      · have hasks : asks (settleDeposit swap) = true := by cases swap <;> rfl
        have hmade : made (settleDeposit swap) = [] := by cases swap <;> rfl
        have hasked := first.2.1 (settleDeposit swap) rfl (congrArg (State.WasmMsg.vault · _) serves) hasks
        have hpending := hasked.pending.trans hop
        obtain ⟨silent, settled⟩ := deposit_answered hpending run
        have hlinked := hasked.linked.liquidity_replied run
        rw [silent] at rest
        obtain ⟨rfl, rfl⟩ := (rest hlinked).1 rfl
        rw [settled, newlyAuthorized_none, List.map_nil, List.nil_append, List.append_nil]
        refine ⟨⟨hlinked, hasked.guarded, hasked.justified⟩, settled, hasked.rebalance,
          ⟨[], .nil, ?_⟩, hasked.undisturbed, nofun⟩
        rw [hasked.due (hop ▸ Option.some_ne_none _), hmade, owed_payIn]
        rfl
      · cases asked
    | @withdrawSingle owner shares recipient payoutToken baseAmount prePayoutBalance minAmount swap =>
      cases hms
      have hasked := first.2.1 (.liquiditySwap swap) rfl (congrArg (State.WasmMsg.vault · _) serves) rfl
      have hpending := hasked.pending.trans hop
      obtain ⟨-, op, hop', hanswers⟩ := liquidity_reply run
      obtain rfl := Option.some.inj (hpending.symm.trans hop')
      have hlinked := hasked.linked.liquidity_replied run
      generalize hresult : (.ok () : Except String Unit) = result at hanswers
      cases hanswers with
      | swapFailed => cases hresult
      | @swapped _ _ _ _ _ _ _ _ transfer waits asks =>
        have hrest := (rest hlinked).2.2 w₁.liquidity.config _ hasked.linked.serves
          (by rw [asks, List.append_nil]; exact @Owed.transfers _ [] [transfer] (List.cons_ne_nil _ _)) waits
        rw [hpending, waits]
        refine ⟨⟨hrest.linked, fun hguarded => hrest.guarded (hasked.guarded hguarded),
          hasked.justified.append ((authorized_justified w₁).append hrest.justified)⟩, hrest.pending,
          hrest.rebalance.trans hasked.rebalance, ?_, fun standard => (hasked.undisturbed standard).append
            ((authorized_undisturbed w₁).append (hrest.undisturbed standard)), ?_⟩
        · obtain ⟨left, hleft, hdues⟩ := hrest.due
          refine ⟨_, @Settled.block [transfer] left hleft, ?_⟩
          rw [dues_append, dues_append, hasked.due (hop ▸ Option.some_ne_none _), hdues, asks, List.append_nil,
            owed_transfers]
          rfl
        · rintro _ _ _ _ _ _ _ _ ⟨⟩
          obtain ⟨token, m, hmem, hswap⟩ := hasked.swapped swap rfl
          exact .inl ⟨w, token, m, List.mem_append_left _ hmem, hswap⟩
    | @transfers paid left some_left =>
      cases left with
      | nil => exact absurd rfl some_left
      | cons transfer left =>
        cases hms
        have hasked := first.2.1 (.transferTo transfer.token transfer.amount transfer.recipient) rfl
          (congrArg (State.WasmMsg.vault · _) serves) rfl
        have hlinked := hasked.linked.liquidity_replied run
        have hpending := hasked.pending.trans hop
        obtain ⟨hsilent, rfl⟩ := transfer_counted hpending run
        have hdue : dues log₁ = [.made transfer] := hasked.due (hop ▸ Option.some_ne_none _)
        have hauthorized : newlyAuthorized w₁.liquidity.pending
            (if left.length = 0 then none else some (.authorizedTransfers (paid ++ transfer :: left) left.length)) =
              [] := by
          rw [hpending]
          rfl
        rw [hauthorized, List.map_nil, List.nil_append]
        rw [hsilent, List.nil_append] at rest
        by_cases hleft : left = []
        · subst hleft
          obtain ⟨rfl, rfl⟩ := (rest hlinked).1 rfl
          rw [List.append_nil]
          exact ⟨⟨hlinked, hasked.guarded, hasked.justified⟩, rfl, hasked.rebalance, ⟨[], .nil, hdue⟩,
            hasked.undisturbed, nofun⟩
        · have hlength : left.length ≠ 0 := fun hzero => hleft (List.length_eq_zero_iff.mp hzero)
          have hrest := (rest hlinked).2.2 config (.authorizedTransfers (paid ++ [transfer] ++ left) left.length) serves
            (.transfers hleft) (by rw [List.append_assoc]; exact if_neg hlength)
          refine ⟨⟨hrest.linked, fun hguarded => hrest.guarded (hasked.guarded hguarded),
            hasked.justified.append hrest.justified⟩, hrest.pending, hrest.rebalance.trans hasked.rebalance, ?_,
            fun standard => (hasked.undisturbed standard).append (hrest.undisturbed standard), nofun⟩
          obtain ⟨others, hothers, hdues⟩ := hrest.due
          refine ⟨others, hothers, ?_⟩
          rw [dues_append, hdue, hdues]
          rfl

lemma meets_liquidityCaught {e : String} (linked : Linked C w) (asked : sent.replyOn.onError = true)
    (run : Liquidity.reply q env w.liquidity sent.id (.error e) = .ok (l, r))
    (rest : Linked C { w with liquidity := l } →
      Meets C { w with liquidity := l } log w' (.deliverLiquidity (r.messages ++ ms))) :
    Meets C w log w' (.deliverLiquidity (sent :: ms)) := by
  refine ⟨fun h => absurd h (List.cons_ne_nil _ _), fun hooks => ?_, fun config op serves howed hop => ?_⟩
  · obtain ⟨hook, rfl⟩ := hooks sent List.mem_cons_self
    cases asked
  · generalize hms : sent :: ms = messages at howed
    cases howed with
    | deposit =>
      rcases payIn_cons hms with ⟨rfl, -⟩ | ⟨token, amount, amounts', rfl, -⟩
      · cases asked
      · cases asked
    | @transfers paid left some_left =>
      cases left with
      | nil => cases hms
      | cons transfer left =>
        cases hms
        cases asked
    | withdrawSingle =>
      cases hms
      obtain ⟨-, op, hop', hanswers⟩ := liquidity_reply run
      obtain rfl := Option.some.inj (hop.symm.trans hop')
      generalize hresult : (.error e : Except String Unit) = result at hanswers
      cases hanswers with
      | swapped => cases hresult
      | swapFailed settled silent =>
        have hlinked := linked.liquidity_replied run
        rw [silent] at rest
        obtain ⟨rfl, rfl⟩ := (rest hlinked).1 rfl
        obtain rfl := settled
        exact ⟨⟨hlinked, id, .nil⟩, rfl, rfl, ⟨[], .nil, rfl⟩, fun _ => .nil, fun _ _ _ _ _ _ _ _ _ => .inr ⟨rfl, rfl⟩⟩

end Liquidity

omit [Token L] in
lemma meets_still {sender : Addr} {m : State.WasmMsg} (h : Still C w log w') (noVault : ∀ addr msg, m ≠ .vault addr msg)
    (noCw20 : ∀ token msg, m ≠ .cw20 token msg) : Meets C w log w' (.send sender m) :=
  ⟨fun _ => h, fun msg _ hvault => absurd hvault (noVault C.vault msg),
    fun token msg hcw20 => absurd hcw20 (noCw20 token msg)⟩

theorem run_meets {task : Task} (h : Run C task w log w') (linked : Linked C w) : Meets C w log w' task := by
  induction h with
  | quiet => exact .refl linked
  | drifted h rest ih => exact (ih (linked.drifted _)).drifted
  | enteredVault alien first rest ih₁ ih₂ =>
    have hfirst := (ih₁ linked).1 alien
    exact hfirst.trans (ih₂ hfirst.linked)
  | enteredLiquidity alien first rest ih₁ ih₂ =>
    have hfirst := ih₁ linked
    exact hfirst.trans (ih₂ hfirst.linked)
  | vault reads here h rest ih => exact meets_vault linked reads h (ih (linked.vault_executed reads h))
  | liquidity reads here h rest ih => exact meets_liquidity h (ih (linked.liquidity_executed h)) linked.serves
  | toVault h ih =>
    refine ⟨fun hne => absurd rfl (hne _ _), ?_, nofun⟩
    rintro msg sender ⟨⟩ hasks
    exact (ih linked).2 sender hasks
  | toLiquidity h ih => exact meets_still (ih linked) (by simp) (by simp)
  | toToken h rest silent ih =>
    refine ⟨fun _ => (ih (linked.drifted _)).drifted, fun msg _ hvault => ?_, ?_⟩
    · cases hvault
    · rintro token msg ⟨⟩ hquiet
      exact (silent hquiet).1
  | toReceiver rest ih => exact meets_still (ih linked) (by simp) (by simp)
  | toOtherVault other rest ih =>
    refine ⟨fun hne => absurd rfl (hne _ _), ?_, nofun⟩
    rintro msg sender ⟨⟩
    exact absurd rfl other
  | toOtherLiquidity other rest ih => exact meets_still (ih linked) (by simp) (by simp)
  | vaultDone =>
    refine ⟨fun _ => ⟨rfl, rfl⟩, fun _ => .refl linked, nofun⟩
  | vaultSent silent first rest ih₁ ih₂ =>
    refine ⟨nofun, fun hplain => ?_, ?_⟩
    · have hfirst := (ih₁ linked).1 (hplain _ List.mem_cons_self).2
      exact hfirst.trans ((ih₂ hfirst.linked).2.1 fun m hm => hplain m (List.mem_cons_of_mem _ hm))
    · rintro token msg ⟨⟩
      cases silent
  | vaultReplied asked first reads here h rest ih₁ ih₂ => exact meets_vaultReplied asked (ih₁ linked) h ih₂
  | liquidityDone =>
    refine ⟨fun _ => ⟨rfl, rfl⟩, fun _ => .refl linked, ?_⟩
    intro config op serves howed hop
    generalize hms : ([] : List (SubMsg State.WasmMsg)) = messages at howed
    cases howed with
    | deposit => exact absurd hms.symm (List.append_ne_nil_of_right_ne_nil _ (List.cons_ne_nil _ _))
    | withdrawSingle => cases hms
    | transfers some_left => exact absurd (List.map_eq_nil_iff.mp hms.symm) some_left
  | liquiditySent silent first rest ih₁ ih₂ => exact meets_liquiditySent silent (ih₁ linked) ih₂
  | liquidityReplied asked first reads here h rest ih₁ ih₂ => exact meets_liquidityReplied asked (ih₁ linked) h ih₂
  | liquidityCaught asked reads here h rest ih => exact meets_liquidityCaught linked asked h ih

theorem reachable_idle (h : Reachable C w) :
    Linked C w ∧ w.liquidity.pending = none ∧ w.vault.pendingRebalance = none := by
  induction h with
  | @started q env msg st r lq lenv lmsg l lr out here there created bound addr tokens joined =>
    have hreach := Runs.Reachable.instantiated created
    simp only [Vault.instantiate, bind_eq_ok, Except.ok.injEq, Prod.mk.injEq] at created
    obtain ⟨_, -, _, -, _, -, _, -, _, -, _, -, _, -, _, -, _, -, _, -, _, -, _, -, _, -, _, -, _, -, _, -, _, -, _,
      -, _, -, _, -, _, -, rfl, -⟩ := created
    simp only [Liquidity.instantiate, bind_eq_ok, liftStd_eq_ok, Except.ok.injEq, Prod.mk.injEq] at joined
    obtain ⟨_, -, _, -, vault, hvault, config, hconfig, _, -, token0, h0, token1, h1, _, -, rfl, -⟩ := joined
    obtain rfl := addr _ _ hvault
    rw [bound] at hconfig
    have htokens := tokens config hconfig
    refine ⟨⟨hreach, nofun, bound, ?_, nofun⟩, rfl, rfl⟩
    funext i
    fin_cases i
    · exact (addr _ _ h0).trans (congrFun htokens 0)
    · exact (addr _ _ h1).trans (congrFun htokens 1)
  | ran before h ih =>
    have hstill := run_meets h ih.1
    exact ⟨hstill.linked, hstill.pending.trans ih.2.1, hstill.rebalance.trans ih.2.2⟩
  | vaultMigrated before h ih =>
    obtain ⟨hunbound, -, htokens, hpending⟩ := vault_migrate_binding h
    refine ⟨ih.1.of_vault (.migrated ih.1.vault h) (fun liquidity hl => ?_) htokens, ih.2.1, hpending.trans ih.2.2⟩
    cases hunbound.symm.trans hl
  | liquidityMigrated before h ih =>
    obtain ⟨hsame, -, hidle⟩ := liquidity_migrate h
    refine ⟨ih.1.of_liquidity hsame fun transfers n hpending => ?_, hidle, ih.2.2⟩
    cases hidle.symm.trans hpending

def singleSwap : WithdrawalType → Option SwapParams
  | .token0 _ swap | .token1 _ swap => some swap
  | .proRata _ => none

omit [Token L] in
lemma executeSingleWithdraw_pending {q : VaultQuerier} {st st' : Shares L} {info : MessageInfo} {recipient : Addr}
    {shares minAmount : Uint128} {claims : Fin 2 → Uint128} {payout : Fin 2} {swap : SwapParams} {deadline : ℕ}
    {r : Response State.WasmMsg}
    (h : executeSingleWithdraw q st info recipient shares claims payout minAmount swap deadline = .ok (st', r)) :
    ∃ owner shares recipient payoutToken baseAmount prePayoutBalance minAmount,
      st' = { st with pending := some (.withdrawSingle owner shares recipient payoutToken baseAmount prePayoutBalance
        minAmount swap) } ∧
      r.messages = [.replyAlways (.vault st.config.vault (.liquiditySwap swap)) withdrawReplyId] := by
  simp only [executeSingleWithdraw, bind_eq_ok, Except.ok.injEq, Prod.mk.injEq] at h
  obtain ⟨_, -, balances, -, rfl, rfl⟩ := h
  exact ⟨_, _, _, _, _, _, _, rfl, rfl⟩

lemma single_unchanged {info : MessageInfo} {shares : Uint128} {recipient : Option String} {deadline : ℕ}
    {output : WithdrawalType} {swap : SwapParams} (linked : Linked C w)
    (h : Run C (.liquidity info (.withdraw shares recipient deadline output)) w log w')
    (single : singleSwap output = some swap) : Swapped C swap log ∨ log = [] ∧ w' = w := by
  cases h with
  | @liquidity w q env info msg l r log w' reads here run rest =>
    have hrest := run_meets rest (linked.liquidity_executed run)
    simp only [Liquidity.execute, executeWithdraw, assertNoPending, bind_eq_ok, ensure_eq_ok,
      Option.isNone_iff_eq_none] at run
    obtain ⟨_, hidle, _, -, _, -, _, -, _, -, claim0, -, claim1, -, payee, -, run⟩ := run
    have hspec : ∃ owner shares recipient payoutToken baseAmount prePayoutBalance minAmount,
        l = { w.liquidity with pending := some (.withdrawSingle owner shares recipient payoutToken baseAmount
          prePayoutBalance minAmount swap) } ∧
        r.messages = [.replyAlways (.vault w.liquidity.config.vault (.liquiditySwap swap)) withdrawReplyId] := by
      cases output with
      | proRata minAssets => cases single
      | token0 minAmount swap' =>
        cases single
        exact executeSingleWithdraw_pending run
      | token1 minAmount swap' =>
        cases single
        exact executeSingleWithdraw_pending run
    obtain ⟨owner, _, _, _, _, _, _, rfl, hmessages⟩ := hspec
    rw [hmessages] at hrest
    have hfinished := hrest.2.2 w.liquidity.config _ linked.serves .withdrawSingle rfl
    rw [hidle]
    rcases hfinished.swapped _ _ _ _ _ _ _ _ rfl with hswapped | ⟨rfl, rfl⟩
    · exact .inl hswapped
    · refine .inr ⟨rfl, ?_⟩
      rw [← hidle]

/-! Tokens kept in ledgers, and a first deposit into a vault that has just been bound. -/

section Deposited

open CosmWasm.TokenLedger

abbrev Tokens := Addr → Ledger

def carryOne (ledger : Ledger) (sender : Addr) : State.Cw20ExecuteMsg → Except String Ledger
  | .transfer recipient amount => ledger.move sender recipient amount
  | .transferFrom owner recipient amount => do
    let ledger ← ledger.deduct owner sender amount
    ledger.move owner recipient amount
  | .send contract amount _ => ledger.move sender contract amount

def carry (tokens : Tokens) (sender token : Addr) (msg : State.Cw20ExecuteMsg) : Except String Tokens := do
  let ledger ← carryOne (tokens token) sender msg
  .ok (Function.update tokens token ledger)

def ledgerChain : Chain Tokens where
  vault := "vault"
  liquidity := "liquidity"
  apart := by decide
  held tokens token account := (tokens token).held account
  carries tokens sender token msg tokens' :=
    carry tokens sender token msg = .ok tokens' ∧ ∀ recipient amount, msg ≠ .transferFrom "vault" recipient amount
  hooked msg := ∃ contract amount hook, msg = .send contract amount hook
  drifts tokens tokens' := ∀ token, ((tokens token).held "vault").val ≤ ((tokens' token).held "vault").val

def vaultQuerier (w : World Ledger Tokens) : Querier :=
  { Runs.fixedChain 0 .one 0 with
    codeId := fun addr => .ok (if addr = "liquidity" then 8 else 7)
    tokenInfo := fun addr => .ok ⟨6, if addr = "liquidity" then Token.totalSupply w.liquidity.token else 0⟩
    balance := fun token account => .ok ((w.outside token).held account)
    liquidityConfig := fun addr =>
      if addr = "liquidity" then .ok (configResponse w.liquidity) else .error (.notFound "liquidity contract")
    authorization := fun _ => .ok (liquidityAuthorization w.liquidity) }

lemma vaultQuerier_reads (w : World Ledger Tokens) : VaultReads ledgerChain w (vaultQuerier w) where
  addr s a h := (Except.ok.inj h).symm
  authorization := rfl
  config a c h := by
    simp only [vaultQuerier] at h
    split at h
    · exact ⟨‹_›, (Except.ok.inj h).symm⟩
    · cases h
  balance _ := rfl
  supply tokenInfo h := by
    cases h
    rfl

def liquidityQuerier (w : World Ledger Tokens) : VaultQuerier where
  addrValidate := .ok
  vaultConfig _ := .ok ⟨w.vault.config.assetTokens, w.vault.config.decimals, w.vault.config.allocationToleranceBps⟩
  vaultBalances vault := .ok ![(w.outside (w.vault.config.assetTokens 0)).held vault,
    (w.outside (w.vault.config.assetTokens 1)).held vault]
  vaultPrice _ := .ok .one
  rebalanceStatus _ := .ok ⟨false, 0, 0, .one, .one⟩
  balance token account := .ok ((w.outside token).held account)

lemma liquidityQuerier_reads (w : World Ledger Tokens) : LiquidityReads ledgerChain w (liquidityQuerier w) :=
  ⟨fun _ _ h => (Except.ok.inj h).symm, rfl, fun _ => rfl⟩

def aliceHolds (amount : Uint128) : Ledger where
  balances := (∅ : Std.ExtTreeMap Addr Uint128).insert "alice" amount
  supply := amount
  allowances owner spender := if owner = "alice" ∧ spender = "liquidity" then amount else 0
  minter := "issuer"
  conserved := by
    have htotal := Foundation.StorageMap.total_insert (∅ : Std.ExtTreeMap Addr Uint128) Uint.val "alice" amount
    simpa [Foundation.StorageMap.weight] using htotal

def vaultEnv : Env := ⟨0, 0, "vault"⟩

def liquidityEnv : Env := ⟨0, 0, "liquidity"⟩

def created : Except String (World Ledger Tokens) := do
  let (vault, _) ← withError "vault" (Vault.instantiate (Runs.fixedChain 0 .one 0) vaultEnv Runs.fixedMsg)
  let tokens : Tokens := fun _ => aliceHolds ⟨20000, by decide⟩
  let (liquidity, _) ← withError "liquidity" (Liquidity.instantiate
    (liquidityQuerier ⟨vault, ⟨⟨"", "", ![ "", ""], 0⟩, none, none, .empty ""⟩, tokens⟩) liquidityEnv
    ⟨"admin", "vault", "shares", "BOTLP", 6, ⟨2000, by decide⟩, none⟩)
  .ok ⟨vault, liquidity, tokens⟩

def bound (w : World Ledger Tokens) : Except String (World Ledger Tokens) := do
  let (vault, r) ← withError "vault"
    (Vault.execute (vaultQuerier w) vaultEnv w.vault ⟨"admin", []⟩ (.setLiquidityContract "liquidity"))
  ensure (r.messages = []) "messages"
  .ok { w with vault }

def amount : Uint128 := ⟨10000, by decide⟩

def deposited (w : World Ledger Tokens) : Except String (World Ledger Tokens) := do
  let (liquidity, r) ← withError "deposit" (Liquidity.execute (liquidityQuerier w) liquidityEnv w.liquidity
    ⟨"alice", []⟩ (.deposit ![amount, amount] 0 0 none))
  ensure (r.messages = [.plain (.cw20 "token0" (.transferFrom "alice" "vault" amount)),
    .plain (.cw20 "token1" (.transferFrom "alice" "vault" amount)),
    .replyOnSuccess (.vault "vault" .finalizeLiquidityOperation) depositReplyId]) "messages"
  let tokens ← carry w.outside "liquidity" "token0" (.transferFrom "alice" "vault" amount)
  let tokens ← carry tokens "liquidity" "token1" (.transferFrom "alice" "vault" amount)
  let w : World Ledger Tokens := ⟨w.vault, liquidity, tokens⟩
  let (vault, r) ← withError "finalize"
    (Vault.execute (vaultQuerier w) vaultEnv w.vault ⟨"liquidity", []⟩ .finalizeLiquidityOperation)
  ensure (r.messages = []) "messages"
  let w : World Ledger Tokens := { w with vault }
  let (liquidity, r) ← withError "reply" (Liquidity.reply (liquidityQuerier w) liquidityEnv w.liquidity
    depositReplyId (.ok ()))
  ensure (r.messages = []) "messages"
  .ok { w with liquidity }

lemma created_reachable {w : World Ledger Tokens} (h : created = .ok w) : Reachable ledgerChain w := by
  simp only [created, bind_eq_ok, withError_eq_ok, Except.ok.injEq, Prod.exists] at h
  obtain ⟨vault, r, hvault, liquidity, lr, hliquidity, rfl⟩ := h
  refine .started rfl rfl hvault rfl (fun _ _ h => (Except.ok.inj h).symm) (fun config hconfig => ?_) hliquidity
  obtain rfl := Except.ok.inj hconfig
  rfl

lemma bound_runs {w w' : World Ledger Tokens} (h : bound w = .ok w') : ∃ log, Run ledgerChain .outside w log w' := by
  simp only [bound, bind_eq_ok, withError_eq_ok, ensure_eq_ok, decide_eq_true_eq, Except.ok.injEq, Prod.exists] at h
  obtain ⟨vault, r, hvault, _, hsilent, rfl⟩ := h
  have hdone : Run ledgerChain (.deliverVault r.messages) { w with vault } [] { w with vault } := hsilent ▸ .vaultDone
  exact ⟨_, .enteredVault ⟨by decide, by decide⟩ (.vault (vaultQuerier_reads w) rfl hvault hdone) .quiet⟩

lemma carried_runs {w : World Ledger Tokens} {sender token : Addr} {msg : State.Cw20ExecuteMsg} {tokens : Tokens}
    (h : carry w.outside sender token msg = .ok tokens)
    (own : ∀ recipient amount, msg ≠ .transferFrom "vault" recipient amount) :
    Run ledgerChain (.send sender (.cw20 token msg)) w [] { w with outside := tokens } :=
  .toToken ⟨h, own⟩ .quiet fun _ => ⟨rfl, rfl⟩

lemma deposited_runs {w w' : World Ledger Tokens} (h : deposited w = .ok w') :
    ∃ log, Run ledgerChain (.liquidity ⟨"alice", []⟩ (.deposit ![amount, amount] 0 0 none)) w log w' := by
  simp only [deposited, bind_eq_ok, withError_eq_ok, ensure_eq_ok, decide_eq_true_eq, Except.ok.injEq, Prod.exists] at h
  obtain ⟨l, r, hdeposit, _, hmessages, tokens, hfirst, tokens', hsecond, st, vr, hfinalize, _, hquiet, l', lr,
    hreply, _, hsilent, rfl⟩ := h
  obtain ⟨log, hrest⟩ : ∃ log, Run ledgerChain (.deliverLiquidity r.messages) { w with liquidity := l } log
      ⟨st, l', tokens'⟩ := by
    have hquieted : Run ledgerChain (.deliverVault vr.messages) ⟨st, l, tokens'⟩ [] ⟨st, l, tokens'⟩ :=
      hquiet ▸ .vaultDone
    have hsettled : Run ledgerChain (.deliverLiquidity (lr.messages ++ [])) ⟨st, l', tokens'⟩ [] ⟨st, l', tokens'⟩ := by
      rw [hsilent]
      exact .liquidityDone
    have hfinalized : Run ledgerChain (.send "liquidity" (.vault "vault" .finalizeLiquidityOperation)) _ _ _ :=
      .toVault (.vault (vaultQuerier_reads ⟨w.vault, l, tokens'⟩) rfl hfinalize hquieted)
    have hreplied := @Run.liquidityReplied _ _ _ _ _
      (.replyOnSuccess (.vault "vault" .finalizeLiquidityOperation) depositReplyId) [] _
      ⟨st, l, tokens'⟩ _ _ _ _ _ _ rfl hfinalized (liquidityQuerier_reads _) rfl hreply hsettled
    rw [hmessages]
    exact ⟨_, .liquiditySent rfl (carried_runs hfirst (by simp))
      (.liquiditySent rfl (carried_runs hsecond (by simp)) hreplied)⟩
  exact ⟨_, .liquidity (liquidityQuerier_reads w) rfl hdeposit hrest⟩

def funded : Except String (World Ledger Tokens) := do
  let w ← created
  let w ← bound w
  deposited w

lemma funded_reachable {w : World Ledger Tokens} (h : funded = .ok w) : Reachable ledgerChain w := by
  simp only [funded, bind_eq_ok] at h
  obtain ⟨w₀, hcreated, w₁, hbound, hdeposited⟩ := h
  obtain ⟨_, hrun₁⟩ := bound_runs hbound
  obtain ⟨_, hrun₂⟩ := deposited_runs hdeposited
  exact .ran (.ran (created_reachable hcreated) hrun₁) (.enteredLiquidity ⟨by decide, by decide⟩ hrun₂ .quiet)

def part (token : Addr) : AuthorizedTransfer := ⟨token, ⟨500, by decide⟩, "alice"⟩

def paid (token : Addr) (w : World Ledger Tokens) : Except String (World Ledger Tokens) := do
  let transfer := part token
  let (vault, r) ← withError "transfer" (Vault.execute (vaultQuerier w) vaultEnv w.vault ⟨"liquidity", []⟩
    (.transferTo token transfer.amount "alice"))
  ensure (r.messages = [.plain (.cw20 token (.transfer "alice" transfer.amount))]) "messages"
  let tokens ← carry w.outside "vault" token (.transfer "alice" transfer.amount)
  let w : World Ledger Tokens := ⟨vault, w.liquidity, tokens⟩
  let (liquidity, r) ← withError "reply" (Liquidity.reply (liquidityQuerier w) liquidityEnv w.liquidity
    transferReplyId (.ok ()))
  ensure (r.messages = [] ∧ newlyAuthorized w.liquidity.pending liquidity.pending = []) "messages"
  .ok { w with liquidity }

def withdrawal : LiquidityExecuteMsg := .withdraw (u128 1000) none 0 (.proRata fun _ => u128 500)

/-- The holder takes out a twentieth of all shares. -/
def withdrawn (w : World Ledger Tokens) : Except String (World Ledger Tokens) := do
  let transfers := [part "token0", part "token1"]
  let (liquidity, r) ← withError "withdraw" (Liquidity.execute (liquidityQuerier w) liquidityEnv w.liquidity
    ⟨"alice", []⟩ withdrawal)
  ensure (r.messages = transfers.map fun t => .replyOnSuccess (vaultTransfer w.liquidity.config t) transferReplyId)
    "messages"
  ensure (w.liquidity.config.vault = "vault" ∧
    newlyAuthorized w.liquidity.pending liquidity.pending = [.authorized transfers]) "authorized"
  let w ← paid "token0" { w with liquidity }
  paid "token1" w

lemma paid_runs {w w₁ w' : World Ledger Tokens} {token : Addr} {ms : List (SubMsg State.WasmMsg)}
    {log : Log Ledger Tokens}
    (h : paid token w = .ok w₁) (rest : Run ledgerChain (.deliverLiquidity ms) w₁ log w') :
    ∃ log', Run ledgerChain (.deliverLiquidity
        (.replyOnSuccess (.vault "vault" (.transferTo token (part token).amount "alice")) transferReplyId :: ms))
        w log' w' ∧
      dues log' = .made (part token) :: dues log := by
  simp only [paid, bind_eq_ok, withError_eq_ok, ensure_eq_ok, decide_eq_true_eq, Except.ok.injEq, Prod.exists] at h
  obtain ⟨st, r, htransfer, _, hmessages, tokens, hcarried, l, lr, hreply, _, ⟨hsilent, hnone⟩, rfl⟩ := h
  have hmoved : Run ledgerChain (.send "vault" (.cw20 token (.transfer "alice" (part token).amount)))
      ⟨st, w.liquidity, w.outside⟩ [] ⟨st, w.liquidity, tokens⟩ := carried_runs hcarried (by simp)
  have hpaid : Run ledgerChain (.deliverVault r.messages) ⟨st, w.liquidity, w.outside⟩ ([] ++ [])
      ⟨st, w.liquidity, tokens⟩ := by
    rw [hmessages]
    exact .vaultSent rfl hmoved .vaultDone
  have hsent : Run ledgerChain (.send "liquidity" (.vault "vault" (.transferTo token (part token).amount "alice"))) w
      _ ⟨st, w.liquidity, tokens⟩ :=
    .toVault (.vault (vaultQuerier_reads w) rfl htransfer hpaid)
  have hsettled : Run ledgerChain (.deliverLiquidity (lr.messages ++ ms)) ⟨st, l, tokens⟩ log w' := by
    rw [hsilent]
    exact rest
  refine ⟨_, @Run.liquidityReplied _ _ _ _ _
    (.replyOnSuccess (.vault "vault" (.transferTo token (part token).amount "alice")) transferReplyId) ms _
    ⟨st, w.liquidity, tokens⟩ _ _ _ _ _ _ rfl hsent (liquidityQuerier_reads _) rfl hreply hsettled, ?_⟩
  rw [hmessages, hnone]
  rfl

lemma withdrawn_runs {w w' : World Ledger Tokens} (h : withdrawn w = .ok w') :
    ∃ log, Run ledgerChain (.liquidity ⟨"alice", []⟩ withdrawal) w log w' ∧
      dues log = [.listed [part "token0", part "token1"], .made (part "token0"), .made (part "token1")] := by
  simp only [withdrawn, bind_eq_ok, withError_eq_ok, ensure_eq_ok, decide_eq_true_eq, Prod.exists] at h
  obtain ⟨l, r, hwithdraw, _, hmessages, _, ⟨hvault, hauthorized⟩, w₁, hfirst, hsecond⟩ := h
  obtain ⟨log₂, hrun₂, hdues₂⟩ := paid_runs hsecond .liquidityDone
  obtain ⟨log₁, hrun₁, hdues₁⟩ := paid_runs hfirst hrun₂
  have hdelivered : Run ledgerChain (.deliverLiquidity r.messages) { w with liquidity := l } log₁ w' := by
    rw [hmessages]
    simp only [List.map, vaultTransfer, hvault]
    exact hrun₁
  refine ⟨_, .liquidity (liquidityQuerier_reads w) rfl hwithdraw hdelivered, ?_⟩
  rw [hauthorized]
  show .listed [part "token0", part "token1"] :: dues log₁ = _
  rw [hdues₁, hdues₂]
  rfl

end Deposited

/-- Of the two contracts: whatever is sent to them and however its messages end, a committed transaction leaves no
operation and no rebalance waiting; the vault pays for the liquidity contract what is authorized at that moment, each
authorized transfer once, and never during a rebalance; a rebalance starts only while no operation waits; and a
withdrawal in one token whose swap fails changes nothing at all. -/
theorem liquidity_protocol (L W : Type) [Token L] (C : Chain W) {w : World L W} (h : Reachable C w) :
    w.liquidity.pending = none ∧ w.vault.pendingRebalance = none ∧
    (∀ log w', Run C .outside w log w' →
      w'.liquidity.pending = none ∧ w'.vault.pendingRebalance = none ∧ AllJustified C log ∧ Settled (dues log) ∧
      (StandardTokens C → Undisturbed C log)) ∧
    ∀ info shares recipient deadline output swap log w', singleSwap output = some swap →
      Run C (.liquidity info (.withdraw shares recipient deadline output)) w log w' →
      Swapped C swap log ∨ log = [] ∧ w' = w := by
  obtain ⟨hlinked, hidle, hquiet⟩ := reachable_idle h
  refine ⟨hidle, hquiet, fun log w' hrun => ?_, fun _ _ _ _ _ _ _ _ hsingle hrun =>
    single_unchanged hlinked hrun hsingle⟩
  have hstill := run_meets hrun hlinked
  exact ⟨hstill.pending.trans hidle, hstill.rebalance.trans hquiet, hstill.justified, hstill.settled hidle,
    fun standard => hstill.undisturbed standard fun hwaits => absurd hidle hwaits⟩

open CosmWasm.TokenLedger in
theorem funded_protocol : ∃ w log w', funded = .ok w ∧ withdrawn w = .ok w' ∧ Run ledgerChain .outside w log w' ∧
    dues log = [.listed [part "token0", part "token1"], .made (part "token0"), .made (part "token1")] ∧
    w.liquidity.pending = none ∧ w.vault.pendingRebalance = none ∧ w'.liquidity.pending = none ∧
    w'.vault.pendingRebalance = none ∧ AllJustified ledgerChain log ∧ Settled (dues log) ∧
    Undisturbed ledgerChain log := by
  have hfunded : okAnd funded (fun w => okAnd (withdrawn w) fun _ => true) = true := by decide
  obtain ⟨w, hw, hwithdrawn⟩ := okAnd_iff.mp hfunded
  obtain ⟨w', hw', -⟩ := okAnd_iff.mp hwithdrawn
  obtain ⟨log, hlog, hdues⟩ := withdrawn_runs hw'
  have hrun : Run ledgerChain .outside w (log ++ []) w' := .enteredLiquidity ⟨by decide, by decide⟩ hlog .quiet
  rw [List.append_nil] at hrun
  obtain ⟨hidle, hquiet, hruns, -⟩ := liquidity_protocol Ledger Tokens ledgerChain (funded_reachable hw)
  obtain ⟨hidle', hquiet', hjustified, hsettled, hundisturbed⟩ := hruns log w' hrun
  exact ⟨w, log, w', hw, hw', hrun, hdues, hidle, hquiet, hidle', hquiet', hjustified, hsettled,
    hundisturbed fun _ hooked => hooked⟩

end Cl8yDexBots.Rebalancer.ProtocolSafety
