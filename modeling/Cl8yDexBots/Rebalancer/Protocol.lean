import Cl8yDexBots.Rebalancer.Liquidity
import Cl8yDexBots.Rebalancer.Vault

/-! The bot-vault and its bot-liquidity contract on a chain whose other contracts may call them at any time. -/

namespace Cl8yDexBots.Rebalancer.Protocol

open Foundation.Checked Foundation.Words Foundation.SubMessages CosmWasm.Std CosmWasm.Cw20Base
open State Liquidity

structure World (L W : Type) where
  vault : Storage
  liquidity : Shares L
  outside : W

structure Chain (W : Type) where
  vault : Addr
  liquidity : Addr
  apart : vault ≠ liquidity
  held : W → Addr → Addr → Uint128
  carries : W → Addr → Addr → State.Cw20ExecuteMsg → W → Prop
  hooked : State.Cw20ExecuteMsg → Prop
  drifts : W → W → Prop

variable {L W : Type} [Token L]

def Chain.Alien (C : Chain W) (account : Addr) : Prop := account ≠ C.vault ∧ account ≠ C.liquidity

/-- What the vault is told: the one liquidity contract speaks for itself, and balances are what they are. -/
structure VaultReads (C : Chain W) (w : World L W) (q : Querier) : Prop where
  addr : ∀ s a, q.addrValidate s = .ok a → a = s
  authorization : q.authorization C.liquidity = .ok (liquidityAuthorization w.liquidity)
  config : ∀ a c, q.liquidityConfig a = .ok c → a = C.liquidity ∧ c = configResponse w.liquidity
  balance : ∀ token, q.balance token C.vault = .ok (C.held w.outside token C.vault)
  supply : ∀ tokenInfo, q.tokenInfo C.liquidity = .ok tokenInfo →
    tokenInfo.totalSupply = Token.totalSupply w.liquidity.token

structure LiquidityReads (C : Chain W) (w : World L W) (q : VaultQuerier) : Prop where
  addr : ∀ s a, q.addrValidate s = .ok a → a = s
  balances : q.vaultBalances C.vault = .ok ![C.held w.outside (w.vault.config.assetTokens 0) C.vault,
    C.held w.outside (w.vault.config.assetTokens 1) C.vault]
  balance : ∀ token, q.balance token C.vault = .ok (C.held w.outside token C.vault)

inductive Move where
  | paid (caller token : Addr) (msg : State.Cw20ExecuteMsg)
  | authorized (transfers : List AuthorizedTransfer)
  deriving DecidableEq

abbrev Log (L W : Type) := List (World L W × Move)

def paidBy (caller : Addr) (messages : List (SubMsg State.WasmMsg)) : List Move :=
  messages.filterMap fun m =>
    match m.msg with
    | .cw20 token msg => some (.paid caller token msg)
    | _ => none

def newlyAuthorized (before after : Option PendingOperation) : List Move :=
  match before, after with
  | some (.authorizedTransfers _ _), _ => []
  | _, some (.authorizedTransfers transfers _) => [.authorized transfers]
  | _, _ => []

inductive Task where
  | outside
  | vault (info : MessageInfo) (msg : VaultExecuteMsg)
  | liquidity (info : MessageInfo) (msg : LiquidityExecuteMsg)
  | send (sender : Addr) (msg : State.WasmMsg)
  | deliverVault (messages : List (SubMsg State.WasmMsg))
  | deliverLiquidity (messages : List (SubMsg State.WasmMsg))

/-- What may be committed of a task: messages are delivered depth first, replies follow what they were asked for,
a failed message leaves no trace, and whoever is called may call either contract. -/
inductive Run (C : Chain W) : Task → World L W → Log L W → World L W → Prop
  | quiet {w} : Run C .outside w [] w
  | drifted {w out log w'} (h : C.drifts w.outside out) (rest : Run C .outside { w with outside := out } log w') :
      Run C .outside w log w'
  | enteredVault {w info msg log₁ w₁ log₂ w'} (alien : C.Alien info.sender)
      (first : Run C (.vault info msg) w log₁ w₁) (rest : Run C .outside w₁ log₂ w') :
      Run C .outside w (log₁ ++ log₂) w'
  | enteredLiquidity {w info msg log₁ w₁ log₂ w'} (alien : C.Alien info.sender)
      (first : Run C (.liquidity info msg) w log₁ w₁) (rest : Run C .outside w₁ log₂ w') :
      Run C .outside w (log₁ ++ log₂) w'
  | vault {w q env info msg st r log w'} (reads : VaultReads C w q) (here : env.contract = C.vault)
      (h : Vault.execute q env w.vault info msg = .ok (st, r))
      (rest : Run C (.deliverVault r.messages) { w with vault := st } log w') :
      Run C (.vault info msg) w ((paidBy info.sender r.messages).map (Prod.mk w) ++ log) w'
  | liquidity {w q env info msg l r log w'} (reads : LiquidityReads C w q) (here : env.contract = C.liquidity)
      (h : Liquidity.execute q env w.liquidity info msg = .ok (l, r))
      (rest : Run C (.deliverLiquidity r.messages) { w with liquidity := l } log w') :
      Run C (.liquidity info msg) w ((newlyAuthorized w.liquidity.pending l.pending).map (Prod.mk w) ++ log) w'
  | toVault {w sender msg log w'} (h : Run C (.vault ⟨sender, []⟩ msg) w log w') :
      Run C (.send sender (.vault C.vault msg)) w log w'
  | toLiquidity {w sender recipient amount log w'}
      (h : Run C (.liquidity ⟨sender, []⟩ (.mintTo recipient amount)) w log w') :
      Run C (.send sender (.mintTo C.liquidity recipient amount)) w log w'
  | toToken {w sender token msg out log w'} (h : C.carries w.outside sender token msg out)
      (rest : Run C .outside { w with outside := out } log w')
      (silent : ¬ C.hooked msg → log = [] ∧ w' = { w with outside := out }) :
      Run C (.send sender (.cw20 token msg)) w log w'
  | toReceiver {w sender hook log w'} (rest : Run C .outside w log w') : Run C (.send sender (.receive hook)) w log w'
  | toOtherVault {w sender vault msg log w'} (other : vault ≠ C.vault) (rest : Run C .outside w log w') :
      Run C (.send sender (.vault vault msg)) w log w'
  | toOtherLiquidity {w sender liquidity recipient amount log w'} (other : liquidity ≠ C.liquidity)
      (rest : Run C .outside w log w') : Run C (.send sender (.mintTo liquidity recipient amount)) w log w'
  | vaultDone {w} : Run C (.deliverVault []) w [] w
  | vaultSent {w m ms log₁ w₁ log₂ w'} (silent : m.replyOn.onSuccess = false)
      (first : Run C (.send C.vault m.msg) w log₁ w₁) (rest : Run C (.deliverVault ms) w₁ log₂ w') :
      Run C (.deliverVault (m :: ms)) w (log₁ ++ log₂) w'
  | vaultReplied {w m ms log₁ w₁ q env st r log₂ w'} (asked : m.replyOn.onSuccess = true)
      (first : Run C (.send C.vault m.msg) w log₁ w₁) (reads : VaultReads C w₁ q) (here : env.contract = C.vault)
      (h : Vault.reply q env w₁.vault m.id = .ok (st, r))
      (rest : Run C (.deliverVault (r.messages ++ ms)) { w₁ with vault := st } log₂ w') :
      Run C (.deliverVault (m :: ms)) w (log₁ ++ ((paidBy C.vault r.messages).map (Prod.mk w₁) ++ log₂)) w'
  | liquidityDone {w} : Run C (.deliverLiquidity []) w [] w
  | liquiditySent {w m ms log₁ w₁ log₂ w'} (silent : m.replyOn.onSuccess = false)
      (first : Run C (.send C.liquidity m.msg) w log₁ w₁) (rest : Run C (.deliverLiquidity ms) w₁ log₂ w') :
      Run C (.deliverLiquidity (m :: ms)) w (log₁ ++ log₂) w'
  | liquidityReplied {w m ms log₁ w₁ q env l r log₂ w'} (asked : m.replyOn.onSuccess = true)
      (first : Run C (.send C.liquidity m.msg) w log₁ w₁) (reads : LiquidityReads C w₁ q)
      (here : env.contract = C.liquidity) (h : Liquidity.reply q env w₁.liquidity m.id (.ok ()) = .ok (l, r))
      (rest : Run C (.deliverLiquidity (r.messages ++ ms)) { w₁ with liquidity := l } log₂ w') :
      Run C (.deliverLiquidity (m :: ms)) w
        (log₁ ++ ((newlyAuthorized w₁.liquidity.pending l.pending).map (Prod.mk w₁) ++ log₂)) w'
  | liquidityCaught {w m ms e q env l r log w'} (asked : m.replyOn.onError = true) (reads : LiquidityReads C w q)
      (here : env.contract = C.liquidity) (h : Liquidity.reply q env w.liquidity m.id (.error e) = .ok (l, r))
      (rest : Run C (.deliverLiquidity (r.messages ++ ms)) { w with liquidity := l } log w') :
      Run C (.deliverLiquidity (m :: ms)) w log w'

theorem Run.keeps {C : Chain W} {I : World L W → Prop} {task : Task} {w w' : World L W} {log : Log L W}
    (drifts : ∀ w out, I w → I { w with outside := out })
    (executes : ∀ w q env info msg st r, I w → VaultReads C w q → Vault.execute q env w.vault info msg = .ok (st, r) →
      I { w with vault := st })
    (replies : ∀ w q env id st r, I w → Vault.reply q env w.vault id = .ok (st, r) → I { w with vault := st })
    (serves : ∀ w q env info msg l r, I w → Liquidity.execute q env w.liquidity info msg = .ok (l, r) →
      I { w with liquidity := l })
    (settles : ∀ w q env id result l r, I w → Liquidity.reply q env w.liquidity id result = .ok (l, r) →
      I { w with liquidity := l })
    (h : Run C task w log w') (start : I w) : I w' := by
  induction h with
  | quiet => exact start
  | drifted h rest ih => exact ih (drifts _ _ start)
  | enteredVault alien first rest ih₁ ih₂ => exact ih₂ (ih₁ start)
  | enteredLiquidity alien first rest ih₁ ih₂ => exact ih₂ (ih₁ start)
  | vault reads here h rest ih => exact ih (executes _ _ _ _ _ _ _ start reads h)
  | liquidity reads here h rest ih => exact ih (serves _ _ _ _ _ _ _ start h)
  | toVault h ih => exact ih start
  | toLiquidity h ih => exact ih start
  | toToken h rest silent ih => exact ih (drifts _ _ start)
  | toReceiver rest ih => exact ih start
  | toOtherVault other rest ih => exact ih start
  | toOtherLiquidity other rest ih => exact ih start
  | vaultDone => exact start
  | vaultSent silent first rest ih₁ ih₂ => exact ih₂ (ih₁ start)
  | vaultReplied asked first reads here h rest ih₁ ih₂ => exact ih₂ (replies _ _ _ _ _ _ (ih₁ start) h)
  | liquidityDone => exact start
  | liquiditySent silent first rest ih₁ ih₂ => exact ih₂ (ih₁ start)
  | liquidityReplied asked first reads here h rest ih₁ ih₂ => exact ih₂ (settles _ _ _ _ _ _ _ (ih₁ start) h)
  | liquidityCaught asked reads here h rest ih => exact ih (settles _ _ _ _ _ _ _ start h)

inductive Reachable (C : Chain W) : World L W → Prop
  | started {q env msg st r lq lenv lmsg l lr out} (here : env.contract = C.vault) (there : lenv.contract = C.liquidity)
      (created : Vault.instantiate q env msg = .ok (st, r)) (bound : lmsg.vault = C.vault)
      (addr : ∀ s a, lq.addrValidate s = .ok a → a = s)
      (tokens : ∀ config, lq.vaultConfig C.vault = .ok config → config.assetTokens = st.config.assetTokens)
      (joined : Liquidity.instantiate lq lenv lmsg = .ok (l, lr)) : Reachable C ⟨st, l, out⟩
  | ran {w log w'} (before : Reachable C w) (h : Run C .outside w log w') : Reachable C w'
  | vaultMigrated {w codeId st r} (before : Reachable C w) (h : Vault.migrate w.vault codeId = .ok (st, r)) :
      Reachable C { w with vault := st }
  | liquidityMigrated {w supported l r} (before : Reachable C w)
      (h : Liquidity.migrate w.liquidity supported = .ok (l, r)) : Reachable C { w with liquidity := l }

end Cl8yDexBots.Rebalancer.Protocol
