import Cl8yDexBots.Rebalancer.State

/-! The proxy that the vaults share on their way to the pairs. -/

namespace Cl8yDexBots.SwapProxy.Contract

open Std Foundation.Checked Foundation.Words Foundation.SubMessages CosmWasm.Std CosmWasm.Pair SwapVault.Pricing
open Rebalancer.State (SwapProxyHookMsg)

inductive ContractError where
  | std (error : StdError)
  | unauthorized
  | invalidRoute
  | unregisteredVault
  | unsupportedToken
  | zeroAmount
  | expired
  | excessiveSpread
  deriving DecidableEq

instance : StdFailure ContractError := ⟨.std⟩

abbrev Result := Except ContractError

structure Route where
  pair : Addr
  pairCodeId : ℕ
  assetTokens : Fin 2 → Addr
  deriving DecidableEq

structure Storage where
  admin : Addr
  routes : ExtTreeMap Addr Route
  pendingAdmin : Option Addr

/-- What registration reads of a vault's configuration, whatever else the vault reports. -/
structure VaultConfigRaw where
  factory : String
  pair : String
  pairCodeId : ℕ
  proxy : Option String
  assetTokens : Fin 2 → String

structure Querier where
  addrValidate : String → Except StdError Addr
  codeId : Addr → Except StdError ℕ
  pair : Addr → Except StdError PairInfo
  vaultConfig : Addr → Except StdError VaultConfigRaw
  factoryPair : Addr → (Fin 2 → AssetInfo) → Except StdError PairInfo

structure PairHook where
  beliefPrice : Option Decimal
  maxSpread : Option Decimal
  minReturn : Option Uint128
  recipient : Option String
  deadline : Option ℕ
  trader : Option String
  hybrid : Option HybridSwapParams
  deriving DecidableEq

structure WasmMsg where
  contractAddr : String
  contract : String
  amount : Uint128
  msg : PairHook
  deriving DecidableEq

/-- `msg` is `none` where the hook does not decode. -/
structure Cw20ReceiveMsg where
  sender : String
  amount : Uint128
  msg : Option SwapProxyHookMsg

inductive ExecuteMsg where
  | receive (msg : Cw20ReceiveMsg)
  | registerVault (vault pair : String)
  | removeVault (vault : String)
  | transferAdmin (admin : String)
  | acceptAdmin
  | cancelAdminTransfer

abbrev Executed := Result (Storage × Response WasmMsg)

def maximumSpread : Decimal := .percent 10 Decimal.ten_percent_lt

def instantiate (q : Querier) (admin : String) : Executed := do
  let admin ← liftStd (q.addrValidate admin)
  .ok ({ admin, routes := ∅, pendingAdmin := none }, ⟨[], [("action", "instantiate")]⟩)

/-- Routes of an earlier version have no code to compare with, and have to be registered again. -/
def migrate (st : Storage) (supportedSource : Bool) (previous : String) : Executed := do
  ensure supportedSource (genericErr "unsupported migration source")
  ensure st.routes.isEmpty (genericErr "legacy routes require a fresh proxy deployment and re-registration")
  .ok ({ st with pendingAdmin := none }, ⟨[], [("action", "migrate_swap_proxy"), ("from_version", previous)]⟩)

def tokenAddr (q : Querier) : AssetInfo → Result Addr
  | .token contractAddr => liftStd (q.addrValidate contractAddr)
  | .nativeToken _ => .error .invalidRoute

def assertAdmin (st : Storage) (sender : Addr) : Result Unit := ensure (sender = st.admin) .unauthorized

def executeRegisterVault (q : Querier) (env : Env) (st : Storage) (info : MessageInfo) (vault pair : String) :
    Executed := do
  assertAdmin st info.sender
  let vault ← liftStd (q.addrValidate vault)
  let pair ← liftStd (q.addrValidate pair)
  let pairInfo ← liftStd (q.pair pair)
  ensure (pairInfo.contractAddr == pair) .invalidRoute
  let token0 ← tokenAddr q (pairInfo.assetInfos 0)
  let token1 ← tokenAddr q (pairInfo.assetInfos 1)
  ensure (token0 != token1) .invalidRoute
  let config ← liftStd (q.vaultConfig vault)
  let factory ← liftStd (q.addrValidate config.factory)
  let registered ← liftStd (q.factoryPair factory pairInfo.assetInfos)
  ensure (config.pair == pair) .invalidRoute
  ensure (config.pairCodeId != 0) .invalidRoute
  let codeId ← liftStd (q.codeId pair)
  ensure (codeId == config.pairCodeId) .invalidRoute
  ensure (registered.contractAddr == pair) .invalidRoute
  ensure (config.proxy == some env.contract) .invalidRoute
  ensure (config.assetTokens = ![token0, token1]) .invalidRoute
  .ok ({ st with routes := st.routes.insert vault ⟨pair, config.pairCodeId, ![token0, token1]⟩ },
    ⟨[], [("action", "register_vault"), ("vault", vault), ("pair", pair)]⟩)

def executeRemoveVault (q : Querier) (st : Storage) (info : MessageInfo) (vault : String) : Executed := do
  assertAdmin st info.sender
  let vault ← liftStd (q.addrValidate vault)
  ensure (st.routes.contains vault) .unregisteredVault
  .ok ({ st with routes := st.routes.erase vault }, ⟨[], [("action", "remove_vault"), ("vault", vault)]⟩)

def executeReceive (q : Querier) (env : Env) (st : Storage) (info : MessageInfo) (receive : Cw20ReceiveMsg) :
    Executed := do
  ensure (!isZero receive.amount) .zeroAmount
  let vault ← liftStd (q.addrValidate receive.sender)
  let route ← orError st.routes[vault]? .unregisteredVault
  let codeId ← liftStd (q.codeId route.pair)
  ensure (codeId == route.pairCodeId) .invalidRoute
  ensure (route.assetTokens 0 = info.sender ∨ route.assetTokens 1 = info.sender) .unsupportedToken
  let hook ← orError receive.msg (.std (.parseErr "SwapProxyHookMsg"))
  ensure (hook.pair == route.pair) .invalidRoute
  ensure (env.blockTime ≤ hook.deadline) .expired
  ensure (hook.maxSpread ≤ maximumSpread) .excessiveSpread
  let pairHook : PairHook :=
    { beliefPrice := none, maxSpread := some hook.maxSpread, minReturn := some hook.minReturn,
      recipient := some vault, deadline := some hook.deadline, trader := none,
      hybrid := some (.poolOnly receive.amount) }
  .ok (st, ⟨[.plain ⟨info.sender, route.pair, receive.amount, pairHook⟩],
    [("action", "proxy_swap"), ("vault", vault), ("pair", route.pair), ("offer_token", info.sender),
      ("amount", toString receive.amount.val)]⟩)

def executeTransferAdmin (q : Querier) (st : Storage) (info : MessageInfo) (admin : String) : Executed := do
  assertAdmin st info.sender
  let pending ← liftStd (q.addrValidate admin)
  .ok ({ st with pendingAdmin := some pending },
    ⟨[], [("action", "propose_admin"), ("current_admin", st.admin), ("pending_admin", pending)]⟩)

def executeAcceptAdmin (st : Storage) (info : MessageInfo) : Executed := do
  ensure (st.pendingAdmin = some info.sender) .unauthorized
  .ok ({ st with admin := info.sender, pendingAdmin := none },
    ⟨[], [("action", "accept_admin"), ("previous_admin", st.admin), ("admin", info.sender)]⟩)

def executeCancelAdminTransfer (st : Storage) (info : MessageInfo) : Executed := do
  assertAdmin st info.sender
  .ok ({ st with pendingAdmin := none }, ⟨[], [("action", "cancel_admin_transfer")]⟩)

def execute (q : Querier) (env : Env) (st : Storage) (info : MessageInfo) : ExecuteMsg → Executed
  | .receive msg => executeReceive q env st info msg
  | .registerVault vault pair => executeRegisterVault q env st info vault pair
  | .removeVault vault => executeRemoveVault q st info vault
  | .transferAdmin admin => executeTransferAdmin q st info admin
  | .acceptAdmin => executeAcceptAdmin st info
  | .cancelAdminTransfer => executeCancelAdminTransfer st info

def VaultConfigRaw.route (config : VaultConfigRaw) : Route := ⟨config.pair, config.pairCodeId, config.assetTokens⟩

lemma execute_routes {q : Querier} {env : Env} {st st' : Storage} {info : MessageInfo} {msg : ExecuteMsg}
    {r : Response WasmMsg} (h : execute q env st info msg = .ok (st', r)) {v : Addr} {route : Route}
    (hroute : st'.routes[v]? = some route) :
    st.routes[v]? = some route ∨ ∃ config, q.vaultConfig v = .ok config ∧ route = config.route := by
  cases msg with
  | receive msg =>
    simp only [execute, executeReceive, bind_eq_ok, Except.ok.injEq, Prod.mk.injEq] at h
    obtain ⟨_, -, _, -, _, -, _, -, _, -, _, -, _, -, _, -, _, -, _, -, rfl, -⟩ := h
    exact .inl hroute
  | registerVault vault pair =>
    simp only [execute, executeRegisterVault, bind_eq_ok, liftStd_eq_ok, ensure_eq_ok, beq_iff_eq, decide_eq_true_eq,
      Except.ok.injEq, Prod.mk.injEq] at h
    obtain ⟨_, -, vault, -, pair, -, _, -, _, -, _, -, _, -, _, -, config, hconfig, _, -, _, -, _, hpair, _, -, _, -,
      _, -, _, -, _, -, _, htokens, rfl, -⟩ := h
    dsimp only at hroute
    rw [Std.ExtTreeMap.getElem?_insert] at hroute
    split at hroute
    · rename_i heq
      cases Option.some.inj hroute
      rw [Std.LawfulEqCmp.compare_eq_iff_eq] at heq
      subst heq
      exact .inr ⟨config, hconfig, by rw [VaultConfigRaw.route, hpair, htokens]⟩
    · exact .inl hroute
  | removeVault vault =>
    simp only [execute, executeRemoveVault, bind_eq_ok, Except.ok.injEq, Prod.mk.injEq] at h
    obtain ⟨_, -, vault, -, _, -, rfl, -⟩ := h
    dsimp only at hroute
    rw [Std.ExtTreeMap.getElem?_erase] at hroute
    split at hroute
    · cases hroute
    · exact .inl hroute
  | transferAdmin admin =>
    simp only [execute, executeTransferAdmin, bind_eq_ok, Except.ok.injEq, Prod.mk.injEq] at h
    obtain ⟨_, -, _, -, rfl, -⟩ := h
    exact .inl hroute
  | acceptAdmin =>
    simp only [execute, executeAcceptAdmin, bind_eq_ok, Except.ok.injEq, Prod.mk.injEq] at h
    obtain ⟨_, -, rfl, -⟩ := h
    exact .inl hroute
  | cancelAdminTransfer =>
    simp only [execute, executeCancelAdminTransfer, bind_eq_ok, Except.ok.injEq, Prod.mk.injEq] at h
    obtain ⟨_, -, rfl, -⟩ := h
    exact .inl hroute

lemma executeReceive_eq_ok {q : Querier} {env : Env} {st st' : Storage} {info : MessageInfo} {receive : Cw20ReceiveMsg}
    {messages : List (SubMsg WasmMsg)} :
    (∃ attributes, executeReceive q env st info receive = .ok (st', ⟨messages, attributes⟩)) ↔
      ∃ vault route hook, receive.amount.val ≠ 0 ∧ q.addrValidate receive.sender = .ok vault ∧
        st.routes[vault]? = some route ∧ q.codeId route.pair = .ok route.pairCodeId ∧
        (route.assetTokens 0 = info.sender ∨ route.assetTokens 1 = info.sender) ∧ receive.msg = some hook ∧
        hook.pair = route.pair ∧ env.blockTime ≤ hook.deadline ∧ hook.maxSpread ≤ maximumSpread ∧ st' = st ∧
        messages = [.plain ⟨info.sender, route.pair, receive.amount,
          { beliefPrice := none, maxSpread := some hook.maxSpread, minReturn := some hook.minReturn,
            recipient := some vault, deadline := some hook.deadline, trader := none,
            hybrid := some (.poolOnly receive.amount) }⟩] := by
  simp only [executeReceive, bind_eq_ok, liftStd_eq_ok, orError_eq_ok, ensure_eq_ok, beq_iff_eq, decide_eq_true_eq,
    exists_const, Except.ok.injEq, Prod.mk.injEq, Response.mk.injEq]
  constructor
  · rintro ⟨_, hamount, vault, hvault, route, hroute, codeId, hcode, rfl, htoken, hook, hhook, hpair, hdeadline,
      hspread, rfl, hmessages, -⟩
    refine ⟨vault, route, hook, ?_, hvault, hroute, hcode, htoken, hhook, hpair, hdeadline, hspread, rfl,
      hmessages.symm⟩
    simpa [isZero] using hamount
  · rintro ⟨vault, route, hook, hamount, hvault, hroute, hcode, htoken, hhook, hpair, hdeadline, hspread, rfl,
      hmessages⟩
    exact ⟨_, by simpa [isZero] using hamount, vault, hvault, route, hroute, _, hcode, rfl, htoken, hook, hhook, hpair,
      hdeadline, hspread, rfl, hmessages.symm, rfl⟩

end Cl8yDexBots.SwapProxy.Contract
