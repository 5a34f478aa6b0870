import Cl8yDexBots.LimitGrid.Vault

/-! The grid manager: it creates a limit-grid vault for whoever asks, and keeps a register of them. -/

namespace Cl8yDexBots.LimitGrid.Manager

open Std Foundation.Checked Foundation.Words Foundation.SubMessages CosmWasm.Std

inductive ContractError where
  | std (error : StdError)
  | parseReply
  | unauthorized
  | unexpectedFunds
  | invalidConfig
  | invalidFeeConfig
  | unknownReply
  deriving DecidableEq

instance : StdFailure ContractError := ⟨.std⟩

structure Config where
  admin : Addr
  pendingAdmin : Option Addr
  keeper : Addr
  dexFactory : Addr
  vaultCodeId : ℕ
  gasDenom : String
  keeperReward : Uint128
  minimumGasReserve : Uint128
  orderTimeoutSeconds : ℕ
  maxGridCount : ℕ
  maxOrdersPerReconcile : ℕ
  maxActiveOrdersPerVault : ℕ
  feeRegistry : Option Addr
  feeCollector : Option Addr
  deriving DecidableEq

structure PendingVault where
  vaultId : ℕ
  owner : Addr
  deriving DecidableEq

structure Vault where
  owner : Addr
  address : Addr
  deriving DecidableEq

structure Storage where
  config : Config
  nextVaultId : ℕ
  pendingVaults : ExtTreeMap ℕ PendingVault
  vaults : ExtTreeMap ℕ Vault
  ownerVaults : ExtTreeMap Addr (ExtTreeMap ℕ Addr)

def Storage.ownedBy (st : Storage) (owner : Addr) : ExtTreeMap ℕ Addr := st.ownerVaults[owner]?.getD ∅

structure InstantiateMsg where
  admin : String
  keeper : String
  dexFactory : String
  vaultCodeId : ℕ
  gasDenom : String
  keeperReward : Uint128
  minimumGasReserve : Uint128
  orderTimeoutSeconds : ℕ
  maxGridCount : ℕ
  maxOrdersPerReconcile : ℕ
  maxActiveOrdersPerVault : ℕ
  feeRegistry : Option String
  feeCollector : Option String

inductive ExecuteMsg where
  | createVault (label : Option String)
  | updateConfig (keeper : Option String) (vaultCodeId : Option ℕ) (feeRegistry feeCollector : Option String)
  | transferAdmin (admin : String)
  | acceptAdmin

structure VaultInstantiateMsg where
  admin : String
  owner : String
  keeper : String
  factory : String
  gasDenom : String
  keeperReward : Uint128
  minimumGasReserve : Uint128
  orderTimeoutSeconds : ℕ
  maxGridCount : ℕ
  maxOrdersPerReconcile : ℕ
  maxActiveOrdersPerBot : ℕ
  feeRegistry : Option String
  feeCollector : Option String
  deriving DecidableEq

structure WasmInstantiate where
  admin : Option String
  codeId : ℕ
  msg : VaultInstantiateMsg
  funds : List Coin
  label : String
  deriving DecidableEq

structure VaultResponse where
  vaultId : ℕ
  owner : String
  address : String
  deriving DecidableEq

abbrev Result := Except ContractError

abbrev Executed := Result (Storage × Response WasmInstantiate)

variable (addrValidate : String → Except StdError Addr)

def optionalAddr : Option String → Result (Option Addr)
  | some address => do
    let validated ← liftStd (addrValidate address)
    .ok (some validated)
  | none => .ok none

def assertNoFunds (info : MessageInfo) : Result Unit := ensure info.funds.isEmpty .unexpectedFunds

/-- The check that only the `mainnet` feature compiles in. -/
def assertFeesConfigured (mainnet : Bool) (feeRegistry : Option String) : Result Unit :=
  match mainnet with
  | true => ensure feeRegistry.isSome .invalidFeeConfig
  | false => .ok ()

/-- In a build with or without the `mainnet` feature. -/
def instantiateIn (mainnet : Bool) (info : MessageInfo) (msg : InstantiateMsg) : Executed := do
  assertNoFunds info
  ensure (¬ (msg.vaultCodeId = 0 ∨ msg.gasDenom.toList.all Vault.isWhitespace ∨ isZero msg.keeperReward ∨
    msg.orderTimeoutSeconds = 0 ∨
    ¬ Vault.validVaultLimits msg.maxGridCount msg.maxOrdersPerReconcile msg.maxActiveOrdersPerVault)) .invalidConfig
  ensure (msg.feeRegistry.isSome = msg.feeCollector.isSome) .invalidFeeConfig
  assertFeesConfigured mainnet msg.feeRegistry
  let feeRegistry ← optionalAddr addrValidate msg.feeRegistry
  let feeCollector ← optionalAddr addrValidate msg.feeCollector
  let admin ← liftStd (addrValidate msg.admin)
  let keeper ← liftStd (addrValidate msg.keeper)
  let dexFactory ← liftStd (addrValidate msg.dexFactory)
  let config : Config :=
    { admin, pendingAdmin := none, keeper, dexFactory, vaultCodeId := msg.vaultCodeId, gasDenom := msg.gasDenom,
      keeperReward := msg.keeperReward, minimumGasReserve := msg.minimumGasReserve,
      orderTimeoutSeconds := msg.orderTimeoutSeconds, maxGridCount := msg.maxGridCount,
      maxOrdersPerReconcile := msg.maxOrdersPerReconcile,
      maxActiveOrdersPerVault := msg.maxActiveOrdersPerVault, feeRegistry, feeCollector }
  .ok ({ config, nextVaultId := 1, pendingVaults := ∅, vaults := ∅, ownerVaults := ∅ },
    ⟨[], [("action", "instantiate_grid_manager")]⟩)

def instantiate (info : MessageInfo) (msg : InstantiateMsg) : Executed := instantiateIn addrValidate false info msg

def vaultInstantiate (config : Config) (owner : Addr) : VaultInstantiateMsg :=
  { admin := config.admin, owner, keeper := config.keeper, factory := config.dexFactory,
    gasDenom := config.gasDenom, keeperReward := config.keeperReward,
    minimumGasReserve := config.minimumGasReserve, orderTimeoutSeconds := config.orderTimeoutSeconds,
    maxGridCount := config.maxGridCount, maxOrdersPerReconcile := config.maxOrdersPerReconcile,
    maxActiveOrdersPerBot := config.maxActiveOrdersPerVault, feeRegistry := config.feeRegistry,
    feeCollector := config.feeCollector }

def creationRequest (config : Config) (vaultId : ℕ) (owner : Addr) (label : Option String) :
    SubMsg WasmInstantiate :=
  .replyOnSuccess
    { admin := some owner, codeId := config.vaultCodeId, msg := vaultInstantiate config owner, funds := [],
      label := label.getD ("grid-vault-" ++ toString vaultId) } vaultId

def executeCreateVault (env : Env) (st : Storage) (info : MessageInfo) (label : Option String) : Executed := do
  ensure (st.nextVaultId + 1 < 2 ^ 64) .invalidConfig
  .ok ({ st with
      nextVaultId := st.nextVaultId + 1
      pendingVaults := st.pendingVaults.insert st.nextVaultId ⟨st.nextVaultId, info.sender⟩ },
    ⟨[creationRequest st.config st.nextVaultId info.sender label],
      [("action", "create_grid_vault"), ("vault_id", toString st.nextVaultId), ("owner", info.sender),
        ("manager", env.contract)]⟩)

def updatedKeeper (current : Addr) : Option String → Result Addr
  | some keeper => liftStd (addrValidate keeper)
  | none => .ok current

def updatedCodeId (current : ℕ) : Option ℕ → Result ℕ
  | some codeId => do
    ensure (codeId ≠ 0) .invalidConfig
    .ok codeId
  | none => .ok current

def updatedFees (config : Config) : Option String → Option String → Result (Option Addr × Option Addr)
  | some registry, some collector => do
    let registry ← liftStd (addrValidate registry)
    let collector ← liftStd (addrValidate collector)
    .ok (some registry, some collector)
  | _, _ => .ok (config.feeRegistry, config.feeCollector)

/-- Only the template for the vaults to come changes. -/
def executeUpdateConfig (st : Storage) (info : MessageInfo) (keeper : Option String) (vaultCodeId : Option ℕ)
    (feeRegistry feeCollector : Option String) : Executed := do
  ensure (feeRegistry.isSome = feeCollector.isSome) .invalidFeeConfig
  ensure (info.sender = st.config.admin) .unauthorized
  let keeper ← updatedKeeper addrValidate st.config.keeper keeper
  let vaultCodeId ← updatedCodeId st.config.vaultCodeId vaultCodeId
  let (feeRegistry, feeCollector) ← updatedFees addrValidate st.config feeRegistry feeCollector
  .ok ({ st with config := { st.config with keeper, vaultCodeId, feeRegistry, feeCollector } },
    ⟨[], [("action", "update_grid_manager")]⟩)

def executeTransferAdmin (st : Storage) (info : MessageInfo) (admin : String) : Executed := do
  let pending ← liftStd (addrValidate admin)
  ensure (info.sender = st.config.admin) .unauthorized
  .ok ({ st with config := { st.config with pendingAdmin := some pending } },
    ⟨[], [("action", "transfer_grid_manager_admin"), ("pending_admin", pending)]⟩)

def executeAcceptAdmin (st : Storage) (info : MessageInfo) : Executed := do
  ensure (st.config.pendingAdmin = some info.sender) .unauthorized
  .ok ({ st with config := { st.config with admin := info.sender, pendingAdmin := none } },
    ⟨[], [("action", "accept_grid_manager_admin")]⟩)

def execute (env : Env) (st : Storage) (info : MessageInfo) (msg : ExecuteMsg) : Executed := do
  assertNoFunds info
  match msg with
  | .createVault label => executeCreateVault env st info label
  | .updateConfig keeper vaultCodeId feeRegistry feeCollector =>
    executeUpdateConfig addrValidate st info keeper vaultCodeId feeRegistry feeCollector
  | .transferAdmin admin => executeTransferAdmin addrValidate st info admin
  | .acceptAdmin => executeAcceptAdmin st info

/-- `data` is the contract's address in the answer, `none` where that does not decode. -/
def reply (st : Storage) (id : ℕ) (data : Option String) : Executed := do
  let pending ← orError st.pendingVaults[id]? .unknownReply
  let contractAddress ← orError data .parseReply
  let address ← liftStd (addrValidate contractAddress)
  .ok ({ st with
      vaults := st.vaults.insert pending.vaultId ⟨pending.owner, address⟩
      ownerVaults := st.ownerVaults.insert pending.owner
        ((st.ownedBy pending.owner).insert pending.vaultId address)
      pendingVaults := st.pendingVaults.erase pending.vaultId },
    ⟨[], [("action", "register_grid_vault"), ("vault_id", toString pending.vaultId), ("vault", address)]⟩)

def vaultResponse (vaultId : ℕ) (vault : Vault) : VaultResponse := ⟨vaultId, vault.owner, vault.address⟩

def queryVault (st : Storage) (vaultId : ℕ) : Option VaultResponse :=
  st.vaults[vaultId]?.map (vaultResponse vaultId)

def queryVaultsByOwner (st : Storage) (owner : String) : Except StdError (List VaultResponse) := do
  let owner ← addrValidate owner
  .ok ((st.ownedBy owner).toList.map fun entry => ⟨entry.1, owner, entry.2⟩)

/-- The message as the vault's code reads it. -/
def VaultInstantiateMsg.decoded (msg : VaultInstantiateMsg) : State.InstantiateMsg :=
  { admin := msg.admin, owner := msg.owner, keeper := msg.keeper, factory := msg.factory,
    gasDenom := msg.gasDenom, keeperReward := msg.keeperReward, minimumGasReserve := msg.minimumGasReserve,
    orderTimeoutSeconds := msg.orderTimeoutSeconds, maxGridCount := msg.maxGridCount,
    maxOrdersPerReconcile := msg.maxOrdersPerReconcile, maxActiveOrdersPerBot := msg.maxActiveOrdersPerBot,
    feeRegistry := msg.feeRegistry, feeCollector := msg.feeCollector }

/-! What the entry points do. -/

/-- A template that the vault's own checks accept, with addresses that validate. -/
structure Template (config : Config) : Prop where
  admin : addrValidate config.admin = .ok config.admin
  pendingAdmin : ∀ a, config.pendingAdmin = some a → addrValidate a = .ok a
  keeper : addrValidate config.keeper = .ok config.keeper
  dexFactory : addrValidate config.dexFactory = .ok config.dexFactory
  codeId : config.vaultCodeId ≠ 0
  gasDenom : config.gasDenom.toList.all Vault.isWhitespace = false
  keeperReward : isZero config.keeperReward = false
  orderTimeout : config.orderTimeoutSeconds ≠ 0
  limits : Vault.validVaultLimits config.maxGridCount config.maxOrdersPerReconcile config.maxActiveOrdersPerVault = true
  fees : config.feeRegistry.isSome = config.feeCollector.isSome
  feeRegistry : ∀ a, config.feeRegistry = some a → addrValidate a = .ok a
  feeCollector : ∀ a, config.feeCollector = some a → addrValidate a = .ok a

/-- The fields that no message changes. -/
def terms (config : Config) : Addr × String × Uint128 × Uint128 × ℕ × ℕ × ℕ × ℕ :=
  (config.dexFactory, config.gasDenom, config.keeperReward, config.minimumGasReserve, config.orderTimeoutSeconds,
    config.maxGridCount, config.maxOrdersPerReconcile, config.maxActiveOrdersPerVault)

def VaultInstantiateMsg.terms (msg : VaultInstantiateMsg) : Addr × String × Uint128 × Uint128 × ℕ × ℕ × ℕ × ℕ :=
  (msg.factory, msg.gasDenom, msg.keeperReward, msg.minimumGasReserve, msg.orderTimeoutSeconds, msg.maxGridCount,
    msg.maxOrdersPerReconcile, msg.maxActiveOrdersPerBot)

/-- How a message of `sender` may change the configuration. -/
inductive Revised (config : Config) (sender : Addr) : Config → Prop
  | updated {keeper codeId registry collector} (admin : sender = config.admin)
      (keeper_cases : keeper = config.keeper ∨ ∃ s, addrValidate s = .ok keeper)
      (codeId_cases : codeId = config.vaultCodeId ∨ codeId ≠ 0)
      (fees_cases : registry = config.feeRegistry ∧ collector = config.feeCollector ∨
        ∃ s t a b, addrValidate s = .ok a ∧ addrValidate t = .ok b ∧ registry = some a ∧ collector = some b) :
      Revised config sender
        { config with keeper := keeper, vaultCodeId := codeId, feeRegistry := registry, feeCollector := collector }
  | nominated {s pending} (admin : sender = config.admin) (known : addrValidate s = .ok pending) :
      Revised config sender { config with pendingAdmin := some pending }
  | accepted (nominee : config.pendingAdmin = some sender) :
      Revised config sender { config with admin := sender, pendingAdmin := none }

variable {addrValidate} {env : Env} {st st' : Storage} {info : MessageInfo} {msg : ExecuteMsg}
  {r : Response WasmInstantiate}

lemma updatedKeeper_cases {current keeper : Addr} {update : Option String}
    (h : updatedKeeper addrValidate current update = .ok keeper) :
    keeper = current ∨ ∃ s, addrValidate s = .ok keeper := by
  cases update with
  | none =>
    cases h
    exact .inl rfl
  | some s => exact .inr ⟨s, by simpa [updatedKeeper] using h⟩

lemma updatedCodeId_cases {current codeId : ℕ} {update : Option ℕ}
    (h : updatedCodeId current update = .ok codeId) : codeId = current ∨ codeId ≠ 0 := by
  cases update with
  | none =>
    cases h
    exact .inl rfl
  | some n =>
    simp only [updatedCodeId, bind_eq_ok, ensure_eq_ok, decide_eq_true_eq, Except.ok.injEq] at h
    obtain ⟨-, hn, rfl⟩ := h
    exact .inr hn

lemma updatedFees_cases {config : Config} {registry collector : Option Addr} {r c : Option String}
    (h : updatedFees addrValidate config r c = .ok (registry, collector)) :
    registry = config.feeRegistry ∧ collector = config.feeCollector ∨
      ∃ s t a b, addrValidate s = .ok a ∧ addrValidate t = .ok b ∧ registry = some a ∧ collector = some b := by
  cases r with
  | none =>
    cases h
    exact .inl ⟨rfl, rfl⟩
  | some s =>
    cases c with
    | none =>
      cases h
      exact .inl ⟨rfl, rfl⟩
    | some t =>
      simp only [updatedFees, bind_eq_ok, liftStd_eq_ok, Except.ok.injEq, Prod.mk.injEq] at h
      obtain ⟨a, ha, b, hb, rfl, rfl⟩ := h
      exact .inr ⟨s, t, a, b, ha, hb, rfl, rfl⟩

/-- A message either asks for a new vault, or revises the configuration and sends nothing. -/
theorem execute_cases (h : execute addrValidate env st info msg = .ok (st', r)) :
    (∃ label, msg = .createVault label ∧ st.nextVaultId + 1 < 2 ^ 64 ∧
      st' = { st with
        nextVaultId := st.nextVaultId + 1
        pendingVaults := st.pendingVaults.insert st.nextVaultId ⟨st.nextVaultId, info.sender⟩ } ∧
      r.messages = [creationRequest st.config st.nextVaultId info.sender label]) ∨
    (∃ config, Revised addrValidate st.config info.sender config ∧ st' = { st with config } ∧ r.messages = []) := by
  simp only [execute, bind_eq_ok] at h
  obtain ⟨-, -, h⟩ := h
  cases msg with
  | createVault label =>
    simp only [executeCreateVault, bind_eq_ok, ensure_eq_ok, decide_eq_true_eq, Except.ok.injEq, Prod.mk.injEq] at h
    obtain ⟨-, hnext, rfl, rfl⟩ := h
    exact .inl ⟨label, rfl, hnext, rfl, rfl⟩
  | updateConfig keeper codeId registry collector =>
    simp only [executeUpdateConfig, bind_eq_ok, ensure_eq_ok, decide_eq_true_eq, Except.ok.injEq, Prod.exists,
      Prod.mk.injEq] at h
    obtain ⟨-, -, -, hadmin, _, hkeeper, _, hcode, _, _, hfees, rfl, rfl⟩ := h
    exact .inr ⟨_, .updated hadmin (updatedKeeper_cases hkeeper) (updatedCodeId_cases hcode) (updatedFees_cases hfees),
      rfl, rfl⟩
  | transferAdmin admin =>
    simp only [executeTransferAdmin, bind_eq_ok, ensure_eq_ok, decide_eq_true_eq, liftStd_eq_ok, Except.ok.injEq,
      Prod.mk.injEq] at h
    obtain ⟨pending, hpending, -, hadmin, rfl, rfl⟩ := h
    exact .inr ⟨_, .nominated hadmin hpending, rfl, rfl⟩
  | acceptAdmin =>
    simp only [executeAcceptAdmin, bind_eq_ok, ensure_eq_ok, decide_eq_true_eq, Except.ok.injEq, Prod.mk.injEq] at h
    obtain ⟨-, hnominee, rfl, rfl⟩ := h
    exact .inr ⟨_, .accepted hnominee, rfl, rfl⟩

lemma validated (addr : ∀ s a, addrValidate s = .ok a → a = s) {s : String} {a : Addr}
    (h : addrValidate s = .ok a) : addrValidate a = .ok a := by
  obtain rfl := addr s a h
  exact h

lemma Revised.terms {config config' : Config} {sender : Addr} (h : Revised addrValidate config sender config') :
    terms config' = terms config := by
  cases h <;> rfl

lemma Revised.template (addr : ∀ s a, addrValidate s = .ok a → a = s) {config config' : Config} {sender : Addr}
    (h : Revised addrValidate config sender config') (t : Template addrValidate config) :
    Template addrValidate config' := by
  cases h with
  | @updated keeper codeId registry collector hadmin hkeeper hcode hfees =>
    have hkeeper' : addrValidate keeper = .ok keeper := by
      rcases hkeeper with rfl | ⟨s, hs⟩
      · exact t.keeper
      · exact validated addr hs
    have hcode' : codeId ≠ 0 := by
      rcases hcode with rfl | hcode
      · exact t.codeId
      · exact hcode
    rcases hfees with ⟨rfl, rfl⟩ | ⟨s, u, a, b, ha, hb, rfl, rfl⟩
    · exact { t with keeper := hkeeper', codeId := hcode' }
    · exact { t with
        keeper := hkeeper'
        codeId := hcode'
        fees := rfl
        feeRegistry := by
          rintro _ ⟨⟩
          exact validated addr ha
        feeCollector := by
          rintro _ ⟨⟩
          exact validated addr hb }
  | nominated hadmin hpending =>
    exact { t with
      pendingAdmin := by
        rintro _ ⟨⟩
        exact validated addr hpending }
  | accepted hnominee =>
    exact { t with
      admin := t.pendingAdmin _ hnominee
      pendingAdmin := fun _ h => absurd h (by simp) }

lemma optionalAddr_cases {update : Option String} {a : Option Addr}
    (h : optionalAddr addrValidate update = .ok a) :
    a.isSome = update.isSome ∧ ∀ b, a = some b → ∃ s, addrValidate s = .ok b := by
  cases update with
  | none =>
    cases h
    exact ⟨rfl, fun b hb => absurd hb (by simp)⟩
  | some s =>
    simp only [optionalAddr, bind_eq_ok, liftStd_eq_ok, Except.ok.injEq] at h
    obtain ⟨b, hb, rfl⟩ := h
    refine ⟨rfl, ?_⟩
    rintro _ ⟨⟩
    exact ⟨s, hb⟩

lemma instantiate_of_mainnet {mainnet : Bool} {msg : InstantiateMsg}
    (h : instantiateIn addrValidate mainnet info msg = .ok (st, r)) :
    instantiate addrValidate info msg = .ok (st, r) := by
  cases mainnet with
  | false => exact h
  | true =>
    simp only [instantiate, instantiateIn, assertFeesConfigured, ok_bind, bind_eq_ok] at h ⊢
    obtain ⟨_, hfunds, _, hterms, _, hfees, _, -, hrest⟩ := h
    exact ⟨_, hfunds, _, hterms, _, hfees, hrest⟩

lemma instantiate_template (addr : ∀ s a, addrValidate s = .ok a → a = s) {msg : InstantiateMsg}
    (h : instantiate addrValidate info msg = .ok (st, r)) : Template addrValidate st.config := by
  simp only [instantiate, instantiateIn, assertFeesConfigured, ok_bind, bind_eq_ok, ensure_eq_ok, decide_eq_true_eq,
    not_or, Bool.not_eq_true, Bool.not_eq_false, liftStd_eq_ok, Except.ok.injEq, Prod.mk.injEq] at h
  obtain ⟨-, -, -, ⟨hcode, hdenom, hreward, htimeout, hlimits⟩, -, hpair, registry, hregistry, collector, hcollector,
    admin, hadmin, keeper, hkeeper, factory, hfactory, rfl, -⟩ := h
  obtain ⟨hsome, hvalid⟩ := optionalAddr_cases hregistry
  obtain ⟨hsome', hvalid'⟩ := optionalAddr_cases hcollector
  refine ⟨validated addr hadmin, fun a ha => absurd ha (by simp), validated addr hkeeper, validated addr hfactory,
    hcode, hdenom, hreward, htimeout, hlimits, ?_, ?_, ?_⟩
  · rw [hsome, hsome', hpair]
  · intro a ha
    obtain ⟨s, hs⟩ := hvalid a ha
    exact validated addr hs
  · intro a ha
    obtain ⟨s, hs⟩ := hvalid' a ha
    exact validated addr hs

lemma reply_eq_ok {id : ℕ} {data : Option String} : reply addrValidate st id data = .ok (st', r) ↔
    ∃ pending s address, st.pendingVaults[id]? = some pending ∧ data = some s ∧ addrValidate s = .ok address ∧
      st' = { st with
        vaults := st.vaults.insert pending.vaultId ⟨pending.owner, address⟩
        ownerVaults := st.ownerVaults.insert pending.owner
          ((st.ownedBy pending.owner).insert pending.vaultId address)
        pendingVaults := st.pendingVaults.erase pending.vaultId } ∧
      r = ⟨[], [("action", "register_grid_vault"), ("vault_id", toString pending.vaultId), ("vault", address)]⟩ := by
  simp only [reply, bind_eq_ok, orError_eq_ok, liftStd_eq_ok, Except.ok.injEq, Prod.mk.injEq]
  constructor
  · rintro ⟨pending, hpending, s, hs, address, haddress, rfl, rfl⟩
    exact ⟨pending, s, address, hpending, hs, haddress, rfl, rfl⟩
  · rintro ⟨pending, s, address, hpending, hs, haddress, rfl, rfl⟩
    exact ⟨pending, hpending, s, hs, address, haddress, rfl, rfl⟩

end Cl8yDexBots.LimitGrid.Manager
