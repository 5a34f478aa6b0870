import Cl8yDexBots.LimitGrid.Orders

/-! The entry points of the limit-grid vault. -/

namespace Cl8yDexBots.LimitGrid.Vault

open Std Foundation.Checked Foundation.Words Foundation.SubMessages CosmWasm.Std CosmWasm.Pair
open State Pricing Orders

def isWhitespace (c : Char) : Bool :=
  let n := c.toNat
  (9 ≤ n ∧ n ≤ 13) ∨ n ∈ [32, 0x85, 0xA0, 0x1680, 0x2028, 0x2029, 0x202F, 0x205F, 0x3000] ∨
    (0x2000 ≤ n ∧ n ≤ 0x200A)

def validVaultLimits (maxGridCount maxOrdersPerReconcile maxActiveOrders : ℕ) : Bool :=
  (2 ≤ maxGridCount ∧ maxGridCount ≤ 100) ∧
    (1 ≤ maxOrdersPerReconcile ∧ maxOrdersPerReconcile ≤ 100) ∧
    (maxGridCount ≤ maxActiveOrders ∧ maxActiveOrders ≤ 500)

def assertNoFunds (info : MessageInfo) : Result Unit :=
  ensure info.funds.isEmpty .unexpectedFunds

def paidAmount (info : MessageInfo) (denom : String) : Result Uint128 := do
  ensure (info.funds.all fun coin => coin.denom = denom) .unexpectedFunds
  .ok (((info.funds.find? fun coin => coin.denom = denom).map Coin.amount).getD 0)

def assertAdmin (st : Storage) (sender : Addr) : Result Unit :=
  ensure (st.config.admin = sender) .unauthorized

def requireMode (st : Storage) (mode : VaultMode) : Result Unit :=
  ensure (st.vaultMode = mode) .invalidMode

def requireActive (st : Storage) : Result Unit := requireMode st .active

def assertOwner (bot : Bot) (info : MessageInfo) : Result Unit :=
  ensure (info.sender = bot.owner) .unauthorized

def assertPairCode (q : Querier) (bot : Bot) : Result Unit := do
  let current ← liftStd (q.codeId bot.pair)
  ensure (current = bot.pairCodeId) .pairCodeMismatch

def requireTokenAvailable (st : Storage) (token : Addr) : Result Unit := do
  ensure (!st.quarantine.contains token) .tokenQuarantined
  ensure (!(st.tokenPolicyEnabled && !st.allowedTokens.contains token)) .tokenNotAllowed

def tokenAddress (q : Querier) : AssetInfo → Result Addr
  | .token contractAddr => liftStd (q.addrValidate contractAddr)
  | .nativeToken _ => .error .unsupportedAsset

def optionalAddr (q : Querier) : Option String → Result (Option Addr)
  | some address => do
    let validated ← liftStd (q.addrValidate address)
    .ok (some validated)
  | none => .ok none

def requiredGas (config : Config) : Result Uint128 :=
  checkedAdd config.minimumGasReserve config.keeperReward

def expiresAt (env : Env) (config : Config) : Result ℕ := do
  ensure (env.blockTime + config.orderTimeoutSeconds < 2 ^ 64) .invalidGrid
  .ok (env.blockTime + config.orderTimeoutSeconds)

/-- The addresses that a build with the `mainnet` feature takes from its environment, where neither may be empty. -/
structure Pins where
  feeRegistry : Addr
  feeCollector : Addr
  populated : feeRegistry ≠ "" ∧ feeCollector ≠ ""

def assertFeeRegistryCanonicalMainnet (pins : Pins) (registry : Option Addr) : Result Unit :=
  ensure (registry = some pins.feeRegistry) (.nonCanonicalAddress "fee_registry" pins.feeRegistry)

def assertFeeCollectorCanonicalMainnet (pins : Pins) (collector : Option Addr) : Result Unit :=
  ensure (collector = some pins.feeCollector) (.nonCanonicalAddress "fee_collector" pins.feeCollector)

/-- The checks that only the `mainnet` feature compiles in. -/
def assertCanonical : Option Pins → Option Addr → Option Addr → Result Unit
  | none, _, _ => .ok ()
  | some pins, feeRegistry, feeCollector => do
    ensure feeRegistry.isSome .invalidFeeConfig
    assertFeeRegistryCanonicalMainnet pins feeRegistry
    assertFeeCollectorCanonicalMainnet pins feeCollector

def emptyVault (config : Config) : Storage :=
  { config, vaultMode := .active, nextReplyId := 1, bot := none, rungs := ∅, orders := ∅, cancelledOrders := ∅,
    shares := ∅, placements := ∅, pendingPages := ∅, allowedTokens := ∅, tokenPolicyEnabled := false,
    quarantine := ∅, effectiveFeeCache := ∅ }

/-- In a build that has the `mainnet` feature with these pins, or none. -/
def instantiateIn (mainnet : Option Pins) (q : Querier) (info : MessageInfo) (msg : InstantiateMsg) : Executed := do
  assertNoFunds info
  ensure (¬ (msg.gasDenom.toList.all isWhitespace ∨
    ¬ validVaultLimits msg.maxGridCount msg.maxOrdersPerReconcile msg.maxActiveOrdersPerBot ∨
    isZero msg.keeperReward ∨ msg.orderTimeoutSeconds = 0)) .invalidGrid
  let feeRegistry ← optionalAddr q msg.feeRegistry
  let feeCollector ← optionalAddr q msg.feeCollector
  ensure (feeRegistry.isSome = feeCollector.isSome) .invalidFeeConfig
  assertCanonical mainnet feeRegistry feeCollector
  let admin ← liftStd (q.addrValidate msg.admin)
  let owner ← liftStd (q.addrValidate msg.owner)
  let keeper ← liftStd (q.addrValidate msg.keeper)
  let factory ← liftStd (q.addrValidate msg.factory)
  let config : Config :=
    { admin, owner, pendingAdmin := none, keeper, factory, gasDenom := msg.gasDenom,
      keeperReward := msg.keeperReward, minimumGasReserve := msg.minimumGasReserve,
      orderTimeoutSeconds := msg.orderTimeoutSeconds, maxGridCount := msg.maxGridCount,
      maxOrdersPerReconcile := msg.maxOrdersPerReconcile,
      maxActiveOrdersPerBot := msg.maxActiveOrdersPerBot, feeRegistry, feeCollector }
  .ok (emptyVault config, ⟨[], [("action", "instantiate")]⟩)

def instantiate (q : Querier) (info : MessageInfo) (msg : InstantiateMsg) : Executed := instantiateIn none q info msg

def Pinned (mainnet : Option Pins) (feeRegistry feeCollector : Option Addr) : Prop :=
  ∀ pins ∈ mainnet, feeRegistry = some pins.feeRegistry ∧ feeCollector = some pins.feeCollector

lemma assertCanonical_eq_ok {mainnet : Option Pins} {feeRegistry feeCollector : Option Addr} {u : Unit} :
    assertCanonical mainnet feeRegistry feeCollector = .ok u ↔ Pinned mainnet feeRegistry feeCollector := by
  cases mainnet with
  | none => simp [assertCanonical, Pinned]
  | some pins =>
    simp only [assertCanonical, assertFeeRegistryCanonicalMainnet, assertFeeCollectorCanonicalMainnet, bind_eq_ok,
      ensure_eq_ok, exists_const, decide_eq_true_eq, Pinned, Option.mem_some_iff, forall_eq']
    constructor
    · rintro ⟨-, hregistry, hcollector⟩
      exact ⟨hregistry, hcollector⟩
    · rintro ⟨rfl, rfl⟩
      exact ⟨rfl, rfl, rfl⟩

/-- The pins only refuse some configurations. -/
theorem instantiateIn_eq_ok {mainnet : Option Pins} {q : Querier} {info : MessageInfo} {msg : InstantiateMsg}
    {st : Storage} {r : Response CosmosMsg} : instantiateIn mainnet q info msg = .ok (st, r) ↔
      instantiate q info msg = .ok (st, r) ∧ Pinned mainnet st.config.feeRegistry st.config.feeCollector := by
  have hnone : ∀ registry collector, assertCanonical none registry collector = .ok () := fun _ _ => rfl
  simp only [instantiate, instantiateIn, hnone, ok_bind, bind_eq_ok, Except.ok.injEq, Prod.mk.injEq]
  constructor
  · rintro ⟨_, hfunds, _, hterms, registry, hregistry, collector, hcollector, _, hfees, _, hpinned, admin, hadmin,
      owner, howner, keeper, hkeeper, factory, hfactory, rfl, rfl⟩
    exact ⟨⟨_, hfunds, _, hterms, registry, hregistry, collector, hcollector, _, hfees, admin, hadmin, owner, howner,
      keeper, hkeeper, factory, hfactory, rfl, rfl⟩, assertCanonical_eq_ok.mp hpinned⟩
  · rintro ⟨⟨_, hfunds, _, hterms, registry, hregistry, collector, hcollector, _, hfees, admin, hadmin, owner, howner,
      keeper, hkeeper, factory, hfactory, rfl, rfl⟩, hpinned⟩
    exact ⟨_, hfunds, _, hterms, registry, hregistry, collector, hcollector, _, hfees, (),
      assertCanonical_eq_ok.mpr hpinned, admin, hadmin, owner, howner, keeper, hkeeper, factory, hfactory, rfl, rfl⟩

lemma instantiate_spec {q : Querier} {info : MessageInfo} {msg : InstantiateMsg} {st : Storage}
    {r : Response CosmosMsg} (h : instantiate q info msg = .ok (st, r)) :
    ∃ config, st = emptyVault config ∧ r.messages = [] ∧ config.keeperReward.val ≠ 0 ∧
      validVaultLimits config.maxGridCount config.maxOrdersPerReconcile config.maxActiveOrdersPerBot = true := by
  simp only [instantiate, instantiateIn, assertCanonical, ok_bind, bind_eq_ok, ensure_eq_ok, exists_const,
    decide_eq_true_eq, not_or, not_not, Except.ok.injEq, Prod.mk.injEq] at h
  obtain ⟨_, -, ⟨-, hlimits, hreward, -⟩, registry, -, collector, -, -, admin, -, owner, -, keeper, -, factory, -, rfl,
    rfl⟩ := h
  exact ⟨_, rfl, rfl, fun hzero => hreward (isZero_iff.mpr hzero), hlimits⟩

/-- The pair's code id and tokens, as the pair and the factory state them. -/
def registeredPair (q : Querier) (config : Config) (pair : Addr) :
    Result (PairInfo × ℕ × (Fin 2 → Addr)) := do
  let pairInfo ← liftStd (q.pair pair)
  let own ← liftStd (q.addrValidate pairInfo.contractAddr)
  ensure (own = pair) .invalidPair
  let codeId ← liftStd (q.codeId pair)
  ensure (codeId ≠ 0) .invalidPair
  let registered ← liftStd (q.factoryPair config.factory pairInfo.assetInfos)
  let registeredAddr ← liftStd (q.addrValidate registered.contractAddr)
  ensure (registeredAddr = pair) .invalidPair
  let token0 ← tokenAddress q (pairInfo.assetInfos 0)
  let token1 ← tokenAddress q (pairInfo.assetInfos 1)
  ensure (token0 ≠ token1) .invalidPair
  .ok (pairInfo, codeId, ![token0, token1])

def adoptTokens (st : Storage) (tokens : Fin 2 → Addr) : Storage :=
  if st.tokenPolicyEnabled then st
  else { st with
    allowedTokens := (st.allowedTokens.insert (tokens 0) ()).insert (tokens 1) ()
    tokenPolicyEnabled := true }

def adjacentDistinct : List Decimal → Bool
  | a :: b :: rest => a ≠ b && adjacentDistinct (b :: rest)
  | _ => true

def saveRungs (rungs : ExtTreeMap ℕ Rung) (prices : List Decimal)
    (sides : List (Option LimitOrderSide)) : ExtTreeMap ℕ Rung :=
  ((prices.zip sides).zipIdx).foldl (fun saved e => saved.insert e.2 ⟨e.1.1, e.1.2⟩) rungs

def executeCreateBot (q : Querier) (st : Storage) (info : MessageInfo) (pair : String)
    (lowerPrice upperPrice : Decimal) (gridCount : ℕ) : Executed := do
  requireActive st
  ensure st.bot.isNone .botAlreadyExists
  ensure (info.sender = st.config.owner) .unauthorized
  ensure (¬ (gridCount < 2 ∨ st.config.maxGridCount < gridCount ∨ upperPrice ≤ lowerPrice))
    .invalidGrid
  let pair ← liftStd (q.addrValidate pair)
  let (pairInfo, pairCodeId, assetTokens) ← registeredPair q st.config pair
  let st := adoptTokens st assetTokens
  requireTokenAvailable st (assetTokens 0)
  requireTokenAvailable st (assetTokens 1)
  let decimals0 ← liftStd (q.tokenDecimals (assetTokens 0))
  let decimals1 ← liftStd (q.tokenDecimals (assetTokens 1))
  ensure (decimals0 = decimals1) .invalidPair
  let maxBatchRungs ← liftStd (q.maxBatchRungs pair)
  ensure (gridCount ≤ maxBatchRungs) .invalidGrid
  let pool ← liftStd (q.pool pair)
  ensure ((pool.assets 0).info = pairInfo.assetInfos 0 ∧ (pool.assets 1).info = pairInfo.assetInfos 1)
    .invalidPair
  let referencePrice ← poolPrice pool
  ensure (lowerPrice < referencePrice ∧ referencePrice < upperPrice) .invalidGrid
  let prices ← gridPrices lowerPrice upperPrice gridCount
  ensure (prices.all (fun price => minimumPrice ≤ price ∧ price ≤ maximumPrice) &&
    adjacentDistinct prices) .invalidGrid
  let sides := prices.map (rungSide referencePrice)
  ensure (some .bid ∈ sides ∧ some .ask ∈ sides) .emptySide
  let gasCredit ← paidAmount info st.config.gasDenom
  let required ← requiredGas st.config
  ensure (required ≤ gasCredit) .insufficientGasCredit
  let bot : Bot :=
    { owner := info.sender, pair, pairCodeId, assetTokens, lowerPrice, upperPrice, gridCount,
      referencePrice, freeBalances := fun _ => 0, totalShares := 0, gasCredit, activeOrders := 0,
      pairBatchLimit := maxBatchRungs }
  .ok ({ st with bot := some bot, rungs := saveRungs st.rungs prices sides },
    ⟨[], [("action", "create_grid_bot"), ("bot_id", toString BOT_ID), ("owner", info.sender),
      ("gas_credit", toString gasCredit.val)]⟩)

def tokenPosition (bot : Bot) (token : Addr) : Option (Fin 2) :=
  if bot.assetTokens 0 = token then some 0
  else if bot.assetTokens 1 = token then some 1
  else none

def executeReceive (q : Querier) (env : Env) (st : Storage) (info : MessageInfo)
    (receive : Cw20ReceiveMsg) : Executed := do
  requireActive st
  ensure (!isZero receive.amount) .zeroAmount
  let .deposit botId ← orError receive.msg (.std (.parseErr "ReceiveMsg"))
  let depositor ← liftStd (q.addrValidate receive.sender)
  let bot ← loadBot st botId
  ensure (depositor = bot.owner) .unauthorized
  assertPairCode q bot
  let required ← requiredGas st.config
  ensure (required ≤ bot.gasCredit) .insufficientGasCredit
  let index ← orError (tokenPosition bot info.sender) .unsupportedToken
  ensure (!st.quarantine.contains info.sender) .tokenQuarantined
  let actual ← liftStd (q.balance info.sender env.contract)
  let expected ← checkedAdd (bot.freeBalances index) receive.amount
  ensure (actual = expected) .unsupportedTokenBehavior
  let minted ← depositShares receive.amount index bot.referencePrice
  ensure (!isZero minted) .zeroAmount
  let totalShares ← checkedAdd bot.totalShares minted
  let shares ← checkedAdd (sharesOf st depositor) minted
  let bot := { bot.setFree index expected with totalShares }
  let response : Response CosmosMsg :=
    ⟨[], [("action", "deposit_grid_bot"), ("bot_id", toString botId),
      ("amount", toString receive.amount.val), ("shares", toString minted.val)]⟩
  let expires ← expiresAt env st.config
  allocateSide { st with bot := some bot, shares := st.shares.insert depositor shares } response
    botId bot (if index = 0 then .ask else .bid) expires

def executeFundGas (st : Storage) (info : MessageInfo) (botId : ℕ) : Executed := do
  let amount ← paidAmount info st.config.gasDenom
  ensure (!isZero amount) .missingGasFunds
  let bot ← loadBot st botId
  let gasCredit ← checkedAdd bot.gasCredit amount
  .ok ({ st with bot := some { bot with gasCredit } },
    ⟨[], [("action", "fund_grid_gas"), ("bot_id", toString botId),
      ("amount", toString amount.val)]⟩)

def executeWithdrawGas (q : Querier) (st : Storage) (info : MessageInfo) (botId : ℕ)
    (amount : Uint128) (recipient : Option String) : Executed := do
  assertNoFunds info
  ensure (!isZero amount) .zeroAmount
  let recipient ← liftStd (q.addrValidate (recipient.getD info.sender))
  let bot ← loadBot st botId
  assertOwner bot info
  let remaining ← checkedSub bot.gasCredit amount
  let required ← requiredGas st.config
  ensure (¬ ((bot.activeOrders ≠ 0 ∨ ¬ isZero bot.totalShares) ∧ remaining < required))
    .insufficientGasCredit
  .ok ({ st with bot := some { bot with gasCredit := remaining } },
    ⟨[.plain (.bank recipient [⟨st.config.gasDenom, amount⟩])],
      [("action", "withdraw_grid_gas"), ("bot_id", toString botId),
        ("amount", toString amount.val)]⟩)

def executeAllocate (q : Querier) (env : Env) (st : Storage) (info : MessageInfo) (botId : ℕ) :
    Executed := do
  requireActive st
  assertNoFunds info
  let bot ← loadBot st botId
  assertOwner bot info
  assertPairCode q bot
  ensure (!st.quarantine.contains (bot.assetTokens 0)) .tokenQuarantined
  ensure (!st.quarantine.contains (bot.assetTokens 1)) .tokenQuarantined
  let expires ← expiresAt env st.config
  let response := ⟨[], [("action", "allocate_grid"), ("bot_id", toString botId)]⟩
  let (st, response) ← allocateSide st response botId bot .bid expires
  let (st, response) ← allocateSide st response botId bot .ask expires
  ensure (!response.messages.isEmpty) .nothingToAllocate
  .ok (st, response)

/-- What the live balance of a token exceeds the recorded one by, and the live balance. -/
def creditedBalance (q : Querier) (env : Env) (bot : Bot) (i : Fin 2) :
    Result (Uint128 × Uint128) := do
  let actual ← liftStd (q.balance (bot.assetTokens i) env.contract)
  ensure (bot.freeBalances i ≤ actual) .unsupportedTokenBehavior
  let credited ← checkedSub actual (bot.freeBalances i)
  .ok (credited, actual)

def syncFreeBalances (q : Querier) (env : Env) (bot : Bot) : Result ((Fin 2 → Uint128) × Bot) := do
  let (credited0, actual0) ← creditedBalance q env bot 0
  let (credited1, actual1) ← creditedBalance q env bot 1
  .ok (![credited0, credited1], { bot with freeBalances := ![actual0, actual1] })

def executeSyncBalances (q : Querier) (env : Env) (st : Storage) (info : MessageInfo) (botId : ℕ) :
    Executed := do
  assertNoFunds info
  let bot ← loadBot st botId
  assertOwner bot info
  let (credited, bot) ← syncFreeBalances q env bot
  .ok ({ st with bot := some bot },
    ⟨[], [("action", "sync_grid_balances"), ("bot_id", toString botId),
      ("credited_token_0", toString (credited 0).val),
      ("credited_token_1", toString (credited 1).val)]⟩)

def validateOrder (manager : Addr) (orderId : ℕ) (recorded : GridOrder)
    (onChain : LimitOrderResponse) : Result Unit := do
  ensure (onChain.owner = manager) .invalidOrderOwner
  ensure (onChain.orderId = orderId ∧ onChain.side = recorded.side ∧
    onChain.price = recorded.price ∧ onChain.remaining ≤ recorded.remaining) .invalidOrder

def parkedRefund (q : Querier) (env : Env) (pair : Addr) (orderId : ℕ) (order : GridOrder) :
    Result (Option Uint128) := do
  let parked ← withError .orderStatusUnverifiable (q.expiredLimitRefund pair orderId)
  match parked with
  | none => .ok none
  | some refund => do
    ensure (refund.owner = env.contract ∧ refund.orderId = orderId ∧ refund.side = order.side ∧
      refund.remaining ≤ order.remaining) .invalidOrder
    .ok (some refund.remaining)

inductive OrderStatus where
  | active (remaining : Uint128)
  | parked (refund : Uint128)
  | cancelled
  | executed
  deriving DecidableEq

namespace OrderStatus

def currentRemaining : OrderStatus → Uint128
  | active remaining => remaining
  | parked refund => refund
  | cancelled | executed => 0

def terminal : OrderStatus → Bool
  | active remaining => isZero remaining
  | parked _ | cancelled | executed => true

def parkedRefund : OrderStatus → Uint128
  | parked refund => refund
  | active _ | cancelled | executed => 0

end OrderStatus

def orderStatus (q : Querier) (env : Env) (st : Storage) (pair : Addr) (orderId : ℕ)
    (order : GridOrder) : Result OrderStatus :=
  match q.limitOrder pair orderId with
  | .ok onChain => do
    validateOrder env.contract orderId order onChain
    .ok (.active onChain.remaining)
  | .error _ => do
    let parked ← parkedRefund q env pair orderId order
    match parked with
    | some refund => .ok (.parked refund)
    -- only a confirmed cancel of the vault records the id; otherwise the order was executed
    | none => .ok (if st.cancelledOrders.contains orderId then .cancelled else .executed)

structure Sweep where
  orders : ExtTreeMap ℕ GridOrder
  activeOrders : ℕ
  seen : List ℕ
  claimEntries : List PendingPageEntry
  changedOrders : ℕ
  executedCount : ℕ
  cancelledCount : ℕ

def settleOrder (s : Sweep) (orderId : ℕ) (order : GridOrder) (status : OrderStatus) :
    Result Sweep :=
  if status.terminal then
    if ¬ isZero status.parkedRefund then
      .ok { s with claimEntries := s.claimEntries ++
        [⟨orderId, order.side.tokenIndex, status.parkedRefund⟩] }
    else do
      ensure (1 ≤ s.activeOrders) .invalidOrder
      .ok { s with orders := s.orders.erase orderId, activeOrders := s.activeOrders - 1 }
  else
    .ok { s with
      orders := s.orders.insert orderId { order with remaining := status.currentRemaining } }

def reconcileOrder (q : Querier) (env : Env) (st : Storage) (pair : Addr) (s : Sweep)
    (orderId : ℕ) : Result Sweep := do
  ensure (orderId ∉ s.seen) .invalidFillReport
  let order ← orError s.orders[orderId]? (.std (.notFound "order"))
  let status ← orderStatus q env st pair orderId order
  let consumed ← checkedSub order.remaining status.currentRemaining
  settleOrder
    { s with
      seen := orderId :: s.seen
      changedOrders := s.changedOrders + if ¬ isZero consumed ∨ status.terminal then 1 else 0
      executedCount := s.executedCount + if status = .executed then 1 else 0
      cancelledCount := s.cancelledCount + if status = .cancelled then 1 else 0 }
    orderId order status

structure FeeApplied where
  feeBps : ℕ
  shares : Uint128
  tier : Option ℕ
  source : String

/-- The registry's rate, else the last rate it gave, else the undiscounted one. -/
def resolveFee (q : Querier) (st : Storage) (registry owner : Addr) : Storage × ℕ × Option ℕ × String :=
  match q.effectiveFee registry owner with
  | .ok fee =>
    let feeBps := min fee.feeBps 10000
    ({ st with effectiveFeeCache := st.effectiveFeeCache.insert owner ⟨feeBps, fee.tierId⟩ }, feeBps,
      fee.tierId, fee.source)
  | .error _ =>
    match st.effectiveFeeCache[owner]? with
    | some fee => (st, fee.feeBps, fee.tierId, "vault_cached")
    | none => (st, undiscountedFeeBps, none, "lowest")

def mintFee (st : Storage) (bot : Bot) (collector : Addr) (feeShares : Uint128) :
    Result (Storage × Bot) := do
  let shares ← withError (.std (.arithmetic .overflow))
    (checkedAdd (sharesOf st collector) feeShares : Except StdError Uint128)
  let totalShares ← checkedAdd bot.totalShares feeShares
  .ok ({ st with shares := st.shares.insert collector shares }, { bot with totalShares })

/-- `st` holds the orders as the loop left them; the changed bot is returned, not yet saved. -/
def chargeFee (q : Querier) (st : Storage) (bot : Bot) (credited : Fin 2 → Uint128) :
    Result (Storage × Bot × Option FeeApplied) :=
  match st.config.feeRegistry, st.config.feeCollector with
  | some registry, some collector =>
    let (st, feeBps, tier, source) := resolveFee q st registry bot.owner
    if feeBps = 0 then .ok (st, bot, none)
    else do
      let valueInToken0 ← creditedValue credited bot.referencePrice
      let assets ← botAssetValue st.orders bot
      let (_, feeShares) ← feeShareMint valueInToken0 feeBps assets bot.totalShares
      (if isZero feeShares then .ok (st, bot, none)
      else do
        let (st, bot) ← mintFee st bot collector feeShares
        .ok (st, bot, some ⟨feeBps, feeShares, tier, source⟩) :
        Result (Storage × Bot × Option FeeApplied))
  | _, _ => .ok (st, bot, none)

def feeAttributes : Option FeeApplied → List (String × String)
  | none => []
  | some fee => [("fee_bps", toString fee.feeBps), ("fee_shares", toString fee.shares.val),
      ("fee_tier", (fee.tier.map toString).getD ""), ("fee_source", fee.source)]

def queryPairBatchLimit (q : Querier) (pair : Addr) : Result ℕ := do
  let maxBatchRungs ← liftStd (q.maxBatchRungs pair)
  .ok (max maxBatchRungs 1)

def claimPages (q : Querier) (st : Storage) (response : Response CosmosMsg) (botId : ℕ) (pair : Addr)
    (claimEntries : List PendingPageEntry) : Executed :=
  if claimEntries = [] then .ok (st, response)
  else do
    let limit ← queryPairBatchLimit q pair
    addConfirmablePages st response botId pair [] claimEntries limit

def payKeeper (st : Storage) (response : Response CosmosMsg) (info : MessageInfo) (botId : ℕ) :
    Executed :=
  if info.sender = st.config.keeper then do
    let bot ← loadBot st botId
    let gasCredit ← checkedSub bot.gasCredit st.config.keeperReward
    .ok ({ st with bot := some { bot with gasCredit } },
      (response.addMessage
        (.plain (.bank info.sender [⟨st.config.gasDenom, st.config.keeperReward⟩]))).addAttributes
        [("keeper_reward", toString st.config.keeperReward.val)])
  else .ok (st, response)

def executeReconcile (q : Querier) (env : Env) (st : Storage) (info : MessageInfo) (botId : ℕ)
    (orderIds : List ℕ) : Executed := do
  requireActive st
  assertNoFunds info
  let bot ← loadBot st botId
  ensure (¬ (orderIds = [] ∨ st.config.maxOrdersPerReconcile < orderIds.length)) .invalidFillReport
  assertPairCode q bot
  let required ← requiredGas st.config
  ensure (required ≤ bot.gasCredit) .insufficientGasCredit
  let (credited, bot) ← syncFreeBalances q env bot
  let sweep ← foldChecked (reconcileOrder q env st bot.pair)
    ⟨st.orders, bot.activeOrders, [], [], 0, 0, 0⟩ orderIds
  ensure (¬ (sweep.changedOrders = 0 ∧ credited = fun _ => 0)) .nothingToReconcile
  let (st, bot, fee) ← chargeFee q { st with orders := sweep.orders }
    { bot with activeOrders := sweep.activeOrders } credited
  let response : Response CosmosMsg :=
    ⟨[], [("action", "reconcile_grid"), ("bot_id", toString botId),
      ("changed_orders", toString sweep.changedOrders),
      ("fully_executed", toString sweep.executedCount),
      ("cancelled", toString sweep.cancelledCount),
      ("credited_token_0", toString (credited 0).val),
      ("credited_token_1", toString (credited 1).val)] ++ feeAttributes fee⟩
  let (st, response) ← claimPages q { st with bot := some bot } response botId bot.pair
    sweep.claimEntries
  payKeeper st response info botId

def recoverable (q : Querier) (env : Env) (pair : Addr) (orderId rungIndex : ℕ) (price : Decimal)
    (side : LimitOrderSide) : Result (Uint128 × Bool) :=
  match q.limitOrder pair orderId with
  | .ok onChain => do
    validateOrder env.contract orderId
      { rungIndex, side, price, remaining := onChain.remaining } onChain
    ensure (!isZero onChain.remaining) .invalidOrder
    .ok (onChain.remaining, false)
  | .error _ => do
    let refund ← withError .orderStatusUnverifiable (q.expiredLimitRefund pair orderId)
    let refund ← orError refund .orderStatusUnverifiable
    ensure (¬ (refund.owner ≠ env.contract ∨ refund.orderId ≠ orderId ∨ refund.side ≠ side ∨
      isZero refund.remaining)) .invalidOrder
    .ok (refund.remaining, true)

def executeRecoverOrder (q : Querier) (env : Env) (st : Storage) (info : MessageInfo)
    (botId orderId rungIndex : ℕ) : Executed := do
  assertNoFunds info
  let bot ← loadBot st botId
  assertOwner bot info
  ensure st.orders[orderId]?.isNone .invalidOrder
  ensure st.cancelledOrders[orderId]?.isNone .invalidOrder
  assertPairCode q bot
  let rung ← orError st.rungs[rungIndex]? (.std (.notFound "rung"))
  let side ← orError rung.side .invalidOrder
  let (remaining, parked) ← recoverable q env bot.pair orderId rungIndex rung.price side
  ensure (bot.activeOrders + 1 < 2 ^ 32) .arithmeticOutOfRange
  let bot := { bot with activeOrders := bot.activeOrders + 1 }
  let st := { st with
    bot := some bot
    orders := st.orders.insert orderId { rungIndex, side, price := rung.price, remaining } }
  let response : Response CosmosMsg :=
    ⟨[], [("action", "recover_grid_order"), ("bot_id", toString botId),
      ("order_id", toString orderId), ("status", if parked then "parked" else "active")]⟩
  (if parked then
    addConfirmablePages st response botId bot.pair [] [⟨orderId, side.tokenIndex, remaining⟩]
      bot.pairBatchLimit
  else .ok (st, response) : Executed)

def trackedOrders (st : Storage) : List (ℕ × GridOrder) :=
  st.orders.toList.take st.config.maxOrdersPerReconcile

def cancelEntry (q : Querier) (env : Env) (pair : Addr) (tracked : ℕ × GridOrder) :
    Result PendingPageEntry := do
  let onChain ← withError .unsettledOrder (q.limitOrder pair tracked.1)
  validateOrder env.contract tracked.1 tracked.2 onChain
  ensure (onChain.remaining = tracked.2.remaining) .unsettledOrder
  .ok ⟨tracked.1, tracked.2.side.tokenIndex, onChain.remaining⟩

def executeCancelAll (q : Querier) (env : Env) (st : Storage) (info : MessageInfo) (botId : ℕ) :
    Executed := do
  assertNoFunds info
  let bot ← loadBot st botId
  assertOwner bot info
  assertPairCode q bot
  (if trackedOrders st = [] then .ok (st, ⟨[], [("action", "cancel_grid_orders")]⟩)
  else do
    let cancelEntries ← (trackedOrders st).mapM (cancelEntry q env bot.pair)
    let limit ← queryPairBatchLimit q bot.pair
    let (st, response) ← addConfirmablePages st ⟨[], []⟩ botId bot.pair cancelEntries [] limit
    .ok (st, response.addAttributes [("action", "cancel_grid_orders"), ("bot_id", toString botId),
      ("orders", toString cancelEntries.length)]) : Executed)

def transfers (bot : Bot) (recipient : Addr) (amounts : Fin 2 → Uint128) :
    List (SubMsg CosmosMsg) :=
  ([0, 1] : List (Fin 2)).filterMap fun i =>
    if isZero (amounts i) then none
    else some (.plain (.token (bot.assetTokens i) (.transfer recipient (amounts i))))

def redeem (q : Querier) (st : Storage) (bot : Bot) (holder : Addr) (shares : Uint128)
    (recipient : Option String) (attributes : List (String × String)) : Executed := do
  let amount0 ← multiplyRatio (bot.freeBalances 0) shares.val bot.totalShares.val
  let amount1 ← multiplyRatio (bot.freeBalances 1) shares.val bot.totalShares.val
  let recipient ← liftStd (q.addrValidate (recipient.getD holder))
  let free0 ← checkedSub (bot.freeBalances 0) amount0
  let free1 ← checkedSub (bot.freeBalances 1) amount1
  let totalShares ← checkedSub bot.totalShares shares
  let rest ← checkedSub (sharesOf st holder) shares
  .ok ({ st with
      bot := some { bot with freeBalances := ![free0, free1], totalShares }
      shares := st.shares.insert holder rest },
    ⟨transfers bot recipient ![amount0, amount1], attributes ++ [("burned_shares", toString shares.val)]⟩)

def executeWithdraw (q : Querier) (st : Storage) (info : MessageInfo) (botId : ℕ) (shares : Uint128)
    (recipient : Option String) : Executed := do
  assertNoFunds info
  ensure (st.vaultMode ≠ .exit) .invalidMode
  let bot ← loadBot st botId
  assertOwner bot info
  ensure (bot.activeOrders = 0) .activeOrders
  ensure (!isZero shares) .zeroAmount
  ensure (shares ≤ sharesOf st info.sender ∧ shares ≤ bot.totalShares) .insufficientShares
  redeem q st bot info.sender shares recipient
    [("action", "withdraw_grid"), ("bot_id", toString botId)]

def executeRedeemShares (q : Querier) (st : Storage) (info : MessageInfo) (botId : ℕ)
    (recipient : Option String) : Executed := do
  assertNoFunds info
  let collector ← orError st.config.feeCollector .unauthorized
  ensure (info.sender = collector) .unauthorized
  let bot ← loadBot st botId
  ensure (!isZero (sharesOf st info.sender)) .insufficientShares
  ensure (bot.activeOrders = 0) .activeOrders
  redeem q st bot info.sender (sharesOf st info.sender) recipient
    [("action", "redeem_grid_shares"), ("bot_id", toString botId)]

def executeUpdateKeeper (q : Querier) (st : Storage) (info : MessageInfo) (keeper : String) :
    Executed := do
  assertNoFunds info
  assertAdmin st info.sender
  let keeper ← liftStd (q.addrValidate keeper)
  .ok ({ st with config := { st.config with keeper } }, ⟨[], [("action", "update_grid_keeper")]⟩)

def executeUpdatePairCode (st : Storage) (info : MessageInfo) (botId codeId : ℕ) : Executed := do
  assertNoFunds info
  assertAdmin st info.sender
  ensure (codeId ≠ 0) .invalidPair
  let bot ← loadBot st botId
  .ok ({ st with bot := some { bot with pairCodeId := codeId } },
    ⟨[], [("action", "update_grid_pair_code"), ("bot_id", toString botId),
      ("code_id", toString codeId)]⟩)

def updateTokenPolicy (q : Querier) (st : Storage) (info : MessageInfo) (token action : String)
    (update : Addr → Storage) : Executed := do
  assertNoFunds info
  assertAdmin st info.sender
  let token ← liftStd (q.addrValidate token)
  .ok (update token, ⟨[], [("action", action), ("token", token)]⟩)

def executeAddAllowedToken (q : Querier) (st : Storage) (info : MessageInfo) (token : String) :
    Executed :=
  updateTokenPolicy q st info token "add_allowed_token" fun token =>
    { st with allowedTokens := st.allowedTokens.insert token (), tokenPolicyEnabled := true }

def executeRemoveAllowedToken (q : Querier) (st : Storage) (info : MessageInfo) (token : String) :
    Executed :=
  updateTokenPolicy q st info token "remove_allowed_token" fun token =>
    { st with allowedTokens := st.allowedTokens.erase token }

def executeQuarantineToken (q : Querier) (st : Storage) (info : MessageInfo) (token : String) :
    Executed :=
  updateTokenPolicy q st info token "quarantine_token" fun token =>
    { st with quarantine := st.quarantine.insert token () }

def executeUnquarantineToken (q : Querier) (st : Storage) (info : MessageInfo) (token : String) :
    Executed :=
  updateTokenPolicy q st info token "unquarantine_token" fun token =>
    { st with quarantine := st.quarantine.erase token }

def executeTransferAdmin (q : Querier) (st : Storage) (info : MessageInfo) (admin : String) :
    Executed := do
  assertNoFunds info
  let pending ← liftStd (q.addrValidate admin)
  assertAdmin st info.sender
  .ok ({ st with config := { st.config with pendingAdmin := some pending } },
    ⟨[], [("action", "transfer_grid_admin"), ("pending_admin", pending)]⟩)

def executeAcceptAdmin (st : Storage) (info : MessageInfo) : Executed := do
  assertNoFunds info
  ensure (st.config.pendingAdmin = some info.sender) .unauthorized
  .ok ({ st with config := { st.config with admin := info.sender, pendingAdmin := none } },
    ⟨[], [("action", "accept_grid_admin")]⟩)

def switchMode (st : Storage) (info : MessageInfo) (source target : VaultMode) (action : String) :
    Executed := do
  assertNoFunds info
  assertAdmin st info.sender
  requireMode st source
  .ok ({ st with vaultMode := target }, ⟨[], [("action", action)]⟩)

def executePause (st : Storage) (info : MessageInfo) : Executed :=
  switchMode st info .active .paused "pause_grid_vault"

def executeResume (st : Storage) (info : MessageInfo) : Executed :=
  switchMode st info .paused .active "resume_grid_vault"

def executeEnterExit (st : Storage) (info : MessageInfo) (botId : ℕ) : Executed := do
  assertNoFunds info
  let bot ← loadBot st botId
  assertOwner bot info
  ensure (st.vaultMode ≠ .exit) .invalidMode
  .ok ({ st with vaultMode := .exit },
    ⟨[], [("action", "enter_grid_exit"), ("bot_id", toString botId)]⟩)

/-- An order that is neither on the book nor parked stops the emergency cancel. -/
def emergencyEntry (q : Querier) (env : Env) (pair : Addr) (tracked : ℕ × GridOrder) :
    Result (PageKind × PendingPageEntry) :=
  let index := tracked.2.side.tokenIndex
  match q.limitOrder pair tracked.1 with
  | .ok onChain => do
    validateOrder env.contract tracked.1 tracked.2 onChain
    .ok (.cancel, ⟨tracked.1, index, onChain.remaining⟩)
  | .error _ => do
    let parked ← parkedRefund q env pair tracked.1 tracked.2
    let refund ← orError parked .orderStatusUnverifiable
    .ok (.claim, ⟨tracked.1, index, refund⟩)

def entriesOf (kind : PageKind) (entries : List (PageKind × PendingPageEntry)) :
    List PendingPageEntry :=
  (entries.filter fun e => e.1 = kind).map Prod.snd

def executeEmergencyCancel (q : Querier) (env : Env) (st : Storage) (info : MessageInfo)
    (botId : ℕ) : Executed := do
  assertNoFunds info
  requireMode st .exit
  let bot ← loadBot st botId
  assertOwner bot info
  assertPairCode q bot
  let entries ← (trackedOrders st).mapM (emergencyEntry q env bot.pair)
  let (st, response) ← addConfirmablePages st ⟨[], []⟩ botId bot.pair (entriesOf .cancel entries)
    (entriesOf .claim entries) bot.pairBatchLimit
  .ok (st, response.addAttributes [("action", "emergency_cancel_grid_orders"),
    ("bot_id", toString botId), ("processed_orders", toString entries.length),
    ("orders_remain", toString (!st.orders.isEmpty))])

def exitAmount (q : Querier) (env : Env) (bot : Bot) (ownerShares : Uint128) (i : Fin 2) :
    Result (Uint128 × Uint128) := do
  let balance ← liftStd (q.balance (bot.assetTokens i) env.contract)
  let amount ← multiplyRatio balance ownerShares.val bot.totalShares.val
  let free ← checkedSub balance amount
  .ok (amount, free)

def executeEmergencyWithdraw (q : Querier) (env : Env) (st : Storage) (info : MessageInfo)
    (botId : ℕ) (recipient : Option String) : Executed := do
  assertNoFunds info
  requireMode st .exit
  let bot ← loadBot st botId
  assertOwner bot info
  ensure st.orders.isEmpty .exitOrdersRemain
  let ownerShares := sharesOf st bot.owner
  ensure (¬ (isZero ownerShares ∨ bot.totalShares < ownerShares)) .insufficientShares
  let recipient ← liftStd (q.addrValidate (recipient.getD info.sender))
  let (amount0, free0) ← exitAmount q env bot ownerShares 0
  let (amount1, free1) ← exitAmount q env bot ownerShares 1
  let totalShares ← checkedSub bot.totalShares ownerShares
  .ok ({ st with
      bot := some { bot with freeBalances := ![free0, free1], totalShares, activeOrders := 0 }
      shares := st.shares.insert bot.owner 0 },
    ⟨transfers bot recipient ![amount0, amount1],
      [("action", "emergency_withdraw_grid"), ("bot_id", toString botId),
        ("burned_shares", toString ownerShares.val)]⟩)

def execute (q : Querier) (env : Env) (st : Storage) (info : MessageInfo) : ExecuteMsg → Executed
  | .createBot pair lowerPrice upperPrice gridCount =>
    executeCreateBot q st info pair lowerPrice upperPrice gridCount
  | .receive msg => executeReceive q env st info msg
  | .fundGas botId => executeFundGas st info botId
  | .withdrawGas botId amount recipient => executeWithdrawGas q st info botId amount recipient
  | .allocate botId => executeAllocate q env st info botId
  | .syncBalances botId => executeSyncBalances q env st info botId
  | .reconcile botId orderIds => executeReconcile q env st info botId orderIds
  | .recoverOrder botId orderId rungIndex =>
    executeRecoverOrder q env st info botId orderId rungIndex
  | .cancelAll botId => executeCancelAll q env st info botId
  | .withdraw botId shares recipient => executeWithdraw q st info botId shares recipient
  | .redeemShares botId recipient => executeRedeemShares q st info botId recipient
  | .updateKeeper keeper => executeUpdateKeeper q st info keeper
  | .updatePairCode botId codeId => executeUpdatePairCode st info botId codeId
  | .addAllowedToken token => executeAddAllowedToken q st info token
  | .removeAllowedToken token => executeRemoveAllowedToken q st info token
  | .quarantineToken token => executeQuarantineToken q st info token
  | .unquarantineToken token => executeUnquarantineToken q st info token
  | .transferAdmin admin => executeTransferAdmin q st info admin
  | .acceptAdmin => executeAcceptAdmin st info
  | .pause => executePause st info
  | .resume => executeResume st info
  | .enterExit botId => executeEnterExit st info botId
  | .emergencyCancel botId => executeEmergencyCancel q env st info botId
  | .emergencyWithdraw botId recipient => executeEmergencyWithdraw q env st info botId recipient

end Cl8yDexBots.LimitGrid.Vault
