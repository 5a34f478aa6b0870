import Cl8yDexBots.Rebalancer.Planning

/-! The entry points of the bot-vault. -/

namespace Cl8yDexBots.Rebalancer.Vault

open Std Foundation.Checked Foundation.Words Foundation.SubMessages CosmWasm.Std CosmWasm.Pair
open SwapVault.Pricing State Planning

abbrev Result := Except ContractError

abbrev Executed := Result (Storage × Response WasmMsg)

def rebalanceReplyId : ℕ := 1

def undiscountedFeeBps : ℕ := 180

def maximumSpread : Decimal := .percent 10 Decimal.ten_percent_lt

def tokenAddr (q : Querier) : AssetInfo → Result Addr
  | .token contractAddr => liftStd (q.addrValidate contractAddr)
  | .nativeToken _ => .error .invalidPair

def assertAdmin (config : Config) (sender : Addr) : Result Unit :=
  ensure (sender = config.admin) .unauthorized

def assertKeeper (config : Config) (sender : Addr) : Result Unit :=
  ensure (sender = config.keeper) .unauthorized

def assertNotPaused (st : Storage) : Result Unit := ensure (!st.paused) .paused

def assertNoRebalance (st : Storage) : Result Unit :=
  ensure st.pendingRebalance.isNone .rebalancePending

def assertPairCode (q : Querier) (config : Config) : Result Unit := do
  let codeId ← liftStd (q.codeId config.pair)
  ensure (codeId == config.pairCodeId) .pairCodeMismatch

/-- Only the bound liquidity contract, and only while it runs the approved code. -/
def assertLiquidity (q : Querier) (st : Storage) (sender : Addr) : Result Unit := do
  let liquidity ← orError st.config.liquidityContract .liquidityNotConfigured
  ensure (sender = liquidity) .unauthorized
  let codeId ← liftStd (q.codeId liquidity)
  ensure (codeId == st.liquidityCodeId) .liquidityCodeMismatch

def queryLiquidityAuthorization (q : Querier) (config : Config) :
    Result LiquidityAuthorizationResponse := do
  let liquidity ← orError config.liquidityContract .liquidityNotConfigured
  liftStd (q.authorization liquidity)

def ensureNoLiquidityOperation (q : Querier) (config : Config) : Result Unit :=
  if config.liquidityContract.isNone then .ok ()
  else do
    let authorization ← queryLiquidityAuthorization q config
    ensure (authorization.swap.isNone && authorization.transfers.isEmpty && !authorization.finalize)
      .rebalancePending

def validateThreshold (value : ℕ) : Result Unit :=
  ensure (¬ (value = 0 ∨ 10000 < value)) .invalidThreshold

def validTwapWindow (value : ℕ) : Bool := 1 ≤ value ∧ value ≤ 86400

def validateAllocationTolerance (value : ℕ) : Result Unit :=
  ensure (¬ (value = 0 ∨ 2000 < value)) .invalidThreshold

def optionalAddr (q : Querier) : Option String → Result (Option Addr)
  | some address => do
    let validated ← liftStd (q.addrValidate address)
    .ok (some validated)
  | none => .ok none

def validatePairProvenance (q : Querier) (pair factory : Addr) (pairCodeId : ℕ)
    (pairInfo : PairInfo) : Result Unit := do
  ensure (pairCodeId != 0) .invalidPair
  let codeId ← liftStd (q.codeId pair)
  ensure (codeId == pairCodeId) .invalidPair
  let registered ← liftStd (q.factoryPair factory pairInfo.assetInfos)
  ensure (registered.contractAddr == pair) .invalidPair

def pairTokens (q : Querier) (pairInfo : PairInfo) : Result (Fin 2 → Addr) := do
  let token0 ← tokenAddr q (pairInfo.assetInfos 0)
  let token1 ← tokenAddr q (pairInfo.assetInfos 1)
  ensure (token0 != token1) .invalidPair
  .ok ![token0, token1]

def instantiate (q : Querier) (env : Env) (msg : InstantiateMsg) : Executed := do
  ensure (msg.liquidityCodeId != 0) .invalidLiquidityContract
  ensure (msg.pairCodeId != 0) .invalidPair
  let pair ← liftStd (q.addrValidate msg.pair)
  let pairInfo ← liftStd (q.pair pair)
  ensure (pairInfo.contractAddr == pair) .invalidPair
  let factory ← liftStd (q.addrValidate msg.factory)
  validatePairProvenance q pair factory msg.pairCodeId pairInfo
  let assetTokens ← pairTokens q pairInfo
  let token0 ← liftStd (q.tokenInfo (assetTokens 0))
  let token1 ← liftStd (q.tokenInfo (assetTokens 1))
  ensure (token0.decimals == token1.decimals) .decimalMismatch
  let rebalanceThresholdBps := msg.rebalanceThresholdBps.getD 500
  let allocationToleranceBps := msg.allocationToleranceBps.getD 100
  validateThreshold rebalanceThresholdBps
  validateAllocationTolerance allocationToleranceBps
  ensure (validTwapWindow msg.twapWindowSeconds) .invalidTwapWindow
  let maxTradeBps := msg.maxTradeBps.getD 2500
  let maxExecutionDeviationBps := msg.maxExecutionDeviationBps.getD 500
  let quoteSlippageBps := msg.quoteSlippageBps.getD 200
  let maxSpotTwapDeviationBps := msg.maxSpotTwapDeviationBps.getD 500
  let maxTradePoolBps := msg.maxTradePoolBps.getD 1000
  let maxSpread := msg.maxSpread.getD (.percent 5 Decimal.five_percent_lt)
  let feeRegistry ← optionalAddr q msg.feeRegistry
  let feeCollector ← optionalAddr q msg.feeCollector
  let proxy ← liftStd (q.addrValidate msg.proxy)
  validateRiskControls maxTradeBps maxExecutionDeviationBps quoteSlippageBps
    maxSpotTwapDeviationBps maxTradePoolBps maxSpread ContractError.invalidRiskControl
  let admin ← liftStd (q.addrValidate msg.admin)
  let keeper ← liftStd (q.addrValidate msg.keeper)
  let config : Config :=
    { admin, keeper, liquidityContract := none, proxy, factory, pair,
      pairCodeId := msg.pairCodeId, assetTokens, decimals := token0.decimals,
      twapWindowSeconds := msg.twapWindowSeconds, rebalanceThresholdBps, allocationToleranceBps,
      maxTradeBps, maxExecutionDeviationBps, quoteSlippageBps, maxSpotTwapDeviationBps,
      maxTradePoolBps, maxSpread, referencePrice := .one, feeRegistry, feeCollector }
  let referencePrice ← queryPrice q config
  .ok ({ config := { config with referencePrice }, pendingRebalance := none, pendingAdmin := none,
         liquidityCodeId := msg.liquidityCodeId, paused := false, feeCache := ∅ },
    ⟨[], [("action", "instantiate"), ("vault", env.contract)]⟩)

def migrate (st : Storage) (liquidityCodeId : ℕ) : Executed := do
  ensure (liquidityCodeId != 0) .invalidLiquidityContract
  assertNoRebalance st
  .ok ({ st with config := { st.config with liquidityContract := none }, liquidityCodeId,
                 paused := true, pendingAdmin := none },
    ⟨[], [("action", "migrate_bot_vault"), ("liquidity_rebind_required", "true")]⟩)

def executeSetLiquidity (q : Querier) (env : Env) (st : Storage) (info : MessageInfo)
    (liquidityContract : String) : Executed := do
  assertAdmin st.config info.sender
  ensure st.config.liquidityContract.isNone .liquidityAlreadyConfigured
  let candidate ← liftStd (q.addrValidate liquidityContract)
  let binding ← withError .invalidLiquidityContract (q.liquidityConfig candidate)
  ensure (binding.vault == env.contract) .liquidityVaultMismatch
  ensure (binding.assetTokens = st.config.assetTokens) .liquidityAssetsMismatch
  let codeId ← liftStd (q.codeId candidate)
  ensure (codeId == st.liquidityCodeId) .liquidityCodeMismatch
  .ok ({ st with config := { st.config with liquidityContract := some candidate } },
    ⟨[], [("action", "set_liquidity_contract"), ("liquidity_contract", liquidityContract)]⟩)

def proxySwapMessage (config : Config) (params : SwapParams) : WasmMsg :=
  .cw20 params.offerToken (.send config.proxy params.amount
    ⟨config.pair, params.minReturn, params.maxSpread, params.deadline⟩)

def validateSwap (q : Querier) (env : Env) (config : Config) (params : SwapParams) : Result Unit := do
  let token ← liftStd (q.addrValidate params.offerToken)
  ensure (config.assetTokens 0 = token ∨ config.assetTokens 1 = token) .unsupportedToken
  ensure (!isZero params.amount) .zeroAmount
  ensure (env.blockTime ≤ params.deadline) .expired
  ensure (params.maxSpread ≤ maximumSpread) .excessiveSpread

def executeLiquiditySwap (q : Querier) (env : Env) (st : Storage) (info : MessageInfo)
    (params : SwapParams) : Executed := do
  assertLiquidity q st info.sender
  assertNotPaused st
  assertNoRebalance st
  let authorization ← queryLiquidityAuthorization q st.config
  ensure (authorization.swap = some params) .liquidityOperationNotAuthorized
  validateSwap q env st.config params
  .ok (st, ⟨[.plain (proxySwapMessage st.config params)],
    [("action", "liquidity_swap"), ("offer_token", params.offerToken),
      ("amount", toString params.amount.val)]⟩)

def executeTransfer (q : Querier) (st : Storage) (info : MessageInfo) (token : String)
    (amount : Uint128) (recipient : String) : Executed := do
  assertLiquidity q st info.sender
  assertNoRebalance st
  let token ← liftStd (q.addrValidate token)
  ensure (st.config.assetTokens 0 = token ∨ st.config.assetTokens 1 = token) .unsupportedToken
  ensure (!isZero amount) .zeroAmount
  let recipient ← liftStd (q.addrValidate recipient)
  let authorization ← queryLiquidityAuthorization q st.config
  ensure (⟨token, amount, recipient⟩ ∈ authorization.transfers) .liquidityOperationNotAuthorized
  .ok (st, ⟨[.plain (.cw20 token (.transfer recipient amount))],
    [("action", "transfer_to"), ("recipient", recipient)]⟩)

def executeFinalize (q : Querier) (st : Storage) (info : MessageInfo) : Executed := do
  assertLiquidity q st info.sender
  assertNotPaused st
  assertNoRebalance st
  let authorization ← queryLiquidityAuthorization q st.config
  ensure authorization.finalize .liquidityOperationNotAuthorized
  .ok (st, ⟨[], [("action", "finalize_liquidity_operation")]⟩)

def executeRebalance (q : Querier) (env : Env) (st : Storage) (info : MessageInfo) (deadline : ℕ) :
    Executed := do
  assertKeeper st.config info.sender
  assertNotPaused st
  assertNoRebalance st
  ensureNoLiquidityOperation q st.config
  assertPairCode q st.config
  ensure (env.blockTime ≤ deadline) .expired
  let plan ← rebalancePlan q env.contract st.config
  ensure plan.shouldRebalance .rebalanceNotRequired
  let offerToken ← orError plan.offerToken .invalidRebalanceSwap
  let amount ← orError plan.amount .invalidRebalanceSwap
  let least ← orError plan.minReturn .invalidRebalanceSwap
  let offerIndex : Fin 2 := if offerToken = st.config.assetTokens 0 then 0 else 1
  let pool ← liftStd (q.pool st.config.pair)
  validatePoolSafety relativeDeviation pool plan.capturedTwap offerIndex amount
    st.config.maxSpotTwapDeviationBps st.config.maxTradePoolBps
    ContractError.insufficientPoolDepth .unsafePoolPrice
  let params : SwapParams :=
    { offerToken, amount, minReturn := least, maxSpread := st.config.maxSpread, deadline }
  let pending : PendingRebalance :=
    { capturedTwap := plan.capturedTwap, balances := plan.balances,
      preDeviationBps := plan.allocationDeviationBps, offerIndex, amount, minReturn := least }
  .ok ({ st with pendingRebalance := some pending },
    ⟨[.replyOnSuccess (proxySwapMessage st.config params) rebalanceReplyId],
      [("action", "rebalance")]⟩)

def executeSyncReference (q : Querier) (env : Env) (st : Storage) (info : MessageInfo) : Executed := do
  assertKeeper st.config info.sender
  assertNotPaused st
  ensureNoLiquidityOperation q st.config
  let status ← rebalanceStatus q env.contract st.config
  ensure status.shouldRebalance .rebalanceNotRequired
  ensure (status.allocationDeviationBps ≤ st.config.allocationToleranceBps)
    .allocationOutsideTolerance
  .ok ({ st with config := { st.config with referencePrice := status.currentPrice } },
    ⟨[], [("action", "sync_reference")]⟩)

/-- The two checks a settled rebalance has to pass: what the pair moved, and where it left the
allocation. -/
def settledDeviation (config : Config) (pending : PendingRebalance) (settled : Fin 2 → Uint128) :
    Result (ℕ × Bool) := do
  validateSettlement pending settled ContractError.allocationDidNotImprove
  let current ← allocationDeviation settled pending.capturedTwap
  let withinTolerance ← validateRebalanceOutcome pending.preDeviationBps current
    config.allocationToleranceBps ContractError.allocationDidNotImprove
  .ok (current, withinTolerance)

structure FeeApplied where
  feeBps : ℕ
  shares : Uint128
  holders : ℕ
  tier : Option ℕ
  source : String

def feeSharesForValue (feeValue nav supply : Uint128) : Result Uint128 :=
  if isZero feeValue ∨ isZero supply ∨ nav ≤ feeValue then .ok 0
  else narrow (genericErr "fee share overflow")
    (feeValue.val * supply.val / (nav.val - feeValue.val))

def navInToken0 (balances : Fin 2 → Uint128) (price : Decimal) : Result Uint128 := do
  ensure (!price.isZero) (genericErr "NAV price is zero")
  narrow (genericErr "NAV overflow")
    ((balances 0).val + (balances 1).val * decimalFractional / price.atomics.val)

/-- The registry's answer, or on an outage the cached one, or the undiscounted rate. -/
def resolveFee (q : Querier) (st : Storage) (config : Config) (registry : Addr) :
    Storage × CachedEffectiveFee × String :=
  match q.effectiveFee registry config.admin with
  | .ok fee =>
    let cached : CachedEffectiveFee := ⟨min fee.feeBps 10000, fee.tierId⟩
    ({ st with feeCache := st.feeCache.insert config.admin cached }, cached, fee.source)
  | .error _ =>
    match st.feeCache[config.admin]? with
    | some cached => (st, ⟨min cached.feeBps 10000, cached.tierId⟩, "vault_cached")
    | none => (st, ⟨undiscountedFeeBps, none⟩, "lowest")

def chargeFee (q : Querier) (st : Storage) (config : Config) (valueInToken0 preFeeNav : Uint128) :
    Result (Storage × Option FeeApplied × List WasmMsg) :=
  match config.feeRegistry, config.feeCollector with
  | some registry, some collector =>
    if isZero valueInToken0 then .ok (st, none, [])
    else match config.liquidityContract with
      | none => .ok (st, none, [])
      | some liquidity => do
        let (st, fee, source) := resolveFee q st config registry
        if fee.feeBps = 0 then .ok (st, none, [])
        else do
          let feeValue ← multiplyRatio valueInToken0 fee.feeBps 10000
          if isZero feeValue ∨ preFeeNav ≤ feeValue then .ok (st, none, [])
          else do
            let tokenInfo ← liftStd (q.tokenInfo liquidity)
            if isZero tokenInfo.totalSupply then .ok (st, none, [])
            else do
              let feeShares ← feeSharesForValue feeValue preFeeNav tokenInfo.totalSupply
              if isZero feeShares then .ok (st, none, [])
              else .ok (st, some ⟨fee.feeBps, feeShares, 1, fee.tierId, source⟩,
                [.mintTo liquidity collector feeShares])
  | _, _ => .ok (st, none, [])

def feeAttributes : Option FeeApplied → List (String × String)
  | some fee =>
    [("fee_bps", toString fee.feeBps), ("fee_holders", toString fee.holders),
      ("fee_tier", (fee.tier.map toString).getD ""), ("fee_source", fee.source),
      ("fee_shares", toString fee.shares.val)]
  | none => []

def proceedsInToken0 (pending : PendingRebalance) (settled : Fin 2 → Uint128) : Result Uint128 := do
  let ask := 1 - pending.offerIndex
  let proceeds ← checkedSub (settled ask) (pending.balances ask)
  if ask = 0 then .ok proceeds
  else checkedRatio proceeds Decimal.one.atomics pending.capturedTwap.atomics

def reply (q : Querier) (env : Env) (st : Storage) (id : ℕ) : Executed := do
  ensure (id == rebalanceReplyId) .unknownReply
  let pending ← orError st.pendingRebalance .missingPendingRebalance
  let settled ← balances q env.contract st.config
  let (current, withinTolerance) ← settledDeviation st.config pending settled
  let config := if withinTolerance
    then { st.config with referencePrice := pending.capturedTwap } else st.config
  let st := { st with config, pendingRebalance := none }
  let value ← proceedsInToken0 pending settled
  let preFeeNav ← navInToken0 settled pending.capturedTwap
  let (st, fee, mints) ← chargeFee q st config value preFeeNav
  .ok (st, ⟨mints.map .plain, [("action", "complete_rebalance"),
    ("allocation_deviation_bps", toString current),
    ("reference_updated", toString withinTolerance)] ++ feeAttributes fee⟩)

def executeUpdateKeeper (q : Querier) (st : Storage) (info : MessageInfo) (keeper : String) :
    Executed := do
  assertAdmin st.config info.sender
  let keeper ← liftStd (q.addrValidate keeper)
  .ok ({ st with config := { st.config with keeper } }, ⟨[], [("action", "update_keeper")]⟩)

def checkedUpdate (current : ℕ) (check : ℕ → Result Unit) : Option ℕ → Result ℕ
  | none => .ok current
  | some value => do
    check value
    .ok value

def updateTwapWindow (q : Querier) (config : Config) : Option ℕ → Result Config
  | none => .ok config
  | some twapWindowSeconds => do
    ensure (validTwapWindow twapWindowSeconds) .invalidTwapWindow
    let referencePrice ← queryPrice q { config with twapWindowSeconds }
    .ok { config with referencePrice, twapWindowSeconds }

def executeUpdateThresholds (q : Querier) (st : Storage) (info : MessageInfo) (next : Thresholds) :
    Executed := do
  assertAdmin st.config info.sender
  let rebalanceThresholdBps ← checkedUpdate st.config.rebalanceThresholdBps validateThreshold
    next.rebalanceThresholdBps
  let allocationToleranceBps ← checkedUpdate st.config.allocationToleranceBps
    validateAllocationTolerance next.allocationToleranceBps
  let config ← updateTwapWindow q { st.config with rebalanceThresholdBps, allocationToleranceBps }
    next.twapWindowSeconds
  let maxTradeBps := next.maxTradeBps.getD config.maxTradeBps
  let maxExecutionDeviationBps := next.maxExecutionDeviationBps.getD config.maxExecutionDeviationBps
  let quoteSlippageBps := next.quoteSlippageBps.getD config.quoteSlippageBps
  let maxSpotTwapDeviationBps := next.maxSpotTwapDeviationBps.getD config.maxSpotTwapDeviationBps
  let maxTradePoolBps := next.maxTradePoolBps.getD config.maxTradePoolBps
  let maxSpread := next.maxSpread.getD config.maxSpread
  validateRiskControls maxTradeBps maxExecutionDeviationBps quoteSlippageBps
    maxSpotTwapDeviationBps maxTradePoolBps maxSpread ContractError.invalidRiskControl
  .ok ({ st with config := { config with
      maxTradeBps, maxExecutionDeviationBps, quoteSlippageBps, maxSpotTwapDeviationBps,
      maxTradePoolBps, maxSpread } },
    ⟨[], [("action", "update_thresholds")]⟩)

def updatedAddr (q : Querier) (current : Option Addr) : Option String → Result (Option Addr)
  | none => .ok current
  | some "" => .ok none
  | some address => do
    let validated ← liftStd (q.addrValidate address)
    .ok (some validated)

def executeUpdateFeeConfig (q : Querier) (st : Storage) (info : MessageInfo)
    (feeRegistry feeCollector : Option String) : Executed := do
  assertAdmin st.config info.sender
  let feeRegistry ← updatedAddr q st.config.feeRegistry feeRegistry
  let feeCollector ← updatedAddr q st.config.feeCollector feeCollector
  .ok ({ st with config := { st.config with feeRegistry, feeCollector } },
    ⟨[], [("action", "update_fee_config")]⟩)

def executeTransferAdmin (q : Querier) (st : Storage) (info : MessageInfo) (admin : String) :
    Executed := do
  assertAdmin st.config info.sender
  let pending ← liftStd (q.addrValidate admin)
  .ok ({ st with pendingAdmin := some pending },
    ⟨[], [("action", "propose_admin"), ("current_admin", st.config.admin),
      ("pending_admin", pending)]⟩)

def executeAcceptAdmin (st : Storage) (info : MessageInfo) : Executed := do
  let pending ← orError st.pendingAdmin .unauthorized
  ensure (info.sender = pending) .unauthorized
  .ok ({ st with config := { st.config with admin := info.sender }, pendingAdmin := none },
    ⟨[], [("action", "accept_admin"), ("previous_admin", st.config.admin),
      ("admin", info.sender)]⟩)

def executeCancelAdminTransfer (st : Storage) (info : MessageInfo) : Executed := do
  assertAdmin st.config info.sender
  .ok ({ st with pendingAdmin := none }, ⟨[], [("action", "cancel_admin_transfer")]⟩)

def executeRevokeLiquidity (st : Storage) (info : MessageInfo) : Executed := do
  assertAdmin st.config info.sender
  .ok ({ st with config := { st.config with liquidityContract := none }, paused := true },
    ⟨[], [("action", "revoke_liquidity_contract")]⟩)

def executePause (st : Storage) (info : MessageInfo) : Executed := do
  assertAdmin st.config info.sender
  ensure (!st.paused) .paused
  .ok ({ st with paused := true }, ⟨[], [("action", "pause")]⟩)

def executeResume (q : Querier) (st : Storage) (info : MessageInfo) : Executed := do
  assertAdmin st.config info.sender
  ensure st.paused .notPaused
  let liquidity ← orError st.config.liquidityContract .liquidityNotConfigured
  let codeId ← liftStd (q.codeId liquidity)
  ensure (codeId == st.liquidityCodeId) .liquidityCodeMismatch
  .ok ({ st with paused := false }, ⟨[], [("action", "resume")]⟩)

def execute (q : Querier) (env : Env) (st : Storage) (info : MessageInfo) :
    VaultExecuteMsg → Executed
  | .setLiquidityContract liquidityContract => executeSetLiquidity q env st info liquidityContract
  | .liquiditySwap params => executeLiquiditySwap q env st info params
  | .transferTo token amount recipient => executeTransfer q st info token amount recipient
  | .finalizeLiquidityOperation => executeFinalize q st info
  | .rebalance deadline => executeRebalance q env st info deadline
  | .syncReference => executeSyncReference q env st info
  | .updateKeeper keeper => executeUpdateKeeper q st info keeper
  | .updateThresholds next => executeUpdateThresholds q st info next
  | .updateFeeConfig feeRegistry feeCollector =>
    executeUpdateFeeConfig q st info feeRegistry feeCollector
  | .transferAdmin admin => executeTransferAdmin q st info admin
  | .acceptAdmin => executeAcceptAdmin st info
  | .cancelAdminTransfer => executeCancelAdminTransfer st info
  | .revokeLiquidityContract => executeRevokeLiquidity st info
  | .pause => executePause st info
  | .resume => executeResume q st info

end Cl8yDexBots.Rebalancer.Vault
