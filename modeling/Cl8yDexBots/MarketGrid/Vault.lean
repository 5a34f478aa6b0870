import Cl8yDexBots.MarketGrid.Planning

/-! The entry points of the market-grid vault. -/

namespace Cl8yDexBots.MarketGrid.Vault

open Std Foundation.Checked Foundation.Words Foundation.SubMessages CosmWasm.Std CosmWasm.Pair SwapVault.Pricing
open State Planning

abbrev Result := Except ContractError

abbrev Executed := Result (Storage × Response WasmMsg)

def rebalanceReplyId : ℕ := 1

def undiscountedFeeBps : ℕ := 180

def tokenAddr (q : Querier) : AssetInfo → Result Addr
  | .token contractAddr => liftStd (q.addrValidate contractAddr)
  | .nativeToken _ => .error .invalidPair

def validTwapWindow (value : ℕ) : Bool := 1 ≤ value ∧ value ≤ 86400

def validateAllocationTolerance (value : ℕ) : Result Unit :=
  ensure (¬ (value = 0 ∨ 2000 < value)) .invalidRiskControl

def validateGridCount (value : ℕ) : Result Unit :=
  ensure (¬ (value = 0 ∨ 500 < value)) .invalidGridCount

def optionalAddr (q : Querier) : Option String → Result (Option Addr)
  | some address => do
    let validated ← liftStd (q.addrValidate address)
    .ok (some validated)
  | none => .ok none

def assertAdmin (config : Config) (sender : Addr) : Result Unit :=
  ensure (sender = config.admin) .unauthorized

def assertNotPaused (st : Storage) : Result Unit := ensure (!st.paused) .paused

def assertNoFunds (info : MessageInfo) : Result Unit := ensure info.funds.isEmpty .unauthorized

def sharesOf (st : Storage) (holder : Addr) : Uint128 := st.shares[holder]?.getD 0

def validatePair (q : Querier) (pair factory : Addr) (pairCodeId : ℕ) : Result (Fin 2 → Addr) := do
  ensure (pairCodeId != 0) .invalidPair
  let codeId ← liftStd (q.codeId pair)
  ensure (codeId == pairCodeId) .invalidPair
  let pairInfo ← liftStd (q.pair pair)
  ensure (pairInfo.contractAddr == pair) .invalidPair
  let registered ← liftStd (q.factoryPair factory pairInfo.assetInfos)
  let registeredAddr ← liftStd (q.addrValidate registered.contractAddr)
  ensure (registeredAddr = pair ∧ registered.assetInfos = pairInfo.assetInfos) .invalidPair
  let token0 ← tokenAddr q (pairInfo.assetInfos 0)
  let token1 ← tokenAddr q (pairInfo.assetInfos 1)
  ensure (token0 != token1) .invalidPair
  .ok ![token0, token1]

def instantiate (q : Querier) (info : MessageInfo) (msg : InstantiateMsg) : Executed := do
  let admin ← liftStd (q.addrValidate msg.admin)
  let factory ← liftStd (q.addrValidate msg.factory)
  let pair ← liftStd (q.addrValidate msg.pair)
  let assetTokens ← validatePair q pair factory msg.pairCodeId
  let decimals0 ← liftStd (q.tokenDecimals (assetTokens 0))
  let decimals1 ← liftStd (q.tokenDecimals (assetTokens 1))
  ensure (decimals0 == decimals1) .decimalMismatch
  ensure (¬ (msg.upperPrice ≤ msg.lowerPrice ∨ msg.lowerPrice.isZero)) .invalidGrid
  validateGridCount msg.gridCount
  ensure (validTwapWindow msg.twapWindowSeconds) .invalidTwapWindow
  let allocationToleranceBps := msg.allocationToleranceBps.getD 100
  validateAllocationTolerance allocationToleranceBps
  let maxTradeBps := msg.maxTradeBps.getD 2500
  let maxExecutionDeviationBps := msg.maxExecutionDeviationBps.getD 500
  let quoteSlippageBps := msg.quoteSlippageBps.getD 200
  let maxSpotTwapDeviationBps := msg.maxSpotTwapDeviationBps.getD 500
  let maxTradePoolBps := msg.maxTradePoolBps.getD 1000
  let maxSpread := msg.maxSpread.getD (.percent 5 Decimal.five_percent_lt)
  let feeRegistry ← optionalAddr q msg.feeRegistry
  let feeCollector ← optionalAddr q msg.feeCollector
  let proxy ← optionalAddr q msg.proxy
  validateRiskControls maxTradeBps maxExecutionDeviationBps quoteSlippageBps
    maxSpotTwapDeviationBps maxTradePoolBps maxSpread ContractError.invalidRiskControl
  let initialPrice ← referencePrice q pair msg.twapWindowSeconds
  let initialCell ← gridCell initialPrice msg.lowerPrice msg.upperPrice msg.gridCount
  let config : Config :=
    { admin, pendingAdmin := none, factory, pair, pairCodeId := msg.pairCodeId, assetTokens,
      decimals := decimals0, twapWindowSeconds := msg.twapWindowSeconds, gridCount := msg.gridCount,
      lowerPrice := msg.lowerPrice, upperPrice := msg.upperPrice, allocationToleranceBps, maxTradeBps,
      maxExecutionDeviationBps, quoteSlippageBps, maxSpotTwapDeviationBps, maxTradePoolBps, maxSpread,
      referencePrice := initialPrice, lastCell := initialCell, feeRegistry, feeCollector, proxy }
  .ok ({ config, pendingSwap := none, shares := ∅, totalShares := 0, paused := false,
         effectiveFeeCache := ∅ },
    ⟨[], [("action", "instantiate"), ("owner", info.sender), ("pair", pair)]⟩)

def depositValue (amount : Uint128) (tokenIndex : Fin 2) (price : Decimal) : Result Uint128 :=
  if tokenIndex = 0 then .ok amount
  else do
    ensure (!price.isZero) .invalidGrid
    checkedRatio amount Decimal.one.atomics price.atomics

def priorBalance (amount : Uint128) (tokenIndex : Fin 2) (balances : Fin 2 → Uint128) (i : Fin 2) :
    Result Uint128 :=
  if tokenIndex = i then checkedSub (balances i) amount else .ok (balances i)

def vaultValue (amount : Uint128) (tokenIndex : Fin 2) (price : Decimal)
    (balances : Fin 2 → Uint128) : Result Uint128 := do
  let priorToken0 ← priorBalance amount tokenIndex balances 0
  let priorToken1 ← priorBalance amount tokenIndex balances 1
  let token1ValueT0 ← checkedRatio priorToken1 Decimal.one.atomics price.atomics
  checkedAdd priorToken0 token1ValueT0

def mintedShares (depositValueT0 vaultValueT0 totalShares : Uint128) : Result Uint128 :=
  if isZero vaultValueT0 then .ok depositValueT0
  else withError (genericErr "share mint overflow")
    (checkedMultiplyRatio depositValueT0 totalShares.val vaultValueT0.val : Result Uint128)

def depositShares (amount : Uint128) (tokenIndex : Fin 2) (price : Decimal)
    (balances : Fin 2 → Uint128) (totalShares : Uint128) : Result Uint128 :=
  if isZero totalShares then depositValue amount tokenIndex price
  else do
    let depositValueT0 ← depositValue amount tokenIndex price
    let vaultValueT0 ← vaultValue amount tokenIndex price balances
    mintedShares depositValueT0 vaultValueT0 totalShares

def tokenIndex (config : Config) (sender : Addr) : Option (Fin 2) :=
  if config.assetTokens 0 = sender then some 0
  else if config.assetTokens 1 = sender then some 1
  else none

def executeReceive (q : Querier) (env : Env) (st : Storage) (info : MessageInfo)
    (receive : Cw20ReceiveMsg) : Executed := do
  assertNotPaused st
  ensure (!isZero receive.amount) .zeroAmount
  let .deposit ← orError receive.msg (.std (.parseErr "ReceiveMsg"))
  let depositor ← liftStd (q.addrValidate receive.sender)
  assertAdmin st.config depositor
  assertPairCodeId q st.config
  let index ← orError (tokenIndex st.config info.sender) .unsupportedToken
  let price ← referencePrice q st.config.pair st.config.twapWindowSeconds
  let held ← balances q env.contract st.config
  let minted ← depositShares receive.amount index price held st.totalShares
  ensure (!isZero minted) .zeroAmount
  let totalShares ← checkedAdd st.totalShares minted
  let shares ← checkedAdd (sharesOf st depositor) minted
  .ok ({ st with totalShares, shares := st.shares.insert depositor shares },
    ⟨[], [("action", "deposit"), ("depositor", depositor), ("amount", toString receive.amount.val),
      ("shares", toString minted.val)]⟩)

def transfers (config : Config) (recipient : Addr) (amounts : Fin 2 → Uint128) :
    List (SubMsg WasmMsg) :=
  ([0, 1] : List (Fin 2)).filterMap fun i =>
    if isZero (amounts i) then none
    else some (.plain ⟨config.assetTokens i, .transfer recipient (amounts i)⟩)

def executeWithdraw (q : Querier) (env : Env) (st : Storage) (info : MessageInfo) (shares : Uint128)
    (recipient : Option String) : Executed := do
  assertNoFunds info
  ensure st.pendingSwap.isNone .rebalancePending
  ensure (!isZero shares) .zeroAmount
  let ownerShares := sharesOf st info.sender
  ensure (shares ≤ ownerShares ∧ shares ≤ st.totalShares) .insufficientShares
  let held ← balances q env.contract st.config
  let recipient ← liftStd (q.addrValidate (recipient.getD info.sender))
  let amount0 ← multiplyRatio (held 0) shares.val st.totalShares.val
  let amount1 ← multiplyRatio (held 1) shares.val st.totalShares.val
  let totalShares ← checkedSub st.totalShares shares
  let remaining ← checkedSub ownerShares shares
  .ok ({ st with totalShares, shares := st.shares.insert info.sender remaining },
    ⟨transfers st.config recipient ![amount0, amount1],
      [("action", "withdraw"), ("burned_shares", toString shares.val)]⟩)

def swapMessage (config : Config) (offerToken : Addr) (amount minReturn : Uint128) (deadline : ℕ) :
    WasmMsg :=
  match config.proxy with
  | some proxy =>
    ⟨offerToken, .send proxy amount (.proxySwap config.pair minReturn config.maxSpread deadline)⟩
  | none =>
    ⟨offerToken, .send config.pair amount
      (.pairSwap config.maxSpread minReturn deadline (.poolOnly amount))⟩

def executeRebalance (q : Querier) (env : Env) (st : Storage) (info : MessageInfo) (deadline : ℕ) :
    Executed := do
  assertNoFunds info
  assertNotPaused st
  ensure st.pendingSwap.isNone .rebalancePending
  ensure (env.blockTime ≤ deadline) .expired
  assertPairCodeId q st.config
  let plan ← rebalancePlan q env st.config
  ensure plan.shouldRebalance .rebalanceNotRequired
  let offerToken ← orError plan.offerToken .invalidRebalanceSwap
  let amount ← orError plan.amount .invalidRebalanceSwap
  let least ← orError plan.minReturn .invalidRebalanceSwap
  let offerIndex : Fin 2 := if offerToken = st.config.assetTokens 0 then 0 else 1
  let pool ← liftStd (q.pool st.config.pair)
  validatePoolSafety relativeDeviation pool plan.capturedTwap offerIndex amount
    st.config.maxSpotTwapDeviationBps st.config.maxTradePoolBps
    ContractError.insufficientPoolDepth .unsafePoolPrice
  let pending : PendingSwap :=
    { capturedTwap := plan.capturedTwap, balances := plan.balances,
      preDeviationBps := plan.allocationDeviationBps, offerIndex, amount, minReturn := least }
  .ok ({ st with pendingSwap := some pending },
    ⟨[.replyOnSuccess (swapMessage st.config offerToken amount least deadline) rebalanceReplyId],
      [("action", "rebalance"), ("offer_token", offerToken), ("amount", toString amount.val),
        ("min_return", toString least.val)]⟩)

/-- The two checks a settled rebalance has to pass: what the pair moved, and where it left the
allocation. -/
def settledDeviation (config : Config) (pending : PendingSwap) (settled : Fin 2 → Uint128) :
    Result (ℕ × Bool) := do
  validateSettlement pending settled ContractError.allocationDidNotImprove
  let current ← allocationDeviation settled pending.capturedTwap config
  let withinTolerance ← validateRebalanceOutcome pending.preDeviationBps current
    config.allocationToleranceBps ContractError.allocationDidNotImprove
  .ok (current, withinTolerance)

structure FeeApplied where
  feeBps : ℕ
  shares : Uint128
  tier : Option ℕ
  source : String

def feeSharesForValue (feeValue assetValue totalShares : Uint128) : Result Uint128 :=
  if isZero feeValue ∨ isZero assetValue ∨ isZero totalShares then .ok 0
  else if assetValue ≤ feeValue then .ok 0
  else narrow (genericErr "fee share result overflow")
    (feeValue.val * totalShares.val / (assetValue.val - feeValue.val))

/-- The registry's answer, or on an outage the cached one, or the undiscounted rate. -/
def resolveFee (q : Querier) (st : Storage) (registry : Addr) :
    Storage × CachedEffectiveFee × String :=
  match q.effectiveFee registry st.config.admin with
  | .ok fee =>
    let cached : CachedEffectiveFee := ⟨min fee.feeBps 10000, fee.tierId⟩
    ({ st with effectiveFeeCache := st.effectiveFeeCache.insert st.config.admin cached },
      cached, fee.source)
  | .error _ =>
    match st.effectiveFeeCache[st.config.admin]? with
    | some cached => (st, cached, "vault_cached")
    | none => (st, ⟨undiscountedFeeBps, none⟩, "lowest")

def mintFee (st : Storage) (collector : Addr) (feeShares : Uint128) : Result Storage := do
  let held ← checkedAdd (sharesOf st collector) feeShares
  let totalShares ← checkedAdd st.totalShares feeShares
  .ok { st with shares := st.shares.insert collector held, totalShares }

def chargeFee (q : Querier) (st : Storage) (valueInToken0 assetValueInToken0 : Uint128) :
    Result (Storage × Option FeeApplied) :=
  match st.config.feeRegistry, st.config.feeCollector with
  | some registry, some collector =>
    if isZero valueInToken0 then .ok (st, none)
    else do
      let (st, fee, source) := resolveFee q st registry
      if fee.feeBps = 0 then .ok (st, none)
      else do
        let feeValue ← multiplyRatio valueInToken0 fee.feeBps 10000
        if isZero feeValue then .ok (st, none)
        else do
          let feeShares ← feeSharesForValue feeValue assetValueInToken0 st.totalShares
          if isZero feeShares then .ok (st, none)
          else do
            let st ← mintFee st collector feeShares
            .ok (st, some ⟨fee.feeBps, feeShares, fee.tierId, source⟩)
  | _, _ => .ok (st, none)

def feeAttributes : Option FeeApplied → List (String × String)
  | some fee =>
    [("fee_bps", toString fee.feeBps), ("fee_holders", "1"),
      ("fee_tier", (fee.tier.map toString).getD ""), ("fee_source", fee.source),
      ("fee_shares", toString fee.shares.val)]
  | none => []

def settleConfig (config : Config) (capturedTwap : Decimal) (withinTolerance : Bool) :
    Result Config :=
  if withinTolerance then do
    let lastCell ← configCell capturedTwap config
    .ok { config with referencePrice := capturedTwap, lastCell }
  else .ok config

def proceedsInToken0 (pending : PendingSwap) (settled : Fin 2 → Uint128) : Result Uint128 := do
  let ask := 1 - pending.offerIndex
  let proceeds ← checkedSub (settled ask) (pending.balances ask)
  if ask = 0 then .ok proceeds
  else checkedRatio proceeds Decimal.one.atomics pending.capturedTwap.atomics

def assetValueInToken0 (settled : Fin 2 → Uint128) (price : Decimal) : Result Uint128 := do
  let token1 ← checkedRatio (settled 1) Decimal.one.atomics price.atomics
  checkedAdd (settled 0) token1

def reply (q : Querier) (env : Env) (st : Storage) (id : ℕ) : Executed := do
  ensure (id == rebalanceReplyId) .unknownReply
  let pending ← orError st.pendingSwap .missingPendingRebalance
  let settled ← balances q env.contract st.config
  let (current, withinTolerance) ← settledDeviation st.config pending settled
  let config ← settleConfig st.config pending.capturedTwap withinTolerance
  let st := { st with config, pendingSwap := none }
  let value ← proceedsInToken0 pending settled
  let assetValue ← assetValueInToken0 settled pending.capturedTwap
  let (st, fee) ← chargeFee q st value assetValue
  .ok (st, ⟨[], [("action", "complete_rebalance"), ("allocation_deviation_bps", toString current),
    ("cell_updated", toString withinTolerance)] ++ feeAttributes fee⟩)

def updatedAddr (q : Querier) (current : Option Addr) : Option String → Result (Option Addr)
  | none => .ok current
  | some "" => .ok none
  | some address => do
    let validated ← liftStd (q.addrValidate address)
    .ok (some validated)

def checkedUpdate (current : ℕ) (check : ℕ → Result Unit) : Option ℕ → Result ℕ
  | none => .ok current
  | some value => do
    check value
    .ok value

def executeUpdateConfig (q : Querier) (st : Storage) (info : MessageInfo) (msg : UpdateConfigMsg) :
    Executed := do
  assertNoFunds info
  let config := st.config
  assertAdmin config info.sender
  ensure st.pendingSwap.isNone .rebalancePending
  let feeRegistry ← updatedAddr q config.feeRegistry msg.feeRegistry
  let feeCollector ← updatedAddr q config.feeCollector msg.feeCollector
  let proxy ← updatedAddr q config.proxy msg.proxy
  let gridCount ← checkedUpdate config.gridCount validateGridCount msg.gridCount
  let lowerPrice := msg.lowerPrice.getD config.lowerPrice
  let upperPrice := msg.upperPrice.getD config.upperPrice
  ensure (¬ (lowerPrice.isZero ∨ upperPrice ≤ lowerPrice)) .invalidGrid
  let allocationToleranceBps ← checkedUpdate config.allocationToleranceBps
    validateAllocationTolerance msg.allocationToleranceBps
  let maxTradeBps := msg.maxTradeBps.getD config.maxTradeBps
  let maxExecutionDeviationBps := msg.maxExecutionDeviationBps.getD config.maxExecutionDeviationBps
  let quoteSlippageBps := msg.quoteSlippageBps.getD config.quoteSlippageBps
  let maxSpotTwapDeviationBps := msg.maxSpotTwapDeviationBps.getD config.maxSpotTwapDeviationBps
  let maxTradePoolBps := msg.maxTradePoolBps.getD config.maxTradePoolBps
  let maxSpread := msg.maxSpread.getD config.maxSpread
  validateRiskControls maxTradeBps maxExecutionDeviationBps quoteSlippageBps
    maxSpotTwapDeviationBps maxTradePoolBps maxSpread ContractError.invalidRiskControl
  .ok ({ st with config := { config with
      feeRegistry, feeCollector, proxy, gridCount, lowerPrice, upperPrice, allocationToleranceBps,
      maxTradeBps, maxExecutionDeviationBps, quoteSlippageBps, maxSpotTwapDeviationBps,
      maxTradePoolBps, maxSpread } },
    ⟨[], [("action", "update_config")]⟩)

def executeTransferAdmin (q : Querier) (st : Storage) (info : MessageInfo) (admin : String) :
    Executed := do
  assertNoFunds info
  assertAdmin st.config info.sender
  let pending ← liftStd (q.addrValidate admin)
  ensure (pending != st.config.admin) .unauthorized
  .ok ({ st with config := { st.config with pendingAdmin := some pending } },
    ⟨[], [("action", "propose_admin"), ("pending_admin", pending)]⟩)

def moveShares (st : Storage) (source target : Addr) : Result Storage := do
  let moved := sharesOf st source
  if isZero moved then .ok st
  else do
    let held ← checkedAdd (sharesOf st target) moved
    .ok { st with shares := (st.shares.insert target held).erase source }

def executeAcceptAdmin (st : Storage) (info : MessageInfo) : Executed := do
  assertNoFunds info
  ensure (st.config.pendingAdmin = some info.sender) .unauthorized
  let st ← moveShares st st.config.admin info.sender
  .ok ({ st with config := { st.config with admin := info.sender, pendingAdmin := none } },
    ⟨[], [("action", "accept_admin")]⟩)

def executePause (st : Storage) (info : MessageInfo) : Executed := do
  assertNoFunds info
  assertAdmin st.config info.sender
  ensure (!st.paused) .paused
  .ok ({ st with paused := true }, ⟨[], [("action", "pause")]⟩)

def executeResume (st : Storage) (info : MessageInfo) : Executed := do
  assertNoFunds info
  assertAdmin st.config info.sender
  ensure st.paused .notPaused
  .ok ({ st with paused := false }, ⟨[], [("action", "resume")]⟩)

def executeRedeemShares (q : Querier) (env : Env) (st : Storage) (info : MessageInfo)
    (recipient : Option String) : Executed := do
  assertNoFunds info
  let collector ← orError st.config.feeCollector .unauthorized
  ensure (info.sender = collector) .unauthorized
  let shares := sharesOf st collector
  ensure (!isZero shares) .zeroAmount
  ensure (shares ≤ st.totalShares) .insufficientShares
  ensure st.pendingSwap.isNone .rebalancePending
  let held ← balances q env.contract st.config
  let recipient ← liftStd (q.addrValidate (recipient.getD collector))
  let amount0 ← multiplyRatio (held 0) shares.val st.totalShares.val
  let amount1 ← multiplyRatio (held 1) shares.val st.totalShares.val
  let totalShares ← checkedSub st.totalShares shares
  .ok ({ st with totalShares, shares := st.shares.insert collector 0 },
    ⟨transfers st.config recipient ![amount0, amount1],
      [("action", "redeem_shares"), ("burned_shares", toString shares.val)]⟩)

def execute (q : Querier) (env : Env) (st : Storage) (info : MessageInfo) : ExecuteMsg → Executed
  | .receive msg => executeReceive q env st info msg
  | .withdraw shares recipient => executeWithdraw q env st info shares recipient
  | .rebalance deadline => executeRebalance q env st info deadline
  | .updateConfig msg => executeUpdateConfig q st info msg
  | .transferAdmin admin => executeTransferAdmin q st info admin
  | .acceptAdmin => executeAcceptAdmin st info
  | .pause => executePause st info
  | .resume => executeResume st info
  | .redeemShares _ recipient => executeRedeemShares q env st info recipient

end Cl8yDexBots.MarketGrid.Vault
