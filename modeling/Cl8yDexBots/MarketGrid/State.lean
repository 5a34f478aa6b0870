import Cl8yDexBots.SwapVault.Pricing

/-! State, messages and errors of the market-grid vault. -/

namespace Cl8yDexBots.MarketGrid.State

open Std Foundation.Words Foundation.SubMessages CosmWasm.Std CosmWasm.Pair SwapVault.Pricing

inductive ContractError where
  | std (error : StdError)
  | unauthorized
  | invalidPair
  | decimalMismatch
  | unsupportedToken
  | zeroAmount
  | expired
  | invalidGrid
  | invalidGridCount
  | invalidTwapWindow
  | invalidRiskControl
  | allocationDidNotImprove
  | invalidRebalanceSwap
  | unsafePoolPrice
  | insufficientPoolDepth
  | rebalancePending
  | missingPendingRebalance
  | unknownReply
  | rebalanceNotRequired
  | insufficientShares
  | paused
  | notPaused
  deriving DecidableEq

instance : StdFailure ContractError := ⟨.std⟩

structure Config where
  admin : Addr
  pendingAdmin : Option Addr
  factory : Addr
  pair : Addr
  pairCodeId : ℕ
  assetTokens : Fin 2 → Addr
  decimals : ℕ
  twapWindowSeconds : ℕ
  gridCount : ℕ
  lowerPrice : Decimal
  upperPrice : Decimal
  allocationToleranceBps : ℕ
  maxTradeBps : ℕ
  maxExecutionDeviationBps : ℕ
  quoteSlippageBps : ℕ
  maxSpotTwapDeviationBps : ℕ
  maxTradePoolBps : ℕ
  maxSpread : Decimal
  referencePrice : Decimal
  lastCell : ℕ
  feeRegistry : Option Addr
  feeCollector : Option Addr
  proxy : Option Addr
  deriving DecidableEq

structure CachedEffectiveFee where
  feeBps : ℕ
  tierId : Option ℕ
  deriving DecidableEq

structure Storage where
  config : Config
  pendingSwap : Option PendingSwap
  shares : ExtTreeMap Addr Uint128
  totalShares : Uint128
  paused : Bool
  effectiveFeeCache : ExtTreeMap Addr CachedEffectiveFee

structure EffectiveFeeResponse where
  feeBps : ℕ
  tierId : Option ℕ
  source : String

structure Querier where
  addrValidate : String → Except StdError Addr
  codeId : Addr → Except StdError ℕ
  pair : Addr → Except StdError PairInfo
  factoryPair : Addr → (Fin 2 → AssetInfo) → Except StdError PairInfo
  tokenDecimals : Addr → Except StdError ℕ
  balance : Addr → Addr → Except StdError Uint128
  observe : Addr → List ℕ → Except StdError ObserveResponse
  hybridSimulation : Addr → Asset → HybridSwapParams → Except StdError HybridSimulationResponse
  pool : Addr → Except StdError PoolResponse
  effectiveFee : Addr → Addr → Except StdError EffectiveFeeResponse

/-- The hook a swap's offer token carries: straight into the pair, or through the proxy. -/
inductive SwapHook where
  | pairSwap (maxSpread : Decimal) (minReturn : Uint128) (deadline : ℕ) (hybrid : HybridSwapParams)
  | proxySwap (pair : Addr) (minReturn : Uint128) (maxSpread : Decimal) (deadline : ℕ)
  deriving DecidableEq

inductive Cw20ExecuteMsg where
  | transfer (recipient : Addr) (amount : Uint128)
  | send (contract : Addr) (amount : Uint128) (msg : SwapHook)
  deriving DecidableEq

def Cw20ExecuteMsg.amount : Cw20ExecuteMsg → Uint128
  | .transfer _ amount => amount
  | .send _ amount _ => amount

structure WasmMsg where
  contractAddr : Addr
  msg : Cw20ExecuteMsg
  deriving DecidableEq

inductive ReceiveMsg where
  | deposit
  deriving DecidableEq

/-- `msg` is `none` where the hook does not decode. -/
structure Cw20ReceiveMsg where
  sender : String
  amount : Uint128
  msg : Option ReceiveMsg
  deriving DecidableEq

structure GridStatusResponse where
  currentCell : ℕ
  targetWeightBps : ℕ
  allocationDeviationBps : ℕ
  shouldRebalance : Bool
  capturedTwap : Decimal
  balances : Fin 2 → Uint128
  offerToken : Option Addr
  amount : Option Uint128
  minReturn : Option Uint128
  pendingSwap : Bool
  deriving DecidableEq

structure InstantiateMsg where
  admin : String
  factory : String
  pair : String
  pairCodeId : ℕ
  twapWindowSeconds : ℕ
  gridCount : ℕ
  lowerPrice : Decimal
  upperPrice : Decimal
  allocationToleranceBps : Option ℕ
  maxTradeBps : Option ℕ
  maxExecutionDeviationBps : Option ℕ
  quoteSlippageBps : Option ℕ
  maxSpotTwapDeviationBps : Option ℕ
  maxTradePoolBps : Option ℕ
  maxSpread : Option Decimal
  feeRegistry : Option String
  feeCollector : Option String
  proxy : Option String

structure UpdateConfigMsg where
  gridCount : Option ℕ
  lowerPrice : Option Decimal
  upperPrice : Option Decimal
  allocationToleranceBps : Option ℕ
  maxTradeBps : Option ℕ
  maxExecutionDeviationBps : Option ℕ
  quoteSlippageBps : Option ℕ
  maxSpotTwapDeviationBps : Option ℕ
  maxTradePoolBps : Option ℕ
  maxSpread : Option Decimal
  feeRegistry : Option String
  feeCollector : Option String
  proxy : Option String

inductive ExecuteMsg where
  | receive (msg : Cw20ReceiveMsg)
  | withdraw (shares : Uint128) (recipient : Option String)
  | rebalance (deadline : ℕ)
  | updateConfig (msg : UpdateConfigMsg)
  | transferAdmin (admin : String)
  | acceptAdmin
  | pause
  | resume
  | redeemShares (botId : ℕ) (recipient : Option String)

end Cl8yDexBots.MarketGrid.State
