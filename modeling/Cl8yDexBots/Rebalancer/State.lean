import Cl8yDexBots.CosmWasm.Cw20Base
import Cl8yDexBots.SwapVault.Pricing

/-! State, messages and errors of the bot-vault, and the messages it exchanges with bot-liquidity. -/

namespace Cl8yDexBots.Rebalancer.State

open Std Foundation.Words Foundation.SubMessages CosmWasm.Std CosmWasm.Pair SwapVault.Pricing

inductive ContractError where
  | std (error : StdError)
  | unauthorized
  | invalidPair
  | pairCodeMismatch
  | decimalMismatch
  | liquidityAlreadyConfigured
  | liquidityNotConfigured
  | unsupportedToken
  | zeroAmount
  | expired
  | excessiveSpread
  | invalidThreshold
  | invalidTwapWindow
  | invalidRiskControl
  | rebalanceNotRequired
  | allocationDidNotImprove
  | invalidRebalanceSwap
  | unsafePoolPrice
  | insufficientPoolDepth
  | allocationOutsideTolerance
  | rebalancePending
  | missingPendingRebalance
  | unknownReply
  | invalidLiquidityContract
  | liquidityVaultMismatch
  | liquidityAssetsMismatch
  | liquidityCodeMismatch
  | liquidityOperationNotAuthorized
  | paused
  | notPaused
  deriving DecidableEq

instance : StdFailure ContractError := ⟨.std⟩

structure Config where
  admin : Addr
  keeper : Addr
  liquidityContract : Option Addr
  proxy : Addr
  factory : Addr
  pair : Addr
  pairCodeId : ℕ
  assetTokens : Fin 2 → Addr
  decimals : ℕ
  twapWindowSeconds : ℕ
  rebalanceThresholdBps : ℕ
  allocationToleranceBps : ℕ
  maxTradeBps : ℕ
  maxExecutionDeviationBps : ℕ
  quoteSlippageBps : ℕ
  maxSpotTwapDeviationBps : ℕ
  maxTradePoolBps : ℕ
  maxSpread : Decimal
  referencePrice : Decimal
  feeRegistry : Option Addr
  feeCollector : Option Addr
  deriving DecidableEq

structure CachedEffectiveFee where
  feeBps : ℕ
  tierId : Option ℕ
  deriving DecidableEq

abbrev PendingRebalance := PendingSwap

structure Storage where
  config : Config
  pendingRebalance : Option PendingRebalance
  pendingAdmin : Option Addr
  liquidityCodeId : ℕ
  paused : Bool
  feeCache : ExtTreeMap Addr CachedEffectiveFee

structure SwapParams where
  offerToken : String
  amount : Uint128
  minReturn : Uint128
  maxSpread : Decimal
  deadline : ℕ
  deriving DecidableEq

structure AuthorizedTransfer where
  token : String
  amount : Uint128
  recipient : String
  deriving DecidableEq

structure LiquidityAuthorizationResponse where
  swap : Option SwapParams
  transfers : List AuthorizedTransfer
  finalize : Bool
  deriving DecidableEq

structure LiquidityConfigResponse where
  admin : String
  pendingAdmin : Option String
  vault : String
  assetTokens : Fin 2 → String
  minimumInitialDeposit : Uint128
  deriving DecidableEq

structure TokenInfoResponse where
  decimals : ℕ
  totalSupply : Uint128

structure EffectiveFeeResponse where
  feeBps : ℕ
  tierId : Option ℕ
  source : String

structure Querier where
  addrValidate : String → Except StdError Addr
  codeId : Addr → Except StdError ℕ
  pair : Addr → Except StdError PairInfo
  factoryPair : Addr → (Fin 2 → AssetInfo) → Except StdError PairInfo
  tokenInfo : Addr → Except StdError TokenInfoResponse
  balance : Addr → Addr → Except StdError Uint128
  observe : Addr → List ℕ → Except StdError ObserveResponse
  hybridSimulation : Addr → Asset → HybridSwapParams → Option String →
    Except StdError HybridSimulationResponse
  pool : Addr → Except StdError PoolResponse
  liquidityConfig : Addr → Except StdError LiquidityConfigResponse
  authorization : Addr → Except StdError LiquidityAuthorizationResponse
  effectiveFee : Addr → Addr → Except StdError EffectiveFeeResponse

structure SwapProxyHookMsg where
  pair : String
  minReturn : Uint128
  maxSpread : Decimal
  deadline : ℕ
  deriving DecidableEq

inductive Cw20ExecuteMsg where
  | transfer (recipient : String) (amount : Uint128)
  | transferFrom (owner recipient : String) (amount : Uint128)
  | send (contract : String) (amount : Uint128) (msg : SwapProxyHookMsg)
  deriving DecidableEq

structure Thresholds where
  rebalanceThresholdBps : Option ℕ
  allocationToleranceBps : Option ℕ
  maxTradeBps : Option ℕ
  maxExecutionDeviationBps : Option ℕ
  quoteSlippageBps : Option ℕ
  maxSpotTwapDeviationBps : Option ℕ
  maxTradePoolBps : Option ℕ
  maxSpread : Option Decimal
  twapWindowSeconds : Option ℕ
  deriving DecidableEq

inductive VaultExecuteMsg where
  | setLiquidityContract (liquidityContract : String)
  | liquiditySwap (params : SwapParams)
  | transferTo (token : String) (amount : Uint128) (recipient : String)
  | finalizeLiquidityOperation
  | rebalance (deadline : ℕ)
  | syncReference
  | updateKeeper (keeper : String)
  | updateThresholds (thresholds : Thresholds)
  | updateFeeConfig (feeRegistry feeCollector : Option String)
  | transferAdmin (admin : String)
  | acceptAdmin
  | cancelAdminTransfer
  | revokeLiquidityContract
  | pause
  | resume
  deriving DecidableEq

/-- What the two contracts send: to a token, to bot-liquidity, to the vault, and the hook of a share
transfer to its receiver. -/
inductive WasmMsg where
  | cw20 (contractAddr : String) (msg : Cw20ExecuteMsg)
  | mintTo (contractAddr : String) (recipient : String) (amount : Uint128)
  | vault (contractAddr : String) (msg : VaultExecuteMsg)
  | receive (hook : CosmWasm.Cw20Base.ReceiveHook)
  deriving DecidableEq

structure RebalanceStatusResponse where
  shouldRebalance : Bool
  priceDeviationBps : ℕ
  allocationDeviationBps : ℕ
  referencePrice : Decimal
  currentPrice : Decimal

structure RebalancePlanResponse where
  shouldRebalance : Bool
  capturedTwap : Decimal
  balances : Fin 2 → Uint128
  priceDeviationBps : ℕ
  allocationDeviationBps : ℕ
  referencePrice : Decimal
  offerToken : Option String
  amount : Option Uint128
  minReturn : Option Uint128
  maxSpread : Decimal
  deriving DecidableEq

structure InstantiateMsg where
  admin : String
  keeper : String
  proxy : String
  factory : String
  pair : String
  pairCodeId : ℕ
  liquidityCodeId : ℕ
  twapWindowSeconds : ℕ
  rebalanceThresholdBps : Option ℕ
  allocationToleranceBps : Option ℕ
  maxTradeBps : Option ℕ
  maxExecutionDeviationBps : Option ℕ
  quoteSlippageBps : Option ℕ
  maxSpotTwapDeviationBps : Option ℕ
  maxTradePoolBps : Option ℕ
  maxSpread : Option Decimal
  feeRegistry : Option String
  feeCollector : Option String

end Cl8yDexBots.Rebalancer.State
