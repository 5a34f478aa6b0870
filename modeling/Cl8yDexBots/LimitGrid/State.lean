import Cl8yDexBots.CosmWasm.Pair
import Cl8yDexBots.Foundation.StorageMap

/-! State, messages and errors of the limit-grid vault. -/

namespace Cl8yDexBots.LimitGrid.State

open Std Foundation.Checked Foundation.Words Foundation.SubMessages CosmWasm.Std CosmWasm.Pair

inductive ContractError where
  | std (error : StdError)
  | overflow
  | unauthorized
  | invalidGrid
  | invalidFeeConfig
  | invalidPair
  | pairCodeMismatch
  | unsupportedAsset
  | unexpectedFunds
  | missingGasFunds
  | unsupportedToken
  | tokenNotAllowed
  | tokenQuarantined
  | zeroAmount
  | emptySide
  | nothingToAllocate
  | nothingToReconcile
  | insufficientGasCredit
  | invalidOrderOwner
  | invalidOrder
  | invalidPlacementReply
  | unknownReply
  | insufficientBalance
  | activeOrders
  | insufficientShares
  | activeOrderLimit
  | invalidFillReport
  | unsupportedTokenBehavior
  | unsettledOrder
  | botAlreadyExists
  | invalidMode
  | exitOrdersRemain
  | orderStatusUnverifiable
  | arithmeticOutOfRange
  | nonCanonicalAddress (field expected : String)
  deriving DecidableEq

instance : StdFailure ContractError where
  ofStd
    | .arithmetic .overflow => .overflow
    | e => .std e

abbrev Result := Except ContractError

inductive LimitOrderSide where
  | bid
  | ask
  deriving DecidableEq

def LimitOrderSide.tokenIndex : LimitOrderSide → Fin 2
  | .ask => 0
  | .bid => 1

structure Config where
  admin : Addr
  owner : Addr
  pendingAdmin : Option Addr
  keeper : Addr
  factory : Addr
  gasDenom : String
  keeperReward : Uint128
  minimumGasReserve : Uint128
  orderTimeoutSeconds : ℕ
  maxGridCount : ℕ
  maxOrdersPerReconcile : ℕ
  maxActiveOrdersPerBot : ℕ
  feeRegistry : Option Addr
  feeCollector : Option Addr
  deriving DecidableEq

inductive VaultMode where
  | active
  | paused
  | exit
  deriving DecidableEq

structure Bot where
  owner : Addr
  pair : Addr
  pairCodeId : ℕ
  assetTokens : Fin 2 → Addr
  lowerPrice : Decimal
  upperPrice : Decimal
  gridCount : ℕ
  referencePrice : Decimal
  freeBalances : Fin 2 → Uint128
  totalShares : Uint128
  gasCredit : Uint128
  activeOrders : ℕ
  pairBatchLimit : ℕ
  deriving DecidableEq

def Bot.setFree (bot : Bot) (index : Fin 2) (amount : Uint128) : Bot :=
  { bot with freeBalances := Function.update bot.freeBalances index amount }

structure CachedEffectiveFee where
  feeBps : ℕ
  tierId : Option ℕ
  deriving DecidableEq

structure Rung where
  price : Decimal
  side : Option LimitOrderSide
  deriving DecidableEq

structure GridOrder where
  rungIndex : ℕ
  side : LimitOrderSide
  price : Decimal
  remaining : Uint128
  deriving DecidableEq

structure PlacementPlan where
  botId : ℕ
  side : LimitOrderSide
  rungs : List ℕ
  grossAmounts : List Uint128
  deriving DecidableEq

structure CancelledOrder where
  rungIndex : ℕ
  side : LimitOrderSide
  price : Decimal
  remaining : Uint128
  cancelledAt : ℕ
  deriving DecidableEq

inductive PageKind where
  | cancel
  | claim
  deriving DecidableEq

structure PendingPageEntry where
  orderId : ℕ
  tokenIndex : Fin 2
  refund : Uint128
  deriving DecidableEq

structure PendingPage where
  botId : ℕ
  kind : PageKind
  entries : List PendingPageEntry
  deriving DecidableEq

def BOT_ID : ℕ := 1

-- Only `BOT_ID` is ever saved, so the maps that the source keys by bot hold that bot's part.
structure Storage where
  config : Config
  vaultMode : VaultMode
  nextReplyId : ℕ
  bot : Option Bot
  rungs : ExtTreeMap ℕ Rung
  orders : ExtTreeMap ℕ GridOrder
  cancelledOrders : ExtTreeMap ℕ CancelledOrder
  shares : ExtTreeMap Addr Uint128
  placements : ExtTreeMap ℕ PlacementPlan
  pendingPages : ExtTreeMap ℕ PendingPage
  allowedTokens : ExtTreeMap Addr Unit
  tokenPolicyEnabled : Bool
  quarantine : ExtTreeMap Addr Unit
  effectiveFeeCache : ExtTreeMap Addr CachedEffectiveFee

def loadBot (st : Storage) (botId : ℕ) : Result Bot :=
  if botId = BOT_ID then orError st.bot (.std (.notFound "bot")) else .error (.std (.notFound "bot"))

@[simp] lemma loadBot_eq_ok {st : Storage} {botId : ℕ} {bot : Bot} :
    loadBot st botId = .ok bot ↔ botId = BOT_ID ∧ st.bot = some bot := by
  rw [loadBot]
  split <;> simp_all

def sharesOf (st : Storage) (holder : Addr) : Uint128 := st.shares[holder]?.getD 0

structure LimitOrderResponse where
  orderId : ℕ
  owner : String
  side : LimitOrderSide
  price : Decimal
  remaining : Uint128
  deriving DecidableEq

structure ExpiredLimitRefundResponse where
  orderId : ℕ
  owner : String
  side : LimitOrderSide
  remaining : Uint128
  deriving DecidableEq

structure EffectiveFeeResponse where
  feeBps : ℕ
  tierId : Option ℕ
  source : String

/-- The chain as the vault sees it: address validation and the queries it sends. -/
structure Querier where
  addrValidate : String → Except StdError Addr
  codeId : Addr → Except StdError ℕ
  pair : Addr → Except StdError PairInfo
  factoryPair : Addr → (Fin 2 → AssetInfo) → Except StdError PairInfo
  tokenDecimals : Addr → Except StdError ℕ
  maxBatchRungs : Addr → Except StdError ℕ
  pool : Addr → Except StdError PoolResponse
  limitOrder : Addr → ℕ → Except StdError LimitOrderResponse
  expiredLimitRefund : Addr → ℕ → Except StdError (Option ExpiredLimitRefundResponse)
  balance : Addr → Addr → Except StdError Uint128
  effectiveFee : Addr → Addr → Except StdError EffectiveFeeResponse

structure LimitOrderPlacementItem where
  price : Decimal
  amount : Uint128
  maxAdjustSteps : ℕ
  expiresAt : Option ℕ
  hintAfterOrderId : Option ℕ
  deriving DecidableEq

inductive PairCw20HookMsg where
  | placeLimitOrderBatch (side : LimitOrderSide) (orders : List LimitOrderPlacementItem)
  deriving DecidableEq

inductive Cw20ExecuteMsg where
  | transfer (recipient : Addr) (amount : Uint128)
  | send (contract : Addr) (amount : Uint128) (msg : PairCw20HookMsg)
  deriving DecidableEq

inductive PairExecuteMsg where
  | cancelLimitOrders (orderIds : List ℕ)
  | claimExpiredLimitOrders (orderIds : List ℕ)
  deriving DecidableEq

inductive CosmosMsg where
  | token (contractAddr : Addr) (msg : Cw20ExecuteMsg)
  | pair (contractAddr : Addr) (msg : PairExecuteMsg)
  | bank (toAddress : Addr) (amount : List Coin)
  deriving DecidableEq

abbrev Executed := Result (Storage × Response CosmosMsg)

inductive ReceiveMsg where
  | deposit (botId : ℕ)
  deriving DecidableEq

/-- `msg` is `none` where the hook does not decode. -/
structure Cw20ReceiveMsg where
  sender : String
  amount : Uint128
  msg : Option ReceiveMsg
  deriving DecidableEq

structure InstantiateMsg where
  admin : String
  owner : String
  keeper : String
  factory : String
  gasDenom : String
  keeperReward : Uint128
  minimumGasReserve : Uint128
  orderTimeoutSeconds : ℕ
  maxGridCount : ℕ
  maxOrdersPerReconcile : ℕ
  maxActiveOrdersPerBot : ℕ
  feeRegistry : Option String
  feeCollector : Option String

inductive ExecuteMsg where
  | createBot (pair : String) (lowerPrice upperPrice : Decimal) (gridCount : ℕ)
  | receive (msg : Cw20ReceiveMsg)
  | fundGas (botId : ℕ)
  | withdrawGas (botId : ℕ) (amount : Uint128) (recipient : Option String)
  | allocate (botId : ℕ)
  | syncBalances (botId : ℕ)
  | reconcile (botId : ℕ) (orderIds : List ℕ)
  | recoverOrder (botId orderId rungIndex : ℕ)
  | cancelAll (botId : ℕ)
  | withdraw (botId : ℕ) (shares : Uint128) (recipient : Option String)
  | redeemShares (botId : ℕ) (recipient : Option String)
  | updateKeeper (keeper : String)
  | updatePairCode (botId codeId : ℕ)
  | addAllowedToken (token : String)
  | removeAllowedToken (token : String)
  | quarantineToken (token : String)
  | unquarantineToken (token : String)
  | transferAdmin (admin : String)
  | acceptAdmin
  | pause
  | resume
  | enterExit (botId : ℕ)
  | emergencyCancel (botId : ℕ)
  | emergencyWithdraw (botId : ℕ) (recipient : Option String)
  deriving DecidableEq

end Cl8yDexBots.LimitGrid.State
