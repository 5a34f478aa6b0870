import Cl8yDexBots.Rebalancer.State

/-! The bot-liquidity contract: LP shares of a bot-vault, and the operations that mint and burn them. -/

namespace Cl8yDexBots.Rebalancer.Liquidity

open Foundation.Checked Foundation.Words Foundation.SubMessages CosmWasm.Std CosmWasm.Cw20Base
open SwapVault.Pricing State

inductive LiquidityError where
  | std (error : StdError)
  | cw20 (error : String)
  | operationPending
  | zeroAmount
  | expired
  | invalidDepositSwap
  | invalidWithdrawalSwap
  | invalidDepositSettlement
  | minimumNotMet
  | initialDepositTooSmall
  | invalidMinimumInitialDeposit
  | bootstrapComplete
  | zeroShares
  | allocationOutsideTolerance
  | insufficientShares
  | unauthorized
  | invalidVault
  | unknownReply
  deriving DecidableEq

instance : StdFailure LiquidityError := ⟨.std⟩

structure LiquidityConfig where
  admin : Addr
  vault : Addr
  assetTokens : Fin 2 → Addr
  minimumInitialDeposit : Uint128
  deriving DecidableEq

inductive PendingOperation where
  | deposit (depositor : Addr) (preBalances : Fin 2 → Uint128) (preSupply : Uint128) (price : Decimal)
      (minShares : Uint128) (swap : Option SwapParams)
  | withdrawSingle (owner : Addr) (shares : Uint128) (recipient : Addr) (payoutToken : Addr)
      (baseAmount prePayoutBalance minAmount : Uint128) (swap : SwapParams)
  | authorizedTransfers (transfers : List AuthorizedTransfer) (repliesRemaining : ℕ)
  deriving DecidableEq

structure Shares (L : Type) where
  config : LiquidityConfig
  pending : Option PendingOperation
  pendingAdmin : Option Addr
  token : L

inductive WithdrawalType where
  | proRata (minAssets : Fin 2 → Uint128)
  | token0 (minAmount : Uint128) (swap : SwapParams)
  | token1 (minAmount : Uint128) (swap : SwapParams)
  deriving DecidableEq

structure LiquidityInstantiateMsg where
  admin : String
  vault : String
  name : String
  symbol : String
  decimals : ℕ
  minimumInitialDeposit : Uint128
  marketing : Option String

inductive LiquidityExecuteMsg where
  | updateConfig (minimumInitialDeposit : Option Uint128)
  | transferAdmin (admin : String)
  | acceptAdmin
  | cancelAdminTransfer
  | deposit (amounts : Fin 2 → Uint128) (minShares : Uint128) (deadline : ℕ) (swap : Option SwapParams)
  | withdraw (shares : Uint128) (recipient : Option String) (deadline : ℕ) (output : WithdrawalType)
  | mintTo (recipient : String) (amount : Uint128)
  | transfer (recipient : String) (amount : Uint128)
  | burn (amount : Uint128)
  | send (contract : String) (amount : Uint128) (msg : String)
  | increaseAllowance (spender : String) (amount : Uint128) (expires : Option Expiration)
  | decreaseAllowance (spender : String) (amount : Uint128) (expires : Option Expiration)
  | transferFrom (owner recipient : String) (amount : Uint128)
  | burnFrom (owner : String) (amount : Uint128)
  | sendFrom (owner contract : String) (amount : Uint128) (msg : String)
  | updateMarketing (project description marketing : Option String)
  | uploadLogo (logo : String)
  deriving DecidableEq

structure VaultConfigResponse where
  assetTokens : Fin 2 → String
  decimals : ℕ
  allocationToleranceBps : ℕ

structure VaultQuerier where
  addrValidate : String → Except StdError Addr
  vaultConfig : Addr → Except StdError VaultConfigResponse
  vaultBalances : Addr → Except StdError (Fin 2 → Uint128)
  vaultPrice : Addr → Except StdError Decimal
  rebalanceStatus : Addr → Except StdError RebalanceStatusResponse
  balance : Addr → Addr → Except StdError Uint128

abbrev Outcome := Except LiquidityError

def depositReplyId : ℕ := 1

def withdrawReplyId : ℕ := 2

def transferReplyId : ℕ := 3

def lockedInitialShares : Uint128 := ⟨1000, by decide⟩

variable {L : Type} [Token L]

def assertNoPending (st : Shares L) : Outcome Unit := ensure st.pending.isNone .operationPending

def assertAdmin (config : LiquidityConfig) (sender : Addr) : Outcome Unit :=
  ensure (sender = config.admin) .unauthorized

def cw20Result {α : Type} (x : Except String α) : Outcome α :=
  match x with
  | .ok a => .ok a
  | .error e => .error (.cw20 e)

def mintShares (env : Env) (token : L) (recipient : String) (amount : Uint128) : Outcome L := do
  let (token, _) ← cw20Result (Token.execute env token ⟨env.contract, []⟩ (.mint recipient amount))
  .ok token

def burnShares (env : Env) (token : L) (info : MessageInfo) (amount : Uint128) : Outcome L := do
  let (token, _) ← cw20Result (Token.execute env token info (.burn amount))
  .ok token

def nav (balances : Fin 2 → Uint128) (price : Decimal) : Outcome Uint128 := do
  ensure (!price.isZero) .invalidVault
  narrow (genericErr "NAV overflow")
    ((balances 0).val + (balances 1).val * decimalFractional / price.atomics.val)

def proportionalDepositShares (preBalances postBalances : Fin 2 → Uint128) (supply : Uint128) :
    Outcome Uint128 := do
  ensure (!isZero (preBalances 0) && !isZero (preBalances 1)) .invalidDepositSettlement
  let added0 ← withError .invalidDepositSettlement
    (checkedSub (postBalances 0) (preBalances 0) : Except StdError Uint128)
  let added1 ← withError .invalidDepositSettlement
    (checkedSub (postBalances 1) (preBalances 1) : Except StdError Uint128)
  let shares0 ← checkedRatio added0 supply (preBalances 0)
  let shares1 ← checkedRatio added1 supply (preBalances 1)
  .ok (min shares0 shares1)

def vaultTransfer (config : LiquidityConfig) (transfer : AuthorizedTransfer) : WasmMsg :=
  .vault config.vault (.transferTo transfer.token transfer.amount transfer.recipient)

def instantiate (q : VaultQuerier) (env : Env) (msg : LiquidityInstantiateMsg) :
    Outcome (Shares L × Response WasmMsg) := do
  ensure (lockedInitialShares < msg.minimumInitialDeposit) .invalidMinimumInitialDeposit
  let admin ← liftStd (q.addrValidate msg.admin)
  let vault ← liftStd (q.addrValidate msg.vault)
  let vaultConfig ← liftStd (q.vaultConfig vault)
  ensure (vaultConfig.decimals == msg.decimals) .invalidVault
  let token0 ← liftStd (q.addrValidate (vaultConfig.assetTokens 0))
  let token1 ← liftStd (q.addrValidate (vaultConfig.assetTokens 1))
  let token ← cw20Result (Token.instantiate ⟨msg.name, msg.symbol, msg.decimals, env.contract,
    msg.marketing⟩)
  .ok ({ config := { admin, vault, assetTokens := ![token0, token1],
                     minimumInitialDeposit := msg.minimumInitialDeposit },
         pending := none, pendingAdmin := none, token },
    ⟨[], [("action", "instantiate")]⟩)

/-- `supportedSource` says whether the stored name and version are ones a migration starts from. -/
def migrate (st : Shares L) (supportedSource : Bool) : Outcome (Shares L × Response WasmMsg) := do
  ensure supportedSource (genericErr "unsupported migration source")
  assertNoPending st
  .ok ({ st with pendingAdmin := none }, ⟨[], [("action", "migrate_bot_liquidity")]⟩)

def executeMintTo (q : VaultQuerier) (env : Env) (st : Shares L) (info : MessageInfo)
    (recipient : String) (amount : Uint128) : Outcome (Shares L × Response WasmMsg) := do
  ensure (info.sender = st.config.vault) .unauthorized
  ensure (!isZero amount) .zeroAmount
  let _ ← liftStd (q.addrValidate recipient)
  let token ← mintShares env st.token recipient amount
  .ok ({ st with token },
    ⟨[], [("action", "liquidity_mint_to"), ("recipient", recipient),
      ("amount", toString amount.val)]⟩)

/-- The swap of a deposit spends no more of a token than is deposited of it, and not later. -/
def validateDepositSwap (q : VaultQuerier) (config : LiquidityConfig) (amounts : Fin 2 → Uint128)
    (deadline : ℕ) : Option SwapParams → Outcome Unit
  | none => .ok ()
  | some params => do
    let offer ← liftStd (q.addrValidate params.offerToken)
    let index ← orError (tokenIndex config offer) .invalidDepositSwap
    ensure (!isZero params.amount ∧ params.amount ≤ amounts index ∧ params.deadline ≤ deadline)
      .invalidDepositSwap
where
  tokenIndex (config : LiquidityConfig) (offer : Addr) : Option (Fin 2) :=
    if config.assetTokens 0 = offer then some 0
    else if config.assetTokens 1 = offer then some 1
    else none

def payIn (config : LiquidityConfig) (depositor : Addr) (amounts : Fin 2 → Uint128) :
    List (SubMsg WasmMsg) :=
  ([0, 1] : List (Fin 2)).filterMap fun i =>
    if isZero (amounts i) then none
    else some (.plain (.cw20 (config.assetTokens i)
      (.transferFrom depositor config.vault (amounts i))))

def settleDeposit : Option SwapParams → VaultExecuteMsg
  | some params => .liquiditySwap params
  | none => .finalizeLiquidityOperation

def executeDeposit (q : VaultQuerier) (env : Env) (st : Shares L) (info : MessageInfo)
    (amounts : Fin 2 → Uint128) (minShares : Uint128) (deadline : ℕ) (swap : Option SwapParams) :
    Outcome (Shares L × Response WasmMsg) := do
  assertNoPending st
  ensure (!(isZero (amounts 0) && isZero (amounts 1))) .zeroAmount
  ensure (env.blockTime ≤ deadline) .expired
  validateDepositSwap q st.config amounts deadline swap
  let preBalances ← liftStd (q.vaultBalances st.config.vault)
  let price ← liftStd (q.vaultPrice st.config.vault)
  .ok ({ st with pending := some (.deposit info.sender preBalances (Token.totalSupply st.token) price
          minShares swap) },
    ⟨payIn st.config info.sender amounts
        ++ [.replyOnSuccess (.vault st.config.vault (settleDeposit swap)) depositReplyId],
      [("action", "deposit"), ("depositor", info.sender)]⟩)

def executeProRata (env : Env) (st : Shares L) (info : MessageInfo) (recipient : Addr)
    (shares : Uint128) (claims minAssets : Fin 2 → Uint128) : Outcome (Shares L × Response WasmMsg) := do
  ensure (minAssets 0 ≤ claims 0 ∧ minAssets 1 ≤ claims 1) .minimumNotMet
  let transfers := ([0, 1] : List (Fin 2)).filterMap fun i =>
    if isZero (claims i) then none
    else some (⟨st.config.assetTokens i, claims i, recipient⟩ : AuthorizedTransfer)
  ensure (!transfers.isEmpty) .zeroAmount
  let token ← burnShares env st.token info shares
  .ok ({ st with pending := some (.authorizedTransfers transfers transfers.length), token },
    ⟨transfers.map fun transfer => .replyOnSuccess (vaultTransfer st.config transfer) transferReplyId,
      [("action", "withdraw_pro_rata")]⟩)

def executeSingleWithdraw (q : VaultQuerier) (st : Shares L) (info : MessageInfo) (recipient : Addr)
    (shares : Uint128) (claims : Fin 2 → Uint128) (payout : Fin 2) (minAmount : Uint128)
    (swap : SwapParams) (deadline : ℕ) : Outcome (Shares L × Response WasmMsg) := do
  ensure (swap.offerToken = st.config.assetTokens (1 - payout) ∧ swap.amount = claims (1 - payout)
    ∧ swap.deadline ≤ deadline ∧ !isZero swap.amount) .invalidWithdrawalSwap
  let balances ← liftStd (q.vaultBalances st.config.vault)
  .ok ({ st with pending := some (.withdrawSingle info.sender shares recipient
          (st.config.assetTokens payout) (claims payout) (balances payout) minAmount swap) },
    ⟨[.replyAlways (.vault st.config.vault (.liquiditySwap swap)) withdrawReplyId],
      [("action", "withdraw_single")]⟩)

def executeWithdraw (q : VaultQuerier) (env : Env) (st : Shares L) (info : MessageInfo)
    (shares : Uint128) (recipient : Option String) (deadline : ℕ) (output : WithdrawalType) :
    Outcome (Shares L × Response WasmMsg) := do
  assertNoPending st
  ensure (!isZero shares) .zeroAmount
  ensure (env.blockTime ≤ deadline) .expired
  ensure (shares ≤ Token.balance st.token info.sender) .insufficientShares
  let supply := Token.totalSupply st.token
  let balances ← liftStd (q.vaultBalances st.config.vault)
  let claim0 ← checkedRatio (balances 0) shares supply
  let claim1 ← checkedRatio (balances 1) shares supply
  let recipient ← liftStd (q.addrValidate (recipient.getD info.sender))
  match output with
  | .proRata minAssets => executeProRata env st info recipient shares ![claim0, claim1] minAssets
  | .token0 minAmount swap =>
    executeSingleWithdraw q st info recipient shares ![claim0, claim1] 0 minAmount swap deadline
  | .token1 minAmount swap =>
    executeSingleWithdraw q st info recipient shares ![claim0, claim1] 1 minAmount swap deadline

/-- The shares a deposit is worth, after minting the locked ones where it is the first. -/
def depositShares (env : Env) (st : Shares L) (preBalances postBalances : Fin 2 → Uint128)
    (preSupply preNav depositValue : Uint128) : Outcome (L × Uint128) :=
  if isZero preSupply then do
    ensure (st.config.minimumInitialDeposit ≤ depositValue ∧ lockedInitialShares < depositValue)
      .initialDepositTooSmall
    let lockedShares ← checkedAdd preNav lockedInitialShares
    let token ← mintShares env st.token env.contract lockedShares
    let userShares ← subOrPanic depositValue lockedInitialShares
    .ok (token, userShares)
  else do
    let userShares ← proportionalDepositShares preBalances postBalances preSupply
    .ok (st.token, userShares)

def completeDeposit (q : VaultQuerier) (env : Env) (st : Shares L) :
    Outcome (Shares L × Response WasmMsg) :=
  match st.pending with
  | some (.deposit depositor preBalances preSupply price minShares _) => do
    let postBalances ← liftStd (q.vaultBalances st.config.vault)
    ensure (preBalances 0 ≤ postBalances 0 ∧ preBalances 1 ≤ postBalances 1)
      .invalidDepositSettlement
    let status ← liftStd (q.rebalanceStatus st.config.vault)
    let vaultConfig ← liftStd (q.vaultConfig st.config.vault)
    ensure (status.allocationDeviationBps ≤ vaultConfig.allocationToleranceBps)
      .allocationOutsideTolerance
    let preNav ← nav preBalances price
    let postNav ← nav postBalances price
    let depositValue ← withError .invalidDepositSettlement
      (checkedSub postNav preNav : Except StdError Uint128)
    let (token, userShares) ← depositShares env st preBalances postBalances preSupply preNav depositValue
    ensure (!isZero userShares) .zeroShares
    ensure (minShares ≤ userShares) .minimumNotMet
    let token ← mintShares env token depositor userShares
    .ok ({ st with pending := none, token },
      ⟨[], [("action", "complete_deposit"), ("depositor", depositor),
        ("deposit_value", toString depositValue.val), ("shares", toString userShares.val)]⟩)
  | none => .error (.std (.notFound "PendingOperation"))
  | some _ => .error .unknownReply

def completeSingleWithdraw (q : VaultQuerier) (env : Env) (st : Shares L) (result : Except String Unit) :
    Outcome (Shares L × Response WasmMsg) :=
  match st.pending with
  | some (.withdrawSingle owner shares recipient payoutToken baseAmount prePayoutBalance minAmount _) =>
    match result with
    | .error _ =>
      .ok ({ st with pending := none },
        ⟨[], [("action", "withdraw_single_failed"), ("owner", owner)]⟩)
    | .ok _ => do
      let current ← liftStd (q.balance payoutToken st.config.vault)
      let received ← withError .invalidDepositSettlement
        (checkedSub current prePayoutBalance : Except StdError Uint128)
      let payout ← checkedAdd baseAmount received
      ensure (minAmount ≤ payout) .minimumNotMet
      let token ← burnShares env st.token ⟨owner, []⟩ shares
      let transfer : AuthorizedTransfer := ⟨payoutToken, payout, recipient⟩
      .ok ({ st with pending := some (.authorizedTransfers [transfer] 1), token },
        ⟨[.replyOnSuccess (vaultTransfer st.config transfer) transferReplyId],
          [("action", "complete_single_withdraw"), ("recipient", recipient),
            ("amount", toString payout.val)]⟩)
  | none => .error (.std (.notFound "PendingOperation"))
  | some _ => .error .unknownReply

def completeAuthorizedTransfer (st : Shares L) : Outcome (Shares L × Response WasmMsg) :=
  match st.pending with
  | some (.authorizedTransfers transfers repliesRemaining) =>
    match repliesRemaining with
    | 0 => .error .unknownReply
    | 1 =>
      .ok ({ st with pending := none },
        ⟨[], [("action", "complete_authorized_transfer"), ("remaining", "0")]⟩)
    | remaining + 1 =>
      .ok ({ st with pending := some (.authorizedTransfers transfers remaining) },
        ⟨[], [("action", "complete_authorized_transfer"), ("remaining", toString remaining)]⟩)
  | none => .error (.std (.notFound "PendingOperation"))
  | some _ => .error .unknownReply

def reply (q : VaultQuerier) (env : Env) (st : Shares L) (id : ℕ) (result : Except String Unit) :
    Outcome (Shares L × Response WasmMsg) :=
  if id = depositReplyId then completeDeposit q env st
  else if id = withdrawReplyId then completeSingleWithdraw q env st result
  else if id = transferReplyId then completeAuthorizedTransfer st
  else .error .unknownReply

def executeUpdateConfig (st : Shares L) (info : MessageInfo) (minimumInitialDeposit : Option Uint128) :
    Outcome (Shares L × Response WasmMsg) := do
  assertAdmin st.config info.sender
  match minimumInitialDeposit with
  | some value => do
    ensure (lockedInitialShares < value) .invalidMinimumInitialDeposit
    ensure (isZero (Token.totalSupply st.token)) .bootstrapComplete
    .ok ({ st with config := { st.config with minimumInitialDeposit := value } },
      ⟨[], [("action", "update_config")]⟩)
  | none => .ok (st, ⟨[], [("action", "update_config")]⟩)

def executeTransferAdmin (q : VaultQuerier) (st : Shares L) (info : MessageInfo) (admin : String) :
    Outcome (Shares L × Response WasmMsg) := do
  assertAdmin st.config info.sender
  let pending ← liftStd (q.addrValidate admin)
  .ok ({ st with pendingAdmin := some pending },
    ⟨[], [("action", "propose_admin"), ("current_admin", st.config.admin),
      ("pending_admin", pending)]⟩)

def executeAcceptAdmin (st : Shares L) (info : MessageInfo) : Outcome (Shares L × Response WasmMsg) := do
  ensure (st.pendingAdmin = some info.sender) .unauthorized
  .ok ({ st with config := { st.config with admin := info.sender }, pendingAdmin := none },
    ⟨[], [("action", "accept_admin"), ("previous_admin", st.config.admin),
      ("admin", info.sender)]⟩)

def executeCancelAdminTransfer (st : Shares L) (info : MessageInfo) :
    Outcome (Shares L × Response WasmMsg) := do
  assertAdmin st.config info.sender
  .ok ({ st with pendingAdmin := none }, ⟨[], [("action", "cancel_admin_transfer")]⟩)

def executeCw20 (env : Env) (st : Shares L) (info : MessageInfo) (msg : BaseExecuteMsg) :
    Outcome (Shares L × Response WasmMsg) := do
  assertNoPending st
  let (token, answer) ← cw20Result (Token.execute env st.token info msg)
  .ok ({ st with token }, ⟨answer.hook.toList.map fun hook => .plain (.receive hook), answer.attributes⟩)

def execute (q : VaultQuerier) (env : Env) (st : Shares L) (info : MessageInfo) :
    LiquidityExecuteMsg → Outcome (Shares L × Response WasmMsg)
  | .deposit amounts minShares deadline swap =>
    executeDeposit q env st info amounts minShares deadline swap
  | .withdraw shares recipient deadline output =>
    executeWithdraw q env st info shares recipient deadline output
  | .updateConfig minimumInitialDeposit => executeUpdateConfig st info minimumInitialDeposit
  | .transferAdmin admin => executeTransferAdmin q st info admin
  | .acceptAdmin => executeAcceptAdmin st info
  | .cancelAdminTransfer => executeCancelAdminTransfer st info
  | .mintTo recipient amount => executeMintTo q env st info recipient amount
  | .transfer recipient amount => executeCw20 env st info (.transfer recipient amount)
  | .burn amount => executeCw20 env st info (.burn amount)
  | .send contract amount msg => executeCw20 env st info (.send contract amount msg)
  | .increaseAllowance spender amount expires =>
    executeCw20 env st info (.increaseAllowance spender amount expires)
  | .decreaseAllowance spender amount expires =>
    executeCw20 env st info (.decreaseAllowance spender amount expires)
  | .transferFrom owner recipient amount =>
    executeCw20 env st info (.transferFrom owner recipient amount)
  | .burnFrom owner amount => executeCw20 env st info (.burnFrom owner amount)
  | .sendFrom owner contract amount msg => executeCw20 env st info (.sendFrom owner contract amount msg)
  | .updateMarketing project description marketing =>
    executeCw20 env st info (.updateMarketing project description marketing)
  | .uploadLogo logo => executeCw20 env st info (.uploadLogo logo)

def liquidityAuthorization (st : Shares L) : LiquidityAuthorizationResponse :=
  match st.pending with
  | some (.deposit _ _ _ _ _ swap) => ⟨swap, [], swap.isNone⟩
  | some (.withdrawSingle _ _ _ _ _ _ _ swap) => ⟨some swap, [], false⟩
  | some (.authorizedTransfers transfers _) => ⟨none, transfers, false⟩
  | none => ⟨none, [], false⟩

def configResponse (st : Shares L) : LiquidityConfigResponse :=
  { admin := st.config.admin, pendingAdmin := st.pendingAdmin, vault := st.config.vault,
    assetTokens := st.config.assetTokens, minimumInitialDeposit := st.config.minimumInitialDeposit }

end Cl8yDexBots.Rebalancer.Liquidity
