import Cl8yDexBots.CosmWasm.Std

/-! The cw20_base token that a contract embeds: its messages, and what it documents about them. -/

namespace Cl8yDexBots.CosmWasm.Cw20Base

open Foundation.Words Foundation.SubMessages CosmWasm.Std

inductive Expiration where
  | atHeight (height : ℕ)
  | atTime (time : ℕ)
  | never
  deriving DecidableEq

inductive BaseExecuteMsg where
  | transfer (recipient : String) (amount : Uint128)
  | burn (amount : Uint128)
  | send (contract : String) (amount : Uint128) (msg : String)
  | mint (recipient : String) (amount : Uint128)
  | increaseAllowance (spender : String) (amount : Uint128) (expires : Option Expiration)
  | decreaseAllowance (spender : String) (amount : Uint128) (expires : Option Expiration)
  | transferFrom (owner recipient : String) (amount : Uint128)
  | burnFrom (owner : String) (amount : Uint128)
  | sendFrom (owner contract : String) (amount : Uint128) (msg : String)
  | updateMarketing (project description marketing : Option String)
  | uploadLogo (logo : String)
  deriving DecidableEq

namespace BaseExecuteMsg

def spent (sender : Addr) : BaseExecuteMsg → Option (Addr × Uint128)
  | .transfer _ amount | .burn amount | .send _ amount _ => some (sender, amount)
  | .transferFrom owner _ amount | .burnFrom owner amount | .sendFrom owner _ amount _ =>
    some (owner, amount)
  | _ => none

def minted : BaseExecuteMsg → ℕ
  | .mint _ amount => amount.val
  | _ => 0

def burned : BaseExecuteMsg → ℕ
  | .burn amount | .burnFrom _ amount => amount.val
  | _ => 0

def grants : BaseExecuteMsg → Bool
  | .increaseAllowance .. => true
  | _ => false

end BaseExecuteMsg

structure ReceiveHook where
  contract : String
  sender : String
  amount : Uint128
  msg : String
  deriving DecidableEq

structure Answer where
  hook : Option ReceiveHook
  attributes : List (String × String)

structure InstantiateMsg where
  name : String
  symbol : String
  decimals : ℕ
  minter : String
  marketing : Option String

/-- The token as a parameter: `L` is its storage. -/
class Token (L : Type) where
  totalSupply : L → Uint128
  balance : L → Addr → Uint128
  allowance : L → Addr → Addr → Uint128
  instantiate : InstantiateMsg → Except String L
  execute : Env → L → MessageInfo → BaseExecuteMsg → Except String (L × Answer)

/-- The token keeps its books. -/
class LawfulToken (L : Type) [Token L] : Prop where
  balance_le (l : L) (a : Addr) : (Token.balance l a).val ≤ (Token.totalSupply l).val
  instantiate {msg : InstantiateMsg} {l : L} (h : Token.instantiate msg = .ok l) :
    Token.totalSupply l = 0 ∧ ∀ owner spender, Token.allowance l owner spender = 0
  supply {env : Env} {l l' : L} {info : MessageInfo} {msg : BaseExecuteMsg} {r : Answer}
    (h : Token.execute env l info msg = .ok (l', r)) :
    (Token.totalSupply l').val + msg.burned = (Token.totalSupply l).val + msg.minted
  spends {env : Env} {l l' : L} {info : MessageInfo} {msg : BaseExecuteMsg} {r : Answer}
    (h : Token.execute env l info msg = .ok (l', r)) (a : Addr) :
    (Token.balance l a).val ≤ (Token.balance l' a).val ∨ ∃ amount, msg.spent info.sender = some (a, amount)
      ∧ (a ≠ info.sender → amount.val ≤ (Token.allowance l a info.sender).val)
      ∧ (Token.balance l a).val ≤ (Token.balance l' a).val + amount.val
  grants {env : Env} {l l' : L} {info : MessageInfo} {msg : BaseExecuteMsg} {r : Answer}
    (h : Token.execute env l info msg = .ok (l', r)) (owner spender : Addr)
    (hg : msg.grants = true → owner ≠ info.sender) :
    (Token.allowance l' owner spender).val ≤ (Token.allowance l owner spender).val
  mints {env : Env} {l l' : L} {info : MessageInfo} {recipient : String} {amount : Uint128}
    {r : Answer} (h : Token.execute env l info (.mint recipient amount) = .ok (l', r)) :
    (Token.balance l' recipient).val = (Token.balance l recipient).val + amount.val

end Cl8yDexBots.CosmWasm.Cw20Base
