import Cl8yDexBots.Services.Tracker

/-! The swap keeper: one vault, one tracker file. -/

namespace Cl8yDexBots.Services.SwapKeeper

open Foundation.Checked Foundation.Durable Values Tracker

inductive CommandError where
  | rpcError (detail : String)
  | other (name : String)

def CommandError.toPy : CommandError → PyError
  | rpcError detail => .rpcError detail
  | other name => .other name

inductive Command where
  | smartQuery (contract : String) (message : Json)
  | preflight (contract : String) (message : Json)
  | signExecute (contract : String) (message : Json)
  | broadcast (signed : String)
  | queryTx (hash : Json)
  | latestHeight

abbrev Reply : Command → Type
  | .smartQuery _ _ | .preflight _ _ | .broadcast _ | .queryTx _ => Except CommandError Json
  | .signExecute _ _ => Except CommandError String
  | .latestHeight => Except CommandError ℤ

def answered {α : Type} : Except CommandError α → Step Reply α
  | .ok a => .ret a
  | .error e => .raise e.toPy

structure Args where
  deadlineSeconds : ℤ
  confirmationBlocks : ℤ
  broadcast : Bool

/-- What the keeper needs of a kind of vault. -/
structure VaultProtocol where
  queryMsg : Json
  buildMessage : Json → ℤ → Py (Option Json)
  noopMessage : Json → Py String
  fingerprint : Json → Json → String → Py String

def checkTx (response : Json) : Py Json := do
  let tx ← txResponse response
  ensure (tx.isDict && tx.has "code") (.rpcError "sync broadcast response omitted transaction code")
  let code ← field tx "code"
  let code ← code.toInt
  if code ≠ 0 then do
    let rawLog ← tx.get "raw_log"
    let log ← tx.get "log"
    let detail := (rawLog.orElse log).orElse (.str "CheckTx failed")
    let text ← detail.text
    if isTransientText text then .error (.rpcError s!"CheckTx code {code}: {text}")
    else .error (.checkTxError code text)
  else do
    let hash ← txHash tx
    ensure hash.truthy (.rpcError "sync broadcast returned no transaction hash")
    .ok hash

def broadcast (vault : String) (message : Json) : Step Reply Json := do
  let signed : Except CommandError String ← request (Command.signExecute vault message)
  let signed ← answered signed
  let response : Except CommandError Json ← request (Command.broadcast signed)
  let response ← answered response
  Script.ofExcept (checkTx response)

def observe (pendingHash result : Json) : Py Observation := do
  let tx ← txResponse result
  let observedHash ← txHash tx
  ensure (tx.has "code" && tx.has "height" && observedHash.truthy) .valueError
  let height ← field tx "height"
  let height ← height.toInt
  let code ← field tx "code"
  let code ← code.toInt
  ensure (0 < height) .valueError
  let observed ← observedHash.lower
  let pending ← pendingHash.lower
  ensure (observed = pending) .valueError
  let rawLog ← tx.get "raw_log"
  let log ← tx.get "log"
  .ok ⟨height, code, rawLog.orElse log⟩

def lookup (pendingHash : Json) : Except CommandError Json → Py (Option Observation)
  | .error (.rpcError _) => .ok none
  | .error e => .error e.toPy
  | .ok result =>
    if result.truthy then
      match observe pendingHash result with
      | .ok found => .ok (some found)
      | .error .attributeError | .error .typeError | .error .valueError => .ok none
      | .error e => .error e
    else .ok none

def look (pendingHash : Json) : Step Reply (Option Observation) := do
  let result : Except CommandError Json ← request (Command.queryTx pendingHash)
  Script.ofExcept (lookup pendingHash result)

def confirmed (args : Args) (height : ℤ) : Step Reply Bool :=
  if args.confirmationBlocks ≠ 0 then do
    let latest : Except CommandError ℤ ← request Command.latestHeight
    let latest ← answered latest
    .ret (decide (height + args.confirmationBlocks ≤ latest))
  else .ret true

def pollPending (args : Args) (rounds : ℕ) : Step Reply Bool := pollRounds look (confirmed args) rounds

def preflight (vault : String) (message : Json) : Step Reply Unit := do
  let checked : Except CommandError Json ← request (Command.preflight vault message)
  let _ ← answered checked
  .ret ()

def keepVault (args : Args) (protocol : VaultProtocol) (vault : String) (now : ℤ) (rounds : ℕ) :
    Step Reply Unit :=
  guarded (pollPending args rounds) fun tracker => do
    let plan : Except CommandError Json ← request (Command.smartQuery vault protocol.queryMsg)
    match plan with
    | .error (.rpcError _) => .ret ()
    | .error e => Script.raise e.toPy
    | .ok plan => do
      let message ← Script.ofExcept (protocol.buildMessage plan (now + args.deadlineSeconds))
      match message with
      | none => do
        standDown
        let _ ← Script.ofExcept (protocol.noopMessage plan)
        .ret ()
      | some message => do
        let fingerprint ← Script.ofExcept (protocol.fingerprint plan message vault)
        if tracker.suppressedPlan = some fingerprint then .ret ()
        else if !args.broadcast then .ret ()
        else trade fingerprint (preflight vault message) (broadcast vault message) (pollPending args rounds)

end Cl8yDexBots.Services.SwapKeeper
