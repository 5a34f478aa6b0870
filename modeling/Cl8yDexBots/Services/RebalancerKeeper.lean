import Cl8yDexBots.Services.Tracker

/-! The rebalancer keeper: one vault, one tracker file, one `terrad` command for a whole broadcast. -/

namespace Cl8yDexBots.Services.RebalancerKeeper

open Foundation.Checked Foundation.Durable Values Tracker

/-- A command that ran to its end; `document` is what `json.loads` makes of `stdout`. -/
structure Completed where
  returncode : ℤ
  stdout : String
  stderr : String
  document : Option Json

inductive HttpFailure where
  | http (code : ℤ)
  | other (name : String)

def HttpFailure.toPy : HttpFailure → PyError
  | http _ => .other "HTTPError"
  | other name => .other name

inductive Command where
  | credential
  | generateOnly (vault : String) (message : Json) (input : Option String)
  | broadcastSync (vault : String) (message : Json) (input : Option String)
  | lcdTx (hash : Json)
  | rpcTx (hash : Json)
  | status
  | smartQuery (vault : String) (message : Json)

/-- A command fails with the exceptions of `subprocess.run`, a query with those of `get_json`. -/
abbrev Reply : Command → Type
  | .credential => Except String (Option String)
  | .generateOnly _ _ _ | .broadcastSync _ _ _ => Except String Completed
  | .lcdTx _ | .rpcTx _ | .status | .smartQuery _ _ => Except HttpFailure Json

structure Args where
  vault : String
  deadlineSeconds : ℤ
  confirmationBlocks : ℤ
  broadcast : Bool
  planFingerprint : Json → Json → Py String

def Completed.detail (result : Completed) : String :=
  let detail := Json.strip result.stderr.toList
  String.ofList (if detail.isEmpty then Json.strip result.stdout.toList else detail)

def runCommand : Except String Completed → Py Completed
  | .error name => .error (.other name)
  | .ok result =>
    if result.returncode ≠ 0 then
      if isTransientText result.detail then .error (.transport result.detail)
      else .error (.commandRejected result.detail)
    else .ok result

def parseSync (document : Option Json) : Py (Json × ℤ) := do
  let tx ← orError document .valueError
  let response ← txResponse tx
  ensure (response.isDict && response.has "code") .valueError
  let code ← field response "code"
  let code ← code.toInt
  .ok (response, code)

def syncResponse (document : Option Json) : Py (Json × ℤ) :=
  match parseSync document with
  | .error .valueError | .error .typeError => .error (.ambiguousBroadcast "invalid sync broadcast response")
  | r => r

def checkTx (document : Option Json) : Py Json := do
  let response ← syncResponse document
  let code := response.2
  if code ≠ 0 then do
    let detail ← response.1.getD "raw_log" (.str "")
    let text ← detail.text
    if isTransientText text then .error (.transport s!"CheckTx code {code}: {text}")
    else .error (.checkTxError code text)
  else do
    let hash ← txHash response.1
    ensure hash.truthy (.ambiguousBroadcast "sync broadcast returned no transaction hash")
    .ok hash

def credential : Step Reply (Option String) := do
  let input : Except String (Option String) ← request Command.credential
  match input with
  | .ok input => .ret input
  | .error name => .raise (.other name)

def preflight (vault : String) (message : Json) : Step Reply Unit := do
  let input ← credential
  let result : Except String Completed ← request (Command.generateOnly vault message input)
  let _ ← Script.ofExcept (runCommand result)
  .ret ()

def broadcast (vault : String) (message : Json) : Step Reply Json := do
  let input ← credential
  let result : Except String Completed ← request (Command.broadcastSync vault message input)
  Script.ofExcept do
    let result ← runCommand result
    checkTx result.document

structure FinalTx where
  code : ℤ
  rawLog : Json
  height : Json
  hash : Json

def readFinal (txHash outer inner observedHash : Json) (log : String) : Py FinalTx := do
  let coded ← inner.contains "code"
  ensure (coded && outer.has "height" && observedHash.truthy) .valueError
  let observed ← observedHash.lower
  let expected ← txHash.lower
  ensure (observed = expected) .valueError
  let rawHeight ← field outer "height"
  let height ← rawHeight.toInt
  ensure (0 < height) .valueError
  let code ← field inner "code"
  let code ← code.toInt
  let rawLog ← inner.getD log (.str "")
  .ok ⟨code, rawLog, rawHeight, observedHash⟩

def lcdFinal (hash reply : Json) : Py FinalTx := do
  let response ← field reply "tx_response"
  let txhash ← response.get "txhash"
  let plain ← response.get "hash"
  readFinal hash response response (txhash.orElse plain) "raw_log"

def rpcFinal (hash response : Json) : Py FinalTx := do
  let result ← field response "tx_result"
  let plain ← response.get "hash"
  let txhash ← response.get "txhash"
  readFinal hash response result (plain.orElse txhash) "log"

def absent {α : Type} : Py α → Py (Option α)
  | .ok a => .ok (some a)
  | .error .attributeError | .error .keyError | .error .typeError | .error .valueError => .ok none
  | .error e => .error e

def rpcLookup (hash : Json) : Except HttpFailure Json → Py (Option FinalTx)
  | .error (.http code) => if code = 404 ∨ code = 500 then .ok none else .error (HttpFailure.http code).toPy
  | .error e => .error e.toPy
  | .ok reply => do
    let response ← reply.get "result"
    if response.truthy then absent (rpcFinal hash response) else .ok none

def lcdLookup (hash : Json) : Except HttpFailure Json → Option FinalTx
  | .error _ => none
  | .ok reply => (lcdFinal hash reply).toOption

/-- The LCD is asked first; whatever it fails with, the RPC node is asked next. -/
def queryFinalTx (hash : Json) : Step Reply (Option FinalTx) := do
  let _ ← Script.ofExcept (match hash with
    | .str _ => .ok ()
    | _ => .error .typeError : Py Unit)
  let lcd : Except HttpFailure Json ← request (Command.lcdTx hash)
  match lcdLookup hash lcd with
  | some found => .ret (some found)
  | none => do
    let rpc : Except HttpFailure Json ← request (Command.rpcTx hash)
    Script.ofExcept (rpcLookup hash rpc)

def seen (pendingHash : Json) (found : FinalTx) : Py Observation := do
  let observed ← found.hash.lower
  let pending ← pendingHash.lower
  ensure (observed = pending) .valueError
  let height ← found.height.toInt
  ensure (0 < height) .valueError
  .ok ⟨height, found.code, found.rawLog⟩

def recheck (pendingHash : Json) : Option FinalTx → Py (Option Observation)
  | none => .ok none
  | some found =>
    match seen pendingHash found with
    | .ok seen => .ok (some seen)
    | .error .attributeError | .error .typeError | .error .valueError => .ok none
    | .error e => .error e

def look (pendingHash : Json) : Step Reply (Option Observation) := do
  let found ← queryFinalTx pendingHash
  Script.ofExcept (recheck pendingHash found)

def latestHeight : Except HttpFailure Json → Py ℤ
  | .error e => .error e.toPy
  | .ok reply => do
    let result ← field reply "result"
    let info ← field result "sync_info"
    let height ← field info "latest_block_height"
    height.toInt

def confirmed (args : Args) (height : ℤ) : Step Reply Bool :=
  if args.confirmationBlocks ≠ 0 then do
    let status : Except HttpFailure Json ← request Command.status
    let latest ← Script.ofExcept (latestHeight status)
    .ret (decide (height + args.confirmationBlocks ≤ latest))
  else .ret true

def pollPending (args : Args) (rounds : ℕ) : Step Reply Bool := pollRounds look (confirmed args) rounds

def smartQuery : Except HttpFailure Json → Py Json
  | .error e => .error e.toPy
  | .ok reply => field reply "data"

def buildRebalance (plan : Json) (deadline : ℤ) : Py (Option Json) := do
  let should ← field plan "should_rebalance"
  if !should.truthy then .ok none
  else do
    let offerToken ← plan.get "offer_token"
    match offerToken with
    | .null => .ok (some (.obj [("sync_reference", .obj [])]))
    | _ => .ok (some (.obj [("rebalance", .obj [("deadline", .int deadline)])]))

def runOnce (args : Args) (now : ℤ) (rounds : ℕ) : Step Reply Unit :=
  guarded (pollPending args rounds) fun tracker => do
    let reply : Except HttpFailure Json ← request (Command.smartQuery args.vault (.obj [("rebalance_plan", .obj [])]))
    let plan ← Script.ofExcept (smartQuery reply)
    let should ← Script.ofExcept (field plan "should_rebalance")
    if !should.truthy then do
      standDown
      let _ ← Script.ofExcept (field plan "price_deviation_bps")
      .ret ()
    else do
      let built ← Script.ofExcept (buildRebalance plan (now + args.deadlineSeconds))
      let message ← Script.ofExcept (orError built .typeError)
      let fingerprint ← Script.ofExcept (args.planFingerprint plan message)
      if tracker.suppressedPlan = some fingerprint then .ret ()
      else if !args.broadcast then .ret ()
      else trade fingerprint (preflight args.vault message) (broadcast args.vault message) (pollPending args rounds)

end Cl8yDexBots.Services.RebalancerKeeper
