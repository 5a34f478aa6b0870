import Cl8yDexBots.Services.Database

/-! The keeper of the grid operator: it freezes fills into batches and takes each batch to the chain. -/

namespace Cl8yDexBots.Services.GridKeeper

open Foundation.Checked Foundation.Durable Values Database

def maxFailures : ℕ := 3

def retryBackoffSeconds : ℤ := 60

/-- What a query fails with: `RpcError`, which polling takes for an answer not there yet, or another. -/
inductive QueryError where
  | rpcError
  | other (name : String)

/-- The outside of the keeper. The broadcast of a signed transaction is labelled with its batch and attempt. -/
inductive Command where
  | wallClock
  | signExecute (vault : String) (orderIds : List ℕ)
  | broadcast (batchId attemptId : ℕ) (signed : String)
  | queryTx (hash : Json)
  | latestHeight
  | smartQuery (vault query : String)
  | accountState
  | backup

abbrev Reply : Command → Type
  | .wallClock => ℤ
  | .signExecute _ _ => Except String String
  | .broadcast _ _ _ => Except String Json
  | .queryTx _ => Except QueryError Json
  | .latestHeight => Except String ℤ
  | .smartQuery _ _ | .accountState | .backup => Except String Unit

abbrev Op (α : Type) := Script Store Command Reply PyError α

structure Keeper where
  maxOrders : ℕ
  confirmationBlocks : ℤ
  render : Json → String

inductive TxResultCode where
  | checkFailed
  | deliverFailed
  | pageReverted
  deriving DecidableEq

def TxResultCode.value : TxResultCode → String
  | checkFailed => "check_failed"
  | deliverFailed => "deliver_failed"
  | pageReverted => "page_reverted"

def TxResultCode.attempt : TxResultCode → AttemptState
  | checkFailed => .checkFailed
  | deliverFailed => .deliverFailed
  | pageReverted => .pageReverted

inductive Outcome where
  | confirmed
  | intervention
  | backoff
  | unknown
  | signFailed
  | failed (code : TxResultCode)
  | timeout
  deriving DecidableEq

section Freezing

def unreconciled (db : Db) (vault : String) : List (ℕ × RawEvent) :=
  (db.rawEvents.zipIdx.map Prod.swap).filter fun e => e.2.vault = vault && e.2.reconciledBatch.isNone

def eligible (db : Db) (vault : String) : List (ℕ × RawEvent) :=
  (unreconciled db vault).filter fun e => !db.batchEvents.any fun frozen => frozen.eventId = e.1

def orderOf (e : RawEvent) : String × ℕ := (e.pair, e.orderId)

def minHeight (events : List (ℕ × RawEvent)) (order : String × ℕ) : ℤ :=
  ((events.filter fun e => orderOf e.2 = order).map fun e => e.2.height).min?.getD 0

def sooner (events : List (ℕ × RawEvent)) (a b : String × ℕ) : Bool :=
  let (x, y) := (minHeight events a, minHeight events b)
  x < y || (x = y && (a.1 < b.1 || (a.1 = b.1 && a.2 ≤ b.2)))

/-- The orders that the next batch takes. -/
def orderRows (keeper : Keeper) (db : Db) (vault : String) : List (String × ℕ) :=
  let events := eligible db vault
  (((events.map fun e => orderOf e.2).dedup).mergeSort (sooner events)).take keeper.maxOrders

def eventsOf (db : Db) (vault : String) (order : String × ℕ) : List (ℕ × RawEvent) :=
  (unreconciled db vault).filter fun e => orderOf e.2 = order

def activeBatch (db : Db) (vault : String) : Option ℕ :=
  (List.range db.batches.length).find? fun b => db.batches[b]?.any fun row => row.vault = vault && row.state.active

def frozen (keeper : Keeper) (db : Db) (vault : String) : List (ℕ × RawEvent) :=
  (orderRows keeper db vault).flatMap (eventsOf db vault)

def itemOf (db : Db) (vault : String) (batchId : ℕ) (order : String × ℕ) : BatchItem :=
  let events := eventsOf db vault order
  ⟨batchId, order.1, order.2, (events.map fun e => e.2.inputAmount).sum,
    (events.map fun e => e.2.outputAmount).sum, events.length⟩

def insertBatchEvents (db : Db) (batchId : ℕ) (events : List ℕ) : Py Db :=
  foldChecked (fun (db : Db) eventId => do
    ensure (!db.batchEvents.any fun frozen => frozen.eventId = eventId) (.other "IntegrityError")
    .ok { db with batchEvents := db.batchEvents ++ [⟨batchId, eventId⟩] }) db events

def freezeBatch (keeper : Keeper) (vault : String) (db : Db) : Py (Db × Option ℕ) :=
  match activeBatch db vault with
  | some batchId => .ok (db, some batchId)
  | none =>
    if (orderRows keeper db vault).isEmpty then .ok (db, none)
    else do
      let batchId := db.batches.length
      let through := ((frozen keeper db vault).map fun e => e.2.height).foldl max 0
      let filled := { db with
        batches := db.batches ++ [⟨vault, through, .ready, .null, none, 0, none⟩]
        batchItems := db.batchItems ++ (orderRows keeper db vault).map (itemOf db vault batchId) }
      let db ← insertBatchEvents filled batchId ((frozen keeper db vault).map Prod.fst)
      .ok (db, some batchId)

end Freezing

def orderIds (db : Db) (batchId : ℕ) : List ℕ :=
  ((db.batchItems.filter fun item => item.batchId = batchId).mergeSort fun a b =>
    decide (a.pair < b.pair) || (a.pair = b.pair && a.orderId ≤ b.orderId)).map BatchItem.orderId

variable (keeper : Keeper)

def Keeper.text (keeper : Keeper) : Json → String
  | .str s => s
  | j => keeper.render j

def recordFailure (batchId attemptId : ℕ) (error : Json) (deliverCode : Option ℤ) (result : TxResultCode) :
    Op Unit := do
  let failures ← select fun db => db.batches[batchId]?.map Batch.failureCount
  let failures ← Script.ofExcept (orError failures .typeError)
  let failures := failures + 1
  let state : BatchState := if maxFailures ≤ failures then .intervention else .ready
  let now : ℤ ← Script.ask Command.wallClock
  let nextRetryAt := if state = .intervention then none else some (now + retryBackoffSeconds * 2 ^ (failures - 1))
  transaction fun db => do
    let _ ← (deliverCode.getD 0 |> columnInt)
    let _ ← columnText keeper.render error
    .ok (db.touch batchId (fun row => { row with
      state
      error := some (result.value ++ ":" ++ keeper.text error)
      failureCount := failures
      nextRetryAt }) (some attemptId) fun row => { row with state := result.attempt }, ())

structure Sighting where
  height : ℤ
  code : ℤ
  tx : Json

def observe (txHash response : Json) : Py Sighting := do
  let tx ← txResponse response
  let observedHash ← Values.txHash tx
  ensure (tx.has "code" && tx.has "height" && observedHash.truthy) .valueError
  let height ← field tx "height"
  let height ← height.toInt
  let code ← field tx "code"
  let code ← code.toInt
  ensure (0 < height) .valueError
  let observed ← observedHash.lower
  let pending ← txHash.lower
  ensure (observed = pending) .valueError
  .ok ⟨height, code, tx⟩

def sighted (txHash : Json) : Except QueryError Json → Py (Option (Json × Sighting))
  | .error .rpcError => .ok none
  | .error (.other name) => .error (.other name)
  | .ok response =>
    if response.truthy then
      match observe txHash response with
      | .ok seen => .ok (some (response, seen))
      | .error .attributeError | .error .typeError | .error .valueError => .ok none
      | .error e => .error e
    else .ok none

def anyReverted : List Json → Py Bool
  | [] => .ok false
  | item :: items => do
    let key ← item.get "key"
    let value ← item.get "value"
    match key, value with
    | .str "action", .str "reverted_grid_page" => .ok true
    | _, _ => anyReverted items

def anyEvent : List Json → Py Bool
  | [] => .ok false
  | event :: events => do
    let items ← event.get "attributes"
    let items ← (items.orElse (.arr [])).iter
    let found ← anyReverted items
    if found then .ok true else anyEvent events

def hasRevertedGridPage (response : Json) : Py Bool := do
  let tx ← txResponse response
  let events ← tx.get "events"
  let events ← (events.orElse (.arr [])).iter
  let logs ← tx.get "logs"
  let logs ← (logs.orElse (.arr [])).iter
  let logged ← logs.mapM fun log => do
    let events ← log.get "events"
    (events.orElse (.arr [])).iter
  anyEvent (events ++ logged.flatten)

/-- What `_confirm` makes of a fill: those of the batch's orders up to the execution height are reconciled,
later ones included. -/
def reconciled (db : Db) (batchId : ℕ) (vault : String) (height : ℤ) (e : RawEvent) : RawEvent :=
  if e.reconciledBatch.isNone ∧ e.vault = vault ∧ e.height ≤ height ∧
    (db.batchItems.any fun item => item.batchId = batchId && item.pair = e.pair && item.orderId = e.orderId)
  then { e with reconciledBatch := some batchId } else e

def reconcile (db : Db) (batchId attemptId : ℕ) (vault : String) (height : ℤ) (txHash : Json) : Db :=
  Db.touch { db with rawEvents := db.rawEvents.map (reconciled db batchId vault height) } batchId
    (fun row => { row with state := .confirmed, txHash, error := none }) (some attemptId)
    fun row => { row with state := .confirmed }

def executed (txHash response : Json) : Py ℤ :=
  match observe txHash response with
  | .ok seen => do
    ensure (seen.code = 0) .valueError
    .ok seen.height
  | .error .overflowError => .error .overflowError
  | .error _ => .error .valueError

def confirm (batchId attemptId : ℕ) (txHash response : Json) : Op Unit := do
  let height ← Script.ofExcept (executed txHash response)
  transaction fun db => do
    let batch ← orError db.batches[batchId]? .typeError
    let height ← columnInt height
    let stored ← columnText keeper.render txHash
    .ok (reconcile db batchId attemptId batch.vault height stored, ())

def timeOut (batchId attemptId : ℕ) (error : String) : Op Outcome := do
  commit fun db => db.touch batchId (fun row => { row with state := .timeout, error := some error })
    (some attemptId) fun row => { row with state := .timeout }
  .ret .timeout

def deepEnough (height : ℤ) : Op Bool :=
  if keeper.confirmationBlocks ≠ 0 then do
    let latest : Except String ℤ ← Script.ask Command.latestHeight
    match latest with
    | .ok latest => .ret (decide (height + keeper.confirmationBlocks ≤ latest))
    | .error name => Script.raise (.other name)
  else .ret true

/-- One look at the transaction of an attempt; `later` is what to do when it is not final yet. -/
def pollOnce (batchId attemptId : ℕ) (txHash : Json) (later : String → Op Outcome) : Op Outcome := do
  let reply : Except QueryError Json ← Script.ask (Command.queryTx txHash)
  let found ← Script.ofExcept (sighted txHash reply)
  match found with
  | none => later "inclusion polling timed out"
  | some (response, seen) => do
    let deep ← deepEnough keeper seen.height
    if !deep then later "confirmation polling timed out"
    else if seen.code = 0 then do
      let reverted ← Script.ofExcept (hasRevertedGridPage response)
      if reverted then do
        recordFailure keeper batchId attemptId (.str "grid cancel or claim page reverted") (some 0) .pageReverted
        .ret (.failed .pageReverted)
      else do
        confirm keeper batchId attemptId txHash response
        .ret .confirmed
    else do
      let rawLog ← Script.ofExcept (seen.tx.get "raw_log")
      let log ← Script.ofExcept (seen.tx.get "log")
      recordFailure keeper batchId attemptId ((rawLog.orElse log).orElse (.str "DeliverTx failed"))
        (some seen.code) .deliverFailed
      .ret (.failed .deliverFailed)

def poll (batchId attemptId : ℕ) (txHash : Json) : ℕ → Op Outcome
  | 0 => pollOnce keeper batchId attemptId txHash (timeOut batchId attemptId)
  | rounds + 1 => pollOnce keeper batchId attemptId txHash fun _ => poll batchId attemptId txHash rounds

def lose (batchId : ℕ) (attemptId : Option ℕ) (error : String) : Op Outcome := do
  commit fun db => db.touch batchId (fun row => { row with state := .unknown, error := some error })
    attemptId fun row => { row with state := .unknown }
  .ret .unknown

/-- The code and the hash of a broadcast response; without them the broadcast is lost. -/
def broadcastResult (tx : Json) : Py (Except String (ℤ × Json)) :=
  if tx.isDict && tx.has "code" then do
    let code ← field tx "code"
    let code ← match code.toInt with
      | .ok code => (.ok (some code) : Py (Option ℤ))
      | .error .typeError | .error .valueError => .ok none
      | .error e => .error e
    let hash ← Values.txHash tx
    match code, hash.truthy with
    | some code, true => .ok (.ok (code, hash))
    | _, _ => .ok (.error "broadcast response contained invalid code or omitted tx hash")
  else .ok (.error "broadcast response omitted transaction code")

def accept (batchId attemptId : ℕ) (hash : Json) (code : ℤ) : Op Unit :=
  transaction fun db => do
    let stored ← columnText keeper.render hash
    let code ← columnInt code
    if code ≠ 0 then
      .ok (db.touch batchId (fun row => { row with txHash := stored }) (some attemptId)
        fun row => { row with txHash := stored, checkCode := some code }, ())
    else
      .ok (db.touch batchId (fun row => { row with txHash := stored, state := .broadcast }) (some attemptId)
        fun row => { row with txHash := stored, checkCode := some code, state := .broadcast }, ())

def received (batchId attemptId rounds : ℕ) (response : Json) : Op Outcome := do
  let tx ← Script.ofExcept (txResponse response)
  let result ← Script.ofExcept (broadcastResult tx)
  match result with
  | .error text => lose batchId (some attemptId) text
  | .ok (code, hash) => do
    accept keeper batchId attemptId hash code
    if code ≠ 0 then do
      let rawLog ← Script.ofExcept (tx.get "raw_log")
      let log ← Script.ofExcept (tx.get "log")
      recordFailure keeper batchId attemptId ((rawLog.orElse log).orElse (.str "CheckTx failed or omitted tx hash"))
        none .checkFailed
      .ret (.failed .checkFailed)
    else poll keeper batchId attemptId hash rounds

def reported (batchId attemptId rounds : ℕ) : Except String Json → Op Outcome
  | .error text => lose batchId (some attemptId) text
  | .ok response => received keeper batchId attemptId rounds response

/-- `process_batch` once the transaction is signed: the tables say 'broadcasting' before the network is touched. -/
def attempt (batchId rounds : ℕ) (signed : String) : Op Outcome := do
  let attemptId ← transaction fun db => .ok ((db.insertAttempt ⟨batchId, .signed, .null, none⟩).touch batchId
    (fun row => { row with state := .signed, error := none }) none id, db.txAttempts.length)
  commit fun db => db.touch batchId (fun row => { row with state := .broadcasting }) (some attemptId)
    fun row => { row with state := .broadcasting }
  let response : Except String Json ← Script.ask (Command.broadcast batchId attemptId signed)
  reported keeper batchId attemptId rounds response

def submit (batchId rounds : ℕ) : Op Outcome := do
  let message ← select fun db => (db.batches[batchId]?.map Batch.vault, orderIds db batchId)
  let vault ← Script.ofExcept (orError message.1 .typeError)
  let signed : Except String String ← Script.ask (Command.signExecute vault message.2)
  match signed with
  | .error text => do
    commit fun db => db.touch batchId (fun row => { row with error := some text }) none id
    .ret .signFailed
  | .ok signed => attempt keeper batchId rounds signed

def backingOff (batch : Batch) : Op Bool :=
  match batch.state, batch.nextRetryAt with
  | .ready, some due => do
    let now : ℤ ← Script.ask Command.wallClock
    .ret (decide (now < due))
  | _, _ => .ret false

def dispatch (batchId rounds : ℕ) (batch : Batch) (attempt : Option (ℕ × TxAttempt)) : Op Outcome :=
  match batch.state with
  | .broadcasting => lose batchId (attempt.map Prod.fst) "process restarted during broadcast"
  | .unknown => .ret .unknown
  | _ =>
    match attempt with
    | some (attemptId, row) =>
      if row.txHash.truthy ∧ (row.state = .broadcast ∨ row.state = .timeout) then
        poll keeper batchId attemptId row.txHash rounds
      else submit keeper batchId rounds
    | none => submit keeper batchId rounds

def proceed (batchId rounds : ℕ) (batch : Batch) : Op Outcome := do
  let backoff ← backingOff batch
  if backoff then .ret .backoff
  else do
    let attempt ← select fun db => (db.latestAttempt batchId).bind fun a => db.txAttempts[a]?.map fun row => (a, row)
    dispatch keeper batchId rounds batch attempt

def processBatch (batchId rounds : ℕ) : Op Outcome := do
  let batch ← select fun db => db.batches[batchId]?
  let batch ← Script.ofExcept (orError batch .valueError)
  match batch.state with
  | .confirmed => .ret .confirmed
  | .intervention => .ret .intervention
  | _ => proceed keeper batchId rounds batch

def answered {α : Type} : Except String α → Op α
  | .ok a => .ret a
  | .error name => Script.raise (.other name)

def failedOnChain (reason : TxResultCode) (reply : Json) : Py Unit := do
  let response ← txResponse reply
  ensure response.isDict .valueError
  let height ← response.get "height"
  ensure height.truthy .valueError
  let code ← response.getD "code" (.int (-1))
  let code ← code.toInt
  ensure (reason ≠ .deliverFailed ∨ code ≠ 0) .valueError
  ensure (reason ≠ .pageReverted ∨ code = 0) .valueError

def verify (reason : TxResultCode) (hash : Json) : Op Unit :=
  if reason ≠ .checkFailed then do
    let _ ← Script.ofExcept (ensure hash.truthy .valueError)
    let reply : Except QueryError Json ← Script.ask (Command.queryTx hash)
    match reply with
    | .error .rpcError => Script.raise (.rpcError "")
    | .error (.other name) => Script.raise (.other name)
    | .ok reply => Script.ofExcept (failedOnChain reason reply)
  else .ret ()

def resolveIntervention (batchId : ℕ) (reason : TxResultCode) : Op Unit := do
  let row ← select fun db => db.batches[batchId]?.map fun batch =>
    (batch, ((db.latestAttempt batchId).bind fun a => db.txAttempts[a]?.map TxAttempt.txHash).getD .null)
  let (batch, attemptHash) ← Script.ofExcept (orError row .valueError)
  let _ ← Script.ofExcept (ensure (batch.state = .intervention) .valueError)
  let _ ← Script.ofExcept (ensure ((reason.value ++ ":").isPrefixOf (batch.error.getD "")) .valueError)
  verify reason (attemptHash.orElse batch.txHash)
  let bot : Except String Unit ← Script.ask (Command.smartQuery batch.vault "bot")
  answered bot
  let orders : Except String Unit ← Script.ask (Command.smartQuery batch.vault "orders")
  answered orders
  let account : Except String Unit ← Script.ask Command.accountState
  answered account
  let backup : Except String Unit ← Script.ask Command.backup
  answered backup
  commit fun db => db.touch batchId (fun row => { row with
    state := .ready, error := none, failureCount := 0, nextRetryAt := none }) none id

/-- What the operator runs on its database, each process after the other. -/
inductive Pass : Op Unit → Prop
  | freezeBatch (vault : String) : Pass (do
      let _ ← transaction (freezeBatch keeper vault)
      .ret ())
  | processBatch (batchId rounds : ℕ) : Pass (do
      let _ ← processBatch keeper batchId rounds
      .ret ())
  | resolveIntervention (batchId : ℕ) (reason : TxResultCode) : Pass (resolveIntervention batchId reason)

end Cl8yDexBots.Services.GridKeeper
