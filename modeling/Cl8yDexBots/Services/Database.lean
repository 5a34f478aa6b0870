import Cl8yDexBots.Foundation.Durable
import Cl8yDexBots.Services.Values

/-! The tables of the grid operator. A row is never deleted, so the row with id `n + 1` is the one at index
`n`, and `n` names it here. -/

namespace Cl8yDexBots.Services.Database

open Foundation.Checked Foundation.Durable Values

inductive BatchState where
  | ready
  | signed
  | broadcasting
  | broadcast
  | timeout
  | unknown
  | intervention
  | confirmed
  deriving DecidableEq

def BatchState.active : BatchState → Bool
  | ready | signed | broadcasting | broadcast | timeout | unknown | intervention => true
  | confirmed => false

inductive AttemptState where
  | signed
  | broadcasting
  | unknown
  | broadcast
  | timeout
  | checkFailed
  | deliverFailed
  | pageReverted
  | confirmed
  deriving DecidableEq

structure VaultRow where
  pair : Option String
  enabled : Bool

structure OrderRow where
  vault : String
  side : Option String
  active : Bool

structure RawEvent where
  chainId : String
  height : ℤ
  txHash : String
  eventIndex : ℕ
  pair : String
  orderId : ℕ
  vault : String
  side : String
  inputAmount : ℕ
  outputAmount : ℕ
  reconciledBatch : Option ℕ

structure Batch where
  vault : String
  throughHeight : ℤ
  state : BatchState
  txHash : Json
  error : Option String
  failureCount : ℕ
  nextRetryAt : Option ℤ

structure BatchItem where
  batchId : ℕ
  pair : String
  orderId : ℕ
  inputAmount : ℕ
  outputAmount : ℕ
  fillCount : ℕ

structure BatchEvent where
  batchId : ℕ
  eventId : ℕ

structure TxAttempt where
  batchId : ℕ
  state : AttemptState
  txHash : Json
  checkCode : Option ℤ

structure Db where
  blocks : String → ℤ → Option String
  vaults : String → Option VaultRow
  orders : String → ℕ → Option OrderRow
  rawEvents : List RawEvent
  batches : List Batch
  batchItems : List BatchItem
  batchEvents : List BatchEvent
  txAttempts : List TxAttempt
  scanned : Option ℤ
  discoveredVaults : String → Option String

def Db.empty : Db := ⟨fun _ _ => none, fun _ => none, fun _ _ => none, [], [], [], [], [], none, fun _ => none⟩

def RawEvent.key (e : RawEvent) : String × String × String × ℕ × ℕ :=
  (e.chainId, e.pair, e.txHash, e.eventIndex, e.orderId)

def Db.insertRawEvent (db : Db) (e : RawEvent) : Db :=
  if db.rawEvents.any fun old => old.key = e.key then db else { db with rawEvents := db.rawEvents ++ [e] }

def Db.insertBlock (db : Db) (chainId : String) (height : ℤ) (hash : Option String) : Db :=
  { db with blocks := fun chain h =>
      if chain = chainId ∧ h = height then (db.blocks chain h).or hash else db.blocks chain h }

def Db.putOrder (db : Db) (pair : String) (orderId : ℕ) (row : OrderRow) : Db :=
  { db with orders := fun p o => if p = pair ∧ o = orderId then some row else db.orders p o }

def Db.putVault (db : Db) (address : String) (row : VaultRow) : Db :=
  { db with vaults := fun a => if a = address then some row else db.vaults a }

def Db.latestAttempt (db : Db) (batchId : ℕ) : Option ℕ :=
  ((List.range db.txAttempts.length).filter fun a =>
    db.txAttempts[a]?.any fun row => row.batchId = batchId).max?

def Db.touch (db : Db) (batchId : ℕ) (batch : Batch → Batch) (attemptId : Option ℕ)
    (attempt : TxAttempt → TxAttempt) : Db :=
  { db with
    batches := db.batches.modify batchId batch
    txAttempts := match attemptId with
      | some a => db.txAttempts.modify a attempt
      | none => db.txAttempts }

def Db.insertAttempt (db : Db) (row : TxAttempt) : Db := { db with txAttempts := db.txAttempts ++ [row] }

/-- The database, and the committed databases before it, the latest one first. -/
structure Store where
  db : Db
  past : List Db

variable {C : Type} {A : C → Type} {α : Type}

/-- A transaction commits as a whole, or raises and leaves everything as it was. -/
def transaction (f : Db → Py (Db × α)) : Script Store C A PyError α :=
  Script.update (fun s => match f s.db with
    | .ok (db, _) => ⟨db, s.db :: s.past⟩
    | .error _ => s) fun s => match f s.db with
    | .ok (_, a) => Script.ret a
    | .error e => Script.raise e

def commit (f : Db → Db) : Script Store C A PyError Unit :=
  Script.modify fun s => ⟨f s.db, s.db :: s.past⟩

def select (f : Db → α) : Script Store C A PyError α := do
  let s ← Script.read
  .ret (f s.db)

def columnInt (n : ℤ) : Py ℤ :=
  if -(2 ^ 63) ≤ n ∧ n < 2 ^ 63 then .ok n else .error .overflowError

/-- A value of a reply in a `TEXT` column; `render` writes the numbers that are not integers. -/
def columnText (render : Json → String) : Json → Py Json
  | .null | .nan => .ok .null
  | .str s => .ok (.str s)
  | .bool b => .ok (.str (if b then "1" else "0"))
  | .int n => do
    let n ← columnInt n
    .ok (.str (toString n))
  | .float value => .ok (.str (render (.float value)))
  | .infinity => .ok (.str (render .infinity))
  | .arr _ | .obj _ => .error (.other "InterfaceError")

end Cl8yDexBots.Services.Database
