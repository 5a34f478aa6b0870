import Cl8yDexBots.Services.GridIndexer
import Cl8yDexBots.Services.GridKeeper

/-! The scan of the chain: blocks fetched one by one from a node that may answer anything, each stored in one
transaction, while the rest of the operator works on the same database. -/

namespace Cl8yDexBots.Services.BlockScan

open Foundation.Checked Foundation.Durable Values Database
open GridIndexer (Python Indexer Block)

inductive Command where
  | latestHeight
  | block (height : ℤ)
  | blockResults (height : ℤ)

abbrev Reply : Command → Type
  | .latestHeight => Except String ℤ
  | .block _ | .blockResults _ => Except String Json

abbrev Op (α : Type) := Script Store Command Reply PyError α

/-- An indexer with the heights that its configuration has checked, and the hash of an encoded transaction. -/
structure Scanner extends Indexer where
  deploymentHeight : ℤ
  finalityDepth : ℤ
  deployed : 0 < deploymentHeight
  deep : 0 ≤ finalityDepth
  txHash : String → Py String

def blockHash (answer : Json) : Py Json := do
  let id ← field answer "block_id"
  field id "hash"

def parentHash (block : Json) : Py Json := do
  let header ← block.getD "header" (.obj [])
  let last ← header.get "last_block_id"
  let hash ← (last.orElse (.obj [])).get "hash"
  .ok (hash.orElse (.str ""))

def time (block : Json) : Py Json := do
  let header ← block.getD "header" (.obj [])
  header.get "time"

variable (py : Python) (ix : Scanner)

def readBlock (height : ℤ) (answer results : Json) : Py Block := do
  let block ← field answer "block"
  let hash ← blockHash answer
  let parent ← parentHash block
  let data ← block.get "data"
  let txs ← (data.orElse (.obj [])).get "txs"
  let txs ← (txs.orElse (.arr [])).iter
  let txResults ← results.get "txs_results"
  let txResults ← (txResults.orElse (.arr [])).iter
  let hashes ← txs.mapM fun tx => do
    let encoded ← tx.text
    ix.txHash encoded
  let time ← time block
  .ok ⟨height, hash, parent, time, hashes, txResults⟩

def answered {α : Type} : Except String α → Op α
  | .ok a => .ret a
  | .error name => Script.raise (.rpcError name)

def registerVaults : List String → Op Unit
  | [] => .ret ()
  | address :: rest => do
    commit (GridIndexer.registerVaults { ix.toIndexer with vaults := [address] })
    registerVaults rest

def validateObservedTip (scanned : ℤ) : Op Unit :=
  if scanned < ix.deploymentHeight then .ret ()
  else do
    let row ← select fun db => db.blocks ix.chainId scanned
    let hash ← Script.ofExcept (orError row (.other "ReorgError"))
    let reply : Except String Json ← Script.ask (Command.block scanned)
    let answer ← answered reply
    let observed ← Script.ofExcept (blockHash answer)
    Script.ofExcept (ensure (observed.isText hash) (.other "ReorgError"))

def scanHeight (height : ℤ) : Op Unit := do
  let reply : Except String Json ← Script.ask (Command.block height)
  let answer ← answered reply
  let reply : Except String Json ← Script.ask (Command.blockResults height)
  let results ← answered reply
  let block ← Script.ofExcept (readBlock ix height answer results)
  transaction fun db => do
    let db ← GridIndexer.scanHeight py ix.toIndexer block db
    .ok (db, ())

def scanFrom (height : ℤ) : ℕ → Op Unit
  | 0 => .ret ()
  | n + 1 => do
    scanHeight py ix height
    scanFrom (height + 1) n

def stopAt (limit : Option ℤ) (scanned latest : ℤ) : ℤ :=
  let finalized := max 0 (latest - ix.finalityDepth)
  match limit with
  | none => finalized
  | some limit => min finalized (scanned + limit)

/-- `Indexer.scan`: how many blocks the cursor moved on. -/
def scan (limit : Option ℤ) : Op ℤ := do
  registerVaults ix ix.vaults
  let cursor ← select Db.scanned
  let scanned := cursor.getD (ix.deploymentHeight - 1)
  validateObservedTip ix scanned
  let reply : Except String ℤ ← Script.ask Command.latestHeight
  let latest ← answered reply
  let stop := stopAt ix limit scanned latest
  let start := max (scanned + 1) ix.deploymentHeight
  scanFrom py ix start (stop + 1 - start).toNat
  .ret (max 0 (stop - scanned))

/-- The scans of a process, each to its end or to a crash. -/
inductive Scanning : Op Unit → Prop
  | scan (limit : Option ℤ) : Scanning (do
      let _ ← scan py ix limit
      .ret ())

end Cl8yDexBots.Services.BlockScan
