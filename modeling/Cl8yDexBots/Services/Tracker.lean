import Cl8yDexBots.Foundation.Durable
import Cl8yDexBots.Services.Values

/-! The state file of a keeper with one transaction in flight, and the passes both keepers make over it. -/

namespace Cl8yDexBots.Services.Tracker

open Foundation.Checked Foundation.Durable Values

/-- The in-flight transaction, as a process holds it and as its state file does. -/
structure TxTracker where
  pendingHash : Json
  pendingPlan : Option String
  suppressedPlan : Option String
  broadcasting : Bool

def TxTracker.fresh : TxTracker := ⟨.null, none, none, false⟩

structure Store where
  file : TxTracker
  memory : TxTracker

def restart (s : Store) : Store := { s with memory := s.file }

inductive SaveOutcome where
  | saved
  | failedBefore
  | failedAfter

inductive Call (N : Type) where
  | save
  | node (c : N)

abbrev Answer {N : Type} (R : N → Type) : Call N → Type
  | .save => SaveOutcome
  | .node c => R c

variable {N : Type} {R : N → Type} {α : Type}

abbrev Step (R : N → Type) (α : Type) := Script Store (Call N) (Answer R) PyError α

def request (c : N) : Step R (R c) := Script.ask (Call.node c)

def save : Step R Unit := do
  let outcome : SaveOutcome ← Script.ask Call.save
  match outcome with
  | .saved => Script.modify fun s => { s with file := s.memory }
  | .failedBefore => Script.raise .osError
  | .failedAfter =>
    Script.modify fun s => { s with file := s.memory }
    Script.raise .osError

def setTracker (f : TxTracker → TxTracker) : Step R Unit :=
  Script.modify fun s => { s with memory := f s.memory }

structure Observation where
  height : ℤ
  code : ℤ
  detail : Json

def TxTracker.cleared (t : TxTracker) : TxTracker :=
  { t with pendingHash := .null, pendingPlan := none, broadcasting := false }

def settle (found : Observation) : Step R Bool := do
  let s ← Script.read
  setTracker TxTracker.cleared
  if found.code ≠ 0 then do
    setTracker fun t => { t with suppressedPlan := s.memory.pendingPlan }
    save
    Script.raise (.deliverTxError s.memory.pendingHash found.code found.detail)
  else do
    setTracker fun t => { t with suppressedPlan := none }
    save
    .ret true

def pollOnce (look : Json → Step R (Option Observation)) (confirmed : ℤ → Step R Bool)
    (later : Step R Bool) : Step R Bool := do
  let s ← Script.read
  let found ← look s.memory.pendingHash
  match found with
  | some found => do
    let deep ← confirmed found.height
    if deep then settle found else later
  | none => later

def pollRounds (look : Json → Step R (Option Observation)) (confirmed : ℤ → Step R Bool) : ℕ → Step R Bool
  | 0 => pollOnce look confirmed (.ret false)
  | rounds + 1 => pollOnce look confirmed (pollRounds look confirmed rounds)

/-- Mark the broadcast in the file, then start it. -/
def submit (fingerprint : String) (preflight : Step R Unit) (broadcast : Step R Json) : Step R Json := do
  preflight
  setTracker fun t => { t with broadcasting := true, pendingPlan := some fingerprint }
  save
  broadcast

def unmark (fingerprint : String) (e : PyError) : Step R Json :=
  if e.deterministic then do
    setTracker fun t => { t with
      broadcasting := false, pendingPlan := none, suppressedPlan := some fingerprint }
    save
    Script.raise e
  else Script.raise e

def trade (fingerprint : String) (preflight : Step R Unit) (broadcast : Step R Json) (poll : Step R Bool) :
    Step R Unit := do
  let hash ← (submit fingerprint preflight broadcast).recover (unmark fingerprint)
  setTracker fun t => { t with pendingHash := hash, broadcasting := false }
  save
  let _ ← poll
  .ret ()

/-- A marked broadcast stops the keeper, a pending hash is polled, and only otherwise is there a plan. -/
def guarded (poll : Step R Bool) (plan : TxTracker → Step R Unit) : Step R Unit := do
  let s ← Script.read
  if s.memory.broadcasting && !s.memory.pendingHash.truthy then .ret ()
  else if s.memory.pendingHash.truthy then do
    let _ ← poll
    .ret ()
  else plan s.memory

def standDown : Step R Unit := do
  setTracker fun t => { t with suppressedPlan := none }
  save

end Cl8yDexBots.Services.Tracker
