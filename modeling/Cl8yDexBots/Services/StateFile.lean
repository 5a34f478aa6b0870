import Cl8yDexBots.Foundation.Files
import Cl8yDexBots.Services.JsonText
import Cl8yDexBots.Services.Tracker

/-! The state file of the rebalancer keeper on its disk: what is written, and what a start makes of it. -/

namespace Cl8yDexBots.Services.StateFile

open Foundation.Checked Foundation.Durable Foundation.Files Values JsonText

structure Identity where
  chainId : String
  vault : String
  signer : String
  protocolKind : String
  deriving DecidableEq

def Identity.document (identity : Identity) : Json :=
  .obj [("chain_id", .str identity.chainId), ("vault", .str identity.vault), ("signer", .str identity.signer),
    ("protocol_kind", .str identity.protocolKind)]

/-- The attributes of a tracker that its file keeps. -/
structure SavedState where
  pendingHash : Json
  pendingPlan : Json
  pendingSince : Json
  suppressedPlan : Json
  broadcasting : Bool

def SavedState.fresh : SavedState := ⟨.null, .null, .null, .null, false⟩

inductive StateError where
  | unreadable
  | notAnObject
  | checksumMismatch
  | legacy
  | identityMismatch
  deriving DecidableEq

inductive StatePath where
  | state
  | temporary
  | backup (number : ℕ)
  | restored
  | other (name : String)
  deriving DecidableEq

def isText (text : String) : Option Json → Bool
  | some (.str s) => s = text
  | _ => false

def isNumber (n : ℤ) : Option Json → Bool
  | some (.int m) => m = n
  | some (.float q) => q = n
  | _ => false

def isNone : Option Json → Bool
  | some .null | none => true
  | _ => false

/-- Whether a value equals the dictionary of an identity. -/
def isIdentity (identity : Identity) : Option Json → Bool
  | some (.obj fields) => fields.length = 4 && isText identity.chainId (fields.lookup "chain_id") &&
    isText identity.vault (fields.lookup "vault") && isText identity.signer (fields.lookup "signer") &&
    isText identity.protocolKind (fields.lookup "protocol_kind")
  | _ => false

section Documents

variable (floatRepr : ℚ → List Char) (sha256 : String → String) (identity : Identity)

def checksum (state : List (String × Json)) : String := "sha256:" ++ sha256 (dumps floatRepr (.obj state))

def fields (t : SavedState) : List (String × Json) :=
  [("schema_version", .int 2), ("identity", identity.document), ("pending_hash", t.pendingHash),
    ("pending_plan", t.pendingPlan), ("pending_since", t.pendingSince), ("suppressed_plan", t.suppressedPlan),
    ("broadcasting", .bool t.broadcasting)]

def document (t : SavedState) : Json :=
  .obj (fields identity t ++ [("checksum", .str (checksum floatRepr sha256 (fields identity t)))])

/-- `TxTracker.__init__` on the contents of its file, `none` where they are not JSON. -/
def load (contents : Option Json) : Except StateError SavedState := do
  let document ← orError contents .unreadable
  match document with
  | .obj entries => do
    let stored := entries.lookup "checksum"
    let state := entries.filter fun entry => entry.1 ≠ "checksum"
    ensure (isNone stored || isText (checksum floatRepr sha256 state) stored) .checksumMismatch
    ensure (isNumber 2 (state.lookup "schema_version") && !isNone (state.lookup "identity") && !isNone stored) .legacy
    ensure (isIdentity identity (state.lookup "identity")) .identityMismatch
    .ok { pendingHash := (state.lookup "pending_hash").getD .null
          pendingPlan := (state.lookup "pending_plan").getD .null
          pendingSince := (state.lookup "pending_since").getD .null
          suppressedPlan := (state.lookup "suppressed_plan").getD .null
          broadcasting := ((state.lookup "broadcasting").getD (.bool false)).truthy }
  | _ => .error .notAnObject

abbrev StateDisk := Disk StatePath (Option Json)

abbrev FileStep (α : Type) := FileScript StatePath (Option Json) PyError α

def start (disk : StateDisk) : Except StateError SavedState :=
  match disk.read .state with
  | some contents => load floatRepr sha256 identity contents
  | none => .ok .fresh

def os (f : StateDisk → StateDisk) : FileStep Unit := perform .osError f

/-- `os.chmod` and `os.makedirs`, which change no contents. -/
def osQuiet : FileStep Unit := os id

def rotate : List ℕ → FileStep Unit
  | [] => .ret ()
  | number :: numbers => do
    let disk ← Script.read
    if (disk.now (.backup (number - 1))).isSome then os (Disk.replace (.backup (number - 1)) (.backup number))
    else .ret ()
    rotate numbers

def MAX_BACKUPS : ℕ := 3

/-- `shutil.copy2` of contents, and of what belongs to a file beside them. -/
def copy (contents : Option Json) (target : StatePath) : FileStep Unit := do
  writeFile .osError target contents
  osQuiet

def keepBackup : FileStep Unit := do
  osQuiet
  let disk ← Script.read
  match disk.read .state with
  | some contents => do
    rotate [MAX_BACKUPS, MAX_BACKUPS - 1]
    copy contents (.backup 1)
    osQuiet
  | none => .ret ()

def save (t : SavedState) : FileStep Unit := do
  osQuiet
  replaceWith .osError .temporary .state (some (document floatRepr sha256 identity t)) keepBackup

end Documents

end Cl8yDexBots.Services.StateFile
