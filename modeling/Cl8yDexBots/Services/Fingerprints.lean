import Cl8yDexBots.Services.JsonText
import Cl8yDexBots.Rebalancer.State

/-! The text that is hashed as the identity of a rebalance plan, and the plans as documents. -/

namespace Cl8yDexBots.Services.Fingerprints

open Foundation.Checked Foundation.Significant Values Decimals JsonText

section Canonical

def markers : List String := ["address", "token", "recipient", "pair", "vault"]

def addressLike (key : String) : Bool := markers.any fun marker => isInfixOf marker.toList key.toList

def cleaned (value : String) : String := (String.ofList (Json.strip value.toList)).toLower

/-- A text outside the address-like keys: a decimal in its normal form, any other text as it is. -/
def canonicalText (value : String) : Py String :=
  match readNumber value with
  | none | some .special => .ok value
  | some (.finite number) => do
    let number ← number.normalize
    let normalized := String.ofList number.format
    .ok (if normalized = "-0" ∨ normalized = "" then "0" else normalized)

mutual
def canonicalValue (key : String) : Json → Py Json
  | .obj fields => do
    let fields ← canonicalFields fields
    .ok (.obj (sorted fields))
  | .arr items => do
    let items ← canonicalItems key items
    .ok (.arr items)
  | .str value =>
    if addressLike key then .ok (.str (cleaned value))
    else do
      let value ← canonicalText value
      .ok (.str value)
  | value => .ok value
def canonicalItems (key : String) : List Json → Py (List Json)
  | [] => .ok []
  | x :: xs => do
    let x ← canonicalValue key x
    let xs ← canonicalItems key xs
    .ok (x :: xs)
def canonicalFields : List (String × Json) → Py (List (String × Json))
  | [] => .ok []
  | (name, x) :: fields => do
    let x ← canonicalValue name x
    let fields ← canonicalFields fields
    .ok ((name, x) :: fields)
end

end Canonical

section Fingerprint

def action : Json → Py String
  | .obj ((name, _) :: _) => .ok name
  | .obj [] => .error (.other "StopIteration")
  | _ => .error .typeError

variable (floatRepr : ℚ → List Char) (sha256 : String → String)

def canonicalIdentity (identity : List (String × Json)) : Py String := do
  let canonical ← canonicalValue "" (.obj identity)
  .ok (dumps floatRepr canonical)

def encodingV2 (plan message : Json) (vault chainId configVersion : String) : Py String := do
  let action ← action message
  canonicalIdentity floatRepr [("version", .int 2), ("chain_id", .str (cleaned chainId)),
    ("vault", .str (cleaned vault)), ("config_version", .str configVersion), ("action", .str action), ("plan", plan)]

def fingerprintV2 (plan message : Json) (vault chainId configVersion : String) : Py String := do
  let canonical ← encodingV2 floatRepr plan message vault chainId configVersion
  .ok ("v2:" ++ sha256 canonical)

def seconds : Option ℤ → Json
  | some n => .int n
  | none => .null

/-- What the keeper of a single vault hashes; it adds how long a transaction stays valid. -/
def keeperEncoding (plan message : Json) (vault chainId configVersion : String) (deadlineSeconds : Option ℤ) :
    Py String := do
  let action ← action message
  canonicalIdentity floatRepr [("version", .int 2), ("chain_id", .str (cleaned chainId)),
    ("vault", .str (cleaned vault)), ("config_version", .str configVersion),
    ("deadline_seconds", seconds deadlineSeconds), ("action", .str action), ("plan", plan)]

def planFingerprint (plan message : Json) (vault chainId configVersion : String) (deadlineSeconds : Option ℤ) :
    Py String := do
  let canonical ← keeperEncoding floatRepr plan message vault chainId configVersion deadlineSeconds
  .ok ("v2:" ++ sha256 canonical)

end Fingerprint

section Plans

/-- The shape of a rebalance plan, with its amounts and decimals in one form or another. -/
@[ext] structure PlanOf (α β : Type) where
  shouldRebalance : Bool
  capturedTwap : β
  balances : α × α
  priceDeviationBps : ℕ
  allocationDeviationBps : ℕ
  referencePrice : β
  offerToken : Option String
  amount : Option α
  minReturn : Option α
  maxSpread : β
  deriving DecidableEq

namespace PlanOf

variable {α β γ δ : Type}

def map (f : α → γ) (g : β → δ) (p : PlanOf α β) : PlanOf γ δ where
  shouldRebalance := p.shouldRebalance
  capturedTwap := g p.capturedTwap
  balances := (f p.balances.1, f p.balances.2)
  priceDeviationBps := p.priceDeviationBps
  allocationDeviationBps := p.allocationDeviationBps
  referencePrice := g p.referencePrice
  offerToken := p.offerToken
  amount := p.amount.map f
  minReturn := p.minReturn.map f
  maxSpread := g p.maxSpread

def figures (p : PlanOf α β) : (α × α) × Option α × Option α × β × β :=
  (p.balances, p.amount, p.minReturn, p.capturedTwap, p.referencePrice)

end PlanOf

def textOrNull : Option String → Json
  | some s => .str s
  | none => .null

def document (p : PlanOf String String) : Json :=
  .obj [("should_rebalance", .bool p.shouldRebalance), ("captured_twap", .str p.capturedTwap),
    ("balances", .arr [.str p.balances.1, .str p.balances.2]), ("price_deviation_bps", .int p.priceDeviationBps),
    ("allocation_deviation_bps", .int p.allocationDeviationBps), ("reference_price", .str p.referencePrice),
    ("offer_token", textOrNull p.offerToken), ("amount", textOrNull p.amount), ("min_return", textOrNull p.minReturn),
    ("max_spread", .str p.maxSpread)]

structure NumberText (exponent : ℤ) where
  text : String
  atomics : ℕ
  bounded : atomics < 2 ^ 128
  reads : ∃ x, readNumber text = some (.finite x) ∧ x.value = scaled atomics exponent

abbrev Plan := PlanOf (NumberText 0) (NumberText (-18))

namespace Plan

def document (p : Plan) : Json := Fingerprints.document (p.map NumberText.text NumberText.text)

def values (p : Plan) : PlanOf ℕ ℕ := p.map NumberText.atomics NumberText.atomics

/-- What is left of a plan in its canonical form. -/
def rounded (p : Plan) : PlanOf ℕ ℕ :=
  { p.values.map (significant prec) (significant prec) with offerToken := p.offerToken.map cleaned }

end Plan

end Plans

end Cl8yDexBots.Services.Fingerprints
