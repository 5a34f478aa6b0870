import Cl8yDexBots.CosmWasm.Std

/-! The fee registry: a ladder of discount tiers, and the fee of a trader by the balance that the trader holds. -/

namespace Cl8yDexBots.FeeSystem.Registry

open Std Foundation.Checked Foundation.Words Foundation.SubMessages CosmWasm.Std

inductive ContractError where
  | std (error : StdError)
  | unauthorized
  | tierAlreadyExists (tierId : ℕ)
  | tierNotFound (tierId : ℕ)
  | invalidDiscountBps (value : ℕ)
  | reservedTierId (tierId : ℕ)
  deriving DecidableEq

instance : StdFailure ContractError := ⟨.std⟩

structure Config where
  governance : Addr
  cl8y : Addr
  treasury : Addr
  feeCollector : Addr
  baseFeeBps : ℕ
  ladderVersion : ℕ
  deriving DecidableEq

structure Tier where
  minCl8yBalance : Uint128
  discountBps : ℕ
  governanceOnly : Bool
  deriving DecidableEq

structure Holding where
  amount : Uint128
  atHeight : ℕ
  deriving DecidableEq

structure Storage where
  config : Config
  tiers : ExtTreeMap ℕ Tier
  holdings : ExtTreeMap Addr Holding

structure Querier where
  addrValidate : String → Except StdError Addr
  balance : Addr → Addr → Except StdError Uint128

structure InstantiateMsg where
  governance : String
  cl8y : String
  treasury : String
  feeCollector : String
  baseFeeBps : ℕ

inductive ExecuteMsg where
  | refreshHolding (trader : String)
  | addTier (tierId : ℕ) (minCl8yBalance : Uint128) (discountBps : ℕ) (governanceOnly : Bool)
  | updateTier (tierId : ℕ) (minCl8yBalance : Option Uint128) (discountBps : Option ℕ) (governanceOnly : Option Bool)
  | removeTier (tierId : ℕ)
  | updateConfig (governance cl8y treasury feeCollector : Option String) (baseFeeBps : Option ℕ)

inductive TierSource where
  | live
  | cached
  | lowest
  deriving DecidableEq

structure EffectiveFeeResponse where
  feeBps : ℕ
  discountBps : ℕ
  tierId : Option ℕ
  holding : Option Uint128
  source : TierSource
  deriving DecidableEq

abbrev Result := Except ContractError

abbrev Executed := Result (Storage × Response Empty)

def maxBps : ℕ := 10000

def oneCl8y : ℕ := 10 ^ 18

def standardTiers : List (ℕ × Tier) :=
  [(0, ⟨0, 10000, true⟩), (1, ⟨⟨oneCl8y, by decide⟩, 250, false⟩), (2, ⟨⟨oneCl8y * 5, by decide⟩, 1000, false⟩),
    (3, ⟨⟨oneCl8y * 20, by decide⟩, 2000, false⟩), (4, ⟨⟨oneCl8y * 75, by decide⟩, 3500, false⟩),
    (5, ⟨⟨oneCl8y * 200, by decide⟩, 5000, false⟩), (6, ⟨⟨oneCl8y * 500, by decide⟩, 6000, false⟩),
    (7, ⟨⟨oneCl8y * 1500, by decide⟩, 7500, false⟩), (8, ⟨⟨oneCl8y * 3500, by decide⟩, 8500, false⟩),
    (9, ⟨⟨oneCl8y * 7500, by decide⟩, 9500, false⟩), (255, ⟨0, 0, true⟩)]

def seedStandardTiers : ExtTreeMap ℕ Tier := standardTiers.foldl (fun tiers e => tiers.insert e.1 e.2) ∅

def instantiate (q : Querier) (info : MessageInfo) (msg : InstantiateMsg) : Executed := do
  let governance ← liftStd (q.addrValidate msg.governance)
  let cl8y ← liftStd (q.addrValidate msg.cl8y)
  let treasury ← liftStd (q.addrValidate msg.treasury)
  let feeCollector ← liftStd (q.addrValidate msg.feeCollector)
  ensure (msg.baseFeeBps ≤ maxBps) (.invalidDiscountBps msg.baseFeeBps)
  .ok (⟨⟨governance, cl8y, treasury, feeCollector, msg.baseFeeBps, 1⟩, seedStandardTiers, ∅⟩,
    ⟨[], [("action", "instantiate"), ("creator", info.sender)]⟩)

def assertGovernance (st : Storage) (info : MessageInfo) : Result Unit :=
  ensure (info.sender = st.config.governance) .unauthorized

/-- What is saved of a balance is history, and prices nothing. -/
def executeRefreshHolding (q : Querier) (env : Env) (st : Storage) (trader : String) : Executed := do
  let trader ← liftStd (q.addrValidate trader)
  match q.balance st.config.cl8y trader with
  | .ok balance =>
    .ok ({ st with holdings := st.holdings.insert trader ⟨balance, env.blockHeight⟩ },
      ⟨[], [("action", "refresh_holding"), ("trader", trader), ("bumped", "true")]⟩)
  | .error _ => .ok (st, ⟨[], [("action", "refresh_holding"), ("trader", trader), ("bumped", "false")]⟩)

def assertNotReserved (tierId : ℕ) (governanceOnly : Bool) : Result Unit :=
  ensure (¬ ((tierId = 0 ∨ tierId = 255) ∧ governanceOnly = false)) (.reservedTierId tierId)

def assertDiscount (discountBps : ℕ) : Result Unit :=
  ensure (discountBps ≤ maxBps) (.invalidDiscountBps discountBps)

def bumpLadderVersion (config : Config) : Result Config := do
  let version ← (narrow (genericErr "ladder version overflow") (config.ladderVersion + 1) : Result (Uint 32))
  .ok { config with ladderVersion := version.val }

def executeAddTier (st : Storage) (info : MessageInfo) (tierId : ℕ) (minCl8yBalance : Uint128) (discountBps : ℕ)
    (governanceOnly : Bool) : Executed := do
  assertGovernance st info
  assertDiscount discountBps
  assertNotReserved tierId governanceOnly
  ensure (st.tiers[tierId]?.isNone) (.tierAlreadyExists tierId)
  let config ← bumpLadderVersion st.config
  .ok ({ st with config, tiers := st.tiers.insert tierId ⟨minCl8yBalance, discountBps, governanceOnly⟩ },
    ⟨[], [("action", "add_tier"), ("tier_id", toString tierId), ("discount_bps", toString discountBps)]⟩)

def checkedField {α : Type} (current : α) (check : α → Result Unit) : Option α → Result α
  | none => .ok current
  | some value => do
    check value
    .ok value

def executeUpdateTier (st : Storage) (info : MessageInfo) (tierId : ℕ) (minCl8yBalance : Option Uint128)
    (discountBps : Option ℕ) (governanceOnly : Option Bool) : Executed := do
  assertGovernance st info
  let tier ← orError st.tiers[tierId]? (.tierNotFound tierId)
  let minCl8yBalance := minCl8yBalance.getD tier.minCl8yBalance
  let discountBps ← checkedField tier.discountBps assertDiscount discountBps
  let governanceOnly ← checkedField tier.governanceOnly (assertNotReserved tierId) governanceOnly
  let config ← bumpLadderVersion st.config
  .ok ({ st with config, tiers := st.tiers.insert tierId ⟨minCl8yBalance, discountBps, governanceOnly⟩ },
    ⟨[], [("action", "update_tier"), ("tier_id", toString tierId)]⟩)

def executeRemoveTier (st : Storage) (info : MessageInfo) (tierId : ℕ) : Executed := do
  assertGovernance st info
  ensure (st.tiers[tierId]?.isSome) (.tierNotFound tierId)
  let config ← bumpLadderVersion st.config
  .ok ({ st with config, tiers := st.tiers.erase tierId },
    ⟨[], [("action", "remove_tier"), ("tier_id", toString tierId)]⟩)

def updatedAddr (q : Querier) (current : Addr) : Option String → Result Addr
  | some address => liftStd (q.addrValidate address)
  | none => .ok current

def executeUpdateConfig (q : Querier) (st : Storage) (info : MessageInfo)
    (governance cl8y treasury feeCollector : Option String) (baseFeeBps : Option ℕ) : Executed := do
  assertGovernance st info
  let governance ← updatedAddr q st.config.governance governance
  let cl8y ← updatedAddr q st.config.cl8y cl8y
  let treasury ← updatedAddr q st.config.treasury treasury
  let feeCollector ← updatedAddr q st.config.feeCollector feeCollector
  let baseFeeBps ← checkedField st.config.baseFeeBps assertDiscount baseFeeBps
  .ok ({ st with config := ⟨governance, cl8y, treasury, feeCollector, baseFeeBps, st.config.ladderVersion⟩ },
    ⟨[], [("action", "update_config")]⟩)

def execute (q : Querier) (env : Env) (st : Storage) (info : MessageInfo) : ExecuteMsg → Executed
  | .refreshHolding trader => executeRefreshHolding q env st trader
  | .addTier tierId minCl8yBalance discountBps governanceOnly =>
    executeAddTier st info tierId minCl8yBalance discountBps governanceOnly
  | .updateTier tierId minCl8yBalance discountBps governanceOnly =>
    executeUpdateTier st info tierId minCl8yBalance discountBps governanceOnly
  | .removeTier tierId => executeRemoveTier st info tierId
  | .updateConfig governance cl8y treasury feeCollector baseFeeBps =>
    executeUpdateConfig q st info governance cl8y treasury feeCollector baseFeeBps

def resolveStep (amount : Uint128) (best : ℕ × Option ℕ) (entry : ℕ × Tier) : ℕ × Option ℕ :=
  if entry.2.governanceOnly then best
  else if entry.2.minCl8yBalance ≤ amount ∧ best.1 < entry.2.discountBps then (entry.2.discountBps, some entry.1)
  else best

def resolveDiscount (st : Storage) (amount : Uint128) : ℕ × Option ℕ :=
  st.tiers.toList.foldl (resolveStep amount) (0, none)

/-- In 32 bits, whose subtraction and product abort out of range; the result is cut to 16. -/
def effectiveFee (baseBps discountBps : ℕ) : Except StdError ℕ := do
  ensure (discountBps ≤ maxBps) (ofArithmetic .panicked)
  let discounted := maxBps - discountBps
  ensure (baseBps * discounted < 2 ^ 32) (ofArithmetic .panicked)
  .ok (baseBps * discounted / maxBps % 2 ^ 16)

def queryEffectiveFee (q : Querier) (st : Storage) (trader : String) : Except StdError EffectiveFeeResponse := do
  let trader ← q.addrValidate trader
  let (discountBps, tierId, holding, source) :=
    match q.balance st.config.cl8y trader with
    | .ok balance =>
      let (discount, tier) := resolveDiscount st balance
      (discount, tier, some balance, TierSource.live)
    | .error _ => (0, none, none, TierSource.lowest)
  let feeBps ← effectiveFee st.config.baseFeeBps discountBps
  .ok ⟨feeBps, discountBps, tierId, holding, source⟩

end Cl8yDexBots.FeeSystem.Registry
