import Cl8yDexBots.LimitGrid.State

/-! Grid prices, share prices and the fee mint of the limit-grid vault. -/

namespace Cl8yDexBots.LimitGrid.Pricing

open Std Foundation.Checked Foundation.Words CosmWasm.Std CosmWasm.Pair
open State

def maxAdjustSteps : ℕ := 64

def undiscountedFeeBps : ℕ := 180

def checkedRatio (value numerator denominator : Uint128) : Result Uint128 :=
  checkedRatioOr value numerator denominator .arithmeticOutOfRange .arithmeticOutOfRange

def poolPrice (pool : PoolResponse) : Result Decimal := do
  ensure (¬ (isZero (pool.assets 0).amount ∨ isZero (pool.assets 1).amount)) .invalidPair
  let atomics ← checkedRatio (pool.assets 1).amount Decimal.one.atomics (pool.assets 0).amount
  .ok ⟨atomics⟩

def gridPrice (lower difference : Decimal) (count index : ℕ) : Result Decimal := do
  let offset ← multiplyRatio difference.atomics index (count - 1)
  let atomics ← checkedAdd lower.atomics offset
  .ok ⟨atomics⟩

def gridPrices (lower upper : Decimal) (count : ℕ) : Result (List Decimal) := do
  ensure (¬ (count < 2 ∨ upper ≤ lower)) .invalidGrid
  let difference ← checkedSub upper.atomics lower.atomics
  (List.range count).mapM (gridPrice lower ⟨difference⟩ count)

def minimumPrice : Decimal := ⟨⟨1000000000, by decide⟩⟩

def maximumPrice : Decimal := ⟨⟨1000000000 * decimalFractional, by decide⟩⟩

def rungSide (referencePrice price : Decimal) : Option LimitOrderSide :=
  if price < referencePrice then some .bid
  else if referencePrice < price then some .ask
  else none

def sideRungs (rungs : ExtTreeMap ℕ Rung) (gridCount : ℕ) (side : LimitOrderSide) : List ℕ :=
  (rungs.toList.filter fun e => e.1 ≤ gridCount - 1 ∧ e.2.side = some side).map Prod.fst

def depositShares (amount : Uint128) (tokenIndex : Fin 2) (price : Decimal) : Result Uint128 :=
  if tokenIndex = 0 then .ok amount
  else do
    ensure (!price.isZero) .invalidPair
    checkedRatio amount Decimal.one.atomics price.atomics

def mintForFee (fee assets supply : Uint128) : Result Uint128 :=
  if isZero fee ∨ isZero supply ∨ assets ≤ fee then .ok 0
  else do
    let rest ← checkedSub assets fee
    narrow .arithmeticOutOfRange (fee.val * supply.val / rest.val)

/-- `assets` is the value after settlement and before the fee, `supply` the shares before the mint. -/
def feeShareMint (creditedValue : Uint128) (feeBps : ℕ) (assets supply : Uint128) :
    Result (Uint128 × Uint128) := do
  let fee ← narrow .arithmeticOutOfRange (creditedValue.val * feeBps / 10000)
  let shares ← mintForFee fee assets supply
  .ok (fee, shares)

def addEscrow (held : Fin 2 → Uint128) (entry : ℕ × GridOrder) : Result (Fin 2 → Uint128) := do
  let next ← checkedAdd (held entry.2.side.tokenIndex) entry.2.remaining
  .ok (Function.update held entry.2.side.tokenIndex next)

/-- Free and escrowed assets in token 0, token 1 converted downwards at the reference price. -/
def botAssetValue (orders : ExtTreeMap ℕ GridOrder) (bot : Bot) : Result Uint128 := do
  ensure (!bot.referencePrice.isZero) .invalidPair
  let held ← foldChecked addEscrow bot.freeBalances orders.toList
  let token1 ← checkedRatio (held 1) Decimal.one.atomics bot.referencePrice.atomics
  checkedAdd (held 0) token1

def creditedValue (credited : Fin 2 → Uint128) (referencePrice : Decimal) : Result Uint128 :=
  if isZero (credited 1) then .ok (credited 0)
  else do
    ensure (!referencePrice.isZero) .invalidPair
    let token1AsToken0 ← checkedRatio (credited 1) Decimal.one.atomics referencePrice.atomics
    checkedAdd (credited 0) token1AsToken0

end Cl8yDexBots.LimitGrid.Pricing
