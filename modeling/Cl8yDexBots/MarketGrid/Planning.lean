import Cl8yDexBots.MarketGrid.State

/-! How the market-grid vault reads the price and plans a rebalance. -/

namespace Cl8yDexBots.MarketGrid.Planning

open Foundation.Checked Foundation.Words CosmWasm.Std CosmWasm.Pair SwapVault.Pricing State

variable {ε : Type} [StdFailure ε]

def assertPairCodeId (q : Querier) (config : Config) : Except ε Unit := do
  let actual ← liftStd (q.codeId config.pair)
  ensure (actual == config.pairCodeId)
    (genericErr s!"pair code id mismatch: expected {config.pairCodeId}, found {actual}")

def referencePrice (q : Querier) (pair : Addr) (window : ℕ) : Except ε Decimal := do
  let response ← liftStd (q.observe pair [0, window])
  observedPrice response window

def gridCell (price lowerPrice upperPrice : Decimal) (gridCount : ℕ) : Except ε ℕ :=
  if price ≤ lowerPrice then .ok 0
  else if upperPrice ≤ price then .ok gridCount
  else do
    let span ← upperPrice.sub lowerPrice
    let offset ← price.sub lowerPrice
    let count ← Decimal.fromRatio gridCount 1
    let step := ((span.checkedDiv count : Except StdError Decimal).toOption).getD .zero
    if step.isZero then .ok 0
    else
      let cell := ((offset.checkedDiv step : Except StdError Decimal).toOption).getD .zero
      .ok (min cell.toUintFloor gridCount)

def configCell (price : Decimal) (config : Config) : Except ε ℕ :=
  gridCell price config.lowerPrice config.upperPrice config.gridCount

def targetWeightBps (cell : ℕ) (config : Config) : Except ε ℕ :=
  if config.gridCount = 0 then .ok 0
  else do
    let weight ← Decimal.fromRatio cell config.gridCount
    let scale ← Decimal.fromRatio 10000 1
    let scaled ← weight.mul scale
    .ok (min scaled.toUintFloor 10000)

def ratioDeviation (actual expected : Uint256) : Except ε ℕ :=
  if isZero expected then
    if isZero actual then .ok 0 else .error (genericErr "empty reference")
  else deviationFrom actual expected

def relativeDeviation (current reference : Decimal) : Except ε ℕ :=
  ratioDeviation (to256 current.atomics) (to256 reference.atomics)

def allocationDeviation (holdings : Fin 2 → Uint128) (price : Decimal) (config : Config) :
    Except ε ℕ :=
  if isZero (holdings 0) && isZero (holdings 1) then .ok 0
  else do
    let cell ← configCell price config
    let weight ← Decimal.fromRatio cell config.gridCount
    let token0Value ← checkedMul (to256 (holdings 0)) (to256 price.atomics)
    let token1Value ← checkedMul (to256 (holdings 1)) (to256 Decimal.one.atomics)
    let totalValue ← checkedAdd token0Value token1Value
    let weighted ← checkedMul totalValue (to256 weight.atomics)
    let target ← checkedDiv weighted (to256 Decimal.one.atomics)
    let actual ← checkedMul (to256 (holdings 1)) (to256 Decimal.one.atomics)
    if isZero target then .ok (if isZero actual then 0 else 10000)
    else ratioDeviation actual target

def plannedOffer (holdings : Fin 2 → Uint128) (price : Decimal) (cell gridCount maxTradeBps : ℕ) :
    Except ε (Option (Fin 2 × Uint128)) := do
  let weight ← Decimal.fromRatio cell (max gridCount 1)
  let token0Value ← mulOrPanic (to256 (holdings 0)) (to256 price.atomics)
  let token1Value ← mulOrPanic (to256 (holdings 1)) (to256 Decimal.one.atomics)
  let totalValue ← addOrPanic token0Value token1Value
  let weighted ← mulOrPanic totalValue (to256 weight.atomics)
  let targetToken1 ← divOrPanic weighted (to256 Decimal.one.atomics)
  if token1Value = targetToken1 then .ok none
  else do
    let (index, uncapped) ← uncappedOffer price token1Value targetToken1
    let cap ← multiplyRatio (holdings index) maxTradeBps 10000
    let uncapped ← narrow (genericErr "rebalance amount overflow") uncapped.val
    let amount := min uncapped cap
    .ok (if isZero amount then none else some (index, amount))
where
  uncappedOffer (price : Decimal) (token1Value targetToken1 : Uint256) :
      Except ε (Fin 2 × Uint256) :=
    if targetToken1 < token1Value then do
      let excess ← subOrPanic token1Value targetToken1
      let amount ← divOrPanic excess (to256 Decimal.one.atomics)
      .ok (1, amount)
    else do
      let deficit ← subOrPanic targetToken1 token1Value
      let amount ← divOrPanic deficit (to256 price.atomics)
      .ok (0, amount)

def balances (q : Querier) (vault : Addr) (config : Config) : Except ε (Fin 2 → Uint128) := do
  let balance0 ← liftStd (q.balance (config.assetTokens 0) vault)
  let balance1 ← liftStd (q.balance (config.assetTokens 1) vault)
  .ok ![balance0, balance1]

def minReturn (q : Querier) (config : Config) (capturedTwap : Decimal) (offerIndex : Fin 2)
    (amount : Uint128) : Except ε Uint128 := do
  let twapReturn ← expectedReturn amount offerIndex capturedTwap
  let executionFloor ← afterBps twapReturn config.maxExecutionDeviationBps
  let simulation ← liftStd (q.hybridSimulation config.pair
    ⟨.token (config.assetTokens offerIndex), amount⟩ (.poolOnly amount))
  let quoteFloor ← afterBps simulation.returnAmount config.quoteSlippageBps
  .ok (max executionFloor quoteFloor)

def offerTerms (q : Querier) (config : Config) (capturedTwap : Decimal) :
    Option (Fin 2 × Uint128) → Except ε (Option Addr × Option Uint128 × Option Uint128)
  | some (offerIndex, amount) => do
    let least ← minReturn q config capturedTwap offerIndex amount
    .ok (some (config.assetTokens offerIndex), some amount, some least)
  | none => .ok (none, none, none)

def rebalancePlan (q : Querier) (env : Env) (config : Config) : Except ε GridStatusResponse := do
  assertPairCodeId q config
  let capturedTwap ← referencePrice q config.pair config.twapWindowSeconds
  let holdings ← balances q env.contract config
  let currentCell ← configCell capturedTwap config
  let deviationBps ← allocationDeviation holdings capturedTwap config
  let shouldRebalance : Bool :=
    currentCell ≠ config.lastCell ∨ config.allocationToleranceBps < deviationBps
  let offer ← (if shouldRebalance
    then plannedOffer holdings capturedTwap currentCell config.gridCount config.maxTradeBps
    else .ok none : Except ε _)
  let (offerToken, amount, least) ← offerTerms q config capturedTwap offer
  let weightBps ← targetWeightBps currentCell config
  .ok { currentCell, targetWeightBps := weightBps, allocationDeviationBps := deviationBps,
        shouldRebalance, capturedTwap, balances := holdings, offerToken, amount,
        minReturn := least, pendingSwap := false }

end Cl8yDexBots.MarketGrid.Planning
