import Cl8yDexBots.Rebalancer.State

/-! How the bot-vault reads the price and plans a rebalance towards equal value. -/

namespace Cl8yDexBots.Rebalancer.Planning

open Foundation.Checked Foundation.Words CosmWasm.Std CosmWasm.Pair SwapVault.Pricing State

variable {ε : Type} [StdFailure ε]

def queryPrice (q : Querier) (config : Config) : Except ε Decimal := do
  let response ← liftStd (q.observe config.pair [0, config.twapWindowSeconds])
  observedPrice response config.twapWindowSeconds

def cw20Balance (q : Querier) (token account : Addr) : Except ε Uint128 :=
  liftStd (q.balance token account)

def balances (q : Querier) (vault : Addr) (config : Config) : Except ε (Fin 2 → Uint128) := do
  let balance0 ← cw20Balance q (config.assetTokens 0) vault
  let balance1 ← cw20Balance q (config.assetTokens 1) vault
  .ok ![balance0, balance1]

def ratioDeviation (actual expected : Uint256) : Except ε ℕ :=
  if isZero expected then .error (genericErr "empty reference")
  else deviationFrom actual expected

def relativeDeviation (current reference : Decimal) : Except ε ℕ :=
  ratioDeviation (to256 current.atomics) (to256 reference.atomics)

def allocationDeviation (holdings : Fin 2 → Uint128) (price : Decimal) : Except ε ℕ :=
  if isZero (holdings 0) && isZero (holdings 1) then .ok 0
  else if isZero (holdings 0) || isZero (holdings 1) then .ok 10000
  else do
    let expected ← mulOrPanic (to256 price.atomics) (to256 (holdings 0))
    let actual ← mulOrPanic (to256 (holdings 1)) (to256 Decimal.one.atomics)
    ratioDeviation actual expected

def plannedOffer (holdings : Fin 2 → Uint128) (price : Decimal) (maxTradeBps : ℕ) :
    Except ε (Option (Fin 2 × Uint128)) := do
  let token0Value ← mulOrPanic (to256 (holdings 0)) (to256 price.atomics)
  let token1Value ← mulOrPanic (to256 (holdings 1)) (to256 Decimal.one.atomics)
  if token1Value = token0Value then .ok none
  else do
    let (index, uncapped) ← uncappedOffer price token0Value token1Value
    let cap ← multiplyRatio (holdings index) maxTradeBps 10000
    let uncapped ← narrow (genericErr "rebalance amount overflow") uncapped.val
    let amount := min uncapped cap
    .ok (if isZero amount then none else some (index, amount))
where
  uncappedOffer (price : Decimal) (token0Value token1Value : Uint256) :
      Except ε (Fin 2 × Uint256) :=
    if token0Value < token1Value then do
      let excess ← subOrPanic token1Value token0Value
      let worth ← divOrPanic excess (to256 Decimal.one.atomics)
      let amount ← divOrPanic worth ⟨2, by decide⟩
      .ok (1, amount)
    else do
      let excess ← subOrPanic token0Value token1Value
      let worth ← divOrPanic excess (to256 price.atomics)
      let amount ← divOrPanic worth ⟨2, by decide⟩
      .ok (0, amount)

def rebalanceRequired (priceDeviationBps allocationDeviationBps : ℕ) (config : Config) : Bool :=
  config.rebalanceThresholdBps ≤ priceDeviationBps
    ∨ config.allocationToleranceBps < allocationDeviationBps

def rebalanceStatus (q : Querier) (vault : Addr) (config : Config) :
    Except ε RebalanceStatusResponse := do
  let currentPrice ← queryPrice q config
  let holdings ← balances q vault config
  let allocationDeviationBps ← allocationDeviation holdings currentPrice
  let priceDeviationBps ← relativeDeviation currentPrice config.referencePrice
  .ok { shouldRebalance := rebalanceRequired priceDeviationBps allocationDeviationBps config,
        priceDeviationBps, allocationDeviationBps, referencePrice := config.referencePrice,
        currentPrice }

def minReturn (q : Querier) (config : Config) (capturedTwap : Decimal) (offerIndex : Fin 2)
    (amount : Uint128) : Except ε Uint128 := do
  let twapReturn ← expectedReturn amount offerIndex capturedTwap
  let executionFloor ← afterBps twapReturn config.maxExecutionDeviationBps
  let simulation ← liftStd (q.hybridSimulation config.pair
    ⟨.token (config.assetTokens offerIndex), amount⟩ (.poolOnly amount) (some config.proxy))
  let quoteFloor ← afterBps simulation.returnAmount config.quoteSlippageBps
  .ok (max executionFloor quoteFloor)

def offerTerms (q : Querier) (config : Config) (capturedTwap : Decimal) :
    Option (Fin 2 × Uint128) → Except ε (Option String × Option Uint128 × Option Uint128)
  | some (offerIndex, amount) => do
    let least ← minReturn q config capturedTwap offerIndex amount
    .ok (some (config.assetTokens offerIndex), some amount, some least)
  | none => .ok (none, none, none)

def rebalancePlan (q : Querier) (vault : Addr) (config : Config) :
    Except ε RebalancePlanResponse := do
  let capturedTwap ← queryPrice q config
  let holdings ← balances q vault config
  let priceDeviationBps ← relativeDeviation capturedTwap config.referencePrice
  let allocationDeviationBps ← allocationDeviation holdings capturedTwap
  let shouldRebalance := rebalanceRequired priceDeviationBps allocationDeviationBps config
  let offer ← (if shouldRebalance then plannedOffer holdings capturedTwap config.maxTradeBps
    else .ok none : Except ε _)
  let (offerToken, amount, least) ← offerTerms q config capturedTwap offer
  .ok { shouldRebalance, capturedTwap, balances := holdings, priceDeviationBps,
        allocationDeviationBps, referencePrice := config.referencePrice, offerToken, amount,
        minReturn := least, maxSpread := config.maxSpread }

end Cl8yDexBots.Rebalancer.Planning
