import Cl8yDexBots.LimitGrid.Pricing
import Cl8yDexBots.Foundation.Chunks

/-! Placements, cancel and claim pages, and the replies that settle them. -/

namespace Cl8yDexBots.LimitGrid.Orders

open Std Foundation.Checked Foundation.Words Foundation.SubMessages Foundation.Chunks CosmWasm.Std
open State Pricing

def nextReplyId (st : Storage) : Result (Storage × ℕ) := do
  ensure (st.nextReplyId + 1 < 2 ^ 64) (genericErr "reply id overflow")
  .ok ({ st with nextReplyId := st.nextReplyId + 1 }, st.nextReplyId)

def placementItem (rungs : ExtTreeMap ℕ Rung) (amountEach : Uint128) (expiresAt rungIndex : ℕ) :
    Result LimitOrderPlacementItem := do
  let rung ← orError rungs[rungIndex]? (.std (.notFound "rung"))
  .ok { price := rung.price, amount := amountEach, maxAdjustSteps, expiresAt := some expiresAt,
        hintAfterOrderId := none }

def submitPlacement (st : Storage) (response : Response CosmosMsg) (botId : ℕ) (current : Bot)
    (side : LimitOrderSide) (rungs : List ℕ) (amountEach total : Uint128) (expiresAt : ℕ) :
    Executed := do
  let index := side.tokenIndex
  ensure (total ≤ current.freeBalances index) .insufficientBalance
  let free ← checkedSub (current.freeBalances index) total
  ensure (current.activeOrders + rungs.length < 2 ^ 32) .activeOrderLimit
  let bot := { current.setFree index free with
    activeOrders := current.activeOrders + rungs.length }
  let orders ← rungs.mapM (placementItem st.rungs amountEach expiresAt)
  let (st, replyId) ← nextReplyId { st with bot := some bot }
  let plan : PlacementPlan :=
    { botId, side, rungs, grossAmounts := List.replicate orders.length amountEach }
  .ok ({ st with placements := st.placements.insert replyId plan },
    response.addMessage (.replyAlways
      (.token (current.assetTokens index)
        (.send current.pair total (.placeLimitOrderBatch side orders)))
      replyId))

def addPlacement (st : Storage) (response : Response CosmosMsg) (botId : ℕ) (side : LimitOrderSide)
    (rungs : List ℕ) (amountEach : Uint128) (expiresAt : ℕ) : Executed :=
  if isZero amountEach ∨ rungs = [] then .ok (st, response)
  else do
    let total ← narrow (ofArithmetic .overflow) (amountEach.val * rungs.length)
    let current ← loadBot st botId
    -- the source adds the counts saturating at 32 bits
    (if st.config.maxActiveOrdersPerBot < min (current.activeOrders + rungs.length) (2 ^ 32 - 1) then
      .ok (st, response.addAttributes [("allocation_deferred", "active_order_limit")])
    else submitPlacement st response botId current side rungs amountEach total expiresAt : Executed)

def allocateSide (st : Storage) (response : Response CosmosMsg) (botId : ℕ) (bot : Bot)
    (side : LimitOrderSide) (expiresAt : ℕ) : Executed := do
  let rungs := sideRungs st.rungs bot.gridCount side
  ensure (rungs ≠ []) .emptySide
  let current ← loadBot st botId
  let amountEach ← multiplyRatio (current.freeBalances side.tokenIndex) 1 rungs.length
  addPlacement st response botId side rungs amountEach expiresAt

def parseDigits (digits : List Char) : Option ℕ :=
  if digits = [] ∨ ¬ digits.all Char.isDigit then none
  else
    let n := Nat.ofDigitChars 10 digits 0
    if n < 2 ^ 64 then some n else none

/-- A 64-bit decimal numeral, with an optional plus sign. -/
def parseU64 (value : String) : Option ℕ :=
  match value.toList with
  | '+' :: digits => parseDigits digits
  | digits => parseDigits digits

lemma parseU64_toString {n : ℕ} (h : n < 2 ^ 64) : parseU64 (toString n) = some n := by
  have hlist : (toString n).toList = Nat.toDigits 10 n := Nat.toList_repr
  have hdigit : ∀ c ∈ Nat.toDigits 10 n, c.isDigit = true := fun c hc =>
    Nat.isDigit_of_mem_toDigits (by omega) (by omega) hc
  have hparse : parseDigits (Nat.toDigits 10 n) = some n := by
    have hall : (Nat.toDigits 10 n).all Char.isDigit = true := List.all_eq_true.mpr hdigit
    simp only [parseDigits, Nat.toDigits_ne_nil, hall, Nat.ofDigitChars_toDigits (by omega : 1 < 10) le_rfl,
      not_true, or_self, if_false, h, if_true]
  rw [parseU64]
  rw [hlist]
  split
  · rename_i heq
    have hplus := hdigit '+' (by simp [heq])
    cases hplus
  · exact hparse

def placedIds (attributes : List (String × String)) : Result (List ℕ) :=
  (attributes.filter fun a => a.1 = "limit_order_placed").mapM fun a =>
    orError (parseU64 a.2) .invalidPlacementReply

def restoreSinglePlacement (st : Storage) (replyId : ℕ) (plan : PlacementPlan) (reason : String) :
    Executed := do
  let amount ← orError plan.grossAmounts.head? .invalidPlacementReply
  let bot ← loadBot st plan.botId
  let free ← checkedAdd (bot.freeBalances plan.side.tokenIndex) amount
  ensure (1 ≤ bot.activeOrders) .invalidOrder
  let bot := { bot.setFree plan.side.tokenIndex free with activeOrders := bot.activeOrders - 1 }
  .ok ({ st with bot := some bot, placements := st.placements.erase replyId },
    ⟨[], [("action", "defer_grid_placement"), ("bot_id", toString plan.botId), ("reason", reason)]⟩)

def recordOrder (q : Querier) (env : Env) (rungs : ExtTreeMap ℕ Rung) (pair : Addr)
    (side : LimitOrderSide) (orders : ExtTreeMap ℕ GridOrder) (placed : ℕ × ℕ × Uint128) :
    Result (ExtTreeMap ℕ GridOrder) := do
  let (orderId, rungIndex, gross) := placed
  ensure orders[orderId]?.isNone .invalidPlacementReply
  let onChain ← liftStd (q.limitOrder pair orderId)
  let rung ← orError rungs[rungIndex]? (.std (.notFound "rung"))
  ensure (onChain.owner = env.contract ∧ onChain.side = side ∧ onChain.price = rung.price ∧
    onChain.remaining ≤ gross) .invalidOrder
  .ok (orders.insert orderId
    { rungIndex, side, price := onChain.price, remaining := onChain.remaining })

def recordPlacement (q : Querier) (env : Env) (st : Storage) (replyId : ℕ) (plan : PlacementPlan)
    (ids : List ℕ) : Executed := do
  ensure (ids.length = plan.rungs.length) .invalidPlacementReply
  let bot ← loadBot st plan.botId
  let orders ← foldChecked (recordOrder q env st.rungs bot.pair plan.side) st.orders
    (ids.zip (plan.rungs.zip plan.grossAmounts))
  .ok ({ st with orders, placements := st.placements.erase replyId },
    ⟨[], [("action", "record_grid_orders"), ("bot_id", toString plan.botId)]⟩)

def replyToPlacement (q : Querier) (env : Env) (st : Storage) (replyId : ℕ) (plan : PlacementPlan)
    (result : Except String (List (String × String))) : Executed :=
  match result with
  | .error reason =>
    if plan.rungs.length = 1 then restoreSinglePlacement st replyId plan reason
    else .error (genericErr reason)
  | .ok attributes => do
    let ids ← placedIds attributes
    (if ids = [] ∧ plan.rungs.length = 1 then
      restoreSinglePlacement st replyId plan "pair skipped the placement"
    else recordPlacement q env st replyId plan ids : Executed)

structure Settled where
  freeBalances : Fin 2 → Uint128
  orders : ExtTreeMap ℕ GridOrder
  cancelledOrders : ExtTreeMap ℕ CancelledOrder

def retire (kind : PageKind) (height : ℕ) (s : Settled) (entry : PendingPageEntry) :
    ExtTreeMap ℕ CancelledOrder :=
  match kind, s.orders[entry.orderId]? with
  | .cancel, some order =>
    s.cancelledOrders.insert entry.orderId
      { rungIndex := order.rungIndex, side := order.side, price := order.price,
        remaining := entry.refund, cancelledAt := height }
  | _, _ => s.cancelledOrders

def confirmEntry (kind : PageKind) (height : ℕ) (s : Settled) (entry : PendingPageEntry) :
    Result Settled := do
  let free ← checkedAdd (s.freeBalances entry.tokenIndex) entry.refund
  .ok { freeBalances := Function.update s.freeBalances entry.tokenIndex free,
        orders := s.orders.erase entry.orderId,
        cancelledOrders := retire kind height s entry }

def confirmPage (env : Env) (st : Storage) (page : PendingPage) : Result Storage := do
  let bot ← loadBot st page.botId
  let settled ← foldChecked (confirmEntry page.kind env.blockHeight)
    ⟨bot.freeBalances, st.orders, st.cancelledOrders⟩ page.entries
  ensure (page.entries.length ≤ bot.activeOrders) .invalidOrder
  .ok { st with
    bot := some { bot with
      freeBalances := settled.freeBalances,
      activeOrders := bot.activeOrders - page.entries.length }
    orders := settled.orders
    cancelledOrders := settled.cancelledOrders }

def kindLabel : PageKind → String
  | .cancel => "cancel"
  | .claim => "claim"

def handlePendingPage (env : Env) (st : Storage) (replyId : ℕ) (page : PendingPage)
    (result : Except String (List (String × String))) : Executed :=
  let attributes := [("bot_id", toString page.botId), ("kind", kindLabel page.kind)]
  match result with
  | .ok _ => do
    let st ← confirmPage env st page
    .ok ({ st with pendingPages := st.pendingPages.erase replyId },
      ⟨[], attributes ++ [("action", "confirmed_grid_page"),
        ("orders", toString page.entries.length)]⟩)
  | .error reason =>
    .ok ({ st with pendingPages := st.pendingPages.erase replyId },
      ⟨[], attributes ++ [("action", "reverted_grid_page"), ("reason", reason)]⟩)

def reply (q : Querier) (env : Env) (st : Storage) (id : ℕ)
    (result : Except String (List (String × String))) : Executed :=
  match st.pendingPages[id]? with
  | some page => handlePendingPage env st id page result
  | none => do
    let plan ← orError st.placements[id]? .unknownReply
    replyToPlacement q env st id plan result

def pageMsg (kind : PageKind) (orderIds : List ℕ) : PairExecuteMsg :=
  match kind with
  | .cancel => .cancelLimitOrders orderIds
  | .claim => .claimExpiredLimitOrders orderIds

def addPage (botId : ℕ) (pair : Addr) (kind : PageKind) (acc : Storage × Response CosmosMsg)
    (chunk : List PendingPageEntry) : Executed := do
  let (st, replyId) ← nextReplyId acc.1
  .ok ({ st with pendingPages := st.pendingPages.insert replyId { botId, kind, entries := chunk } },
    acc.2.addMessage
      (.replyAlways (.pair pair (pageMsg kind (chunk.map PendingPageEntry.orderId))) replyId))

def addConfirmablePages (st : Storage) (response : Response CosmosMsg) (botId : ℕ) (pair : Addr)
    (cancelEntries claimEntries : List PendingPageEntry) (batchLimit : ℕ) : Executed := do
  let limit := max batchLimit 1
  let acc ← foldChecked (addPage botId pair .cancel) (st, response) (chunks limit cancelEntries)
  foldChecked (addPage botId pair .claim) acc (chunks limit claimEntries)

end Cl8yDexBots.LimitGrid.Orders
