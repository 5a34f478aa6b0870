import Cl8yDexBots.Foundation.Cursor
import Cl8yDexBots.LimitGrid.OrderBook

/-! The pages in which a vault lists its cancelled orders. -/

namespace Cl8yDexBots.LimitGrid.CancelledPages

open Std Foundation.Checked Foundation.Words Foundation.Cursor CosmWasm.Std State

structure CancelledOrderResponse where
  orderId : ℕ
  rungIndex : ℕ
  side : LimitOrderSide
  price : Decimal
  remaining : Uint128
  cancelledAt : ℕ
  deriving DecidableEq

structure CancelledOrdersResponse where
  rows : List CancelledOrderResponse
  nextCursor : Option ℕ
  deriving DecidableEq

def MAX_CANCELLED_ORDERS_PAGE_SIZE : ℕ := 100

def cancelledRow (item : ℕ × CancelledOrder) : CancelledOrderResponse where
  orderId := item.1
  rungIndex := item.2.rungIndex
  side := item.2.side
  price := item.2.price
  remaining := item.2.remaining
  cancelledAt := item.2.cancelledAt

def recorded (st : Storage) (botId : ℕ) : List (ℕ × CancelledOrder) :=
  if botId = BOT_ID then st.cancelledOrders.toList else []

/-- The loop of the query: rows up to the limit, and the id of the row at which it breaks. -/
def collect (limit : ℕ) : List (ℕ × CancelledOrder) → List CancelledOrderResponse → CancelledOrdersResponse
  | [], rows => ⟨rows, none⟩
  | item :: items, rows =>
    if rows.length ≥ limit then ⟨rows, some item.1⟩ else collect limit items (rows ++ [cancelledRow item])

def pageLimit (limit : Option ℕ) : ℕ := min (limit.getD MAX_CANCELLED_ORDERS_PAGE_SIZE) MAX_CANCELLED_ORDERS_PAGE_SIZE

def cancelledOrders (st : Storage) (botId : ℕ) (startAfter limit : Option ℕ) : CancelledOrdersResponse :=
  collect (pageLimit limit) ((beyond startAfter (recorded st botId)).take (pageLimit limit + 1)) []

def Listed (st : Storage) (botId : ℕ) (limit startAfter : Option ℕ) (rows : List CancelledOrderResponse) : Prop :=
  Fetch (fun start => ((cancelledOrders st botId start limit).rows, (cancelledOrders st botId start limit).nextCursor))
    startAfter rows

variable {st : Storage} {botId : ℕ} {limit : ℕ}

lemma collect_take (items : List (ℕ × CancelledOrder)) (rows : List CancelledOrderResponse)
    (h : rows.length ≤ limit) : collect limit (items.take (limit - rows.length + 1)) rows =
      ⟨rows ++ (items.take (limit - rows.length)).map cancelledRow, items[limit - rows.length]?.map Prod.fst⟩ := by
  induction items generalizing rows with
  | nil => simp [collect]
  | cons item items ih =>
    rw [List.take_succ_cons, collect]
    by_cases hfull : rows.length ≥ limit
    · have hzero : limit - rows.length = 0 := by omega
      rw [if_pos hfull, hzero]
      simp
    · obtain ⟨room, hroom⟩ : ∃ room, limit - rows.length = room + 1 := ⟨limit - rows.length - 1, by omega⟩
      have hnext : (rows ++ [cancelledRow item]).length ≤ limit := by
        rw [List.length_append, List.length_singleton]
        omega
      have hleft : limit - (rows ++ [cancelledRow item]).length = room := by
        rw [List.length_append, List.length_singleton]
        omega
      have hrest := ih (rows ++ [cancelledRow item]) hnext
      rw [hleft] at hrest
      rw [if_neg hfull, hroom, hrest]
      simp

lemma cancelledOrders_page (startAfter limit : Option ℕ) :
    ((cancelledOrders st botId startAfter limit).rows, (cancelledOrders st botId startAfter limit).nextCursor) =
      page cancelledRow (pageLimit limit) (beyond startAfter (recorded st botId)) := by
  have hcollect := collect_take (beyond startAfter (recorded st botId)) [] (Nat.zero_le (pageLimit limit))
  simp only [List.length_nil, Nat.sub_zero, List.nil_append] at hcollect
  rw [cancelledOrders, hcollect]
  rfl

lemma recorded_sorted : (recorded st botId).Pairwise fun a b => a.1 < b.1 := by
  rw [recorded]
  split
  · have hsorted := st.cancelledOrders.ordered_keys_toList
    exact hsorted.imp fun h => by simpa [compare_lt_iff_lt] using h
  · exact .nil

/-- However large its pages, the listing ends; its rows are in increasing order, each once; of `n` orders it leaves out
one after every page, and is complete just in case they fit one page. -/
theorem cancelled_listing (st : Storage) (botId : ℕ) (limit : Option ℕ) : ∃ rows, Listed st botId limit none rows ∧
    (∀ rows', Listed st botId limit none rows' → rows' = rows) ∧
    (rows.map CancelledOrderResponse.orderId).Pairwise (· < ·) ∧
    rows.Sublist ((recorded st botId).map cancelledRow) ∧
    rows.length + (recorded st botId).length / (pageLimit limit + 1) = (recorded st botId).length ∧
    (rows = (recorded st botId).map cancelledRow ↔ (recorded st botId).length ≤ pageLimit limit) := by
  have hfetch : Listed st botId limit none ((skim (pageLimit limit) (recorded st botId)).map cancelledRow) := by
    simp only [Listed, cancelledOrders_page]
    exact fetch_skims cancelledRow recorded_sorted
  have hsublist : (skim (pageLimit limit) (recorded st botId)).Sublist (recorded st botId) := skim_sublist _
  have hlength : (skim (pageLimit limit) (recorded st botId)).length +
      (recorded st botId).length / (pageLimit limit + 1) = (recorded st botId).length := skim_length _
  refine ⟨_, hfetch, fun rows' h => hfetch.unique h, ?_, hsublist.map _, ?_, ?_⟩
  · rw [List.map_map, List.pairwise_map]
    exact recorded_sorted.sublist hsublist
  · rw [List.length_map]
    exact hlength
  · rw [← skim_eq_self_iff]
    constructor
    · intro h
      apply hsublist.eq_of_length
      have hlengths := congrArg List.length h
      rwa [List.length_map, List.length_map] at hlengths
    · intro h
      rw [h]

open Transactions OrderBook

theorem second_page_empty : ¬ ∀ st w, Reachable chain st w → ∀ limit, 1 ≤ limit → ∃ rows,
    Listed st BOT_ID (some limit) none rows ∧ rows = (recorded st BOT_ID).map cancelledRow := by
  intro hclaim
  have hruns : okAnd (scenario [.sent owner (.cancelAll 1)]) (fun r => decide ((recorded r.1 BOT_ID).length = 2 ∧
      (cancelledOrders r.1 BOT_ID none (some 1)).rows.length = 1 ∧
      (cancelledOrders r.1 BOT_ID none (some 1)).nextCursor = some 1 ∧
      cancelledOrders r.1 BOT_ID (some 1) (some 1) = ⟨[], none⟩)) = true := by
    decide
  obtain ⟨⟨st, w⟩, h, hchecked⟩ := okAnd_iff.mp hruns
  obtain ⟨htwo, hfirst, hcursor, hsecond⟩ := of_decide_eq_true hchecked
  obtain ⟨rows, hlisted, hall⟩ := hclaim st w (scenario_reachable h) 1 le_rfl
  have hone : Listed st BOT_ID (some 1) none ((cancelledOrders st BOT_ID none (some 1)).rows ++ []) :=
    .next (by rw [hcursor]) (.last (by rw [hsecond]))
  have hlengths := congrArg List.length (hlisted.unique hone)
  rw [List.append_nil, hfirst, hall, List.length_map, htwo] at hlengths
  exact absurd hlengths (by decide)

end Cl8yDexBots.LimitGrid.CancelledPages
