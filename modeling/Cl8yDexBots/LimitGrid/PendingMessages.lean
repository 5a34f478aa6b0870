import Cl8yDexBots.LimitGrid.Resolutions

/-! The messages a transaction still has to deliver, and the entries that await their replies. -/

namespace Cl8yDexBots.LimitGrid.PendingMessages

open Std Relation Foundation.Checked Foundation.Words Foundation.SubMessages Foundation.StorageMap
open CosmWasm.Std
open State Orders Vault Transactions Effects EntryEffects Resolutions

structure PageOf (st : Storage) (bot : Bot) (m : SubMsg CosmosMsg) (kind : PageKind)
    (entries : List PendingPageEntry) : Prop where
  shape : m = .replyAlways (.pair bot.pair (pageMsg kind (entries.map PendingPageEntry.orderId))) m.id
  no_batch : st.placements[m.id]? = none
  saved : st.pendingPages[m.id]? = some ⟨BOT_ID, kind, entries⟩
  distinct : (entries.map PendingPageEntry.orderId).Nodup
  tracked : ∀ e ∈ entries, ∃ order, st.orders[e.orderId]? = some order ∧
    e.tokenIndex = order.side.tokenIndex ∧ e.refund ≤ order.remaining

structure BatchOf (st : Storage) (bot : Bot) (m : SubMsg CosmosMsg) (side : LimitOrderSide)
    (rungs : List ℕ) (amountEach total : Uint128) (items : List LimitOrderPlacementItem) : Prop where
  shape : m = .replyAlways (placementMsg bot side total items) m.id
  no_page : st.pendingPages[m.id]? = none
  saved : st.placements[m.id]? =
    some ⟨BOT_ID, side, rungs, List.replicate rungs.length amountEach⟩
  all_items : items.length = rungs.length
  some_rung : rungs ≠ []
  sum : total.val = amountEach.val * rungs.length

inductive Awaited (st : Storage) (m : SubMsg CosmosMsg) : Prop
  | transfer {token recipient amount} (h : m = .plain (.token token (.transfer recipient amount)))
  | bank {recipient coins} (h : m = .plain (.bank recipient coins))
  | page {bot kind entries} (hbot : st.bot = some bot) (h : PageOf st bot m kind entries)
  | batch {bot side rungs amountEach total items} (hbot : st.bot = some bot)
      (h : BatchOf st bot m side rungs amountEach total items)

def Replied (m : SubMsg CosmosMsg) : Prop := m.replyOn = .always

def isBank : CosmosMsg → Prop
  | .bank _ _ => True
  | _ => False

structure Pending (st : Storage) (ms : List (SubMsg CosmosMsg)) : Prop where
  awaited : ∀ m ∈ ms, Awaited st m
  ids : ms.Pairwise fun a b => Replied a → Replied b → a.id ≠ b.id
  bounded : ∀ m ∈ ms, Replied m → m.id < st.nextReplyId
  placements : ∀ k, st.placements[k]? ≠ none → ∃ m ∈ ms, Replied m ∧ m.id = k
  pages : ∀ k, st.pendingPages[k]? ≠ none → ∃ m ∈ ms, Replied m ∧ m.id = k
  disjoint : ms.Pairwise fun a b => List.Disjoint (pageIds a.msg) (pageIds b.msg)
  unmixed : (∀ m ∈ ms, ¬ isPage m.msg) ∨ ∀ m ∈ ms, isPage m.msg ∨ isBank m.msg

variable {st st' : Storage} {ms : List (SubMsg CosmosMsg)} {m : SubMsg CosmosMsg}

lemma pageIds_of_shape {bot : Bot} {kind : PageKind} {entries : List PendingPageEntry}
    (h : PageOf st bot m kind entries) :
    pageIds m.msg = entries.map PendingPageEntry.orderId := by
  rw [h.shape]
  exact pageIds_pageMsg _ _ _

lemma Awaited.of_saved (h : Awaited st m) (hbot : ∀ bot, st.bot = some bot →
      ∃ bot', st'.bot = some bot' ∧ bot'.pair = bot.pair ∧ bot'.assetTokens = bot.assetTokens)
    (placements : Replied m → st'.placements[m.id]? = st.placements[m.id]?)
    (pages : Replied m → st'.pendingPages[m.id]? = st.pendingPages[m.id]?)
    (orders : ∀ k ∈ pageIds m.msg, st'.orders[k]? = st.orders[k]?) : Awaited st' m := by
  cases h with
  | transfer h => exact .transfer h
  | bank h => exact .bank h
  | @page bot kind entries hb h =>
    have hreplied : Replied m := by
      rw [h.shape]
      rfl
    obtain ⟨bot', hbot', hpair, -⟩ := hbot bot hb
    have hpage : PageOf st' bot' m kind entries := by
      refine ⟨?_, ?_, ?_, h.distinct, ?_⟩
      · rw [hpair]
        exact h.shape
      · rw [placements hreplied]
        exact h.no_batch
      · rw [pages hreplied]
        exact h.saved
      · intro e he
        rw [orders _ (by
          rw [pageIds_of_shape h]
          exact List.mem_map_of_mem he)]
        exact h.tracked e he
    exact .page hbot' hpage
  | @batch bot side rungs amountEach total items hb h =>
    have hreplied : Replied m := by
      rw [h.shape]
      rfl
    obtain ⟨bot', hbot', hpair, htokens⟩ := hbot bot hb
    have hbatch : BatchOf st' bot' m side rungs amountEach total items := by
      refine ⟨?_, ?_, ?_, h.all_items, h.some_rung, h.sum⟩
      · rw [placementMsg]
        rw [hpair, htokens]
        exact h.shape
      · rw [pages hreplied]
        exact h.no_page
      · rw [placements hreplied]
        exact h.saved
    exact .batch hbot' hbatch

/-- Storages that agree on everything a pending message refers to. -/
structure Kept (ms : List (SubMsg CosmosMsg)) (st st' : Storage) : Prop where
  placements : st'.placements = st.placements
  pendingPages : st'.pendingPages = st.pendingPages
  nextReplyId : st'.nextReplyId = st.nextReplyId
  bot : ∀ bot, st.bot = some bot →
    ∃ bot', st'.bot = some bot' ∧ bot'.pair = bot.pair ∧ bot'.assetTokens = bot.assetTokens
  orders : ∀ m ∈ ms, ∀ k ∈ pageIds m.msg, st'.orders[k]? = st.orders[k]?

lemma Awaited.kept (h : Awaited st m) (hm : m ∈ ms) (k : Kept ms st st') : Awaited st' m :=
  h.of_saved k.bot (fun _ => by rw [k.placements]) (fun _ => by rw [k.pendingPages]) (k.orders m hm)

lemma Pending.kept (h : Pending st ms) (k : Kept ms st st') : Pending st' ms where
  awaited m hm := (h.awaited m hm).kept hm k
  ids := h.ids
  bounded := by
    rw [k.nextReplyId]
    exact h.bounded
  placements := by
    rw [k.placements]
    exact h.placements
  pages := by
    rw [k.pendingPages]
    exact h.pages
  disjoint := h.disjoint
  unmixed := h.unmixed

lemma pairwise_snoc {α : Type} {R : α → α → Prop} {as : List α} {a : α} (h : as.Pairwise R)
    (last : ∀ b ∈ as, R b a) : (as ++ [a]).Pairwise R := by
  rw [List.pairwise_append]
  refine ⟨h, List.pairwise_singleton _ _, ?_⟩
  intro b hb c hc
  obtain rfl := List.mem_singleton.mp hc
  exact last b hb

lemma Pending.snoc_plain {msg : CosmosMsg} (h : Pending st ms) (hm : Awaited st (.plain msg))
    (hids : pageIds msg = [])
    (unmixed : (∀ m ∈ ms, ¬ isPage m.msg) ∧ ¬ isPage msg ∨ (∀ m ∈ ms, isPage m.msg ∨ isBank m.msg) ∧
      isBank msg) : Pending st (ms ++ [.plain msg]) where
  awaited m hmem := by
    rcases List.mem_append.mp hmem with hmem | hmem
    · exact h.awaited m hmem
    · obtain rfl := List.mem_singleton.mp hmem
      exact hm
  ids := pairwise_snoc h.ids fun b _ _ hnever => by cases hnever
  bounded m hmem hreplied := by
    rcases List.mem_append.mp hmem with hmem | hmem
    · exact h.bounded m hmem hreplied
    · obtain rfl := List.mem_singleton.mp hmem
      cases hreplied
  placements k hk := by
    obtain ⟨m, hmem, hm⟩ := h.placements k hk
    exact ⟨m, List.mem_append_left _ hmem, hm⟩
  pages k hk := by
    obtain ⟨m, hmem, hm⟩ := h.pages k hk
    exact ⟨m, List.mem_append_left _ hmem, hm⟩
  disjoint := pairwise_snoc h.disjoint fun b _ => by
    change List.Disjoint _ (pageIds msg)
    rw [hids]
    exact List.disjoint_nil_right _
  unmixed := by
    rcases unmixed with ⟨hno, hlast⟩ | ⟨hall, hlast⟩
    · refine .inl fun m hmem => ?_
      rcases List.mem_append.mp hmem with hmem | hmem
      · exact hno m hmem
      · obtain rfl := List.mem_singleton.mp hmem
        exact hlast
    · refine .inr fun m hmem => ?_
      rcases List.mem_append.mp hmem with hmem | hmem
      · exact hall m hmem
      · obtain rfl := List.mem_singleton.mp hmem
        exact .inr hlast

lemma Pending.nil (hp : st.placements = ∅) (hq : st.pendingPages = ∅) : Pending st [] where
  awaited := by simp
  ids := List.Pairwise.nil
  bounded := by simp
  placements := by simp [hp]
  pages := by simp [hq]
  disjoint := List.Pairwise.nil
  unmixed := .inl (by simp)

lemma Pending.empty (h : Pending st []) : st.placements = ∅ ∧ st.pendingPages = ∅ := by
  constructor
  · apply eq_empty_of_lookup
    intro k
    by_contra hk
    obtain ⟨m, hm, -⟩ := h.placements k hk
    cases hm
  · apply eq_empty_of_lookup
    intro k
    by_contra hk
    obtain ⟨m, hm, -⟩ := h.pages k hk
    cases hm

lemma Pending.transfers {bot : Bot} {recipient : Addr} {amounts : Fin 2 → Uint128}
    (hp : st.placements = ∅) (hq : st.pendingPages = ∅) :
    Pending st (transfers bot recipient amounts) := by
  have h₀ : Pending st [] := .nil hp hq
  have hsnoc : ∀ {ms i}, Pending st ms → (∀ m ∈ ms, ¬ isPage m.msg) →
      Pending st (ms ++ [.plain (.token (bot.assetTokens i) (.transfer recipient (amounts i)))]) :=
    fun h hno => h.snoc_plain (.transfer rfl) rfl (.inl ⟨hno, id⟩)
  rw [Vault.transfers]
  simp only [List.filterMap_cons, List.filterMap_nil]
  split
  · split
    · exact h₀
    · rename_i h
      split at h
      · cases h
      · cases h
        exact hsnoc h₀ (by simp)
  · rename_i h
    split at h
    · cases h
    · cases h
      have h₁ := hsnoc (i := 0) h₀ (by simp)
      split
      · exact h₁
      · rename_i h
        split at h
        · cases h
        · cases h
          refine hsnoc h₁ ?_
          intro m hm
          obtain rfl := List.mem_singleton.mp hm
          exact id

lemma Pending.fresh (h : Pending st ms) :
    st.placements[st.nextReplyId]? = none ∧ st.pendingPages[st.nextReplyId]? = none := by
  constructor
  · by_contra hk
    obtain ⟨m, hm, hreplied, hid⟩ := h.placements _ hk
    exact absurd (h.bounded m hm hreplied) (by omega)
  · by_contra hk
    obtain ⟨m, hm, hreplied, hid⟩ := h.pages _ hk
    exact absurd (h.bounded m hm hreplied) (by omega)

lemma Pending.snoc_replied {msg : CosmosMsg} (h : Pending st ms)
    (next : st'.nextReplyId = st.nextReplyId + 1)
    (awaited : ∀ m ∈ ms, Awaited st' m) (last : Awaited st' (.replyAlways msg st.nextReplyId))
    (placements : ∀ k, st'.placements[k]? ≠ none → st.placements[k]? ≠ none ∨ k = st.nextReplyId)
    (pages : ∀ k, st'.pendingPages[k]? ≠ none → st.pendingPages[k]? ≠ none ∨ k = st.nextReplyId)
    (disjoint : ∀ m ∈ ms, List.Disjoint (pageIds m.msg) (pageIds msg))
    (unmixed : (∀ m ∈ ms, ¬ isPage m.msg) ∧ ¬ isPage msg ∨ (∀ m ∈ ms, isPage m.msg) ∧ isPage msg) :
    Pending st' (ms ++ [.replyAlways msg st.nextReplyId]) where
  awaited m hmem := by
    rcases List.mem_append.mp hmem with hmem | hmem
    · exact awaited m hmem
    · obtain rfl := List.mem_singleton.mp hmem
      exact last
  ids := pairwise_snoc h.ids fun b hb hreplied _ heq => by
    have hlt := h.bounded b hb hreplied
    change b.id = st.nextReplyId at heq
    omega
  bounded m hmem hreplied := by
    rw [next]
    rcases List.mem_append.mp hmem with hmem | hmem
    · have hlt := h.bounded m hmem hreplied
      omega
    · obtain rfl := List.mem_singleton.mp hmem
      exact Nat.lt_succ_self _
  placements k hk := by
    rcases placements k hk with hk | rfl
    · obtain ⟨m, hmem, hm⟩ := h.placements k hk
      exact ⟨m, List.mem_append_left _ hmem, hm⟩
    · exact ⟨_, List.mem_append_right _ List.mem_cons_self, rfl, rfl⟩
  pages k hk := by
    rcases pages k hk with hk | rfl
    · obtain ⟨m, hmem, hm⟩ := h.pages k hk
      exact ⟨m, List.mem_append_left _ hmem, hm⟩
    · exact ⟨_, List.mem_append_right _ List.mem_cons_self, rfl, rfl⟩
  disjoint := pairwise_snoc h.disjoint disjoint
  unmixed := by
    rcases unmixed with ⟨hno, hlast⟩ | ⟨hall, hlast⟩
    · refine .inl fun m hmem => ?_
      rcases List.mem_append.mp hmem with hmem | hmem
      · exact hno m hmem
      · obtain rfl := List.mem_singleton.mp hmem
        exact hlast
    · refine .inr fun m hmem => ?_
      rcases List.mem_append.mp hmem with hmem | hmem
      · exact .inl (hall m hmem)
      · obtain rfl := List.mem_singleton.mp hmem
        exact .inl hlast

end Cl8yDexBots.LimitGrid.PendingMessages
