import Cl8yDexBots.LimitGrid.Deliveries

/-! What a transaction leaves behind whose messages are pages and payments to the keeper. -/

namespace Cl8yDexBots.LimitGrid.Pages

open Std Foundation.Checked Foundation.Words Foundation.SubMessages Foundation.StorageMap CosmWasm.Std
open State Orders Vault Transactions Effects Resolutions PendingMessages Deliveries

def OnlyPages (ms : List (SubMsg CosmosMsg)) : Prop := ∀ m ∈ ms, isPage m.msg ∨ isBank m.msg

def Accepted (log : Log) (id : ℕ) : Prop := ∃ m r, (m, Except.ok r) ∈ log ∧ id ∈ pageIds m.msg

def retiredBy (log : Log) : ℕ :=
  (log.map fun e => match e.2 with
    | .ok _ => (pageIds e.1.msg).length
    | .error _ => 0).sum

/-- What the outcomes of the pages make of the storage. -/
structure Settles (log : Log) (st st' : Storage) : Prop where
  config : st'.config = st.config
  vaultMode : st'.vaultMode = st.vaultMode
  nextReplyId : st'.nextReplyId = st.nextReplyId
  shares : st'.shares = st.shares
  retired : ∀ id, Accepted log id → st'.orders[id]? = none
  kept : ∀ id, ¬ Accepted log id → st'.orders[id]? = st.orders[id]?
  size : st'.orders.size + retiredBy log = st.orders.size
  cancelled : ∀ id : ℕ, st'.cancelledOrders[id]? ≠ none → st.cancelledOrders[id]? ≠ none ∨ Accepted log id
  bot : ∀ bot, st.bot = some bot → ∃ free activeOrders,
    st'.bot = some { bot with freeBalances := free, activeOrders } ∧
      (∀ i, bot.freeBalances i ≤ free i) ∧ ((∀ id, ¬ Accepted log id) → free = bot.freeBalances)

variable {W : Type} {C : Chain W} {st st₁ st' : Storage} {w w₁ w' : W}
  {ms : List (SubMsg CosmosMsg)} {m : SubMsg CosmosMsg} {log rest : Log}
  {o : Except String (List (String × String))}

lemma accepted_cons {id : ℕ} :
    Accepted ((m, o) :: log) id ↔ ((∃ r, o = .ok r) ∧ id ∈ pageIds m.msg) ∨ Accepted log id := by
  constructor
  · rintro ⟨m', r, hmem, hid⟩
    rcases List.mem_cons.mp hmem with h | h
    · cases h
      exact .inl ⟨⟨r, rfl⟩, hid⟩
    · exact .inr ⟨m', r, h, hid⟩
  · rintro (⟨⟨r, rfl⟩, hid⟩ | ⟨m', r, hmem, hid⟩)
    · exact ⟨m, r, List.mem_cons_self, hid⟩
    · exact ⟨m', r, List.mem_cons_of_mem _ hmem, hid⟩

lemma retiredBy_cons : retiredBy ((m, o) :: log) = retiredBy [(m, o)] + retiredBy log := by
  simp [retiredBy]

lemma Settles.refl : Settles [] st st := by
  refine ⟨rfl, rfl, rfl, rfl, ?_, fun _ _ => rfl, rfl, fun _ h => .inl h, ?_⟩
  · rintro id ⟨m, r, hmem, -⟩
    cases hmem
  · intro bot hbot
    exact ⟨bot.freeBalances, bot.activeOrders, hbot, fun i => le_rfl, fun _ => rfl⟩

lemma Settles.cons (first : Settles [(m, o)] st st₁) (next : Settles log st₁ st') :
    Settles ((m, o) :: log) st st' where
  config := next.config.trans first.config
  vaultMode := next.vaultMode.trans first.vaultMode
  nextReplyId := next.nextReplyId.trans first.nextReplyId
  shares := next.shares.trans first.shares
  retired := by
    intro id hid
    by_cases hlog : Accepted log id
    · exact next.retired id hlog
    · rw [next.kept id hlog]
      apply first.retired
      rcases accepted_cons.mp hid with h | h
      · exact accepted_cons.mpr (.inl h)
      · exact absurd h hlog
  kept := by
    intro id hid
    rw [accepted_cons, not_or] at hid
    rw [next.kept id hid.2]
    apply first.kept
    rw [accepted_cons, not_or]
    refine ⟨hid.1, ?_⟩
    rintro ⟨m', r, hmem, -⟩
    cases hmem
  size := by
    have hfirst := first.size
    have hnext := next.size
    rw [retiredBy_cons]
    omega
  cancelled := by
    intro id hid
    rcases next.cancelled id hid with hid | hid
    · rcases first.cancelled id hid with hid | hid
      · exact .inl hid
      · refine .inr (accepted_cons.mpr ?_)
        rcases accepted_cons.mp hid with h | ⟨m', r, hmem, -⟩
        · exact .inl h
        · cases hmem
    · exact .inr (accepted_cons.mpr (.inr hid))
  bot := by
    intro bot hbot
    obtain ⟨free₁, active₁, hbot₁, hgrow₁, hsame₁⟩ := first.bot bot hbot
    obtain ⟨free, active, hbot', hgrow, hsame⟩ := next.bot _ hbot₁
    refine ⟨free, active, hbot', fun i => (hgrow₁ i).trans (hgrow i), fun hnone => ?_⟩
    rw [hsame fun id hid => hnone id (accepted_cons.mpr (.inr hid))]
    apply hsame₁
    intro id hid
    apply hnone id
    rcases accepted_cons.mp hid with h | ⟨m', r, hmem, -⟩
    · exact accepted_cons.mpr (.inl h)
    · cases hmem

lemma refunds_eq_zero {i : Fin 2} {entries : List PendingPageEntry} (h : entries = []) :
    refunds i entries = 0 := by
  rw [h]
  rfl

lemma settles_delivered (only : isPage m.msg ∨ isBank m.msg) (d : Delivered C st w m o st' w') :
    Settles [(m, o)] st st' := by
  have hbatch : ∀ {bot side rungs amountEach total items},
      ¬ BatchOf st bot m side rungs amountEach total items := by
    intro bot side rungs amountEach total items hb
    rw [hb.shape] at only
    rcases only with h | h <;> cases h
  cases d with
  | sent plain ran =>
    have hids : pageIds m.msg = [] := by
      rcases hmsg : m.msg with ⟨token, msg⟩ | ⟨pair, msg⟩ | ⟨recipient, coins⟩
      · rfl
      · rw [hmsg] at plain
        cases plain
      · rfl
    refine ⟨rfl, rfl, rfl, rfl, fun id hid => ?_, fun _ _ => rfl, ?_, fun _ h => .inl h, fun bot hbot => ?_⟩
    · rcases accepted_cons.mp hid with ⟨-, h⟩ | ⟨m', r, hmem, -⟩
      · rw [hids] at h
        cases h
      · cases hmem
    · simp [retiredBy, hids]
    · exact ⟨bot.freeBalances, bot.activeOrders, hbot, fun i => le_rfl, fun _ => rfl⟩
  | reverted hbot page failed =>
    refine ⟨rfl, rfl, rfl, rfl, fun id hid => ?_, fun _ _ => rfl, rfl, fun _ h => .inl h, fun bot hbot => ?_⟩
    · rcases accepted_cons.mp hid with ⟨⟨r, hr⟩, -⟩ | ⟨m', r, hmem, -⟩
      · cases hr
      · cases hmem
    · exact ⟨bot.freeBalances, bot.activeOrders, hbot, fun i => le_rfl, fun _ => rfl⟩
  | @confirmed r _ bot kind entries s hbot page ran settled counted =>
    have hids : ∀ id, Accepted [(m, Except.ok r)] id ↔ id ∈ entries.map PendingPageEntry.orderId := by
      intro id
      rw [accepted_cons, pageIds_of_shape page]
      constructor
      · rintro (⟨-, h⟩ | ⟨m', r, hmem, -⟩)
        · exact h
        · cases hmem
      · exact fun h => .inl ⟨⟨r, rfl⟩, h⟩
    refine ⟨rfl, rfl, rfl, rfl, fun id hid => ?_, fun id hid => ?_, ?_, fun id hid => ?_, fun b hb => ?_⟩
    · exact settled.untracked id ((hids id).mp hid)
    · exact settled.others id fun h => hid ((hids id).mpr h)
    · have hsize := settled.size
      simpa [retiredBy, pageIds_of_shape page] using hsize
    · rcases settled.cancelled id hid with h | h
      · exact .inl h
      · exact .inr ((hids id).mpr h)
    · obtain rfl := Option.some.inj (hbot.symm.trans hb)
      refine ⟨s.freeBalances, bot.activeOrders - entries.length, rfl, fun i => ?_, fun hnone => ?_⟩
      · rw [le_iff, settled.credited i]
        exact Nat.le_add_right _ _
      · have hempty : entries = [] := by
          rw [List.eq_nil_iff_forall_not_mem]
          intro e he
          exact hnone e.orderId ((hids _).mpr (List.mem_map_of_mem he))
        funext i
        rw [eq_iff, settled.credited i, refunds_eq_zero hempty]
        rfl
  | restored hbot batch single counted credit outcome => exact absurd batch hbatch
  | recorded hbot batch ran placed all settled => exact absurd batch hbatch

theorem settles (h : Dispatch C.host st w ms log st' w') (pending : Pending st ms) (only : OnlyPages ms) :
    Settles log st st' ∧ log.map Prod.fst = ms := by
  induction h with
  | done => exact ⟨.refl, rfl⟩
  | @step st w m ms o st₁ w₁ new log st' w' first rest ih =>
    obtain ⟨rfl, hd⟩ := pending_delivered pending first
    obtain ⟨hrest, hlog⟩ := ih (delivered_pending pending hd) fun b hb => only b (List.mem_cons_of_mem _ hb)
    refine ⟨.cons (settles_delivered (only m List.mem_cons_self) hd) hrest, ?_⟩
    rw [List.map_cons, hlog]
    rfl

lemma accepted_of_all (hlog : log.map Prod.fst = ms) (all : ∀ m o, (m, o) ∈ log → isPage m.msg → ∃ r, o = .ok r)
    {id : ℕ} (hm : m ∈ ms) (hid : id ∈ pageIds m.msg) : Accepted log id := by
  rw [← hlog] at hm
  obtain ⟨⟨m, o⟩, hmem, rfl⟩ := List.mem_map.mp hm
  have hpage : isPage m.msg := by
    rcases hmsg : m.msg with ⟨token, msg⟩ | ⟨pair, msg⟩ | ⟨recipient, coins⟩
    · dsimp only at hid
      rw [hmsg] at hid
      cases hid
    · trivial
    · dsimp only at hid
      rw [hmsg] at hid
      cases hid
  obtain ⟨r, rfl⟩ := all m o hmem hpage
  exact ⟨m, r, hmem, hid⟩

end Cl8yDexBots.LimitGrid.Pages
