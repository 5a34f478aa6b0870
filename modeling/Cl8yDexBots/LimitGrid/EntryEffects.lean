import Cl8yDexBots.LimitGrid.Effects

/-! Every entry point and every reply of the limit-grid vault, taken apart into steps. -/

namespace Cl8yDexBots.LimitGrid.EntryEffects

open Std Relation Foundation.Checked Foundation.Words Foundation.SubMessages Foundation.StorageMap
open CosmWasm.Std CosmWasm.Pair
open State Pricing Orders Vault Effects

variable {q : Querier} {env : Env} {st st' : Storage} {info : MessageInfo} {r : Response CosmosMsg}
  {botId : ℕ}

lemma tracked_nodup (st : Storage) : ((trackedOrders st).map Prod.fst).Nodup := by
  rw [trackedOrders]
  rw [List.map_take]
  exact (nodup_keys st.orders).sublist (List.take_sublist _ _)

lemma tracked_lookup {e : ℕ × GridOrder} (h : e ∈ trackedOrders st) :
    st.orders[e.1]? = some e.2 :=
  mem_toList_iff.mp (List.mem_of_mem_take h)

lemma executeCreateBot_steps {pair : String} {lowerPrice upperPrice : Decimal} {gridCount : ℕ}
    (h : executeCreateBot q st info pair lowerPrice upperPrice gridCount = .ok (st', r)) :
    Steps q env (st, []) (st', r.messages) := by
  simp only [executeCreateBot, bind_eq_ok, ensure_eq_ok, exists_const, Except.ok.injEq, Prod.exists,
    Prod.mk.injEq] at h
  obtain ⟨_, -, hfresh, -, -, pair, -, pairInfo, codeId, tokens, hpair, _, -, _, -, _, -, _, -, -, _, -,
    -, _, -, -, price, -, -, prices, -, -, -, gas, -, _, -, -, rfl, rfl⟩ := h
  simp only [registeredPair, bind_eq_ok, liftStd_eq_ok, ensure_eq_ok, exists_const, Except.ok.injEq,
    Prod.mk.injEq, decide_eq_true_eq] at hpair
  obtain ⟨info₀, hinfo, _, -, -, _, -, -, _, -, _, -, -, t₀, h₀, t₁, h₁, hne, rfl, rfl, rfl⟩ := hpair
  have hnone : st.bot = none := Option.isNone_iff_eq_none.mp hfresh
  have htokens : ∀ i : Fin 2, tokenAddress q (info₀.assetInfos i) = .ok ((![t₀, t₁] : Fin 2 → Addr) i) := by
    intro i
    fin_cases i
    · exact h₀
    · exact h₁
  rw [adoptTokens]
  split
  · exact .single (.created _ hnone hinfo htokens hne ⟨rfl, rfl, rfl⟩)
  · refine .tail (.single (.configured st.config.admin st.config.pendingAdmin st.config.keeper
      st.vaultMode ((st.allowedTokens.insert t₀ ()).insert t₁ ()) st.quarantine true)) ?_
    exact .created _ hnone hinfo htokens hne ⟨rfl, rfl, rfl⟩

lemma executeReceive_steps {receive : Cw20ReceiveMsg}
    (h : executeReceive q env st info receive = .ok (st', r)) :
    Steps q env (st, []) (st', r.messages) := by
  simp only [executeReceive, bind_eq_ok, ensure_eq_ok, exists_const, orError_eq_ok, liftStd_eq_ok,
    loadBot_eq_ok, checkedAdd_eq_ok, decide_eq_true_eq] at h
  obtain ⟨_, -, -, ⟨botId⟩, -, depositor, -, bot, ⟨rfl, hbot⟩, -, _, -, _, -, -, index, hindex, -, actual, hactual,
    expected, hexpected, rfl, minted, -, -, totalShares, htotal, shares, hshares, expires, -, h⟩ := h
  have htoken : info.sender = bot.assetTokens index := by
    rw [tokenPosition] at hindex
    split at hindex
    · cases hindex
      exact (‹bot.assetTokens 0 = info.sender›).symm
    · split at hindex
      · cases hindex
        exact (‹bot.assetTokens 1 = info.sender›).symm
      · cases hindex
  rw [htoken] at hactual
  obtain ⟨hsteps, -, -⟩ := allocateSide_effects q env rfl (by simp) h
  exact .head (.deposited depositor hbot hactual hexpected htotal hshares rfl) hsteps

lemma executeFundGas_steps (h : executeFundGas st info botId = .ok (st', r)) :
    Steps q env (st, []) (st', r.messages) := by
  simp only [executeFundGas, bind_eq_ok, ensure_eq_ok, exists_const, loadBot_eq_ok, Except.ok.injEq,
    Prod.mk.injEq] at h
  obtain ⟨_, -, -, bot, ⟨-, hbot⟩, gasCredit, -, rfl, rfl⟩ := h
  exact .single (.regauged gasCredit bot.pairCodeId hbot)

lemma executeWithdrawGas_steps {amount : Uint128} {recipient : Option String}
    (h : executeWithdrawGas q st info botId amount recipient = .ok (st', r)) :
    Steps q env (st, []) (st', r.messages) := by
  simp only [executeWithdrawGas, bind_eq_ok, ensure_eq_ok, exists_const, loadBot_eq_ok,
    Except.ok.injEq, Prod.mk.injEq] at h
  obtain ⟨_, -, -, recipient, -, bot, ⟨-, hbot⟩, _, -, remaining, -, _, -, -, rfl, rfl⟩ := h
  exact .tail (.single (.regauged remaining bot.pairCodeId hbot)) (.paid recipient _)

lemma executeAllocate_steps (h : executeAllocate q env st info botId = .ok (st', r)) :
    Steps q env (st, []) (st', r.messages) := by
  simp only [executeAllocate, bind_eq_ok, ensure_eq_ok, exists_const, loadBot_eq_ok, Except.ok.injEq,
    Prod.exists, Prod.mk.injEq] at h
  obtain ⟨_, -, _, -, bot, ⟨rfl, hbot⟩, _, -, _, -, -, -, expires, -, st₁, r₁, h₁, st₂, r₂, h₂, -, rfl, rfl⟩ := h
  obtain ⟨hsteps₁, ⟨bot₁, hbot₁⟩, hpages₁⟩ := allocateSide_effects q env hbot (by simp) h₁
  obtain ⟨hsteps₂, -, -⟩ := allocateSide_effects q env hbot₁ hpages₁ h₂
  exact hsteps₁.trans hsteps₂

lemma executeSyncBalances_steps (h : executeSyncBalances q env st info botId = .ok (st', r)) :
    Steps q env (st, []) (st', r.messages) := by
  simp only [executeSyncBalances, bind_eq_ok, loadBot_eq_ok, Except.ok.injEq, Prod.exists,
    Prod.mk.injEq] at h
  obtain ⟨_, -, bot, ⟨-, hbot⟩, _, -, credited, bot', hsync, rfl, rfl⟩ := h
  obtain ⟨live, rfl, hlive⟩ := syncFreeBalances_spec hsync
  exact .single (.synced hbot (fun i => (hlive i).1) (fun i => (hlive i).2.1) rfl)

lemma claimPages_steps (st : Storage) {bot : Bot} {r' : Response CosmosMsg} {claims : List PendingPageEntry}
    (hbot : st.bot = some bot) (hclaims : ∀ e ∈ claims, ValidEntry q env st.orders bot.pair .claim e)
    (distinct : (claims.map PendingPageEntry.orderId).Nodup) (hr : r.messages = [])
    (h : claimPages q st r BOT_ID bot.pair claims = .ok (st', r')) :
    Steps q env (st, []) (st', r'.messages) ∧ st'.bot = some bot := by
  rw [claimPages] at h
  split at h
  · cases h
    rw [hr]
    exact ⟨.refl, hbot⟩
  · simp only [bind_eq_ok] at h
    obtain ⟨_, -, h⟩ := h
    obtain ⟨hsteps, hbot', -⟩ := addConfirmablePages_effects q env hbot (by simp) hclaims (by simpa) hr h
    exact ⟨hsteps, hbot'⟩

lemma payKeeper_steps {r' : Response CosmosMsg} (h : payKeeper st r info botId = .ok (st', r')) :
    Steps q env (st, r.messages) (st', r'.messages) := by
  rw [payKeeper] at h
  split at h
  · simp only [bind_eq_ok, loadBot_eq_ok, Except.ok.injEq, Prod.mk.injEq] at h
    obtain ⟨bot, ⟨-, hbot⟩, gasCredit, -, rfl, rfl⟩ := h
    exact .tail (.single (.regauged gasCredit bot.pairCodeId hbot)) (.paid _ _)
  · cases h
    exact .refl

lemma executeReconcile_steps {orderIds : List ℕ}
    (h : executeReconcile q env st info botId orderIds = .ok (st', r)) :
    Steps q env (st, []) (st', r.messages) := by
  simp only [executeReconcile, bind_eq_ok, ensure_eq_ok, exists_const, loadBot_eq_ok, Prod.exists] at h
  obtain ⟨_, -, _, -, bot, ⟨rfl, hbot⟩, -, _, -, _, -, -, credited, bot₁, hsync, sweep, hsweep, -, st₂, bot₂,
    fee, hfee, st₃, r₃, hclaim, hpay⟩ := h
  obtain ⟨live, rfl, hlive⟩ := syncFreeBalances_spec hsync
  have hsynced : Effect q env (st, []) _ :=
    .synced hbot (fun i => (hlive i).1) (fun i => (hlive i).2.1) rfl
  obtain ⟨hswept, hqueued⟩ := reconcileOrders_effects st { bot with freeBalances := live }
    (s := ⟨st.orders, bot.activeOrders, [], [], 0, 0, 0⟩) ⟨by simp, by simp⟩ hsweep
  obtain ⟨hcharged, horders₂, -, hpair₂⟩ := chargeFee_effects env [] hfee
  have hqueued : Queued q env bot₂.pair sweep := hpair₂ ▸ hqueued
  obtain ⟨hpaged, -⟩ := claimPages_steps { st₂ with bot := some bot₂ } rfl
    (by
      dsimp only
      rw [horders₂]
      exact fun e he => (hqueued.2 e he).2) hqueued.1 rfl hclaim
  exact (ReflTransGen.head hsynced hswept).trans (hcharged.trans (hpaged.trans (payKeeper_steps hpay)))

lemma recoverable_spec {pair : Addr} {orderId rungIndex : ℕ} {price : Decimal} {side : LimitOrderSide}
    {remaining : Uint128} {parked : Bool}
    (h : recoverable q env pair orderId rungIndex price side = .ok (remaining, parked)) :
    (parked = false ∧ OnBook q env pair orderId side price remaining) ∨
      parked = true ∧ Parked q env pair orderId side remaining := by
  rw [recoverable] at h
  split at h
  · rename_i onChain hbook
    simp only [bind_eq_ok, validateOrder_eq_ok, ensure_eq_ok, exists_const, Except.ok.injEq,
      Prod.mk.injEq] at h
    obtain ⟨⟨amount, -, honChain⟩, -, rfl, rfl⟩ := h
    have hremaining : onChain.remaining = amount := congrArg LimitOrderResponse.remaining honChain
    refine .inl ⟨rfl, ?_⟩
    rw [OnBook]
    rw [hbook, hremaining]
    exact congrArg _ honChain
  · rename_i e hbook
    simp only [bind_eq_ok, withError_eq_ok, orError_eq_ok, ensure_eq_ok, exists_const, Except.ok.injEq,
      Prod.mk.injEq] at h
    obtain ⟨_, hrefund, ⟨id, owner, side', amount⟩, rfl, hvalid, rfl, rfl⟩ := h
    simp only [decide_eq_true_eq, not_or, not_not] at hvalid
    obtain ⟨rfl, rfl, rfl, -⟩ := hvalid
    exact .inr ⟨rfl, ⟨e, hbook⟩, hrefund⟩

lemma executeRecoverOrder_steps {orderId rungIndex : ℕ}
    (h : executeRecoverOrder q env st info botId orderId rungIndex = .ok (st', r)) :
    Steps q env (st, []) (st', r.messages) := by
  simp only [executeRecoverOrder, bind_eq_ok, ensure_eq_ok, exists_const, loadBot_eq_ok, orError_eq_ok,
    Prod.exists] at h
  obtain ⟨_, -, bot, ⟨rfl, hbot⟩, _, -, huntracked, huncancelled, _, -, rung, -, side, -, remaining, parked,
    hfound, -, h⟩ := h
  have huntracked := Option.isNone_iff_eq_none.mp huntracked
  have huncancelled := Option.isNone_iff_eq_none.mp huncancelled
  have hrecovered : ∀ price, OnBook q env bot.pair orderId side price remaining ∨
      Parked q env bot.pair orderId side remaining →
      Effect q env (st, []) ({ st with
        bot := some { bot with activeOrders := bot.activeOrders + 1 }
        orders := st.orders.insert orderId ⟨rungIndex, side, price, remaining⟩ }, []) :=
    fun price hf => .recovered rungIndex hbot huntracked huncancelled hf
  rcases recoverable_spec hfound with ⟨rfl, hbook⟩ | ⟨rfl, hparked⟩
  · simp only [Bool.false_eq_true, if_false, Except.ok.injEq, Prod.mk.injEq] at h
    obtain ⟨rfl, rfl⟩ := h
    exact .single (hrecovered _ (.inl hbook))
  · rw [if_pos rfl] at h
    obtain ⟨hpaged, -, -⟩ := addConfirmablePages_effects q env
      (show _ = some { bot with activeOrders := bot.activeOrders + 1 } from rfl) (by simp)
      (by
        intro e he
        obtain rfl := List.mem_singleton.mp he
        exact ⟨⟨rungIndex, side, rung.price, remaining⟩, by simp, rfl, le_rfl, hparked⟩)
      (by simp) rfl h
    exact .head (hrecovered _ (.inr hparked)) hpaged

lemma forall₂_map_eq {α β γ : Type} {R : α → β → Prop} {as : List α} {bs : List β} {f : α → γ}
    {g : β → γ} (h : List.Forall₂ R as bs) (same : ∀ a b, R a b → g b = f a) : bs.map g = as.map f := by
  induction h with
  | nil => rfl
  | cons hR _ ih => rw [List.map_cons, List.map_cons, same _ _ hR, ih]

lemma forall₂_exists {α β : Type} {R : α → β → Prop} {as : List α} {bs : List β}
    (h : List.Forall₂ R as bs) : ∀ b ∈ bs, ∃ a ∈ as, R a b := by
  induction h with
  | nil => simp
  | cons hR _ ih =>
    intro b hb
    rcases List.mem_cons.mp hb with rfl | hb
    · exact ⟨_, List.mem_cons_self, hR⟩
    · obtain ⟨a, ha, hab⟩ := ih b hb
      exact ⟨a, List.mem_cons_of_mem _ ha, hab⟩

lemma forall₂_right_exists {α β : Type} {R : α → β → Prop} {as : List α} {bs : List β}
    (h : List.Forall₂ R as bs) : ∀ a ∈ as, ∃ b, R a b := by
  induction h with
  | nil => simp
  | cons hR _ ih =>
    intro a ha
    rcases List.mem_cons.mp ha with rfl | ha
    · exact ⟨_, hR⟩
    · exact ih a ha

lemma cancelEntry_spec {pair : Addr} {tracked : ℕ × GridOrder} {e : PendingPageEntry}
    (h : cancelEntry q env pair tracked = .ok e) :
    e = ⟨tracked.1, tracked.2.side.tokenIndex, tracked.2.remaining⟩ ∧
      OnBook q env pair tracked.1 tracked.2.side tracked.2.price tracked.2.remaining := by
  simp only [cancelEntry, bind_eq_ok, withError_eq_ok, validateOrder_eq_ok, ensure_eq_ok, exists_const,
    Except.ok.injEq, decide_eq_true_eq] at h
  obtain ⟨_, hbook, ⟨remaining, -, rfl⟩, hsame, rfl⟩ := h
  dsimp only at hsame
  subst hsame
  exact ⟨rfl, hbook⟩

lemma executeCancelAll_steps (h : executeCancelAll q env st info botId = .ok (st', r)) :
    Steps q env (st, []) (st', r.messages) := by
  simp only [executeCancelAll, bind_eq_ok, loadBot_eq_ok] at h
  obtain ⟨_, -, bot, ⟨rfl, hbot⟩, _, -, _, -, h⟩ := h
  split at h
  · cases h
    exact .refl
  · simp only [bind_eq_ok, mapM_eq_ok, Except.ok.injEq, Prod.exists, Prod.mk.injEq] at h
    obtain ⟨entries, hentries, limit, -, st₁, r₁, hpages, rfl, rfl⟩ := h
    have hids : entries.map PendingPageEntry.orderId = (trackedOrders st).map Prod.fst :=
      forall₂_map_eq hentries fun t e he => by rw [(cancelEntry_spec he).1]
    refine (addConfirmablePages_effects q env hbot ?_ (by simp) ?_ rfl hpages).1
    · intro e he
      obtain ⟨t, ht, hte⟩ := forall₂_exists hentries e he
      obtain ⟨rfl, hbook⟩ := cancelEntry_spec hte
      exact ⟨t.2, tracked_lookup ht, rfl, le_rfl, t.2.price, hbook⟩
    · rw [List.append_nil, hids]
      exact tracked_nodup st

lemma redeem_steps {bot : Bot} {holder : Addr} {shares : Uint128} {recipient : Option String}
    {attributes : List (String × String)} (hbot : st.bot = some bot)
    (h : redeem q st bot holder shares recipient attributes = .ok (st', r)) :
    Steps q env (st, []) (st', r.messages) := by
  simp only [redeem, bind_eq_ok, checkedSub_eq_ok, Except.ok.injEq, Prod.mk.injEq] at h
  obtain ⟨a₀, -, a₁, -, recipient, -, f₀, ⟨hle₀, hf₀⟩, f₁, ⟨hle₁, hf₁⟩, totalShares, ⟨hle, htotal⟩, rest,
    ⟨hle', hrest⟩, rfl, rfl⟩ := h
  have hsupply : totalShares.val + shares.val = bot.totalShares.val := by omega
  have hholding : rest.val + shares.val = (sharesOf st holder).val := by omega
  refine .single (.redeemed recipient hbot ?_ hsupply hholding)
  intro i
  fin_cases i
  · change f₀.val + a₀.val = (bot.freeBalances 0).val
    omega
  · change f₁.val + a₁.val = (bot.freeBalances 1).val
    omega

lemma executeWithdraw_steps {shares : Uint128} {recipient : Option String}
    (h : executeWithdraw q st info botId shares recipient = .ok (st', r)) :
    Steps q env (st, []) (st', r.messages) := by
  simp only [executeWithdraw, bind_eq_ok, loadBot_eq_ok] at h
  obtain ⟨_, -, _, -, bot, ⟨-, hbot⟩, _, -, _, -, _, -, _, -, h⟩ := h
  exact redeem_steps hbot h

lemma executeRedeemShares_steps {recipient : Option String}
    (h : executeRedeemShares q st info botId recipient = .ok (st', r)) :
    Steps q env (st, []) (st', r.messages) := by
  simp only [executeRedeemShares, bind_eq_ok, loadBot_eq_ok] at h
  obtain ⟨_, -, _, -, _, -, bot, ⟨-, hbot⟩, _, -, _, -, h⟩ := h
  exact redeem_steps hbot h

lemma emergencyEntry_spec {pair : Addr} {tracked : ℕ × GridOrder} {e : PageKind × PendingPageEntry}
    (h : emergencyEntry q env pair tracked = .ok e) :
    e.2.orderId = tracked.1 ∧ e.2.tokenIndex = tracked.2.side.tokenIndex ∧
      e.2.refund ≤ tracked.2.remaining ∧
      Claimable q env pair tracked.1 tracked.2.side e.2.refund e.1 := by
  rw [emergencyEntry] at h
  split at h
  · rename_i onChain hbook
    simp only [bind_eq_ok, validateOrder_eq_ok, exists_const, Except.ok.injEq] at h
    obtain ⟨⟨remaining, hle, rfl⟩, rfl⟩ := h
    exact ⟨rfl, rfl, hle, tracked.2.price, hbook⟩
  · rename_i failure hbook
    simp only [bind_eq_ok, parkedRefund_eq_ok, orError_eq_ok, Except.ok.injEq] at h
    obtain ⟨parked, hparked, refund, rfl, rfl⟩ := h
    rcases hparked with ⟨h, -⟩ | ⟨_, h, hle, hq⟩
    · cases h
    · cases h
      exact ⟨rfl, rfl, hle, ⟨failure, hbook⟩, hq⟩

lemma entriesOf_mem {kind : PageKind} {es : List (PageKind × PendingPageEntry)} {e : PendingPageEntry} :
    e ∈ entriesOf kind es ↔ (kind, e) ∈ es := by
  rw [entriesOf]
  simp

lemma entriesOf_perm (es : List (PageKind × PendingPageEntry)) :
    (entriesOf .cancel es ++ entriesOf .claim es).Perm (es.map Prod.snd) := by
  simp only [entriesOf]
  rw [← List.map_append]
  apply List.Perm.map
  have hclaim : (fun e : PageKind × PendingPageEntry => decide (e.1 = .claim)) =
      fun e => !decide (e.1 = .cancel) := by
    funext e
    cases e.1 <;> rfl
  rw [hclaim]
  exact List.filter_append_perm _ _

lemma executeEmergencyCancel_steps (h : executeEmergencyCancel q env st info botId = .ok (st', r)) :
    Steps q env (st, []) (st', r.messages) := by
  simp only [executeEmergencyCancel, bind_eq_ok, loadBot_eq_ok, mapM_eq_ok, Except.ok.injEq, Prod.exists,
    Prod.mk.injEq] at h
  obtain ⟨_, -, _, -, bot, ⟨rfl, hbot⟩, _, -, _, -, entries, hentries, st₁, r₁, hpages, rfl, rfl⟩ := h
  have hvalid : ∀ kind, ∀ e ∈ entriesOf kind entries, ValidEntry q env st.orders bot.pair kind e := by
    intro kind e he
    obtain ⟨t, ht, hte⟩ := forall₂_exists hentries _ (entriesOf_mem.mp he)
    obtain ⟨hid, hindex, hle, hclaim⟩ := emergencyEntry_spec hte
    refine ⟨t.2, ?_, hindex, hle, ?_⟩
    · rw [hid]
      exact tracked_lookup ht
    · rw [hid]
      exact hclaim
  have hids : entries.map (PendingPageEntry.orderId ∘ Prod.snd) = (trackedOrders st).map Prod.fst :=
    forall₂_map_eq hentries fun t e he => (emergencyEntry_spec he).1
  refine (addConfirmablePages_effects q env hbot (hvalid .cancel) (hvalid .claim) ?_ rfl
    hpages).1
  rw [((entriesOf_perm entries).map PendingPageEntry.orderId).nodup_iff, List.map_map, hids]
  exact tracked_nodup st

lemma executeEmergencyWithdraw_steps {recipient : Option String}
    (h : executeEmergencyWithdraw q env st info botId recipient = .ok (st', r)) :
    Steps q env (st, []) (st', r.messages) := by
  simp only [executeEmergencyWithdraw, exitAmount, bind_eq_ok, loadBot_eq_ok, liftStd_eq_ok, ensure_eq_ok,
    exists_const, checkedSub_eq_ok, Except.ok.injEq, Prod.exists, Prod.mk.injEq] at h
  obtain ⟨_, -, _, -, bot, ⟨-, hbot⟩, _, -, hempty, -, recipient, -, _, _,
    ⟨l₀, hl₀, a₀, -, f₀, ⟨hle₀, hf₀⟩, rfl, rfl⟩, _, _, ⟨l₁, hl₁, a₁, -, f₁, ⟨hle₁, hf₁⟩, rfl, rfl⟩,
    totalShares, ⟨hle, htotal⟩, rfl, rfl⟩ := h
  have hdrained : st.orders = ∅ := ExtTreeMap.isEmpty_iff.mp hempty
  have hsupply : totalShares.val + (sharesOf st bot.owner).val = bot.totalShares.val := by omega
  have hlive : ∀ i, q.balance (bot.assetTokens i) env.contract = .ok ((![l₀, l₁] : Fin 2 → Uint128) i) := by
    intro i
    fin_cases i
    · exact hl₀
    · exact hl₁
  refine .single (.exited recipient hbot hdrained hlive ?_ hsupply)
  intro i
  fin_cases i
  · change f₀.val + a₀.val = l₀.val
    omega
  · change f₁.val + a₁.val = l₁.val
    omega

lemma updateTokenPolicy_steps {token action : String} {update : Addr → Storage}
    (policy : ∀ token, ∃ allowed quarantine enabled, update token = { st with
      allowedTokens := allowed, quarantine := quarantine, tokenPolicyEnabled := enabled })
    (h : updateTokenPolicy q st info token action update = .ok (st', r)) :
    Steps q env (st, []) (st', r.messages) := by
  simp only [updateTokenPolicy, bind_eq_ok, Except.ok.injEq, Prod.mk.injEq] at h
  obtain ⟨_, -, _, -, token, -, rfl, rfl⟩ := h
  obtain ⟨allowed, quarantine, enabled, hupdate⟩ := policy token
  rw [hupdate]
  exact .single (.configured st.config.admin st.config.pendingAdmin st.config.keeper st.vaultMode allowed
    quarantine enabled)

lemma switchMode_steps {source target : VaultMode} {action : String}
    (h : switchMode st info source target action = .ok (st', r)) :
    Steps q env (st, []) (st', r.messages) := by
  simp only [switchMode, bind_eq_ok, Except.ok.injEq, Prod.mk.injEq] at h
  obtain ⟨_, -, _, -, _, -, rfl, rfl⟩ := h
  exact .single (.configured st.config.admin st.config.pendingAdmin st.config.keeper target
    st.allowedTokens st.quarantine st.tokenPolicyEnabled)

theorem execute_steps {msg : ExecuteMsg} (h : execute q env st info msg = .ok (st', r)) :
    Steps q env (st, []) (st', r.messages) := by
  cases msg with
  | createBot pair lowerPrice upperPrice gridCount => exact executeCreateBot_steps h
  | receive msg => exact executeReceive_steps h
  | fundGas botId => exact executeFundGas_steps h
  | withdrawGas botId amount recipient => exact executeWithdrawGas_steps h
  | allocate botId => exact executeAllocate_steps h
  | syncBalances botId => exact executeSyncBalances_steps h
  | reconcile botId orderIds => exact executeReconcile_steps h
  | recoverOrder botId orderId rungIndex => exact executeRecoverOrder_steps h
  | cancelAll botId => exact executeCancelAll_steps h
  | withdraw botId shares recipient => exact executeWithdraw_steps h
  | redeemShares botId recipient => exact executeRedeemShares_steps h
  | updateKeeper keeper =>
    simp only [execute, executeUpdateKeeper, bind_eq_ok, Except.ok.injEq, Prod.mk.injEq] at h
    obtain ⟨_, -, _, -, keeper, -, rfl, rfl⟩ := h
    exact .single (.configured st.config.admin st.config.pendingAdmin keeper st.vaultMode
      st.allowedTokens st.quarantine st.tokenPolicyEnabled)
  | updatePairCode botId codeId =>
    simp only [execute, executeUpdatePairCode, bind_eq_ok, loadBot_eq_ok, Except.ok.injEq,
      Prod.mk.injEq] at h
    obtain ⟨_, -, _, -, _, -, bot, ⟨-, hbot⟩, rfl, rfl⟩ := h
    exact .single (.regauged bot.gasCredit codeId hbot)
  | addAllowedToken token =>
    exact updateTokenPolicy_steps (fun token => ⟨_, st.quarantine, _, rfl⟩) h
  | removeAllowedToken token =>
    exact updateTokenPolicy_steps (fun token => ⟨_, st.quarantine, st.tokenPolicyEnabled, rfl⟩) h
  | quarantineToken token =>
    exact updateTokenPolicy_steps (fun token => ⟨st.allowedTokens, _, st.tokenPolicyEnabled, rfl⟩) h
  | unquarantineToken token =>
    exact updateTokenPolicy_steps (fun token => ⟨st.allowedTokens, _, st.tokenPolicyEnabled, rfl⟩) h
  | transferAdmin admin =>
    simp only [execute, executeTransferAdmin, bind_eq_ok, Except.ok.injEq, Prod.mk.injEq] at h
    obtain ⟨_, -, pending, -, _, -, rfl, rfl⟩ := h
    exact .single (.configured st.config.admin (some pending) st.config.keeper st.vaultMode
      st.allowedTokens st.quarantine st.tokenPolicyEnabled)
  | acceptAdmin =>
    simp only [execute, executeAcceptAdmin, bind_eq_ok, Except.ok.injEq, Prod.mk.injEq] at h
    obtain ⟨_, -, _, -, rfl, rfl⟩ := h
    exact .single (.configured info.sender none st.config.keeper st.vaultMode st.allowedTokens
      st.quarantine st.tokenPolicyEnabled)
  | pause => exact switchMode_steps h
  | resume => exact switchMode_steps h
  | enterExit botId =>
    simp only [execute, executeEnterExit, bind_eq_ok, Except.ok.injEq, Prod.mk.injEq] at h
    obtain ⟨_, -, bot, -, _, -, _, -, rfl, rfl⟩ := h
    exact .single (.configured st.config.admin st.config.pendingAdmin st.config.keeper .exit
      st.allowedTokens st.quarantine st.tokenPolicyEnabled)
  | emergencyCancel botId => exact executeEmergencyCancel_steps h
  | emergencyWithdraw botId recipient => exact executeEmergencyWithdraw_steps h

end Cl8yDexBots.LimitGrid.EntryEffects
