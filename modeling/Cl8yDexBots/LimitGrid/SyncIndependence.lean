import Cl8yDexBots.LimitGrid.FeeBase

/-! Whether the owner's balance synchronisations change the fee of the reconciliations after them. -/

namespace Cl8yDexBots.LimitGrid.SyncIndependence

open Std Foundation.Checked Foundation.Words Foundation.SubMessages Foundation.StorageMap
open Foundation.ProRata Foundation.Chunks CosmWasm.Std
open State Pricing Orders Vault Transactions Effects EntryEffects PendingMessages Deliveries Pages
open Reconciliation FeeRates FeeBase Vaults.FeeMint

/-- A reconciliation of one batch, which both runs make in the same world. -/
structure Meeting (W : Type) where
  world : W
  ids : List ℕ
  before : Fin 2 → Storage
  after : Fin 2 → Storage

/-- Two runs that share their fills, answers and transactions, but each has synchronisations of its own; and the
reconciliations they made, the last one first. Only synchronisations, fills and reconciliations happen while the two
storages differ. -/
inductive Twins {W : Type} (C : Chain W) : List (Meeting W) → (Fin 2 → Storage) → W → Prop
  | start {st w} (h : Reachable C st w) : Twins C [] (fun _ => st) w
  | drifted {ms s w w'} (before : Twins C ms s w) (h : C.drift w w') : Twins C ms s w'
  | shared {ms s st w info msg log st' w'} (before : Twins C ms s w) (same : ∀ r, s r = st)
      (h : Tx C st w info msg log st' w') : Twins C ms (fun _ => st') w'
  | synced {ms s w info botId log st'} (r : Fin 2) (before : Twins C ms s w)
      (h : Tx C (s r) w info (.syncBalances botId) log st' w) : Twins C ms (Function.update s r st') w
  | reconciled {ms s w info botId ids s' w'} {log : Fin 2 → Log} (before : Twins C ms s w)
      (h : ∀ r, Tx C (s r) w info (.reconcile botId ids) (log r) (s' r) w') :
      Twins C (⟨w, ids, s, s'⟩ :: ms) s' w'

def collectorShares (st : Storage) : Uint128 := (st.config.feeCollector.map (sharesOf st)).getD 0

def Agree {W : Type} (m : Meeting W) : Prop := collectorShares (m.after 0) = collectorShares (m.after 1)

def FeesIndependent {W : Type} (C : Chain W) : Prop := ∀ ms s w, Twins C ms s w → ∀ m ∈ ms, Agree m

def liveBalance (q : Querier) (env : Env) (token : Addr) : ℕ :=
  match q.balance token env.contract with
  | .ok live => live.val
  | .error _ => 0

/-- What the live balances exceed the recorded ones by, in token 0. -/
def growth (q : Querier) (env : Env) (bot : Bot) : ℕ :=
  inToken0 bot.referencePrice fun i => liveBalance q env (bot.assetTokens i) - (bot.freeBalances i).val

def assetsAfter (q : Querier) (env : Env) (st : Storage) (bot : Bot) (ids : List ℕ) : ℕ :=
  inToken0 bot.referencePrice fun i =>
    liveBalance q env (bot.assetTokens i) + overOrders st.orders i (afterBatch q env st bot.pair ids)

/-- At the rate in force the growth is worth `shares` whole fee shares before the batch is reconciled. -/
def GrowthBuys (q : Querier) (env : Env) (st : Storage) (ids : List ℕ) (shares : ℕ) : Prop :=
  ∀ registry collector bot, st.config.feeRegistry = some registry → st.config.feeCollector = some collector →
    st.bot = some bot → Buys shares (growth q env bot * (resolveFee q st registry bot.owner).2.1 / 10000)
      (assetsAfter q env st bot ids) bot.totalShares.val

/-- What the synchronisations took out of the growth leaves it worth as many fee shares. -/
def SameShares {W : Type} (C : Chain W) (m : Meeting W) : Prop :=
  ∃ shares, ∀ r, GrowthBuys (C.querier m.world) (C.env m.world) (m.before r) m.ids shares

section Execution

variable {q : Querier} {env : Env} {st st' st₁ st₂ : Storage} {info : MessageInfo} {bot bot' bot₁ bot₂ : Bot}
  {credited credited₁ credited₂ free : Fin 2 → Uint128} {botId : ℕ} {ids : List ℕ} {fee : Option FeeApplied}
  {r r₁ r₂ r' : Response CosmosMsg}

lemma creditedValue_spec {price : Decimal} {value : Uint128} (h : creditedValue credited price = .ok value) :
    value.val = inToken0 price fun i => (credited i).val := by
  rw [creditedValue] at h
  split at h
  · rename_i hzero
    cases h
    simp [inToken0, isZero_iff.mp hzero]
  · simp only [bind_eq_ok, ensure_eq_ok, exists_const, checkedAdd_eq_ok, Pricing.checkedRatio,
      checkedRatioOr_eq_ok, Decimal.one_atomics_val] at h
    obtain ⟨-, token1, ⟨-, htoken1⟩, hvalue⟩ := h
    rw [hvalue, htoken1]
    rfl

def cacheAfter (q : Querier) (st : Storage) (owner : Addr) : ExtTreeMap Addr CachedEffectiveFee :=
  match st.config.feeRegistry, st.config.feeCollector with
  | some registry, some _ => (resolveFee q st registry owner).1.effectiveFeeCache
  | _, _ => st.effectiveFeeCache

/-- What a charge makes of the storage and the bot depends on nothing but the shares it mints. -/
structure Charged (q : Querier) (st : Storage) (bot : Bot) (minted : ℕ) (st' : Storage) (bot' : Bot) : Prop where
  storage : st' = { st with effectiveFeeCache := cacheAfter q st bot.owner, shares := st'.shares }
  share : bot' = { bot with totalShares := bot'.totalShares }
  supply : bot'.totalShares.val = bot.totalShares.val + minted
  holding : (collectorShares st').val = (collectorShares st).val + minted
  shares : minted = 0 ∧ st'.shares = st.shares ∨ minted ≠ 0 ∧ ∃ collector held,
    st.config.feeCollector = some collector ∧ st'.shares = st.shares.insert collector held

lemma resolveFee_storage (st : Storage) (registry owner : Addr) : (resolveFee q st registry owner).1 =
    { st with effectiveFeeCache := (resolveFee q st registry owner).1.effectiveFeeCache } := by
  obtain ⟨cache, hcache⟩ := resolveFee_cache (q := q) st registry owner
  rw [hcache]

lemma charged_nothing : Charged q st bot 0 { st with effectiveFeeCache := cacheAfter q st bot.owner } bot :=
  ⟨rfl, rfl, rfl, rfl, .inl ⟨rfl, rfl⟩⟩

def dueShares (q : Querier) (st : Storage) (bot : Bot) (credited : Fin 2 → Uint128) (registry : Addr) : ℕ :=
  feeShares ((inToken0 bot.referencePrice fun i => (credited i).val) * (resolveFee q st registry bot.owner).2.1 / 10000)
    (inToken0 bot.referencePrice fun i => (bot.freeBalances i).val + overOrders st.orders i inRecord)
    bot.totalShares.val

lemma chargeFee_configured (st : Storage) {registry collector : Addr}
    (hregistry : st.config.feeRegistry = some registry)
    (hcollector : st.config.feeCollector = some collector) (h : chargeFee q st bot credited = .ok (st', bot', fee)) :
    Charged q st bot (dueShares q st bot credited registry) st' bot' := by
  have hstorage := resolveFee_storage (q := q) st registry bot.owner
  have hcache : (resolveFee q st registry bot.owner).1.effectiveFeeCache = cacheAfter q st bot.owner := by
    rw [cacheAfter, hregistry, hcollector]
  rw [hcache] at hstorage
  simp only [chargeFee, hregistry, hcollector] at h
  split at h
  · rename_i hrate
    cases h
    rw [dueShares, hrate, Nat.mul_zero, Nat.zero_div, feeShares, if_pos (.inl rfl), hstorage]
    exact charged_nothing
  · simp only [hstorage, bind_eq_ok, Prod.exists] at h
    obtain ⟨value, hvalue, assets, hassets, economic, minted, hminted, h⟩ := h
    simp only [feeShareMint, bind_eq_ok, narrow_eq_ok, Except.ok.injEq, Prod.mk.injEq] at hminted
    obtain ⟨derived, hderived, minted', hmint, rfl, rfl⟩ := hminted
    have hshares := (limitGrid_computes _ _ _).2 _ hmint
    rw [hderived, creditedValue_spec hvalue, botAssetValue_spec hassets] at hshares
    rw [dueShares, ← hshares]
    split at h
    · rename_i hzero
      cases h
      rw [isZero_iff.mp hzero]
      exact charged_nothing
    · rename_i hnonzero
      simp only [mintFee, bind_eq_ok, withError_eq_ok, checkedAdd_eq_ok, Except.ok.injEq, Prod.exists,
        Prod.mk.injEq] at h
      obtain ⟨_, _, ⟨held, hsum, total, htotal, rfl, rfl⟩, rfl, rfl, -⟩ := h
      have hsome : minted'.val ≠ 0 := fun hz => hnonzero (isZero_iff.mpr hz)
      refine ⟨rfl, rfl, htotal, ?_, .inr ⟨hsome, collector, held, hcollector, rfl⟩⟩
      simp only [collectorShares, hcollector, Option.map_some, Option.getD_some, sharesOf, lookup_insert, if_true]
      exact hsum

lemma chargeFee_unconfigured (st : Storage) (hnone : st.config.feeRegistry = none ∨ st.config.feeCollector = none)
    (h : chargeFee q st bot credited = .ok (st', bot', fee)) : Charged q st bot 0 st' bot' := by
  have hcache : cacheAfter q st bot.owner = st.effectiveFeeCache := by
    rw [cacheAfter]
    split
    · simp_all
    · rfl
  have hnothing : Charged q st bot 0 { st with effectiveFeeCache := cacheAfter q st bot.owner } bot := charged_nothing
  rw [hcache] at hnothing
  rw [chargeFee] at h
  split at h
  · simp_all
  · cases h
    exact hnothing

lemma Charged.unique {minted : ℕ} (h₁ : Charged q st bot minted st₁ bot₁) (h₂ : Charged q st bot minted st₂ bot₂) :
    st₁ = st₂ ∧ bot₁ = bot₂ := by
  have hsupply : bot₁.totalShares = bot₂.totalShares := by rw [eq_iff, h₁.supply, h₂.supply]
  have hshares : st₁.shares = st₂.shares := by
    rcases h₁.shares with ⟨hzero, hsame₁⟩ | ⟨hsome, collector, held₁, hcollector, hinsert₁⟩
    · rcases h₂.shares with ⟨-, hsame₂⟩ | ⟨hsome, -⟩
      · rw [hsame₁, hsame₂]
      · exact absurd hzero hsome
    · rcases h₂.shares with ⟨hzero, -⟩ | ⟨-, collector', held₂, hcollector', hinsert₂⟩
      · exact absurd hzero hsome
      · obtain rfl := Option.some.inj (hcollector.symm.trans hcollector')
        have hheld₁ := h₁.holding
        have hheld₂ := h₂.holding
        rw [h₁.storage] at hheld₁
        rw [h₂.storage] at hheld₂
        simp only [collectorShares, hcollector, Option.map_some, Option.getD_some, sharesOf, hinsert₁, hinsert₂,
          lookup_insert, if_true] at hheld₁ hheld₂
        have hsame : held₁ = held₂ := by rw [eq_iff, hheld₁, hheld₂]
        rw [hinsert₁, hinsert₂, hsame]
  constructor
  · rw [h₁.storage, h₂.storage, hshares]
  · rw [h₁.share, h₂.share, hsupply]

lemma cacheAfter_bot (b : Option Bot) (owner : Addr) :
    cacheAfter q { st with bot := b } owner = cacheAfter q st owner := by
  simp only [cacheAfter, resolveFee]
  split
  · split
    · rfl
    · split <;> rfl
  · rfl

lemma dueShares_bot (b : Option Bot) (registry : Addr) :
    dueShares q { st with bot := b } bot credited registry = dueShares q st bot credited registry := by
  simp only [dueShares, resolveFee]
  split
  · rfl
  · split <;> rfl

lemma Charged.withBot {b : Option Bot} {minted : ℕ} (h : Charged q { st with bot := b } bot minted st' bot') :
    Charged q st bot minted { st' with bot := st.bot } bot' := by
  have hstorage := h.storage
  rw [cacheAfter_bot] at hstorage
  refine ⟨?_, h.share, h.supply, h.holding, h.shares⟩
  rw [hstorage]

lemma chargeFee_charged (st : Storage) {b : Option Bot}
    (h : chargeFee q { st with bot := b } bot credited = .ok (st', bot', fee)) :
    ∃ minted, Charged q st bot minted { st' with bot := st.bot } bot' ∧
      (∀ registry collector, st.config.feeRegistry = some registry → st.config.feeCollector = some collector →
        dueShares q st bot credited registry = minted) ∧
      (st.config.feeRegistry = none ∨ st.config.feeCollector = none → minted = 0) := by
  cases hregistry : st.config.feeRegistry with
  | none =>
    have hcharged := chargeFee_unconfigured { st with bot := b } (.inl hregistry) h
    exact ⟨0, hcharged.withBot, by simp, fun _ => rfl⟩
  | some registry =>
    cases hcollector : st.config.feeCollector with
    | none =>
      have hcharged := chargeFee_unconfigured { st with bot := b } (.inr hcollector) h
      exact ⟨0, hcharged.withBot, by simp, fun _ => rfl⟩
    | some collector =>
      have hcharged := chargeFee_configured { st with bot := b } hregistry hcollector h
      rw [dueShares_bot] at hcharged
      refine ⟨_, hcharged.withBot, ?_, by simp⟩
      rintro registry' collector' ⟨⟩ ⟨⟩
      rfl

lemma addPages_congr {pair : Addr} {kind : PageKind} {cs : List (List PendingPageEntry)}
    (same : r₁.messages = r₂.messages) (h₁ : foldChecked (addPage botId pair kind) (st, r₁) cs = .ok (st₁, r))
    (h₂ : foldChecked (addPage botId pair kind) (st, r₂) cs = .ok (st₂, r')) :
    st₁ = st₂ ∧ r.messages = r'.messages := by
  induction cs generalizing st r₁ r₂ with
  | nil =>
    cases h₁
    cases h₂
    exact ⟨rfl, same⟩
  | cons c rest ih =>
    simp only [foldChecked, addPage, nextReplyId, bind_eq_ok, ensure_eq_ok, exists_const, Except.ok.injEq,
      Prod.exists, Prod.mk.injEq] at h₁ h₂
    obtain ⟨_, _, ⟨_, _, ⟨-, rfl, rfl⟩, rfl, rfl⟩, h₁⟩ := h₁
    obtain ⟨_, _, ⟨_, _, ⟨-, rfl, rfl⟩, rfl, rfl⟩, h₂⟩ := h₂
    exact ih (by rw [Response.addMessage_messages, Response.addMessage_messages, same]) h₁ h₂

lemma claimPages_congr {pair : Addr} {claims : List PendingPageEntry} (same : r₁.messages = r₂.messages)
    (h₁ : claimPages q st r₁ botId pair claims = .ok (st₁, r))
    (h₂ : claimPages q st r₂ botId pair claims = .ok (st₂, r')) : st₁ = st₂ ∧ r.messages = r'.messages := by
  rw [claimPages] at h₁ h₂
  split at h₁
  · cases h₁
    simp_all
  · rename_i hsome
    rw [if_neg hsome] at h₂
    simp only [bind_eq_ok, addConfirmablePages, chunks, List.length_nil, chunksOf, foldChecked, Except.ok.injEq,
      exists_eq_left'] at h₁ h₂
    obtain ⟨limit, hlimit, h₁⟩ := h₁
    obtain ⟨limit', hlimit', h₂⟩ := h₂
    obtain rfl := Except.ok.inj (hlimit.symm.trans hlimit')
    exact addPages_congr same h₁ h₂

lemma payKeeper_congr (same : r₁.messages = r₂.messages) (h₁ : payKeeper st r₁ info botId = .ok (st₁, r))
    (h₂ : payKeeper st r₂ info botId = .ok (st₂, r')) : st₁ = st₂ ∧ r.messages = r'.messages := by
  rw [payKeeper] at h₁ h₂
  split at h₁
  · rename_i hkeeper
    rw [if_pos hkeeper] at h₂
    simp only [bind_eq_ok, Except.ok.injEq, Prod.mk.injEq] at h₁ h₂
    obtain ⟨bot₁, hbot₁, gas₁, hgas₁, rfl, rfl⟩ := h₁
    obtain ⟨bot₂, hbot₂, gas₂, hgas₂, rfl, rfl⟩ := h₂
    obtain rfl := Except.ok.inj (hbot₁.symm.trans hbot₂)
    obtain rfl := Except.ok.inj (hgas₁.symm.trans hgas₂)
    simp [same]
  · rename_i hother
    rw [if_neg hother] at h₂
    cases h₁
    cases h₂
    exact ⟨rfl, same⟩

def recording (st : Storage) (bot : Bot) (free : Fin 2 → Uint128) : Storage :=
  { st with bot := some { bot with freeBalances := free } }

/-- A reconciliation before its pages: what the balances were recorded as only shows in what it credits. -/
structure Billed (q : Querier) (env : Env) (st : Storage) (bot : Bot) (free : Fin 2 → Uint128) (ids : List ℕ)
    (sweep : Sweep) (settled : Bot) (credited : Fin 2 → Uint128) : Prop where
  live : ∀ i, q.balance (bot.assetTokens i) env.contract = .ok (settled.freeBalances i)
  credited : ∀ i, (credited i).val = (settled.freeBalances i).val - (free i).val
  loop : foldChecked (reconcileOrder q env st bot.pair) ⟨st.orders, bot.activeOrders, [], [], 0, 0, 0⟩ ids = .ok sweep
  settled : settled = { bot with freeBalances := settled.freeBalances, activeOrders := sweep.activeOrders }

lemma reconcile_billed (h : executeReconcile q env (recording st bot free) info botId ids = .ok (st', r)) :
    botId = BOT_ID ∧ ∃ sweep settled credited st₁ bot₁ fee r₁ st₂ r₂,
      Billed q env st bot free ids sweep settled credited ∧
      chargeFee q { recording st bot free with orders := sweep.orders } settled credited = .ok (st₁, bot₁, fee) ∧
      r₁.messages = [] ∧
      claimPages q { st₁ with bot := some bot₁ } r₁ botId bot₁.pair sweep.claimEntries = .ok (st₂, r₂) ∧
      payKeeper st₂ r₂ info botId = .ok (st', r) := by
  simp only [executeReconcile, bind_eq_ok, loadBot_eq_ok, Prod.exists] at h
  obtain ⟨_, -, _, -, bot', ⟨hid, hbot⟩, _, -, _, -, _, -, _, -, credited, bot₀, hsync, sweep, hsweep, _, -, st₁, bot₁,
    fee, hfee, st₂, r₂, hclaim, hpay⟩ := h
  obtain rfl := Option.some.inj hbot
  obtain ⟨live, rfl, hlive⟩ := syncFreeBalances_spec hsync
  refine ⟨hid, sweep, _, credited, st₁, bot₁, fee, _, st₂, r₂, ?_, hfee, rfl, hclaim, hpay⟩
  exact ⟨fun i => (hlive i).1, fun i => (hlive i).2.2, hsweep, rfl⟩

variable {sweep sweep₁ sweep₂ : Sweep} {settled settled₁ settled₂ : Bot} {free₁ free₂ : Fin 2 → Uint128}

lemma Billed.same (h₁ : Billed q env st bot free₁ ids sweep₁ settled₁ credited₁)
    (h₂ : Billed q env st bot free₂ ids sweep₂ settled₂ credited₂) : sweep₁ = sweep₂ ∧ settled₁ = settled₂ := by
  obtain rfl := Except.ok.inj (h₁.loop.symm.trans h₂.loop)
  have hlive : settled₁.freeBalances = settled₂.freeBalances := by
    funext i
    exact Except.ok.inj ((h₁.live i).symm.trans (h₂.live i))
  exact ⟨rfl, by rw [h₁.settled, h₂.settled, hlive]⟩

lemma Billed.due (h : Billed q env st bot free ids sweep settled credited) (registry : Addr) :
    dueShares q { st with orders := sweep.orders } settled credited registry =
      feeShares (growth q env { bot with freeBalances := free } * (resolveFee q st registry bot.owner).2.1 / 10000)
        (assetsAfter q env st bot ids) bot.totalShares.val := by
  have hlive : ∀ i, liveBalance q env (bot.assetTokens i) = (settled.freeBalances i).val := by
    intro i
    rw [liveBalance, h.live i]
  have horders := overOrders_swept (sweep_spec h.loop)
  have hrate : (resolveFee q { st with orders := sweep.orders } registry bot.owner).2.1 =
      (resolveFee q st registry bot.owner).2.1 := by
    simp only [resolveFee]
    split
    · rfl
    · split <;> rfl
  have hgrowth : (fun i => (credited i).val) =
      fun i => liveBalance q env (bot.assetTokens i) - (free i).val := by
    funext i
    rw [h.credited, hlive]
  have hassets : (fun i => (settled.freeBalances i).val + overOrders sweep.orders i inRecord) = fun i =>
      liveBalance q env (bot.assetTokens i) + overOrders st.orders i (afterBatch q env st bot.pair ids) := by
    funext i
    rw [hlive, horders]
  rw [dueShares, hgrowth, hassets, h.settled]
  dsimp only
  rw [hrate]
  rfl

lemma growthBuys_iff {shares : ℕ} (h : Billed q env st bot free ids sweep settled credited) :
    GrowthBuys q env (recording st bot free) ids shares ↔ ∀ registry collector,
      st.config.feeRegistry = some registry → st.config.feeCollector = some collector →
        dueShares q { st with orders := sweep.orders } settled credited registry = shares := by
  have hrate : ∀ registry owner, (resolveFee q (recording st bot free) registry owner).2.1 =
      (resolveFee q st registry owner).2.1 := by
    intro registry owner
    simp only [resolveFee, recording]
    split
    · rfl
    · split <;> rfl
  constructor
  · intro hbuys registry collector hregistry hcollector
    rw [h.due, ← hrate]
    exact buys_iff.mp (hbuys registry collector _ hregistry hcollector rfl)
  · intro hdue registry collector bot' hregistry hcollector hbot
    obtain rfl := Option.some.inj hbot
    have hsame := hdue registry collector hregistry hcollector
    rw [h.due, ← hrate] at hsame
    exact buys_iff.mpr hsame

/-- A reconciliation and the shares it mints for the collector, on which alone its outcome depends. -/
structure Mints (q : Querier) (env : Env) (st : Storage) (bot : Bot) (free : Fin 2 → Uint128) (info : MessageInfo)
    (ids : List ℕ) (minted : ℕ) (st' : Storage) (ms : List (SubMsg CosmosMsg)) (sweep : Sweep) (settled : Bot) :
    Prop where
  billed : ∃ credited, Billed q env st bot free ids sweep settled credited ∧ ∀ registry collector,
    st.config.feeRegistry = some registry → st.config.feeCollector = some collector →
      dueShares q { st with orders := sweep.orders } settled credited registry = minted
  uncharged : st.config.feeRegistry = none ∨ st.config.feeCollector = none → minted = 0
  outcome : ∃ st₁ bot₁ r₁ st₂ r₂ r', Charged q { st with orders := sweep.orders } settled minted st₁ bot₁ ∧
    r₁.messages = [] ∧
    claimPages q { st₁ with bot := some bot₁ } r₁ BOT_ID bot₁.pair sweep.claimEntries = .ok (st₂, r₂) ∧
    payKeeper st₂ r₂ info BOT_ID = .ok (st', r') ∧ r'.messages = ms
  holding : (collectorShares st').val = (collectorShares st).val + minted

lemma reconcile_mints (h : executeReconcile q env (recording st bot free) info botId ids = .ok (st', r)) :
    ∃ minted sweep settled, Mints q env st bot free info ids minted st' r.messages sweep settled := by
  obtain ⟨rfl, sweep, settled, credited, st₁, bot₁, fee, r₁, st₂, r₂, hbilled, hfee, hempty, hclaim, hpay⟩ :=
    reconcile_billed h
  obtain ⟨minted, hcharged, hdue, hnone⟩ := chargeFee_charged { st with orders := sweep.orders } hfee
  refine ⟨minted, sweep, settled, ⟨credited, hbilled, hdue⟩, hnone, ?_, ?_⟩
  · exact ⟨_, _, r₁, st₂, r₂, r, hcharged, hempty, hclaim, hpay, rfl⟩
  · have hholding := hcharged.holding
    obtain ⟨_, -, -, -, pending, next, rfl⟩ := claimPages_spec hclaim
    obtain ⟨gasCredit, rfl, -⟩ := payKeeper_spec rfl hpay
    exact hholding

/-- Two reconciliations that differ in the balances recorded before mint the same shares exactly where what these
leave of the growth buys the same; and then nothing else differs. -/
lemma reconcile_agree {free : Fin 2 → Fin 2 → Uint128} {st' : Fin 2 → Storage} {r : Fin 2 → Response CosmosMsg}
    (h : ∀ k, executeReconcile q env (recording st bot (free k)) info botId ids = .ok (st' k, r k)) :
    (collectorShares (st' 0) = collectorShares (st' 1) ↔
      ∃ shares, ∀ k, GrowthBuys q env (recording st bot (free k)) ids shares) ∧
    (collectorShares (st' 0) = collectorShares (st' 1) → st' 0 = st' 1 ∧ (r 0).messages = (r 1).messages) := by
  obtain ⟨minted₀, sweep, settled, h₀⟩ := reconcile_mints (h 0)
  obtain ⟨minted₁, sweep₁, settled₁, h₁⟩ := reconcile_mints (h 1)
  obtain ⟨credited₀, hbilled₀, hdue₀⟩ := h₀.billed
  obtain ⟨credited₁, hbilled₁, hdue₁⟩ := h₁.billed
  obtain ⟨rfl, rfl⟩ := hbilled₀.same hbilled₁
  have hagree : collectorShares (st' 0) = collectorShares (st' 1) ↔ minted₀ = minted₁ := by
    rw [eq_iff, h₀.holding, h₁.holding]
    omega
  rw [hagree]
  constructor
  · constructor
    · rintro rfl
      exact ⟨minted₀, Fin.forall_fin_two.mpr ⟨(growthBuys_iff hbilled₀).mpr hdue₀, (growthBuys_iff hbilled₁).mpr hdue₁⟩⟩
    · rintro ⟨shares, hbuys⟩
      have hbuys₀ := (growthBuys_iff hbilled₀).mp (hbuys 0)
      have hbuys₁ := (growthBuys_iff hbilled₁).mp (hbuys 1)
      by_cases hnone : st.config.feeRegistry = none ∨ st.config.feeCollector = none
      · rw [h₀.uncharged hnone, h₁.uncharged hnone]
      · rw [not_or] at hnone
        obtain ⟨registry, hregistry⟩ := Option.ne_none_iff_exists'.mp hnone.1
        obtain ⟨collector, hcollector⟩ := Option.ne_none_iff_exists'.mp hnone.2
        rw [← hdue₀ registry collector hregistry hcollector, ← hdue₁ registry collector hregistry hcollector,
          hbuys₀ registry collector hregistry hcollector, hbuys₁ registry collector hregistry hcollector]
  · rintro rfl
    obtain ⟨sa, ba, ra, sb, rb, rc, hcharged₀, hempty₀, hclaim₀, hpay₀, hms₀⟩ := h₀.outcome
    obtain ⟨ta, ca, qa, tb, qb, qc, hcharged₁, hempty₁, hclaim₁, hpay₁, hms₁⟩ := h₁.outcome
    obtain ⟨rfl, rfl⟩ := hcharged₀.unique hcharged₁
    obtain ⟨rfl, hmessages⟩ := claimPages_congr (hempty₀.trans hempty₁.symm) hclaim₀ hclaim₁
    obtain ⟨hsame, hpaid⟩ := payKeeper_congr hmessages hpay₀ hpay₁
    exact ⟨hsame, by rw [← hms₀, ← hms₁, hpaid]⟩

end Execution

section Runs

variable {W : Type} {C : Chain W} {st st' : Storage} {s s' : Fin 2 → Storage} {w w' : W} {ms : List (Meeting W)}
  {info : MessageInfo} {botId : ℕ} {ids : List ℕ} {log : Log}

def unsynced (st : Storage) : Storage :=
  { st with bot := st.bot.map fun bot => { bot with freeBalances := fun _ => 0 } }

lemma sync_unsynced (h : Tx C st w info (.syncBalances botId) log st' w') :
    unsynced st' = unsynced st ∧ w' = w := by
  obtain ⟨st₁, r, hexec, hrun⟩ := h
  simp only [execute, executeSyncBalances, bind_eq_ok, loadBot_eq_ok, Except.ok.injEq, Prod.exists,
    Prod.mk.injEq] at hexec
  obtain ⟨_, -, bot, ⟨-, hbot⟩, _, -, credited, bot', hsync, rfl, rfl⟩ := hexec
  obtain ⟨live, rfl, -⟩ := syncFreeBalances_spec hsync
  cases hrun
  exact ⟨by simp [unsynced, hbot], rfl⟩

lemma recording_of_unsynced {bot : Bot} (hbot : st.bot = some bot) (h : unsynced st' = unsynced st) :
    ∃ free, st' = recording st bot free := by
  have hbots := congrArg Storage.bot h
  simp only [unsynced, hbot, Option.map_some] at hbots
  obtain ⟨bot', hbot', hsame⟩ := Option.map_eq_some_iff.mp hbots
  refine ⟨bot'.freeBalances, ?_⟩
  have hbot'' : bot' = { bot with freeBalances := bot'.freeBalances } := by
    have hfields := congrArg (fun b : Bot => { b with freeBalances := bot'.freeBalances }) hsame
    exact hfields
  have hrest := congrArg (fun t : Storage => { t with bot := some bot' }) h
  simp only [unsynced] at hrest
  rw [recording, ← hbot'', ← hrest, ← hbot']

lemma reconcile_committed (hreach : Reachable C st w) (h : Tx C st w info (.reconcile botId ids) log st' w') :
    ∃ st₁ r, executeReconcile (C.querier w) (C.env w) st info botId ids = .ok (st₁, r) ∧
      Dispatch C.host st₁ w r.messages log st' w' ∧ collectorShares st' = collectorShares st₁ := by
  obtain ⟨st₁, r, hexec, hrun⟩ := h
  have hpending := (reachable_invariant (J := fun _ _ _ => True) (fun _ _ => trivial) (fun _ _ _ => trivial)
    (fun _ _ _ => trivial) (fun _ _ _ => trivial) hreach).1
  obtain ⟨-, bot, bot', sweep, hspec⟩ := executeReconcile_spec hexec
  have hpending' := (steps_invariant (w := w) (J := fun _ _ _ => True) (execute_steps hexec) (fun _ _ _ => trivial)
    ⟨hpending, trivial⟩).1
  obtain ⟨hsettles, -⟩ := settles hrun hpending' hspec.only
  refine ⟨st₁, r, hexec, hrun, ?_⟩
  have hshares : sharesOf st' = sharesOf st₁ := by
    funext holder
    rw [sharesOf, sharesOf, hsettles.shares]
  rw [collectorShares, collectorShares, hsettles.config, hshares]

lemma meeting_agrees {log : Fin 2 → Log} (det : C.host.Deterministic) (hreach : ∀ r, Reachable C (s r) w)
    (alike : unsynced (s 1) = unsynced (s 0)) (h : ∀ r, Tx C (s r) w info (.reconcile botId ids) (log r) (s' r) w') :
    (Agree (⟨w, ids, s, s'⟩ : Meeting W) ↔ SameShares C ⟨w, ids, s, s'⟩) ∧
      (Agree (⟨w, ids, s, s'⟩ : Meeting W) → s' 0 = s' 1) := by
  choose st₁ r hexec hrun hkept using fun k => reconcile_committed (hreach k) (h k)
  obtain ⟨-, bot, bot', sweep, hspec⟩ := executeReconcile_spec (hexec 0)
  have hbot := hspec.before
  have hfree : ∀ k, ∃ free, s k = recording (s 0) bot free := Fin.forall_fin_two.mpr
    ⟨recording_of_unsynced hbot rfl, recording_of_unsynced hbot alike⟩
  choose free hfree using hfree
  have hexec' : ∀ k, executeReconcile (C.querier w) (C.env w) (recording (s 0) bot (free k)) info botId ids =
      .ok (st₁ k, r k) := by
    intro k
    rw [← hfree k]
    exact hexec k
  obtain ⟨hiff, hsame⟩ := reconcile_agree hexec'
  have hagree : Agree (⟨w, ids, s, s'⟩ : Meeting W) ↔ collectorShares (st₁ 0) = collectorShares (st₁ 1) := by
    rw [Agree, hkept 0, hkept 1]
  rw [hagree]
  constructor
  · rw [hiff]
    constructor
    · rintro ⟨shares, hbuys⟩
      refine ⟨shares, fun k => ?_⟩
      dsimp only
      rw [hfree k]
      exact hbuys k
    · rintro ⟨shares, hbuys⟩
      refine ⟨shares, fun k => ?_⟩
      rw [← hfree k]
      exact hbuys k
  · intro heq
    obtain ⟨hstorage, hmessages⟩ := hsame heq
    have hrun₁ := hrun 1
    rw [← hstorage, ← hmessages] at hrun₁
    exact ((hrun 0).unique det hrun₁).1

lemma twins_agree (det : C.host.Deterministic) (h : Twins C ms s w) :
    (∀ r, Reachable C (s r) w) ∧ ((∀ m ∈ ms, Agree m) → unsynced (s 1) = unsynced (s 0)) ∧
      ((∀ m ∈ ms, Agree m) ↔ ∀ m ∈ ms, SameShares C m) := by
  induction h with
  | start h => exact ⟨fun _ => h, fun _ => rfl, by simp⟩
  | drifted before h ih => exact ⟨fun r => .drifted (ih.1 r) h, ih.2⟩
  | @shared ms s st w info msg log st' w' before same h ih =>
    have hreach : Reachable C st w := same 0 ▸ ih.1 0
    exact ⟨fun _ => .executed hreach h, fun _ => rfl, ih.2.2⟩
  | @synced ms s w info botId log st' r before h ih =>
    obtain ⟨hreach, halike, hiff⟩ := ih
    have hkept : ∀ k, unsynced (Function.update s r st' k) = unsynced (s k) := by
      intro k
      by_cases hk : k = r
      · subst hk
        rw [Function.update_self]
        exact (sync_unsynced h).1
      · rw [Function.update_of_ne hk]
    refine ⟨fun k => ?_, fun hall => ?_, hiff⟩
    · by_cases hk : k = r
      · subst hk
        rw [Function.update_self]
        exact .executed (hreach k) h
      · rw [Function.update_of_ne hk]
        exact hreach k
    · rw [hkept, hkept, halike hall]
  | @reconciled ms s w info botId ids s' w' log before h ih =>
    obtain ⟨hreach, halike, hiff⟩ := ih
    refine ⟨fun k => .executed (hreach k) (h k), ?_, ?_⟩
    · intro hall
      obtain ⟨hlast, hbefore⟩ := List.forall_mem_cons.mp hall
      rw [(meeting_agrees det hreach (halike hbefore) h).2 hlast]
    · rw [List.forall_mem_cons, List.forall_mem_cons, ← hiff]
      constructor
      · rintro ⟨hlast, hbefore⟩
        exact ⟨(meeting_agrees det hreach (halike hbefore) h).1.mp hlast, hbefore⟩
      · rintro ⟨hlast, hbefore⟩
        exact ⟨(meeting_agrees det hreach (halike hbefore) h).1.mpr hlast, hbefore⟩

/-- However the synchronisations of two runs differ, the collector holds the same shares after each reconciliation
exactly where each finds growth worth the same fee shares in both. -/
theorem fees_independent_iff (det : C.host.Deterministic) (h : Twins C ms s w) :
    (∀ m ∈ ms, Agree m) ↔ ∀ m ∈ ms, SameShares C m :=
  (twins_agree det h).2.2

end Runs

section OrderBook

open OrderBook

variable {st st' : Storage} {w w' : World}

lemma filled_drift {id : ℕ} {status : Status} {rest : Uint128} {proceeds : Fin 2 → ℕ}
    (h : happen st w (.filled id status rest proceeds) = .ok (st', w')) : chain.drift w w' := by
  simp only [happen, bind_eq_ok, orError_eq_ok, ensure_eq_ok, exists_const, decide_eq_true_eq, Except.ok.injEq,
    Prod.mk.injEq] at h
  obtain ⟨slot, hslot, ⟨onBook, less, still⟩, sound, rfl, rfl⟩ := h
  exact .filled status proceeds hslot onBook less still sound

lemma reconciled_once {st₀ st₁ st₂ : Storage} {log log₁ : Log}
    (before : Twins chain [] (Function.update (fun _ => st) 0 st₀) w)
    (h : Tx chain st₀ w keeper (.reconcile BOT_ID [0]) log st₁ w')
    (h' : Tx chain st w keeper (.reconcile BOT_ID [0]) log₁ st₂ w') :
    Twins chain [⟨w, [0], Function.update (fun _ => st) 0 st₀, ![st₁, st₂]⟩] ![st₁, st₂] w' := by
  have hboth : ∀ r, Tx chain (Function.update (fun _ => st) 0 st₀ r) w keeper (.reconcile BOT_ID [0])
      (![log, log₁] r) (![st₁, st₂] r) w' :=
    Fin.forall_fin_two.mpr ⟨h, h'⟩
  exact before.reconciled hboth

/-- A donation of one unit is synchronised in one run only; the fill that follows is charged 5586 shares in both. -/
theorem fees_independent_iff_donated : ∃ m s w, Twins chain [m] s w ∧ (m.before 0).bot ≠ (m.before 1).bot ∧
    (∀ r, collectorShares (m.after r) = u128 5586) ∧ SameShares chain m := by
  have hruns : okAnd (scenario [.donated ![0, 1]]) (fun a =>
      okAnd (transact a.1 a.2 owner (.syncBalances BOT_ID)) fun b =>
        decide (b.1.bot ≠ a.1.bot) && okAnd (happen a.1 a.2 (.filled 0 .closed 0 ![0, 625000])) fun c =>
          okAnd (transact b.1 c.2 keeper (.reconcile BOT_ID [0])) fun d =>
            okAnd (transact a.1 c.2 keeper (.reconcile BOT_ID [0])) fun e =>
              decide (collectorShares d.1 = u128 5586 ∧ collectorShares e.1 = u128 5586 ∧ d.2.1 = e.2.1)) = true := by
    decide
  obtain ⟨⟨st, w⟩, hbefore, htests⟩ := okAnd_iff.mp hruns
  simp only [Bool.and_eq_true, okAnd_iff, decide_eq_true_eq] at htests
  obtain ⟨⟨st₀, w₀, log₀⟩, hsync, hdiffer, ⟨st₁, w₁⟩, hfill, ⟨st₂, w₂, log₂⟩, hsynced, ⟨st₃, w₃, log₃⟩, hplain,
    hshares₂, hshares₃, rfl⟩ := htests
  have hsync := transact_tx hsync
  obtain ⟨-, rfl⟩ := sync_unsynced hsync
  have htwins : Twins chain [] (Function.update (fun _ => st) 0 st₀) w₁ :=
    .drifted (.synced 0 (.start (scenario_reachable hbefore)) hsync) (filled_drift hfill)
  have hmeet := reconciled_once htwins (transact_tx hsynced) (transact_tx hplain)
  have hshares : ∀ r, collectorShares ((![st₂, st₃] : Fin 2 → Storage) r) = u128 5586 :=
    Fin.forall_fin_two.mpr ⟨hshares₂, hshares₃⟩
  refine ⟨_, _, _, hmeet, hdiffer, hshares, ?_⟩
  have hsame := (fees_independent_iff chain_deterministic hmeet).mp
  apply hsame _ _ List.mem_cons_self
  intro m hm
  rw [List.mem_singleton.mp hm]
  exact (hshares 0).trans (hshares 1).symm

/-- A synchronisation between a fill and its reconciliation takes the whole fee away. -/
theorem sync_evades_fee : ∃ m s w, Twins chain [m] s w ∧ collectorShares (m.after 0) = 0 ∧
    collectorShares (m.after 1) = u128 5586 ∧ ¬ FeesIndependent chain := by
  have hruns : okAnd (scenario [.filled 0 .closed 0 ![0, 625000]]) (fun a =>
      okAnd (transact a.1 a.2 owner (.syncBalances BOT_ID)) fun b =>
        okAnd (transact b.1 a.2 keeper (.reconcile BOT_ID [0])) fun c =>
          okAnd (transact a.1 a.2 keeper (.reconcile BOT_ID [0])) fun d =>
            decide (collectorShares c.1 = 0 ∧ collectorShares d.1 = u128 5586 ∧ c.2.1 = d.2.1)) = true := by
    decide
  obtain ⟨⟨st, w⟩, hbefore, htests⟩ := okAnd_iff.mp hruns
  simp only [okAnd_iff, decide_eq_true_eq] at htests
  obtain ⟨⟨st₀, w₀, log₀⟩, hsync, ⟨st₁, w₁, log₁⟩, hsynced, ⟨st₂, w₂, log₂⟩, hplain, hnone, hsome, rfl⟩ := htests
  have hsync := transact_tx hsync
  obtain ⟨-, rfl⟩ := sync_unsynced hsync
  have htwins : Twins chain [] (Function.update (fun _ => st) 0 st₀) w₀ :=
    .synced 0 (.start (scenario_reachable hbefore)) hsync
  have hmeet := reconciled_once htwins (transact_tx hsynced) (transact_tx hplain)
  refine ⟨_, _, _, hmeet, hnone, hsome, ?_⟩
  intro hfair
  have hagree := hfair _ _ _ hmeet _ List.mem_cons_self
  have hfalse : (0 : Uint128) = u128 5586 := hnone.symm.trans (hagree.trans hsome)
  revert hfalse
  decide

end OrderBook

end Cl8yDexBots.LimitGrid.SyncIndependence
