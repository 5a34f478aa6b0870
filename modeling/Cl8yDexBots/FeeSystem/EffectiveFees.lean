import Cl8yDexBots.FeeSystem.Registry
import Cl8yDexBots.Foundation.FirstGreatest
import Cl8yDexBots.Foundation.StorageMap

/-! The fee of a trader, in every ladder that governance can bring about. -/

namespace Cl8yDexBots.FeeSystem.EffectiveFees

open Foundation.Checked Foundation.Words Foundation.SubMessages Foundation.StorageMap Foundation.FirstGreatest
open CosmWasm.Std Registry

inductive Reachable : Storage → Prop
  | instantiated {q info msg st r} (h : instantiate q info msg = .ok (st, r)) : Reachable st
  | executed {q env st info msg st' r} (before : Reachable st) (h : execute q env st info msg = .ok (st', r)) :
      Reachable st'

/-- What every edit of the ladder keeps. -/
structure SoundTier (tierId : ℕ) (tier : Tier) : Prop where
  discount : tier.discountBps ≤ 10000
  reserved : tierId = 0 ∨ tierId = 255 → tier.governanceOnly = true

structure Sound (st : Storage) : Prop where
  baseFee : st.config.baseFeeBps ≤ 10000
  tiers : ∀ tierId tier, st.tiers[tierId]? = some tier → SoundTier tierId tier

section Sound

variable {q : Querier} {env : Env} {info : MessageInfo} {st st' : Storage} {r : Response Empty}
variable {tierId : ℕ} {tier : Tier}

lemma assertDiscount_eq_ok {discountBps : ℕ} {u : Unit} : assertDiscount discountBps = .ok u ↔ discountBps ≤ 10000 := by
  rw [assertDiscount, ensure_eq_ok, decide_eq_true_eq]
  rfl

lemma assertNotReserved_eq_ok {governanceOnly : Bool} {u : Unit} : assertNotReserved tierId governanceOnly = .ok u ↔
    (tierId = 0 ∨ tierId = 255 → governanceOnly = true) := by
  simp only [assertNotReserved, ensure_eq_ok, decide_eq_true_eq, not_and, Bool.not_eq_false]

lemma checkedField_ok {α : Type} {current value : α} {check : α → Result Unit} {given : Option α} (P : α → Prop)
    (h : checkedField current check given = .ok value) (init : P current)
    (checked : ∀ a u, check a = .ok u → P a) : P value := by
  cases given with
  | none =>
    cases h
    exact init
  | some a =>
    simp only [checkedField, bind_eq_ok, Except.ok.injEq] at h
    obtain ⟨u, hu, rfl⟩ := h
    exact checked a u hu

lemma bumpLadderVersion_keeps {config config' : Config} (h : bumpLadderVersion config = .ok config') :
    config'.baseFeeBps = config.baseFeeBps := by
  simp only [bumpLadderVersion, bind_eq_ok, Except.ok.injEq] at h
  obtain ⟨version, -, rfl⟩ := h
  rfl

lemma Sound.insert (sound : Sound st) {config : Config} (same : config.baseFeeBps = st.config.baseFeeBps)
    (soundTier : SoundTier tierId tier) : Sound { st with config, tiers := st.tiers.insert tierId tier } := by
  refine ⟨same ▸ sound.baseFee, fun id t ht => ?_⟩
  rw [lookup_insert] at ht
  split at ht
  · cases ht
    subst tierId
    exact soundTier
  · exact sound.tiers id t ht

lemma standardTiers_sound : ∀ e ∈ standardTiers, SoundTier e.1 e.2 := by
  have hall : ∀ e ∈ standardTiers, e.2.discountBps ≤ 10000 ∧ (e.1 = 0 ∨ e.1 = 255 → e.2.governanceOnly = true) := by
    decide
  exact fun e he => ⟨(hall e he).1, (hall e he).2⟩

lemma seed_sound {l : List (ℕ × Tier)} {tiers : Std.ExtTreeMap ℕ Tier} (entries : ∀ e ∈ l, SoundTier e.1 e.2)
    (start : ∀ id t, tiers[id]? = some t → SoundTier id t) {id : ℕ} {t : Tier}
    (h : (l.foldl (fun tiers e => tiers.insert e.1 e.2) tiers)[id]? = some t) : SoundTier id t := by
  induction l generalizing tiers with
  | nil => exact start id t h
  | cons e l ih =>
    refine ih (fun e' he' => entries e' (List.mem_cons_of_mem _ he')) (fun id t ht => ?_) h
    rw [lookup_insert] at ht
    split at ht
    · cases ht
      subst id
      exact entries e List.mem_cons_self
    · exact start id t ht

lemma instantiate_sound {msg : InstantiateMsg} (h : instantiate q info msg = .ok (st, r)) : Sound st := by
  simp only [instantiate, bind_eq_ok, ensure_eq_ok, decide_eq_true_eq, Except.ok.injEq, Prod.mk.injEq] at h
  obtain ⟨_, -, _, -, _, -, _, -, _, hbase, rfl, -⟩ := h
  refine ⟨hbase, fun id t ht => seed_sound standardTiers_sound (fun id t ht => ?_) ht⟩
  simp at ht

lemma executeUpdateTier_sound {minCl8yBalance : Option Uint128} {discountBps : Option ℕ} {governanceOnly : Option Bool}
    (sound : Sound st)
    (h : executeUpdateTier st info tierId minCl8yBalance discountBps governanceOnly = .ok (st', r)) : Sound st' := by
  simp only [executeUpdateTier, bind_eq_ok, orError_eq_ok, Except.ok.injEq, Prod.mk.injEq] at h
  obtain ⟨_, -, tier, htier, discount, hdiscount, governance, hgovernance, config, hconfig, rfl, -⟩ := h
  have hold := sound.tiers _ _ htier
  refine sound.insert (bumpLadderVersion_keeps hconfig) ⟨?_, ?_⟩
  · exact checkedField_ok (· ≤ 10000) hdiscount hold.discount fun a u => assertDiscount_eq_ok.mp
  · exact checkedField_ok (tierId = 0 ∨ tierId = 255 → · = true) hgovernance hold.reserved fun a u =>
      assertNotReserved_eq_ok.mp

lemma execute_sound {msg : ExecuteMsg} (sound : Sound st) (h : execute q env st info msg = .ok (st', r)) :
    Sound st' := by
  cases msg with
  | refreshHolding trader =>
    simp only [execute, executeRefreshHolding, bind_eq_ok] at h
    obtain ⟨addr, -, h⟩ := h
    split at h
    · cases h
      exact ⟨sound.baseFee, sound.tiers⟩
    · cases h
      exact sound
  | addTier tierId minCl8yBalance discountBps governanceOnly =>
    simp only [execute, executeAddTier, bind_eq_ok, Except.ok.injEq, Prod.mk.injEq] at h
    obtain ⟨_, -, _, hdiscount, _, hreserved, _, -, config, hconfig, rfl, -⟩ := h
    exact sound.insert (bumpLadderVersion_keeps hconfig)
      ⟨assertDiscount_eq_ok.mp hdiscount, assertNotReserved_eq_ok.mp hreserved⟩
  | updateTier tierId minCl8yBalance discountBps governanceOnly => exact executeUpdateTier_sound sound h
  | removeTier tierId =>
    simp only [execute, executeRemoveTier, bind_eq_ok, Except.ok.injEq, Prod.mk.injEq] at h
    obtain ⟨_, -, _, -, config, hconfig, rfl, -⟩ := h
    refine ⟨bumpLadderVersion_keeps hconfig ▸ sound.baseFee, fun id t ht => ?_⟩
    rw [lookup_erase] at ht
    split at ht
    · cases ht
    · exact sound.tiers id t ht
  | updateConfig governance cl8y treasury feeCollector baseFeeBps =>
    simp only [execute, executeUpdateConfig, bind_eq_ok, Except.ok.injEq, Prod.mk.injEq] at h
    obtain ⟨_, -, _, -, _, -, _, -, _, -, base, hbase, rfl, -⟩ := h
    exact ⟨checkedField_ok (· ≤ 10000) hbase sound.baseFee fun a u => assertDiscount_eq_ok.mp, sound.tiers⟩

theorem reachable_sound (h : Reachable st) : Sound st := by
  induction h with
  | instantiated h => exact instantiate_sound h
  | executed _ h ih => exact execute_sound ih h

end Sound

def Meets (balance : Uint128) (entry : ℕ × Tier) : Bool := !entry.2.governanceOnly && entry.2.minCl8yBalance ≤ balance

section Resolved

variable {st : Storage} {balance balance' : Uint128}

lemma resolveStep_eq : resolveStep balance = keepGreater (Meets balance) (fun e => e.2.discountBps) Prod.fst := by
  funext best entry
  cases hgov : entry.2.governanceOnly <;> simp [resolveStep, keepGreater, Meets, hgov]

def Discounts (st : Storage) (balance : Uint128) : Set ℕ :=
  insert 0 {d | ∃ id tier, st.tiers[id]? = some tier ∧ Meets balance (id, tier) ∧ tier.discountBps = d}

def TiersGiving (st : Storage) (balance : Uint128) (discount : ℕ) : Set ℕ :=
  {id | ∃ tier, st.tiers[id]? = some tier ∧ Meets balance (id, tier) ∧ tier.discountBps = discount}

lemma scores_tiers : Scores (Meets balance) (fun e => e.2.discountBps) st.tiers.toList = Discounts st balance := by
  ext d
  simp only [Scores, Discounts, Set.mem_insert_iff, Set.mem_ofPred_eq, Prod.exists, mem_toList_iff]

lemma resolveDiscount_chosen :
    Chosen (Meets balance) (fun e => e.2.discountBps) Prod.fst st.tiers.toList (resolveDiscount st balance) := by
  rw [resolveDiscount, resolveStep_eq]
  refine chosen_foldl ?_
  exact st.tiers.ordered_keys_toList.imp fun h => by simpa [compare_lt_iff_lt] using h

lemma resolveDiscount_greatest : IsGreatest (Discounts st balance) (resolveDiscount st balance).1 :=
  scores_tiers ▸ resolveDiscount_chosen.greatest

lemma resolveDiscount_first {id : ℕ} (h : (resolveDiscount st balance).2 = some id) :
    IsLeast (TiersGiving st balance (resolveDiscount st balance).1) id := by
  have hleast := (@resolveDiscount_chosen st balance).first id h
  convert hleast using 1
  ext k
  simp only [TiersGiving, Set.mem_ofPred_eq, Prod.exists, mem_toList_iff]
  constructor
  · rintro ⟨tier, htier, hmeets, hdiscount⟩
    exact ⟨k, tier, htier, hmeets, hdiscount, rfl⟩
  · rintro ⟨_, tier, htier, hmeets, hdiscount, rfl⟩
    exact ⟨tier, htier, hmeets, hdiscount⟩

lemma Discounts.mono (h : balance ≤ balance') : Discounts st balance ⊆ Discounts st balance' := by
  rintro d (rfl | ⟨id, tier, htier, hmeets, hdiscount⟩)
  · exact .inl rfl
  · refine .inr ⟨id, tier, htier, ?_, hdiscount⟩
    simp only [Meets, Bool.and_eq_true, decide_eq_true_eq] at hmeets ⊢
    exact ⟨hmeets.1, hmeets.2.trans h⟩

lemma resolveDiscount_mono (h : balance ≤ balance') :
    (resolveDiscount st balance).1 ≤ (resolveDiscount st balance').1 :=
  resolveDiscount_greatest.2 (Discounts.mono h resolveDiscount_greatest.1)

end Resolved

section Queried

variable {q q' : Querier} {st : Storage} {trader trader' : String} {addr addr' : Addr} {balance balance' : Uint128}

lemma effectiveFee_ok {base discount : ℕ} (hbase : base ≤ 10000) (hdiscount : discount ≤ 10000) :
    effectiveFee base discount = .ok (base * (10000 - discount) / 10000) := by
  have hproduct : base * (10000 - discount) ≤ 10000 * 10000 := Nat.mul_le_mul hbase (Nat.sub_le _ _)
  have hfee : base * (10000 - discount) / 10000 < 2 ^ 16 := by omega
  have hunderflow : decide (discount ≤ maxBps) = true := decide_eq_true hdiscount
  have hoverflow : decide (base * (maxBps - discount) < 2 ^ 32) = true :=
    decide_eq_true (hproduct.trans_lt (by decide))
  simp only [effectiveFee, bind_eq_ok, ensure_eq_ok, Except.ok.injEq]
  exact ⟨(), hunderflow, (), hoverflow, Nat.mod_eq_of_lt hfee⟩

lemma resolveDiscount_le (sound : Sound st) : (resolveDiscount st balance).1 ≤ 10000 := by
  rcases resolveDiscount_greatest.1 with hzero | ⟨id, tier, htier, -, hdiscount⟩
  · rw [hzero]
    exact Nat.zero_le _
  · exact hdiscount ▸ (sound.tiers id tier htier).discount

lemma resolveDiscount_unreserved (sound : Sound st) {id : ℕ} (h : (resolveDiscount st balance).2 = some id) :
    id ≠ 0 ∧ id ≠ 255 := by
  obtain ⟨tier, htier, hmeets, -⟩ := (resolveDiscount_first h).1
  have hreserved := (sound.tiers id tier htier).reserved
  simp only [Meets, Bool.and_eq_true, Bool.not_eq_true'] at hmeets
  rw [hmeets.1] at hreserved
  exact ⟨fun hid => Bool.false_ne_true (hreserved (.inl hid)), fun hid => Bool.false_ne_true (hreserved (.inr hid))⟩

lemma query_of_balance (sound : Sound st) (known : q.addrValidate trader = .ok addr)
    (told : q.balance st.config.cl8y addr = .ok balance) : queryEffectiveFee q st trader =
      .ok ⟨st.config.baseFeeBps * (10000 - (resolveDiscount st balance).1) / 10000, (resolveDiscount st balance).1,
        (resolveDiscount st balance).2, some balance, .live⟩ := by
  simp only [queryEffectiveFee, known, ok_bind, told, effectiveFee_ok sound.baseFee (resolveDiscount_le sound)]

lemma query_of_failure (sound : Sound st) (known : q.addrValidate trader = .ok addr) {e : StdError}
    (failed : q.balance st.config.cl8y addr = .error e) : queryEffectiveFee q st trader =
      .ok ⟨st.config.baseFeeBps, 0, none, none, .lowest⟩ := by
  have hfull : st.config.baseFeeBps * (10000 - 0) / 10000 = st.config.baseFeeBps :=
    Nat.mul_div_cancel _ (by decide)
  simp only [queryEffectiveFee, known, ok_bind, failed, effectiveFee_ok sound.baseFee (Nat.zero_le _), hfull]

/-- Whatever governance does, the fee of a trader is the base fee less the greatest discount of the tiers that apply to
the live balance, of which the lowest is named and neither of the reserved ones; without a live balance it is the whole
base fee; and it is no higher for a higher balance. -/
theorem effective_fee_resolved {st : Storage} (reachable : Reachable st) :
    (∀ q trader addr, q.addrValidate trader = .ok addr → ∃ r, queryEffectiveFee q st trader = .ok r ∧
      r.discountBps ≤ 10000 ∧ r.feeBps = st.config.baseFeeBps * (10000 - r.discountBps) / 10000 ∧
      r.feeBps ≤ st.config.baseFeeBps ∧
      (∀ balance, q.balance st.config.cl8y addr = .ok balance →
        IsGreatest (Discounts st balance) r.discountBps ∧ (r.tierId = none ↔ r.discountBps = 0) ∧
        ∀ id, r.tierId = some id → IsLeast (TiersGiving st balance r.discountBps) id ∧ id ≠ 0 ∧ id ≠ 255) ∧
      ∀ e, q.balance st.config.cl8y addr = .error e → r.discountBps = 0 ∧ r.tierId = none) ∧
    ∀ q q' trader trader' addr addr' balance balance' r r', q.addrValidate trader = .ok addr →
      q'.addrValidate trader' = .ok addr' → q.balance st.config.cl8y addr = .ok balance →
      q'.balance st.config.cl8y addr' = .ok balance' → balance ≤ balance' →
      queryEffectiveFee q st trader = .ok r → queryEffectiveFee q' st trader' = .ok r' → r'.feeBps ≤ r.feeBps := by
  have hsound := reachable_sound reachable
  constructor
  · intro q trader addr known
    cases htold : q.balance st.config.cl8y addr with
    | ok balance =>
      refine ⟨_, query_of_balance hsound known htold, resolveDiscount_le hsound, rfl, ?_, ?_, nofun⟩
      · exact Nat.div_le_of_le_mul (by rw [Nat.mul_comm]; exact Nat.mul_le_mul_right _ (Nat.sub_le _ _))
      · rintro _ ⟨⟩
        exact ⟨resolveDiscount_greatest, resolveDiscount_chosen.nobody,
          fun id hid => ⟨resolveDiscount_first hid, resolveDiscount_unreserved hsound hid⟩⟩
    | error e =>
      refine ⟨_, query_of_failure hsound known htold, Nat.zero_le _, ?_, le_rfl, nofun, fun _ _ => ⟨rfl, rfl⟩⟩
      exact (Nat.mul_div_cancel st.config.baseFeeBps (show 0 < 10000 by decide)).symm
  · intro q q' trader trader' addr addr' balance balance' r r' known known' told told' hle h h'
    obtain rfl := Except.ok.inj ((query_of_balance hsound known told).symm.trans h)
    obtain rfl := Except.ok.inj ((query_of_balance hsound known' told').symm.trans h')
    exact Nat.div_le_div_right (Nat.mul_le_mul_left _ (Nat.sub_le_sub_left (resolveDiscount_mono hle) _))

def freshQuerier : Querier := ⟨.ok, fun _ _ => .ok ⟨20 * oneCl8y, by decide⟩⟩

theorem standard_ladder_fee : ∃ st r, instantiate freshQuerier ⟨"creator", []⟩
      ⟨"governance", "cl8y", "treasury", "collector", 180⟩ = .ok (st, r) ∧
    ∃ fee, queryEffectiveFee freshQuerier st "trader" = .ok fee ∧
      IsGreatest (Discounts st ⟨20 * oneCl8y, by decide⟩) fee.discountBps := by
  have hcreated : okAnd (instantiate freshQuerier ⟨"creator", []⟩
      ⟨"governance", "cl8y", "treasury", "collector", 180⟩) (fun _ => true) = true := by decide
  obtain ⟨⟨st, r⟩, hst, -⟩ := okAnd_iff.mp hcreated
  obtain ⟨fee, hfee, -, -, -, hlive, -⟩ :=
    (effective_fee_resolved (.instantiated hst)).1 freshQuerier "trader" "trader" rfl
  exact ⟨st, r, hst, fee, hfee, (hlive _ rfl).1⟩

end Queried

end Cl8yDexBots.FeeSystem.EffectiveFees
