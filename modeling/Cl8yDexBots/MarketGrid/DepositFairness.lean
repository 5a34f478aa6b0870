import Cl8yDexBots.Foundation.ProRata
import Cl8yDexBots.MarketGrid.Runs

/-! What a depositor gets back who deposits and at once withdraws the minted shares. -/

namespace Cl8yDexBots.MarketGrid.DepositFairness

open Std Foundation.Checked Foundation.Words Foundation.SubMessages Foundation.ProRata CosmWasm.Std
open CosmWasm.Pair SwapVault.Pricing State Planning Vault Runs

def exactValue (price : Decimal) (amounts : Fin 2 → ℕ) : ℚ :=
  amounts 0 * (price.atomics.val / decimalFractional : ℚ) + amounts 1

def scaledValue (price : Decimal) (amounts : Fin 2 → ℕ) : ℕ :=
  amounts 0 * price.atomics.val + amounts 1 * decimalFractional

def only (i : Fin 2) (amount : ℕ) : Fin 2 → ℕ := fun j => if i = j then amount else 0

/-- Rounding in a deposit of `amount` and the withdrawal after it favours the vault. The value of
the prior holdings and of the deposit in token 0, the shares and the two payouts are each rounded
down; only the first of these favours the depositor. -/
def RoundingFavoursVault (price : Decimal) (held : Fin 2 → ℕ) (i : Fin 2) (amount supply : ℕ) : Prop :=
  let p := price.atomics.val
  let prior := scaledValue price fun j => held j - only i amount j
  let deposit := scaledValue price (only i amount)
  let minted := slice (deposit / p) supply (prior / p)
  prior / p = 0 ∨ prior % p * minted ≤ p * (deposit / p * supply % (prior / p)) + deposit % p * supply
    + (held 0 * minted % (supply + minted) * p + held 1 * minted % (supply + minted) * decimalFractional)

instance (price : Decimal) (held : Fin 2 → ℕ) (i : Fin 2) (amount supply : ℕ) :
    Decidable (RoundingFavoursVault price held i amount supply) := by
  rw [RoundingFavoursVault]
  infer_instance

lemma exactValue_eq (price : Decimal) (a : Fin 2 → ℕ) :
    exactValue price a = (scaledValue price a : ℚ) / decimalFractional := by
  have hd : (decimalFractional : ℚ) ≠ 0 := by norm_num [decimalFractional]
  rw [exactValue, scaledValue]
  push_cast
  field_simp

lemma exactValue_le_iff {price : Decimal} {a b : Fin 2 → ℕ} :
    exactValue price a ≤ exactValue price b ↔ scaledValue price a ≤ scaledValue price b := by
  have hd : (0 : ℚ) < decimalFractional := by norm_num [decimalFractional]
  rw [exactValue_eq, exactValue_eq, div_le_div_iff_of_pos_right hd, Nat.cast_le]

lemma scaledValue_div {price : Decimal} (hp : price.atomics.val ≠ 0) (a : Fin 2 → ℕ) :
    scaledValue price a / price.atomics.val = a 0 + a 1 * decimalFractional / price.atomics.val := by
  rw [scaledValue]
  rw [Nat.add_comm, Nat.add_mul_div_right _ _ (Nat.pos_of_ne_zero hp), Nat.add_comm]

lemma depositValue_eq {amount v : Uint128} {i : Fin 2} {price : Decimal}
    (hp : price.atomics.val ≠ 0) (h : depositValue amount i price = .ok v) :
    v.val = scaledValue price (only i amount.val) / price.atomics.val := by
  rw [scaledValue_div hp]
  rw [depositValue] at h
  split at h
  · rename_i hi
    cases h
    simp [only, hi]
  · rename_i hi
    simp only [bind_eq_ok, ensure_eq_ok, exists_const, checkedRatio_eq_ok] at h
    have hi1 : i = 1 := by omega
    simpa [only, hi, hi1] using h.2.2

lemma priorBalance_eq {amount b : Uint128} {i j : Fin 2} {held : Fin 2 → Uint128}
    (h : priorBalance amount i held j = .ok b) : b.val = (held j).val - only i amount.val j := by
  rw [priorBalance] at h
  split at h
  · rename_i hij
    simpa [only, hij] using (checkedSub_eq_ok.mp h).2
  · rename_i hij
    cases h
    simp [only, hij]

lemma vaultValue_eq {amount q : Uint128} {i : Fin 2} {price : Decimal} {held : Fin 2 → Uint128}
    (h : vaultValue amount i price held = .ok q) : price.atomics.val ≠ 0 ∧
      q.val = scaledValue price (fun j => (held j).val - only i amount.val j) / price.atomics.val := by
  simp only [vaultValue, bind_eq_ok, checkedRatio_eq_ok, checkedAdd_eq_ok] at h
  obtain ⟨b0, h0, b1, h1, t1, ⟨hp, ht1⟩, hq⟩ := h
  refine ⟨hp, ?_⟩
  rw [scaledValue_div hp, hq, ht1, priorBalance_eq h0, priorBalance_eq h1]
  rfl

lemma depositShares_eq {amount supply minted : Uint128} {i : Fin 2} {price : Decimal}
    {held : Fin 2 → Uint128} (hs : supply.val ≠ 0)
    (h : depositShares amount i price held supply = .ok minted) :
    let p := price.atomics.val
    let units := scaledValue price (fun j => (held j).val - only i amount.val j) / p
    let deposit := scaledValue price (only i amount.val) / p
    p ≠ 0 ∧ minted.val = if units = 0 then deposit else slice deposit supply.val units := by
  simp only [depositShares, isZero_iff, hs, if_false, bind_eq_ok] at h
  obtain ⟨v, hv, q, hq, hm⟩ := h
  obtain ⟨hp, hq⟩ := vaultValue_eq hq
  refine ⟨hp, ?_⟩
  rw [← hq, ← depositValue_eq hp hv]
  rw [mintedShares] at hm
  split at hm
  · rename_i hz
    cases hm
    rw [if_pos (isZero_iff.mp hz)]
  · rename_i hz
    rw [if_neg (fun hq0 => hz (isZero_iff.mpr hq0))]
    exact (checkedMultiplyRatio_eq_ok.mp (withError_eq_ok.mp hm)).2

lemma depositShares_le {amount supply minted : Uint128} {i : Fin 2} {price : Decimal}
    {held : Fin 2 → Uint128} (hs : supply.val ≠ 0)
    (h : depositShares amount i price held supply = .ok minted) (j : Fin 2) :
    only i amount.val j ≤ (held j).val := by
  simp only [depositShares, isZero_iff, hs, if_false, bind_eq_ok] at h
  obtain ⟨_, -, _, hq, -⟩ := h
  simp only [vaultValue, bind_eq_ok] at hq
  obtain ⟨b0, h0, b1, h1, -⟩ := hq
  have hb : ∀ b, priorBalance amount i held j = .ok b → only i amount.val j ≤ (held j).val := by
    intro b hb
    rw [priorBalance] at hb
    rw [only]
    split at hb
    · rename_i hij
      simpa [hij] using (checkedSub_eq_ok.mp hb).1
    · rename_i hij
      simp [hij]
  fin_cases j
  · exact hb b0 h0
  · exact hb b1 h1

def paidOut (config : Config) (messages : List (SubMsg WasmMsg)) (i : Fin 2) : ℕ :=
  (messages.map fun m =>
    if m.msg.contractAddr = config.assetTokens i then m.msg.msg.amount.val else 0).sum

lemma paidOut_transfers {config : Config} (hne : config.assetTokens 0 ≠ config.assetTokens 1)
    (recipient : Addr) (amounts : Fin 2 → Uint128) (i : Fin 2) :
    paidOut config (transfers config recipient amounts) i = (amounts i).val := by
  rw [paidOut, transfers]
  by_cases h0 : (amounts 0).val = 0 <;> by_cases h1 : (amounts 1).val = 0 <;> fin_cases i <;>
    simp [SubMsg.plain, Cw20ExecuteMsg.amount, h0, h1, hne, Ne.symm hne]

lemma executeReceive_ok {q : Querier} {env : Env} {st st₁ : Storage} {info : MessageInfo}
    {receive : Cw20ReceiveMsg} {r : Response WasmMsg} {price : Decimal} {held : Fin 2 → Uint128}
    {i : Fin 2} (h : executeReceive q env st info receive = .ok (st₁, r))
    (hprice : (referencePrice q st.config.pair st.config.twapWindowSeconds : Result _) = .ok price)
    (hheld : (balances q env.contract st.config : Result _) = .ok held)
    (hi : tokenIndex st.config info.sender = some i) :
    ∃ minted : Uint128, depositShares receive.amount i price held st.totalShares = .ok minted ∧
      st₁.totalShares.val = st.totalShares.val + minted.val ∧ st₁.config = st.config := by
  simp only [executeReceive, bind_eq_ok, Except.ok.injEq, Prod.mk.injEq, hprice, hheld, hi,
    orError_eq_ok, Option.some.injEq, checkedAdd_eq_ok] at h
  obtain ⟨_, -, _, -, _, -, _, -, _, -, _, -, _, rfl, _, rfl, _, rfl, minted, hm, _, -, total, ht, _, -,
    rfl, -⟩ := h
  exact ⟨minted, hm, ht, rfl⟩

lemma executeWithdraw_ok {q : Querier} {env : Env} {st st₁ : Storage} {info : MessageInfo}
    {shares : Uint128} {recipient : Option String} {r : Response WasmMsg} {held : Fin 2 → Uint128}
    (hne : st.config.assetTokens 0 ≠ st.config.assetTokens 1)
    (h : executeWithdraw q env st info shares recipient = .ok (st₁, r))
    (hheld : (balances q env.contract st.config : Result _) = .ok held) (i : Fin 2) :
    paidOut st.config r.messages i = slice (held i).val shares.val st.totalShares.val := by
  simp only [executeWithdraw, bind_eq_ok, Except.ok.injEq, Prod.mk.injEq, hheld,
    multiplyRatio_eq_ok] at h
  obtain ⟨_, -, _, -, _, -, _, -, _, rfl, target, -, a0, ⟨-, h0⟩, a1, ⟨-, h1⟩, _, -, _, -, -, rfl⟩ := h
  rw [paidOut_transfers hne]
  fin_cases i
  · exact h0
  · exact h1

section RoundTrip

variable {q : Querier} {env : Env} {st st₁ st₂ : Storage} {info info₁ : MessageInfo}
  {receive : Cw20ReceiveMsg} {minted : Uint128} {recipient : Option String}
  {r₁ r₂ : Response WasmMsg} {price : Decimal} {held : Fin 2 → Uint128} {i : Fin 2}

structure RoundTrip (q : Querier) (env : Env) (st : Storage) (info info₁ : MessageInfo)
    (receive : Cw20ReceiveMsg) (minted : Uint128) (recipient : Option String)
    (st₁ st₂ : Storage) (r₁ r₂ : Response WasmMsg)
    (price : Decimal) (held : Fin 2 → Uint128) (i : Fin 2) : Prop where
  priced : (referencePrice q st.config.pair st.config.twapWindowSeconds : Result _) = .ok price
  balances : (Planning.balances q env.contract st.config : Result _) = .ok held
  token : tokenIndex st.config info.sender = some i
  deposit : executeReceive q env st info receive = .ok (st₁, r₁)
  newShares : st₁.totalShares.val = st.totalShares.val + minted.val
  withdraw : executeWithdraw q env st₁ info₁ minted recipient = .ok (st₂, r₂)

lemma RoundTrip.redeemed (h : RoundTrip q env st info info₁ receive minted recipient st₁ st₂ r₁ r₂
      price held i) (hv : Valid st.config) (hs : st.totalShares.val ≠ 0) :
    let p := price.atomics.val
    let supply := st.totalShares.val
    let prior := scaledValue price fun j => (held j).val - only i receive.amount.val j
    let deposit := scaledValue price (only i receive.amount.val)
    p ≠ 0 ∧ minted.val = (if prior / p = 0 then deposit / p else slice (deposit / p) supply (prior / p)) ∧
      scaledValue price (paidOut st.config r₂.messages) * (supply + minted.val)
        + ((held 0).val * minted.val % (supply + minted.val) * p
          + (held 1).val * minted.val % (supply + minted.val) * decimalFractional)
        = (prior + deposit) * minted.val := by
  obtain ⟨m, hshares, htotal, hconfig⟩ := executeReceive_ok h.deposit h.priced h.balances h.token
  have hm : m = minted := by
    have := h.newShares
    rw [eq_iff]
    omega
  subst hm
  obtain ⟨hp, hminted⟩ := depositShares_eq hs hshares
  have hle : ∀ j, only i receive.amount.val j ≤ (held j).val := depositShares_le hs hshares
  refine ⟨hp, hminted, ?_⟩
  have hpaid : ∀ j, paidOut st.config r₂.messages j
      = slice (held j).val m.val (st.totalShares.val + m.val) := by
    intro j
    have hw := executeWithdraw_ok (hconfig ▸ hv.tokens) h.withdraw (hconfig ▸ h.balances) j
    rwa [hconfig, htotal] at hw
  have hsum : scaledValue price (fun j => (held j).val - only i receive.amount.val j)
      + scaledValue price (only i receive.amount.val) = scaledValue price fun j => (held j).val := by
    have h0 := Nat.sub_add_cancel (hle 0)
    have h1 := Nat.sub_add_cancel (hle 1)
    simp only [scaledValue]
    rw [add_add_add_comm, ← Nat.add_mul, ← Nat.add_mul, h0, h1]
  rw [hsum]
  rw [scaledValue]
  rw [hpaid 0, hpaid 1]
  exact slice_value_mul_add _ _ _ _ _ _

/-- The round trip returns at most the value deposited exactly when its rounding favours the vault. -/
theorem round_trip_fair_iff (hreach : Reachable st) (hs : st.totalShares.val ≠ 0)
    (h : RoundTrip q env st info info₁ receive minted recipient st₁ st₂ r₁ r₂ price held i) :
    exactValue price (paidOut st.config r₂.messages) ≤ exactValue price (only i receive.amount.val) ↔
      RoundingFavoursVault price (fun j => (held j).val) i receive.amount.val st.totalShares.val := by
  obtain ⟨hp, hminted, hpaid⟩ := h.redeemed hreach.valid hs
  have hsum : 0 < st.totalShares.val + minted.val := by omega
  rw [exactValue_le_iff, redeemed_le_iff hsum hpaid]
  unfold RoundingFavoursVault
  dsimp only
  split at hminted
  · rename_i hq
    exact ⟨fun _ => .inl hq,
      fun _ => covered_of_empty (Nat.pos_of_ne_zero hp) (Nat.pos_of_ne_zero hs) hq hminted⟩
  · rename_i hq
    rw [covered_iff_remainders hminted, hminted]
    simp only [hq, false_or]

theorem round_trip_gain_lt_unit (hreach : Reachable st) (hs : st.totalShares.val ≠ 0)
    (h : RoundTrip q env st info info₁ receive minted recipient st₁ st₂ r₁ r₂ price held i) :
    scaledValue price (paidOut st.config r₂.messages)
      < scaledValue price (only i receive.amount.val) + price.atomics.val := by
  obtain ⟨hp, hminted, hpaid⟩ := h.redeemed hreach.valid hs
  split at hminted
  · rename_i hq
    have hsum : 0 < st.totalShares.val + minted.val := by omega
    have hle := (redeemed_le_iff hsum hpaid).mpr
      (covered_of_empty (Nat.pos_of_ne_zero hp) (Nat.pos_of_ne_zero hs) hq hminted)
    omega
  · exact redeemed_lt_add_unit (Nat.pos_of_ne_zero hp) (Nat.pos_of_ne_zero hs) hminted hpaid

end RoundTrip

def millionPrice : Decimal := ⟨⟨10 ^ 24, by decide⟩⟩

def donatedStorage : Storage :=
  fundedStorage (fixedConfig .one millionPrice 10 millionPrice 10) ⟨1, by decide⟩

lemma donatedStorage_reachable : Reachable donatedStorage :=
  @Reachable.executed (fixedChain ![⟨1, by decide⟩, 0] millionPrice 0) ⟨0, 0, "vault"⟩ _ ⟨"token0", []⟩
    (.receive ⟨"admin", ⟨1, by decide⟩, some .deposit⟩) _ _
    (@Reachable.instantiated (fixedChain 0 millionPrice 0) ⟨"admin", []⟩ (fixedMsg .one millionPrice 10)
      _ _ rfl) rfl

/-- After 999999 units of token 1 have arrived, the admin deposits one more unit of token 0: the token 1
is worth less than one unit of token 0 and counts as nothing. -/
lemma donated_round_trip : ∃ st₁ st₂ r₁ r₂,
    RoundTrip (fixedChain ![⟨2, by decide⟩, ⟨999999, by decide⟩] millionPrice 0) ⟨0, 0, "vault"⟩
      donatedStorage ⟨"token0", []⟩ ⟨"admin", []⟩ ⟨"admin", ⟨1, by decide⟩, some .deposit⟩
      ⟨1, by decide⟩ none st₁ st₂ r₁ r₂ millionPrice ![⟨2, by decide⟩, ⟨999999, by decide⟩] 0 ∧
    paidOut donatedStorage.config r₂.messages = ![1, 499999] := by
  refine ⟨fundedStorage donatedStorage.config ⟨2, by decide⟩, donatedStorage, _, _, ⟨rfl, rfl, rfl, rfl, rfl, rfl⟩, ?_⟩
  funext i
  fin_cases i <;> rfl

theorem round_trip_fair_iff_donated : ∃ st₁ st₂ r₁ r₂,
    RoundTrip (fixedChain ![⟨2, by decide⟩, ⟨999999, by decide⟩] millionPrice 0) ⟨0, 0, "vault"⟩
      donatedStorage ⟨"token0", []⟩ ⟨"admin", []⟩ ⟨"admin", ⟨1, by decide⟩, some .deposit⟩
      ⟨1, by decide⟩ none st₁ st₂ r₁ r₂ millionPrice ![⟨2, by decide⟩, ⟨999999, by decide⟩] 0 ∧
    (exactValue millionPrice (paidOut donatedStorage.config r₂.messages) ≤ exactValue millionPrice (only 0 1)
      ↔ RoundingFavoursVault millionPrice ![2, 999999] 0 1 1) := by
  obtain ⟨st₁, st₂, r₁, r₂, trip, -⟩ := donated_round_trip
  refine ⟨st₁, st₂, r₁, r₂, trip, ?_⟩
  have h := round_trip_fair_iff donatedStorage_reachable (by decide) trip
  convert h using 2
  · funext i
    fin_cases i <;> rfl
  · rfl

/-- A depositor can take out more than the value deposited. -/
theorem round_trip_extracts_value : ∃ st₁ st₂ r₁ r₂, Reachable donatedStorage ∧
    donatedStorage.totalShares.val ≠ 0 ∧
    RoundTrip (fixedChain ![⟨2, by decide⟩, ⟨999999, by decide⟩] millionPrice 0) ⟨0, 0, "vault"⟩
      donatedStorage ⟨"token0", []⟩ ⟨"admin", []⟩ ⟨"admin", ⟨1, by decide⟩, some .deposit⟩
      ⟨1, by decide⟩ none st₁ st₂ r₁ r₂ millionPrice ![⟨2, by decide⟩, ⟨999999, by decide⟩] 0 ∧
    ¬ exactValue millionPrice (paidOut donatedStorage.config r₂.messages)
      ≤ exactValue millionPrice (only 0 1) := by
  obtain ⟨st₁, st₂, r₁, r₂, trip, paid⟩ := donated_round_trip
  refine ⟨st₁, st₂, r₁, r₂, donatedStorage_reachable, by decide, trip, ?_⟩
  rw [paid, exactValue_le_iff]
  decide

end Cl8yDexBots.MarketGrid.DepositFairness
