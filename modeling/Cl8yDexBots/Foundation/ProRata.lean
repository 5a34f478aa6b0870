import Mathlib

/-! Shares of a pool: slices rounded down, and what rounding leaves behind. -/

namespace Cl8yDexBots.Foundation.ProRata

/-- The part of `amount` that belongs to `part` out of `whole` shares, rounded down. -/
def slice (amount part whole : ℕ) : ℕ := amount * part / whole

lemma slice_le (amount : ℕ) {part whole : ℕ} (h : part ≤ whole) : slice amount part whole ≤ amount := by
  refine Nat.div_le_of_le_mul ?_
  rw [Nat.mul_comm whole]
  exact Nat.mul_le_mul_left _ h

lemma slice_mul_add (amount part whole : ℕ) :
    slice amount part whole * whole + amount * part % whole = amount * part := by
  rw [Nat.mul_comm (slice _ _ _)]
  exact Nat.div_add_mod _ _

lemma slice_mul_le (amount part whole : ℕ) : slice amount part whole * whole ≤ amount * part :=
  Nat.div_mul_le_self _ _

lemma backing_of_slice {balance balance' part supply supply' : ℕ} (burned : supply' + part = supply)
    (kept : balance ≤ balance' + slice balance part supply) : balance * supply' ≤ balance' * supply := by
  have hslice := slice_mul_le balance part supply
  have hkept := Nat.mul_le_mul_right supply kept
  rw [Nat.add_mul] at hkept
  have hsplit : balance * supply = balance * supply' + balance * part := by rw [← burned, Nat.mul_add]
  omega

lemma backing_of_minted {before after supply minted : ℕ} (grown : before ≤ after)
    (least : minted ≤ (after - before) * supply / before) : before * (supply + minted) ≤ after * supply := by
  have hminted : before * minted ≤ (after - before) * supply :=
    (Nat.mul_le_mul_left _ least).trans (Nat.mul_div_le _ _)
  calc before * (supply + minted) = before * supply + before * minted := Nat.mul_add _ _ _
    _ ≤ before * supply + (after - before) * supply := Nat.add_le_add_left hminted _
    _ = after * supply := by rw [← Nat.add_mul, Nat.add_sub_cancel' grown]

lemma backing_trans {balance balance' balance'' supply supply' supply'' : ℕ} (some_left : supply' ≠ 0)
    (h₁ : balance * supply' ≤ balance' * supply) (h₂ : balance' * supply'' ≤ balance'' * supply') :
    balance * supply'' ≤ balance'' * supply := by
  refine Nat.le_of_mul_le_mul_left ?_ (Nat.pos_of_ne_zero some_left)
  calc supply' * (balance * supply'') = balance * supply' * supply'' := by ring
    _ ≤ balance' * supply * supply'' := Nat.mul_le_mul_right _ h₁
    _ = balance' * supply'' * supply := by ring
    _ ≤ balance'' * supply' * supply := Nat.mul_le_mul_right _ h₂
    _ = supply' * (balance'' * supply) := by ring

lemma slice_value_mul_add (p d a b part whole : ℕ) :
    (slice a part whole * p + slice b part whole * d) * whole
      + (a * part % whole * p + b * part % whole * d) = (a * p + b * d) * part := by
  have ha := slice_mul_add a part whole
  have hb := slice_mul_add b part whole
  calc (slice a part whole * p + slice b part whole * d) * whole
        + (a * part % whole * p + b * part % whole * d)
      = (slice a part whole * whole + a * part % whole) * p
        + (slice b part whole * whole + b * part % whole) * d := by ring
    _ = (a * p + b * d) * part := by rw [ha, hb]; ring

section MintAndRedeem

variable {p prior deposit supply minted lost : ℕ}

/-- Minting `minted` shares for `deposit` and redeeming them with remainders worth `lost` returns at
most the deposit exactly when the minted slice of the prior pool is covered. -/
lemma redeemed_le_iff {returned : ℕ} (hs : 0 < supply + minted)
    (hr : returned * (supply + minted) + lost = (prior + deposit) * minted) :
    returned ≤ deposit ↔ prior * minted ≤ deposit * supply + lost := by
  have hm : returned ≤ deposit ↔ returned * (supply + minted) ≤ deposit * (supply + minted) :=
    (Nat.mul_le_mul_right_iff hs).symm
  rw [hm]
  have hp : (prior + deposit) * minted = prior * minted + deposit * minted := by ring
  have hd : deposit * (supply + minted) = deposit * supply + deposit * minted := by ring
  omega

lemma covered_iff_remainders
    (hx : minted = slice (deposit / p) supply (prior / p)) :
    prior * minted ≤ deposit * supply + lost ↔
      prior % p * minted ≤
        p * (deposit / p * supply % (prior / p)) + deposit % p * supply + lost := by
  have hprior := Nat.div_add_mod prior p
  have hdeposit := Nat.div_add_mod deposit p
  have hminted := slice_mul_add (deposit / p) supply (prior / p)
  rw [← hx] at hminted
  have hl : prior * minted = p * (minted * (prior / p)) + prior % p * minted := by
    calc prior * minted = (p * (prior / p) + prior % p) * minted := by rw [hprior]
      _ = p * (minted * (prior / p)) + prior % p * minted := by ring
  have hr : deposit * supply = p * (deposit / p * supply) + deposit % p * supply := by
    calc deposit * supply = (p * (deposit / p) + deposit % p) * supply := by rw [hdeposit]
      _ = p * (deposit / p * supply) + deposit % p * supply := by ring
  have hm : p * (deposit / p * supply)
      = p * (minted * (prior / p)) + p * (deposit / p * supply % (prior / p)) := by
    rw [← Nat.mul_add, hminted]
  omega

lemma covered_of_empty (hp : 0 < p) (hs : 0 < supply) (hq : prior / p = 0)
    (hx : minted = deposit / p) : prior * minted ≤ deposit * supply + lost := by
  have hprior : prior < p := by
    rcases Nat.div_eq_zero_iff.mp hq with h | h
    · omega
    · exact h
  calc prior * minted ≤ p * minted := Nat.mul_le_mul_right _ hprior.le
    _ ≤ deposit := by rw [hx]; exact Nat.mul_div_le deposit p
    _ ≤ deposit * supply := Nat.le_mul_of_pos_right _ hs
    _ ≤ deposit * supply + lost := Nat.le_add_right _ _

lemma redeemed_lt_add_unit {returned : ℕ} (hp : 0 < p) (hs : 0 < supply)
    (hx : minted = slice (deposit / p) supply (prior / p))
    (hr : returned * (supply + minted) + lost = (prior + deposit) * minted) :
    returned < deposit + p := by
  have hprior := Nat.div_add_mod prior p
  have hmod : prior % p < p := Nat.mod_lt _ hp
  have hminted : minted * (prior / p) ≤ deposit / p * supply := by
    rw [hx]
    exact slice_mul_le _ _ _
  have hcover : prior * minted ≤ deposit * supply + prior % p * minted := by
    calc prior * minted = (p * (prior / p) + prior % p) * minted := by rw [hprior]
      _ = p * (minted * (prior / p)) + prior % p * minted := by ring
      _ ≤ p * (deposit / p * supply) + prior % p * minted :=
          Nat.add_le_add_right (Nat.mul_le_mul_left _ hminted) _
      _ = p * (deposit / p) * supply + prior % p * minted := by ring
      _ ≤ deposit * supply + prior % p * minted :=
          Nat.add_le_add_right (Nat.mul_le_mul_right _ (Nat.mul_div_le deposit p)) _
  have hslack : prior % p * minted < p * (supply + minted) := by
    have h := Nat.mul_le_mul_right minted hmod.le
    have hps : 0 < p * supply := Nat.mul_pos hp hs
    rw [Nat.mul_add]
    omega
  have htotal : returned * (supply + minted) < (deposit + p) * (supply + minted) := by
    have he : (prior + deposit) * minted = prior * minted + deposit * minted := by ring
    have hd : (deposit + p) * (supply + minted)
        = deposit * supply + deposit * minted + p * (supply + minted) := by ring
    omega
  exact Nat.lt_of_mul_lt_mul_right htotal

end MintAndRedeem

section FeeMint

variable {fee assets supply : ℕ}

/-- The shares that dilute a pool by a fee: minted at the price the pool has without the fee. -/
def feeShares (fee assets supply : ℕ) : ℕ :=
  if fee = 0 ∨ supply = 0 ∨ assets ≤ fee then 0 else fee * supply / (assets - fee)

lemma feeShares_of_lt (h : fee < assets) : feeShares fee assets supply = fee * supply / (assets - fee) := by
  by_cases hz : fee = 0 ∨ supply = 0
  · rw [feeShares, if_pos (by tauto)]
    rcases hz with rfl | rfl <;> simp
  · rw [feeShares, if_neg (by omega)]

lemma dilutes_iff {x : ℕ} (h : fee < assets) :
    x * assets ≤ fee * (supply + x) ↔ x * (assets - fee) ≤ fee * supply := by
  obtain ⟨rest, rfl⟩ := Nat.exists_eq_add_of_lt h
  have hl : x * (fee + rest + 1) = fee * x + x * (rest + 1) := by ring
  have hr : fee * (supply + x) = fee * supply + fee * x := Nat.mul_add _ _ _
  have hs : fee + rest + 1 - fee = rest + 1 := by omega
  rw [hs]
  omega

/-- They are the most shares whose part of the pool is not worth more than the fee. -/
theorem isGreatest_feeShares (h : fee < assets) :
    IsGreatest {x | x * assets ≤ fee * (supply + x)} (feeShares fee assets supply) := by
  have hpos : 0 < assets - fee := Nat.sub_pos_of_lt h
  rw [feeShares_of_lt h]
  constructor
  · exact (dilutes_iff h).mpr (Nat.div_mul_le_self _ _)
  · intro x hx
    exact (Nat.le_div_iff_mul_le hpos).mpr ((dilutes_iff h).mp hx)

lemma feeShares_mul_le (fee assets supply : ℕ) :
    feeShares fee assets supply * assets ≤ fee * (supply + feeShares fee assets supply) := by
  by_cases h : fee < assets
  · exact (isGreatest_feeShares h).1
  · rw [feeShares, if_pos (by omega)]
    simp

/-- The fee is worth `shares` whole shares, and no more. -/
def Buys (shares fee assets supply : ℕ) : Prop :=
  if fee < assets then shares * (assets - fee) ≤ fee * supply ∧ fee * supply < (shares + 1) * (assets - fee)
  else shares = 0

lemma buys_iff {shares : ℕ} : Buys shares fee assets supply ↔ feeShares fee assets supply = shares := by
  rw [Buys]
  split
  · rename_i h
    have hpos : 0 < assets - fee := Nat.sub_pos_of_lt h
    have hnext : (shares + 1) * (assets - fee) = shares * (assets - fee) + (assets - fee) := Nat.succ_mul _ _
    rw [feeShares_of_lt h, Nat.div_eq_iff hpos]
    omega
  · rename_i h
    rw [feeShares, if_pos (by omega)]
    exact eq_comm

theorem redeemed_fee_le {a b d p x : ℕ} (hs : 0 < supply) (hp : 0 < p)
    (hx : x * (a + b * d / p) ≤ fee * (supply + x)) :
    slice a x (supply + x) + slice b x (supply + x) * d / p ≤ fee := by
  set whole := supply + x with hw
  set paid := slice b x whole * d / p with hpaid
  have ha := slice_mul_le a x whole
  have hb := slice_mul_le b x whole
  have hcap : b * d ≤ (b * d / p + 1) * p := (Nat.lt_mul_of_div_lt (Nat.lt_succ_self _) hp).le
  have hworth : paid * whole ≤ x * (b * d / p + 1) := by
    refine Nat.le_of_mul_le_mul_right ?_ hp
    calc paid * whole * p = paid * p * whole := by ring
      _ ≤ slice b x whole * d * whole := Nat.mul_le_mul_right _ (Nat.div_mul_le_self _ _)
      _ = slice b x whole * whole * d := by ring
      _ ≤ b * x * d := Nat.mul_le_mul_right _ hb
      _ = x * (b * d) := by ring
      _ ≤ x * ((b * d / p + 1) * p) := Nat.mul_le_mul_left _ hcap
      _ = x * (b * d / p + 1) * p := by ring
  have htotal : (slice a x whole + paid) * whole < (fee + 1) * whole := by
    have hsum : x * (a + b * d / p) + x = a * x + x * (b * d / p + 1) := by ring
    have hgoal : (slice a x whole + paid) * whole = slice a x whole * whole + paid * whole := Nat.add_mul _ _ _
    have hfee : (fee + 1) * whole = fee * whole + whole := by ring
    omega
  exact Nat.le_of_lt_succ (Nat.lt_of_mul_lt_mul_right htotal)

end FeeMint

section Par

variable {F : Type} [Field F] [LinearOrder F] [IsStrictOrderedRing F]
  {shares supply minted assets added : F}

lemma par_mint_keeps_iff (hs : 0 < supply) (hm : 0 ≤ minted) :
    shares * assets / supply ≤ shares * (assets + added) / (supply + minted) + 1 ↔
      minted * (shares * (assets - supply) - supply) ≤ supply * (supply + shares * (added - minted)) := by
  have hsum : 0 < supply + minted := by positivity
  have hone : shares * (assets + added) / (supply + minted) + 1 =
      (shares * (assets + added) + (supply + minted)) / (supply + minted) := by
    rw [add_div, div_self hsum.ne']
  rw [hone, div_le_div_iff₀ hs hsum, ← sub_nonneg, ← sub_nonneg (b := minted * _)]
  have hdiff : (shares * (assets + added) + (supply + minted)) * supply - shares * assets * (supply + minted) =
      supply * (supply + shares * (added - minted)) - minted * (shares * (assets - supply) - supply) := by
    ring
  rw [hdiff]

lemma own_mint_keeps (hs : 0 < supply) (hm : 0 ≤ minted)
    (hle : shares ≤ supply) (ha : 0 ≤ assets) (hd : 0 ≤ added) (hp : 0 ≤ shares) :
    shares * assets / supply ≤ (shares + minted) * (assets + added) / (supply + minted) := by
  have hsum : 0 < supply + minted := by positivity
  rw [div_le_div_iff₀ hs hsum]
  have hpart : shares * (supply + minted) ≤ (shares + minted) * supply := by
    have := mul_le_mul_of_nonneg_right hle hm
    linarith
  calc shares * assets * (supply + minted) = shares * (supply + minted) * assets := by ring
    _ ≤ (shares + minted) * supply * (assets + added) := by
      apply mul_le_mul hpart (le_add_of_nonneg_right hd) ha
      positivity
    _ = (shares + minted) * (assets + added) * supply := by ring

end Par

section Draining

/-- What parts get that are taken out one after the other, each a slice of what the ones before have left. A part that
comes back leaves the amount as it was. -/
def drain (amount whole : ℕ) : List (ℕ × Bool) → List ℕ
  | [] => []
  | (part, back) :: parts => slice amount part whole ::
      drain (if back then amount else amount - slice amount part whole) (whole - part) parts

def drained (amount whole : ℕ) : List (ℕ × Bool) → ℕ
  | [] => amount
  | (part, back) :: parts => drained (if back then amount else amount - slice amount part whole) (whole - part) parts

variable {amount amount' whole whole' part : ℕ} {parts : List (ℕ × Bool)}

lemma slice_mono_backing (some_left : 0 < whole') (h : amount * whole' ≤ amount' * whole) :
    slice amount part whole ≤ slice amount' part whole' := by
  rw [slice, slice]
  rcases Nat.eq_zero_or_pos whole with rfl | hwhole
  · simp
  · rw [Nat.le_div_iff_mul_le some_left]
    refine Nat.le_of_mul_le_mul_left ?_ hwhole
    calc whole * (amount * part / whole * whole') = amount * part / whole * whole * whole' := by ring
      _ ≤ amount * part * whole' := Nat.mul_le_mul_right _ (Nat.div_mul_le_self _ _)
      _ = amount * whole' * part := by ring
      _ ≤ amount' * whole * part := Nat.mul_le_mul_right _ h
      _ = whole * (amount' * part) := by ring

lemma backing_of_taken (back : Bool) (h : part ≤ whole) :
    amount * (whole - part) ≤ (if back then amount else amount - slice amount part whole) * whole := by
  cases back with
  | true => exact Nat.mul_le_mul_left _ (Nat.sub_le _ _)
  | false => exact backing_of_slice (Nat.sub_add_cancel h) (Nat.sub_add_cancel (slice_le amount h)).ge

/-- Nobody gets less for coming later: each gets what its slice was when the first one came. -/
theorem slice_le_drain (amount : ℕ) (h : (parts.map Prod.fst).sum ≤ whole) :
    List.Forall₂ (fun part got => slice amount part.1 whole ≤ got) parts (drain amount whole parts) := by
  have later : ∀ (rest : List (ℕ × Bool)) (amount' whole' : ℕ), (rest.map Prod.fst).sum ≤ whole' →
      amount * whole' ≤ amount' * whole →
      List.Forall₂ (fun part got => slice amount part.1 whole ≤ got) rest (drain amount' whole' rest) := by
    intro rest
    induction rest with
    | nil => exact fun _ _ _ _ => .nil
    | cons first rest ih =>
      obtain ⟨part, back⟩ := first
      intro amount' whole' hsum hbacked
      rw [List.map_cons, List.sum_cons] at hsum
      rcases Nat.eq_zero_or_pos whole' with rfl | hpos
      · obtain rfl : part = 0 := by omega
        exact .cons (by simp [slice]) (ih _ _ (by omega) (by simp))
      · have htaken : amount' * (whole' - part) ≤ _ * whole' := backing_of_taken back (by omega)
        exact .cons (slice_mono_backing hpos hbacked) (ih _ _ (by omega) (backing_trans hpos.ne' hbacked htaken))
  exact later parts amount whole h le_rfl

theorem drained_add (amount : ℕ) (h : (parts.map Prod.fst).sum ≤ whole) : drained amount whole parts +
    (List.zipWith (fun part got => if part.2 then 0 else got) parts (drain amount whole parts)).sum = amount := by
  induction parts generalizing amount whole with
  | nil => rfl
  | cons first parts ih =>
    obtain ⟨part, back⟩ := first
    rw [List.map_cons, List.sum_cons] at h
    have hrest := ih (if back then amount else amount - slice amount part whole) (by omega : _ ≤ whole - part)
    have hslice : slice amount part whole ≤ amount := slice_le amount (by omega)
    simp only [drained, drain, List.zipWith_cons_cons, List.sum_cons]
    cases back with
    | true => simpa using hrest
    | false =>
      simp only [Bool.false_eq_true, if_false] at hrest ⊢
      omega

/-- Once all shares are out and the last of them does not come back, so is the whole amount. -/
theorem drained_eq_zero (amount : ℕ) (h : (parts.map Prod.fst).sum = whole)
    (hlast : ∃ part, parts.getLast? = some (part, false) ∧ 0 < part) : drained amount whole parts = 0 := by
  induction parts generalizing amount whole with
  | nil => simp at hlast
  | cons first parts ih =>
    obtain ⟨part, back⟩ := first
    rw [List.map_cons, List.sum_cons] at h
    rw [drained]
    cases parts with
    | nil =>
      obtain ⟨_, hsame, hpos⟩ := hlast
      cases hsame
      have hwhole : whole = part := by simpa using h.symm
      rw [drained, hwhole, slice, Nat.mul_div_cancel _ hpos]
      simp
    | cons next rest =>
      rw [List.getLast?_cons_cons] at hlast
      exact ih _ (by omega) hlast

end Draining

end Cl8yDexBots.Foundation.ProRata
