import Cl8yDexBots.SwapVault.Pricing

/-! Deviations in whole basis points, clamped at 100%. -/

namespace Cl8yDexBots.SwapVault.Deviation

open SwapVault.Pricing

def Deviates (k actual target : ℕ) : Prop :=
  actual ≠ target ∧ k * target ≤ 10000 * distance actual target

instance (k actual target : ℕ) : Decidable (Deviates k actual target) := by
  rw [Deviates]
  infer_instance

def allocationBps (actual target : ℕ) : ℕ :=
  if target = 0 then (if actual = 0 then 0 else 10000) else deviationBps actual target

lemma le_allocationBps_iff {k actual target : ℕ} (h0 : 1 ≤ k) (h1 : k ≤ 10000) :
    k ≤ allocationBps actual target ↔ Deviates k actual target := by
  rw [allocationBps, Deviates]
  split
  · rename_i ht
    subst ht
    split <;> simp_all
    omega
  · rename_i ht
    have hpos := Nat.pos_of_ne_zero ht
    rw [deviationBps, le_min_iff, Nat.le_div_iff_mul_le hpos, Nat.mul_comm (distance _ _)]
    constructor
    · rintro ⟨h, -⟩
      refine ⟨fun he => ?_, h⟩
      have hz : k * target = 0 := by simpa [he, distance] using h
      rcases Nat.mul_eq_zero.mp hz with hk | ht'
      · omega
      · exact ht ht'
    · exact fun h => ⟨h.2, h1⟩

lemma allocationBps_le (actual target : ℕ) : allocationBps actual target ≤ 10000 := by
  rw [allocationBps, deviationBps]
  split
  · split <;> simp
  · exact min_le_right _ _

lemma allocationBps_le_iff {a t a' t' : ℕ} :
    allocationBps a' t' ≤ allocationBps a t ↔
      ∀ k, 1 ≤ k → k ≤ 10000 → Deviates k a' t' → Deviates k a t := by
  constructor
  · intro h k h0 h1 hd
    exact (le_allocationBps_iff h0 h1).mp (((le_allocationBps_iff h0 h1).mpr hd).trans h)
  · intro h
    rcases Nat.eq_zero_or_pos (allocationBps a' t') with hz | hpos
    · omega
    · have hle := allocationBps_le a' t'
      exact (le_allocationBps_iff hpos hle).mpr (h _ hpos hle ((le_allocationBps_iff hpos hle).mp le_rfl))

lemma allocationBps_lt_iff {a t a' t' : ℕ} :
    allocationBps a' t' < allocationBps a t ↔
      ∃ k, 1 ≤ k ∧ k ≤ 10000 ∧ Deviates k a t ∧ ¬ Deviates k a' t' := by
  rw [← not_le, allocationBps_le_iff]
  push Not
  rfl

lemma deviates_above_iff {k actual target : ℕ} (h : target ≤ actual) :
    Deviates k actual target ↔ target < actual ∧ (k + 10000) * target ≤ 10000 * actual := by
  rw [Deviates, distance]
  constructor
  · rintro ⟨hne, hk⟩
    rw [Nat.add_mul]
    omega
  · rintro ⟨hlt, hk⟩
    rw [Nat.add_mul] at hk
    omega

lemma deviates_below_iff {k actual target : ℕ} (hk : k ≤ 10000) (h : actual ≤ target) :
    Deviates k actual target ↔ actual < target ∧ 10000 * actual ≤ (10000 - k) * target := by
  have hsplit : (10000 - k) * target + k * target = 10000 * target := by
    rw [← Nat.add_mul, Nat.sub_add_cancel hk]
  rw [Deviates, distance]
  omega

lemma deviates_zero_target {k d h1 : ℕ} (hd : 0 < d) (h : h1 ≠ 0) : Deviates k (h1 * d) 0 :=
  ⟨Nat.mul_ne_zero h hd.ne', Nat.zero_le _⟩

end Cl8yDexBots.SwapVault.Deviation
