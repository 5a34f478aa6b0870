import Mathlib.Data.Nat.Log
import Mathlib.Data.Rat.Floor
import Mathlib.Tactic.Ring
import Mathlib.Tactic.NormNum

/-! Rounding a number to its leading decimal digits, and its writing without trailing zeros. -/

namespace Cl8yDexBots.Foundation.Significant

/-- The nearest quotient, the even one of two that are equally near. -/
def halfEven (n d : ℕ) : ℕ :=
  if 2 * (n % d) < d ∨ (2 * (n % d) = d ∧ n / d % 2 = 0) then n / d else n / d + 1

def decimalLength (n : ℕ) : ℕ := Nat.log 10 n + 1

/-- The number with all but its `p` leading digits rounded away. -/
def significant (p n : ℕ) : ℕ :=
  halfEven n (10 ^ (decimalLength n - p)) * 10 ^ (decimalLength n - p)

variable {p n m d c j : ℕ}

lemma le_halfEven : n / d ≤ halfEven n d := by
  rw [halfEven]
  split <;> omega

lemma halfEven_le : halfEven n d ≤ n / d + 1 := by
  rw [halfEven]
  split <;> omega

lemma halfEven_mul (hc : 0 < c) : halfEven (n * c) (d * c) = halfEven n d := by
  have hdiv : n * c / (d * c) = n / d := Nat.mul_div_mul_right n d hc
  have hmod : n * c % (d * c) = n % d * c := Nat.mul_mod_mul_right c n d
  have hlt : 2 * (n % d * c) < d * c ↔ 2 * (n % d) < d := by
    rw [← mul_assoc]
    exact Nat.mul_lt_mul_right hc
  have heq : 2 * (n % d * c) = d * c ↔ 2 * (n % d) = d := by
    rw [← mul_assoc]
    exact Nat.mul_left_inj hc.ne'
  simp only [halfEven, hdiv, hmod, hlt, heq]

lemma halfEven_of_dvd (hd : 0 < d) (h : d ∣ n) : halfEven n d = n / d := by
  rw [halfEven, if_pos]
  left
  rw [Nat.mod_eq_zero_of_dvd h]
  exact hd

lemma lt_pow_decimalLength (n : ℕ) : n < 10 ^ decimalLength n :=
  Nat.lt_pow_succ_log_self (by norm_num) n

lemma pow_le (hn : 0 < n) : 10 ^ (decimalLength n - 1) ≤ n :=
  Nat.pow_log_le_self 10 hn.ne'

lemma decimalLength_le (h : n < 10 ^ p) (hp : 0 < p) : decimalLength n ≤ p := by
  rcases Nat.eq_zero_or_pos n with rfl | hn
  · rw [decimalLength, Nat.log_zero_right]
    omega
  · have := Nat.log_lt_of_lt_pow hn.ne' h
    simp only [decimalLength]
    omega

lemma decimalLength_mul_pow (hn : 0 < n) (j : ℕ) : decimalLength (n * 10 ^ j) = decimalLength n + j := by
  induction j with
  | zero => simp
  | succ j ih =>
    have hpos : n * 10 ^ j ≠ 0 := by positivity
    rw [pow_succ, ← mul_assoc, decimalLength, Nat.log_mul_base (by norm_num) hpos, ← decimalLength, ih, add_assoc]

lemma significant_of_dvd (h : 10 ^ (decimalLength n - p) ∣ n) : significant p n = n := by
  rw [significant, halfEven_of_dvd (by positivity) h, Nat.div_mul_cancel h]

lemma significant_zero (p : ℕ) : significant p 0 = 0 := significant_of_dvd (dvd_zero _)

lemma significant_of_short (hm : m < 10 ^ p) (hp : 0 < p) : significant p (m * 10 ^ j) = m * 10 ^ j := by
  rcases Nat.eq_zero_or_pos m with rfl | hpos
  · rw [zero_mul]
    exact significant_zero p
  · apply significant_of_dvd
    have hlen := decimalLength_le hm hp
    rw [decimalLength_mul_pow hpos]
    exact Dvd.dvd.mul_left (pow_dvd_pow 10 (by omega)) m

lemma significant_mul_pow (hn : 0 < n) (j : ℕ) : significant p (n * 10 ^ j) = significant p n * 10 ^ j := by
  rcases le_or_gt (decimalLength n) p with hle | hlt
  · have hkept : significant p n = n := by
      apply significant_of_dvd
      rw [Nat.sub_eq_zero_of_le hle, pow_zero]
      exact one_dvd n
    rw [hkept]
    apply significant_of_dvd
    rw [decimalLength_mul_pow hn]
    exact Dvd.dvd.mul_left (pow_dvd_pow 10 (by omega)) n
  · have hexp : decimalLength n + j - p = decimalLength n - p + j := by omega
    rw [significant, decimalLength_mul_pow hn, hexp, pow_add, halfEven_mul (by positivity), significant, mul_assoc]

lemma significant_pos (hp : 0 < p) (hn : 0 < n) : 0 < significant p n := by
  have hquot : 0 < n / 10 ^ (decimalLength n - p) := by
    apply Nat.div_pos _ (by positivity)
    exact (Nat.pow_le_pow_right (by norm_num) (by omega)).trans (pow_le hn)
  exact Nat.mul_pos (hquot.trans_le le_halfEven) (by positivity)

lemma significant_le (p : ℕ) (n : ℕ) : significant p n ≤ 10 ^ decimalLength n := by
  rcases le_or_gt (decimalLength n) p with hle | hlt
  · have hkept : significant p n = n := by
      apply significant_of_dvd
      rw [Nat.sub_eq_zero_of_le hle, pow_zero]
      exact one_dvd n
    rw [hkept]
    exact (lt_pow_decimalLength n).le
  · have hsplit : decimalLength n = p + (decimalLength n - p) := by omega
    have hquot : n / 10 ^ (decimalLength n - p) < 10 ^ p := by
      apply Nat.div_lt_of_lt_mul
      rw [mul_comm, ← pow_add, ← hsplit]
      exact lt_pow_decimalLength n
    calc significant p n ≤ 10 ^ p * 10 ^ (decimalLength n - p) :=
          Nat.mul_le_mul_right _ (halfEven_le.trans hquot)
      _ = 10 ^ decimalLength n := by rw [← pow_add, ← hsplit]

section Value

def scaled (n : ℕ) (e : ℤ) : ℚ := n * (10 : ℚ) ^ e

variable {e e' : ℤ}

lemma scaled_mul_pow (n j : ℕ) (e : ℤ) : scaled (n * 10 ^ j) (e - j) = scaled n e := by
  rw [scaled, scaled, Nat.cast_mul, Nat.cast_pow, mul_assoc, Nat.cast_ofNat, ← zpow_natCast,
    ← zpow_add₀ (by norm_num : (10 : ℚ) ≠ 0)]
  congr 2
  ring

lemma scaled_left_inj : scaled n e = scaled m e ↔ n = m := by
  have hpow : (10 : ℚ) ^ e ≠ 0 := zpow_ne_zero e (by norm_num)
  rw [scaled, scaled, mul_left_inj' hpow, Nat.cast_inj]

lemma shift_of_scaled_eq (h : scaled n e = scaled m e') (he : e ≤ e') : n = m * 10 ^ (e' - e).toNat := by
  have hshift := scaled_mul_pow m (e' - e).toNat e'
  have hexp : e' - ((e' - e).toNat : ℤ) = e := by omega
  rw [hexp, ← h, scaled_left_inj] at hshift
  exact hshift.symm

lemma scaled_pos (hn : 0 < n) : 0 < scaled n e :=
  mul_pos (Nat.cast_pos.mpr hn) (zpow_pos (by norm_num) e)

lemma scaled_nonneg : 0 ≤ scaled n e :=
  mul_nonneg (Nat.cast_nonneg n) (zpow_nonneg (by norm_num) e)

lemma scaled_eq_zero : scaled n e = 0 ↔ n = 0 := by
  constructor
  · intro h
    by_contra hn
    exact (scaled_pos (Nat.pos_of_ne_zero hn)).ne' h
  · rintro rfl
    rw [scaled, Nat.cast_zero, zero_mul]

lemma significant_scaled (hn : 0 < n) (hm : 0 < m) (h : scaled n e = scaled m e') :
    scaled (significant p n) e = scaled (significant p m) e' ∧
      decimalLength n + e = decimalLength m + e' := by
  wlog hle : e ≤ e' generalizing n m e e'
  · obtain ⟨hval, hlen⟩ := this hm hn h.symm (by omega)
    exact ⟨hval.symm, hlen.symm⟩
  · have hshift := shift_of_scaled_eq h hle
    have hexp : e = e' - ((e' - e).toNat : ℤ) := by omega
    rw [hshift, significant_mul_pow hm, decimalLength_mul_pow hm]
    refine ⟨?_, by omega⟩
    calc scaled (significant p m * 10 ^ (e' - e).toNat) e
        = scaled (significant p m * 10 ^ (e' - e).toNat) (e' - ((e' - e).toNat : ℤ)) := by rw [← hexp]
      _ = scaled (significant p m) e' := scaled_mul_pow _ _ _

lemma le_of_stripped (h : scaled n e = scaled m e') (hn : n % 10 ≠ 0) : e' ≤ e := by
  by_contra hlt
  have hshift := shift_of_scaled_eq h (by omega)
  obtain ⟨k, hk⟩ : ∃ k, (e' - e).toNat = k + 1 := ⟨(e' - e).toNat - 1, by omega⟩
  rw [hk, pow_succ, ← mul_assoc] at hshift
  omega

lemma stripped_unique (h : scaled n e = scaled m e') (hn : n % 10 ≠ 0) (hm : m % 10 ≠ 0) :
    n = m ∧ e = e' := by
  have he : e = e' := le_antisymm (le_of_stripped h.symm hm) (le_of_stripped h hn)
  subst he
  exact ⟨scaled_left_inj.mp h, rfl⟩

end Value

end Cl8yDexBots.Foundation.Significant
