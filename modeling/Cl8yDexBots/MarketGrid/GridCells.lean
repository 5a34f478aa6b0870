import Cl8yDexBots.Foundation.EvenCells
import Cl8yDexBots.MarketGrid.Vault

/-! The cell of a price, against the formula of the documentation. -/

namespace Cl8yDexBots.MarketGrid.GridCells

open Foundation.Checked Foundation.Words Foundation.ProRata Foundation.EvenCells CosmWasm.Std SwapVault.Pricing
open State Planning Vault

def toRat (price : Decimal) : ℚ := price.atomics.val / decimalFractional

/-- `floor((price - lower) * gridCount / (upper - lower))`, computed exactly and clamped to the grid. -/
def documentedCell (price lowerPrice upperPrice : Decimal) (gridCount : ℕ) : ℤ :=
  max 0 (min ⌊(toRat price - toRat lowerPrice) * gridCount / (toRat upperPrice - toRat lowerPrice)⌋ gridCount)

def offset (price lowerPrice : Decimal) : ℕ := price.atomics.val - lowerPrice.atomics.val

variable {price price' lower upper : Decimal} {n : ℕ}

lemma offset_le (h : price ≤ price') : offset price lower ≤ offset price' lower := Nat.sub_le_sub_right h _

lemma offset_pos (h : lower < price) : 0 < offset price lower := Nat.sub_pos_of_lt h

lemma offset_lt (above : lower ≤ price) (below : price < upper) : offset price lower < offset upper lower :=
  Nat.sub_lt_sub_right above below

lemma exists_price {off : ℕ} (some_off : 0 < off) (inside : off < offset upper lower) :
    ∃ price : Decimal, lower < price ∧ price < upper ∧ offset price lower = off := by
  have hupper : lower.atomics.val + off < upper.atomics.val := by
    rw [offset] at inside
    omega
  refine ⟨⟨⟨lower.atomics.val + off, hupper.trans upper.atomics.lt⟩⟩, ?_, hupper, Nat.add_sub_cancel_left _ _⟩
  exact Nat.lt_add_of_pos_right some_off

section Documented

lemma toRat_sub (h : lower ≤ price) : toRat price - toRat lower = (offset price lower : ℚ) / decimalFractional := by
  rw [toRat, toRat, offset, Nat.cast_sub h]
  ring

lemma documented_floor (h : lower ≤ price) (prices : lower < upper) :
    ⌊(toRat price - toRat lower) * n / (toRat upper - toRat lower)⌋ =
      (slice (offset price lower) n (offset upper lower) : ℤ) := by
  have hunit : (decimalFractional : ℚ) ≠ 0 := by norm_num [decimalFractional]
  have hratio : (toRat price - toRat lower) * n / (toRat upper - toRat lower) =
      ((offset price lower * n : ℕ) : ℚ) / (offset upper lower : ℕ) := by
    rw [toRat_sub h, toRat_sub prices.le, div_mul_eq_mul_div, div_div_div_cancel_right₀ hunit, Nat.cast_mul]
  rw [hratio, Rat.floor_natCast_div_natCast, slice, Int.natCast_ediv]

lemma documentedCell_below (h : price ≤ lower) (prices : lower < upper) : documentedCell price lower upper n = 0 := by
  have hbelow : toRat price - toRat lower ≤ 0 := by
    rw [← neg_sub, toRat_sub h, neg_nonpos]
    positivity
  have hspan : 0 ≤ toRat upper - toRat lower := by
    rw [toRat_sub prices.le]
    positivity
  have hfloor : ⌊(toRat price - toRat lower) * n / (toRat upper - toRat lower)⌋ ≤ 0 :=
    Int.floor_nonpos (div_nonpos_of_nonpos_of_nonneg (mul_nonpos_of_nonpos_of_nonneg hbelow n.cast_nonneg) hspan)
  rw [documentedCell]
  omega

lemma documentedCell_above (h : upper ≤ price) (prices : lower < upper) : documentedCell price lower upper n = n := by
  have hspan := offset_pos prices
  have hle : n ≤ slice (offset price lower) n (offset upper lower) := by
    rw [slice, Nat.le_div_iff_mul_le hspan, Nat.mul_comm]
    exact Nat.mul_le_mul_right _ (offset_le h)
  rw [documentedCell, documented_floor (prices.le.trans h) prices]
  omega

lemma documentedCell_inside (some_cells : 0 < n) (above : lower < price) (below : price < upper) :
    documentedCell price lower upper n = slice (offset price lower) n (offset upper lower) := by
  have hlt : slice (offset price lower) n (offset upper lower) < n :=
    slice_lt some_cells (offset_lt above.le below)
  rw [documentedCell, documented_floor above.le (above.trans below)]
  omega

end Documented

section Computed

lemma step_in_range (some_cells : 0 < n) (few : n ≤ 500) {span off : ℕ} (inside : off < span)
    (some_width : span / n ≠ 0) : off * decimalFractional / (span / n) < 2 ^ 128 := by
  have hspan : span < (span / n + 1) * n := Nat.lt_mul_of_div_lt (Nat.lt_succ_self _) some_cells
  have hwidth := Nat.pos_of_ne_zero some_width
  have hoff : off ≤ 1000 * (span / n) := by nlinarith
  refine (Nat.div_le_of_le_mul ?_).trans_lt (show 1000 * decimalFractional < 2 ^ 128 by decide)
  calc off * decimalFractional ≤ 1000 * (span / n) * decimalFractional := Nat.mul_le_mul_right _ hoff
    _ = span / n * (1000 * decimalFractional) := by ring

lemma sub_value (h : lower ≤ price) :
    ∃ distance : Decimal, (price.sub lower : Result Decimal) = .ok distance ∧
      distance.atomics.val = offset price lower :=
  ⟨⟨⟨offset price lower, (Nat.sub_le _ _).trans_lt price.atomics.lt⟩⟩, Decimal.sub_eq_ok.mpr ⟨h, rfl⟩, rfl⟩

lemma div_value {a b : Decimal} {quotient : ℕ} (some_divisor : b.atomics.val ≠ 0)
    (value : a.atomics.val * decimalFractional / b.atomics.val = quotient) (fits : quotient < 2 ^ 128) :
    ∃ c : Decimal, (a.checkedDiv b : Except StdError Decimal) = .ok c ∧ c.atomics.val = quotient :=
  ⟨⟨⟨quotient, fits⟩⟩, Decimal.checkedDiv_eq_ok.mpr ⟨some_divisor, value.symm⟩, rfl⟩

lemma gridCell_inside (some_cells : 0 < n) (few : n ≤ 500) (above : lower < price) (below : price < upper) :
    (gridCell price lower upper n : Result ℕ) = .ok (steppedCell n (offset upper lower) (offset price lower)) := by
  have hunit := decimalFractional_pos
  obtain ⟨span, hspan, hspanValue⟩ := @sub_value upper lower (above.trans below).le
  obtain ⟨off, hoff, hoffValue⟩ := @sub_value price lower above.le
  obtain ⟨count, hcount, hcountValue⟩ : ∃ count : Decimal, (Decimal.fromRatio n 1 : Result Decimal) = .ok count ∧
      count.atomics.val = n * decimalFractional := by
    have hfits : n * decimalFractional < 2 ^ 128 :=
      (Nat.mul_le_mul_right _ few).trans_lt (show 500 * decimalFractional < 2 ^ 128 by decide)
    exact ⟨⟨⟨_, hfits⟩⟩, Decimal.fromRatio_eq_ok.mpr ⟨one_ne_zero, (Nat.div_one _).symm⟩, rfl⟩
  have hwidth : span.atomics.val * decimalFractional / count.atomics.val = offset upper lower / n := by
    rw [hspanValue, hcountValue, Nat.mul_div_mul_right _ _ hunit]
  obtain ⟨step, hstep, hstepValue⟩ := div_value (hcountValue ▸ (Nat.mul_pos some_cells hunit).ne') hwidth
    ((Nat.div_le_self _ _).trans_lt (hspanValue ▸ span.atomics.lt))
  rw [gridCell, if_neg (not_le.mpr above), if_neg (not_le.mpr below), hspan, ok_bind, hoff, ok_bind, hcount, ok_bind,
    hstep]
  dsimp only [Except.toOption, Option.getD_some]
  by_cases hnone : offset upper lower / n = 0
  · have hzero : step.isZero = true := isZero_iff.mpr (hstepValue.trans hnone)
    rw [if_pos hzero, steppedCell, hnone, Nat.div_zero, Nat.zero_min]
  · have hsome : ¬ step.isZero = true := fun hzero => hnone (hstepValue ▸ isZero_iff.mp hzero)
    have hinside := offset_lt above.le below
    obtain ⟨cell, hcell, hcellValue⟩ := div_value (hstepValue ▸ hnone)
      (congrArg₂ (fun a b => a * decimalFractional / b) hoffValue hstepValue)
      (step_in_range some_cells few hinside hnone)
    rw [if_neg hsome, hcell]
    dsimp only [Option.getD_some]
    rw [Decimal.toUintFloor, hcellValue, Nat.div_div_eq_div_mul, Nat.mul_div_mul_right _ _ hunit, steppedCell]

lemma gridCell_eq (some_cells : 0 < n) (few : n ≤ 500) :
    (gridCell price lower upper n : Result ℕ) = .ok (if price ≤ lower then 0 else if upper ≤ price then n
      else steppedCell n (offset upper lower) (offset price lower)) := by
  split
  · rename_i h
    rw [gridCell, if_pos h]
  · rename_i h
    split
    · rename_i h'
      rw [gridCell, if_neg h, if_pos h']
    · rename_i h'
      exact gridCell_inside some_cells few (not_le.mp h) (not_le.mp h')

lemma cell_mono (h : price ≤ price') :
    (if price ≤ lower then 0 else if upper ≤ price then n
      else steppedCell n (offset upper lower) (offset price lower)) ≤
    if price' ≤ lower then 0 else if upper ≤ price' then n
      else steppedCell n (offset upper lower) (offset price' lower) := by
  by_cases hlow : price ≤ lower
  · rw [if_pos hlow]
    exact Nat.zero_le _
  · have hlow' : ¬ price' ≤ lower := fun h' => hlow (h.trans h')
    rw [if_neg hlow, if_neg hlow']
    by_cases hup' : upper ≤ price'
    · rw [if_pos hup']
      split
      · exact le_rfl
      · exact steppedCell_le
    · have hup : ¬ upper ≤ price := fun h' => hup' (h'.trans h)
      rw [if_neg hup, if_neg hup']
      exact steppedCell_mono (offset_le h)

end Computed

def BelowNextBoundary (price lower upper : Decimal) (n : ℕ) : Prop :=
  let width := offset upper lower / n
  offset price lower < (slice (offset price lower) n (offset upper lower) + 1) * width

/-- Every price has a cell, larger for a larger price. Outside the range, and up to the boundary that the rounded width
puts behind it, it is the one of the formula; beyond that boundary it is not. So the formula holds throughout a grid
just where its width is a whole number of units, or the range a single one. -/
theorem grid_cell_exact_iff {lower upper : Decimal} {n : ℕ} (prices : lower < upper) (count : 1 ≤ n ∧ n ≤ 500) :
    (∀ price, ∃ cell : ℕ, (gridCell price lower upper n : Result ℕ) = .ok cell ∧
      ((cell : ℤ) = documentedCell price lower upper n ↔
        (lower < price → price < upper → BelowNextBoundary price lower upper n))) ∧
    (∀ price price' cell cell', price ≤ price' → (gridCell price lower upper n : Result ℕ) = .ok cell →
      (gridCell price' lower upper n : Result ℕ) = .ok cell' → cell ≤ cell') ∧
    ((∀ price cell, (gridCell price lower upper n : Result ℕ) = .ok cell →
        (cell : ℤ) = documentedCell price lower upper n) ↔
      n ∣ offset upper lower ∨ offset upper lower = 1) := by
  obtain ⟨some_cells, few⟩ := count
  refine ⟨fun price => ⟨_, gridCell_eq some_cells few, ?_⟩, fun price price' cell cell' h hcell hcell' => ?_, ?_⟩
  · by_cases hlow : price ≤ lower
    · rw [if_pos hlow, documentedCell_below hlow prices]
      exact ⟨fun _ above => absurd hlow (not_le.mpr above), fun _ => rfl⟩
    · by_cases hup : upper ≤ price
      · rw [if_neg hlow, if_pos hup, documentedCell_above hup prices]
        exact ⟨fun _ _ below => absurd hup (not_le.mpr below), fun _ => rfl⟩
      · obtain ⟨above, below⟩ := And.intro (not_le.mp hlow) (not_le.mp hup)
        rw [if_neg hlow, if_neg hup, documentedCell_inside some_cells above below, Nat.cast_inj,
          steppedCell_eq_slice_iff some_cells (offset_pos above) (offset_lt above.le below)]
        exact ⟨fun h _ _ => h, fun h => h above below⟩
  · obtain rfl := Except.ok.inj ((gridCell_eq some_cells few).symm.trans hcell)
    obtain rfl := Except.ok.inj ((gridCell_eq some_cells few).symm.trans hcell')
    exact cell_mono h
  · rw [← steppedCell_exact_iff some_cells (offset_pos prices)]
    constructor
    · intro hall off some_off inside
      obtain ⟨price, above, below, rfl⟩ := exists_price some_off inside
      have hcell := hall price _ (gridCell_inside some_cells few above below)
      rwa [documentedCell_inside some_cells above below, Nat.cast_inj] at hcell
    · intro hall price cell hcell
      obtain rfl := Except.ok.inj ((gridCell_eq some_cells few).symm.trans hcell)
      by_cases hlow : price ≤ lower
      · rw [if_pos hlow, documentedCell_below hlow prices]
        rfl
      · by_cases hup : upper ≤ price
        · rw [if_neg hlow, if_pos hup, documentedCell_above hup prices]
        · obtain ⟨above, below⟩ := And.intro (not_le.mp hlow) (not_le.mp hup)
          rw [if_neg hlow, if_neg hup, documentedCell_inside some_cells above below,
            hall _ (offset_pos above) (offset_lt above.le below)]

def justBelow : Decimal := ⟨⟨1199999999999999999, by decide⟩⟩

/-- From 0.8 to 1.2 in three cells, the last price below 1.2 is in the cell of 1.2. -/
theorem grid_cell_exceeds_formula :
    (gridCell justBelow (.percent 80 (by decide)) (.percent 120 (by decide)) 3 : Result ℕ) = .ok 3 ∧
    documentedCell justBelow (.percent 80 (by decide)) (.percent 120 (by decide)) 3 = 2 := by
  refine ⟨by decide, ?_⟩
  rw [documentedCell_inside (by decide) (by decide) (by decide)]
  decide

theorem grid_cell_in_quarters :
    documentedCell justBelow (.percent 80 (by decide)) (.percent 120 (by decide)) 4 = 3 := by
  have hcell : (gridCell justBelow (.percent 80 (by decide)) (.percent 120 (by decide)) 4 : Result ℕ) = .ok 3 := by
    decide
  exact ((grid_cell_exact_iff (by decide) (by decide)).2.2.mpr (.inl (by decide)) justBelow 3 hcell).symm

end Cl8yDexBots.MarketGrid.GridCells
