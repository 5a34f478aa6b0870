import Cl8yDexBots.Foundation.ProRata

/-! A span cut into cells of equal width: by the exact quotient, and by a width that is rounded down first. -/

namespace Cl8yDexBots.Foundation.EvenCells

open ProRata

/-- The cell by the rounded width, which is none where there are more cells than units. -/
def steppedCell (count span offset : ℕ) : ℕ := min (offset / (span / count)) count

variable {count span offset offset' : ℕ}

lemma step_mul_slice_le (some_cells : 0 < count) : slice offset count span * (span / count) ≤ offset := by
  refine Nat.le_of_mul_le_mul_right ?_ some_cells
  calc slice offset count span * (span / count) * count
      = slice offset count span * (span / count * count) := Nat.mul_assoc _ _ _
    _ ≤ slice offset count span * span := Nat.mul_le_mul_left _ (Nat.div_mul_le_self _ _)
    _ ≤ offset * count := slice_mul_le _ _ _

lemma slice_lt (some_cells : 0 < count) (inside : offset < span) : slice offset count span < count := by
  rw [slice, Nat.div_lt_iff_lt_mul (by omega), Nat.mul_comm count]
  exact Nat.mul_lt_mul_of_pos_right inside some_cells

lemma slice_pos (fewer : span < count) (off : 0 < offset) (inside : offset < span) : 0 < slice offset count span := by
  refine Nat.div_pos ?_ (by omega)
  calc span ≤ count := fewer.le
    _ ≤ offset * count := Nat.le_mul_of_pos_left _ off

lemma steppedCell_eq_slice_iff (some_cells : 0 < count) (off : 0 < offset) (inside : offset < span) :
    steppedCell count span offset = slice offset count span ↔
      offset < (slice offset count span + 1) * (span / count) := by
  have hlow := @step_mul_slice_le count span offset some_cells
  have hlt := slice_lt some_cells inside
  by_cases hstep : span / count = 0
  · have hfewer : span < count := by
      rcases Nat.div_eq_zero_iff.mp hstep with hzero | hfewer
      · omega
      · exact hfewer
    have hpos := slice_pos hfewer off inside
    rw [steppedCell, hstep, Nat.div_zero, Nat.zero_min, Nat.mul_zero]
    omega
  · have hpos := Nat.pos_of_ne_zero hstep
    have hle : slice offset count span ≤ offset / (span / count) := (Nat.le_div_iff_mul_le hpos).mpr hlow
    rw [steppedCell, ← Nat.div_lt_iff_lt_mul hpos]
    omega

lemma steppedCell_le : steppedCell count span offset ≤ count := min_le_right _ _

lemma steppedCell_mono (h : offset ≤ offset') : steppedCell count span offset ≤ steppedCell count span offset' :=
  min_le_min_right _ (Nat.div_le_div_right h)

/-- Every offset inside the span is in its exact cell just where no width is lost to rounding. -/
theorem steppedCell_exact_iff (some_cells : 0 < count) (some_span : 0 < span) :
    (∀ offset, 0 < offset → offset < span → steppedCell count span offset = slice offset count span) ↔
      count ∣ span ∨ span = 1 := by
  constructor
  · intro hall
    by_contra hneither
    obtain ⟨hdvd, hone⟩ := not_or.mp hneither
    have hrest : 0 < span % count := Nat.pos_of_ne_zero fun hzero => hdvd (Nat.dvd_of_mod_eq_zero hzero)
    have hdiv := Nat.div_add_mod span count
    by_cases hstep : span / count = 0
    · have hlast := hall (span - 1) (by omega) (by omega)
      have hfewer : span < count := by
        rw [hstep, Nat.mul_zero, Nat.zero_add] at hdiv
        exact hdiv ▸ Nat.mod_lt _ some_cells
      have hpos := @slice_pos count span (span - 1) hfewer (by omega) (by omega)
      rw [steppedCell, hstep, Nat.div_zero, Nat.zero_min] at hlast
      omega
    · -- the last boundary of the rounded width is inside the span, and would be the end of it
      have hpos := Nat.pos_of_ne_zero hstep
      have hinside : count * (span / count) < span := by omega
      have hboundary := hall (count * (span / count)) (Nat.mul_pos some_cells hpos) hinside
      have hlt := slice_lt some_cells hinside
      rw [steppedCell, Nat.mul_div_cancel _ hpos, min_self] at hboundary
      omega
  · rintro (⟨width, rfl⟩ | rfl) offset off inside
    · have hwidth : 0 < width := Nat.pos_of_mul_pos_left some_span
      rw [steppedCell_eq_slice_iff some_cells off inside, Nat.mul_div_cancel_left _ some_cells, slice,
        Nat.mul_comm count, Nat.mul_div_mul_right _ _ some_cells]
      exact Nat.lt_mul_of_div_lt (Nat.lt_succ_self _) hwidth
    · omega

end Cl8yDexBots.Foundation.EvenCells
