import Mathlib

/-! Lists cut into consecutive chunks of bounded length. -/

namespace Cl8yDexBots.Foundation.Chunks

variable {α : Type}

def chunksOf (limit : ℕ) : ℕ → List α → List (List α)
  | 0, _ => []
  | fuel + 1, as => if as.isEmpty then [] else as.take limit :: chunksOf limit fuel (as.drop limit)

def chunks (limit : ℕ) (as : List α) : List (List α) := chunksOf limit as.length as

lemma chunksOf_spec {limit : ℕ} (hl : 0 < limit) (fuel : ℕ) (as : List α) (h : as.length ≤ fuel) :
    (chunksOf limit fuel as).flatten = as ∧
      ∀ chunk ∈ chunksOf limit fuel as, chunk ≠ [] ∧ chunk.length ≤ limit := by
  induction fuel generalizing as with
  | zero =>
    obtain rfl := List.length_eq_zero_iff.mp (Nat.le_zero.mp h)
    simp [chunksOf]
  | succ fuel ih =>
    cases as with
    | nil => simp [chunksOf]
    | cons a as =>
      have hdrop : ((a :: as).drop limit).length ≤ fuel := by
        simp only [List.length_drop, List.length_cons] at h ⊢
        omega
      obtain ⟨hflat, hchunks⟩ := ih _ hdrop
      have hfirst : (a :: as).take limit ≠ [] := by
        obtain ⟨n, rfl⟩ := Nat.exists_eq_succ_of_ne_zero hl.ne'
        simp
      simp only [chunksOf, List.isEmpty_cons, Bool.false_eq_true, if_false]
      constructor
      · rw [List.flatten_cons, hflat, List.take_append_drop]
      · intro chunk hc
        rcases List.mem_cons.mp hc with rfl | hc
        · exact ⟨hfirst, List.length_take_le _ _⟩
        · exact hchunks chunk hc

lemma chunks_flatten {limit : ℕ} (hl : 0 < limit) (as : List α) : (chunks limit as).flatten = as :=
  (chunksOf_spec hl _ as le_rfl).1

lemma chunk_bounds {limit : ℕ} (hl : 0 < limit) {as chunk : List α} (h : chunk ∈ chunks limit as) :
    chunk ≠ [] ∧ chunk.length ≤ limit :=
  (chunksOf_spec hl _ as le_rfl).2 chunk h

lemma chunks_length_le {limit : ℕ} (hl : 0 < limit) (as : List α) : (chunks limit as).length ≤ as.length := by
  have hflat := congrArg List.length (chunks_flatten hl as)
  rw [List.length_flatten] at hflat
  rw [← hflat, ← List.length_map (f := List.length)]
  apply List.length_le_sum_of_one_le
  intro n hn
  obtain ⟨chunk, hc, rfl⟩ := List.mem_map.mp hn
  exact List.length_pos_of_ne_nil (chunk_bounds hl hc).1

end Cl8yDexBots.Foundation.Chunks
