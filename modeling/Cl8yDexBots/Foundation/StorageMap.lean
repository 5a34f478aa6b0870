import Mathlib

/-! Finite maps of contract storage: lookups after an update, and totals over all entries. -/

set_option linter.unusedSectionVars false

namespace Cl8yDexBots.Foundation.StorageMap

open Std

variable {K V : Type} [Ord K] [TransOrd K] [LawfulEqOrd K] [DecidableEq K]

@[simp] lemma lookup_insert (m : ExtTreeMap K V) (k : K) (v : V) (a : K) :
    (m.insert k v)[a]? = if k = a then some v else m[a]? := by
  simp [ExtTreeMap.getElem?_insert]

@[simp] lemma lookup_erase (m : ExtTreeMap K V) (k a : K) :
    (m.erase k)[a]? = if k = a then none else m[a]? := by
  simp [ExtTreeMap.getElem?_erase]

lemma size_insert_new {m : ExtTreeMap K V} {k : K} {v : V} (h : m[k]? = none) :
    (m.insert k v).size = m.size + 1 := by
  have hk : k ∉ m := by simpa using h
  simp [ExtTreeMap.size_insert, hk]

lemma size_insert_old {m : ExtTreeMap K V} {k : K} {v w : V} (h : m[k]? = some w) :
    (m.insert k v).size = m.size := by
  have hk : k ∈ m := by simp [ExtTreeMap.mem_iff_isSome_getElem?, h]
  simp [ExtTreeMap.size_insert, hk]

lemma size_erase_old {m : ExtTreeMap K V} {k : K} {w : V} (h : m[k]? = some w) :
    (m.erase k).size + 1 = m.size := by
  have hk : k ∈ m := by simp [ExtTreeMap.mem_iff_isSome_getElem?, h]
  have hpos : m.size ≠ 0 := by
    intro h0
    rw [ExtTreeMap.eq_empty_iff_size_eq_zero.mpr h0] at h
    simp at h
  have hsize : (m.erase k).size = m.size - 1 := by simp [ExtTreeMap.size_erase, hk]
  omega

lemma eq_empty_of_lookup {m : ExtTreeMap K V} (h : ∀ k : K, m[k]? = none) : m = ∅ := by
  apply ExtTreeMap.ext_getElem?
  intro k
  simp [h k]

lemma mem_toList_iff {m : ExtTreeMap K V} {k : K} {v : V} : (k, v) ∈ m.toList ↔ m[k]? = some v :=
  ExtTreeMap.mem_toList_iff_getElem?_eq_some

lemma nodup_keys (m : ExtTreeMap K V) : (m.toList.map Prod.fst).Nodup := by
  have h := ExtTreeMap.distinct_keys_toList (t := m)
  rw [List.Nodup, List.pairwise_map]
  exact h.imp fun hab => by simpa using hab

def keyedTotal (m : ExtTreeMap K V) (g : K → V → ℕ) : ℕ := (m.toList.map fun e => g e.1 e.2).sum

def keyedWeight (m : ExtTreeMap K V) (g : K → V → ℕ) (k : K) : ℕ := (m[k]?.map (g k)).getD 0

lemma keyedTotal_eq_sum (m : ExtTreeMap K V) (g : K → V → ℕ) (s : Finset K)
    (h : ∀ k, m[k]? ≠ none → k ∈ s) : keyedTotal m g = ∑ k ∈ s, keyedWeight m g k := by
  have hkeys : m.toList.map (fun e => g e.1 e.2) = (m.toList.map Prod.fst).map (keyedWeight m g) := by
    rw [List.map_map]
    apply List.map_congr_left
    rintro ⟨k, v⟩ hk
    simp [keyedWeight, mem_toList_iff.mp hk]
  rw [keyedTotal, hkeys, ← List.sum_toFinset _ (nodup_keys m)]
  apply Finset.sum_subset
  · intro k hk
    simp only [List.mem_toFinset, List.mem_map, Prod.exists, exists_and_right, exists_eq_right] at hk
    obtain ⟨v, hv⟩ := hk
    apply h
    simp [mem_toList_iff.mp hv]
  · intro k _ hk
    have hnone : m[k]? = none := by
      by_contra hsome
      obtain ⟨v, hv⟩ := Option.ne_none_iff_exists'.mp hsome
      exact hk (List.mem_toFinset.mpr (List.mem_map.mpr ⟨(k, v), mem_toList_iff.mpr hv, rfl⟩))
    simp [keyedWeight, hnone]

lemma keyedTotal_congr {m m' : ExtTreeMap K V} {g g' : K → V → ℕ}
    (h : ∀ k, keyedWeight m' g' k = keyedWeight m g k) : keyedTotal m' g' = keyedTotal m g := by
  let s := ((m.toList ++ m'.toList).map Prod.fst).toFinset
  have hs : ∀ n : ExtTreeMap K V, n = m ∨ n = m' → ∀ k, n[k]? ≠ none → k ∈ s := by
    intro n hn k hk
    obtain ⟨v, hv⟩ := Option.ne_none_iff_exists'.mp hk
    have hmem : (k, v) ∈ m.toList ++ m'.toList := by
      rw [List.mem_append]
      rcases hn with rfl | rfl
      · exact .inl (mem_toList_iff.mpr hv)
      · exact .inr (mem_toList_iff.mpr hv)
    exact List.mem_toFinset.mpr (List.mem_map_of_mem hmem)
  rw [keyedTotal_eq_sum m g s (hs m (.inl rfl)), keyedTotal_eq_sum m' g' s (hs m' (.inr rfl))]
  exact Finset.sum_congr rfl fun k _ => h k

def weight (m : ExtTreeMap K V) (f : V → ℕ) (k : K) : ℕ := (m[k]?.map f).getD 0

def total (m : ExtTreeMap K V) (f : V → ℕ) : ℕ := (m.toList.map fun e => f e.2).sum

lemma total_eq_sum (m : ExtTreeMap K V) (f : V → ℕ) (s : Finset K)
    (h : ∀ k, m[k]? ≠ none → k ∈ s) : total m f = ∑ k ∈ s, weight m f k :=
  keyedTotal_eq_sum m (fun _ => f) s h

@[simp] lemma total_empty (f : V → ℕ) : total (∅ : ExtTreeMap K V) f = 0 := by
  rw [total_eq_sum ∅ f ∅ (by simp)]
  rfl

lemma total_change (m m' : ExtTreeMap K V) (k : K) (f : V → ℕ) (h : ∀ a, a ≠ k → m'[a]? = m[a]?) :
    total m' f + weight m f k = total m f + weight m' f k := by
  let s := insert k ((m.toList ++ m'.toList).map Prod.fst).toFinset
  have hs : ∀ n : ExtTreeMap K V, n = m ∨ n = m' → ∀ a, n[a]? ≠ none → a ∈ s := by
    intro n hn a ha
    obtain ⟨v, hv⟩ := Option.ne_none_iff_exists'.mp ha
    have hmem : (a, v) ∈ m.toList ++ m'.toList := by
      rw [List.mem_append]
      rcases hn with rfl | rfl
      · exact .inl (mem_toList_iff.mpr hv)
      · exact .inr (mem_toList_iff.mpr hv)
    exact Finset.mem_insert_of_mem (List.mem_toFinset.mpr (List.mem_map_of_mem hmem))
  have hrest : ∑ a ∈ s.erase k, weight m' f a = ∑ a ∈ s.erase k, weight m f a := by
    apply Finset.sum_congr rfl
    intro a ha
    simp [weight, h a (Finset.ne_of_mem_erase ha)]
  have hk : k ∈ s := Finset.mem_insert_self _ _
  rw [total_eq_sum m f s (hs m (.inl rfl)), total_eq_sum m' f s (hs m' (.inr rfl)),
    ← Finset.add_sum_erase s (weight m f) hk, ← Finset.add_sum_erase s (weight m' f) hk, hrest]
  omega

lemma total_insert (m : ExtTreeMap K V) (f : V → ℕ) (k : K) (v : V) :
    total (m.insert k v) f + weight m f k = total m f + f v := by
  have h := total_change m (m.insert k v) k f
    fun a ha => by simp [Ne.symm ha]
  simpa [weight] using h

lemma total_erase (m : ExtTreeMap K V) (f : V → ℕ) (k : K) :
    total (m.erase k) f + weight m f k = total m f := by
  have h := total_change m (m.erase k) k f fun a ha => by simp [Ne.symm ha]
  simpa [weight] using h

lemma weight_le_total (m : ExtTreeMap K V) (f : V → ℕ) (k : K) : weight m f k ≤ total m f := by
  have h := total_erase m f k
  omega

lemma mem_iff_exists {m : ExtTreeMap K V} {k : K} : k ∈ m ↔ ∃ v, m[k]? = some v := by
  rw [ExtTreeMap.mem_iff_isSome_getElem?, Option.isSome_iff_exists]

end Cl8yDexBots.Foundation.StorageMap
