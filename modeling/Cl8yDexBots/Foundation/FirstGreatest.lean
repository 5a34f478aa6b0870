import Mathlib

/-! A search for the greatest score through a list, which keeps the first entry that reaches it. -/

namespace Cl8yDexBots.Foundation.FirstGreatest

variable {α K : Type} {eligible : α → Bool} {score : α → ℕ} {key : α → K}

def keepGreater (eligible : α → Bool) (score : α → ℕ) (key : α → K) (best : ℕ × Option K) (a : α) : ℕ × Option K :=
  if eligible a ∧ best.1 < score a then (score a, some (key a)) else best

def Scores (eligible : α → Bool) (score : α → ℕ) (l : List α) : Set ℕ :=
  insert 0 {s | ∃ a ∈ l, eligible a ∧ score a = s}

/-- The greatest score, and the least key that has it unless it is nothing. -/
structure Chosen [LE K] (eligible : α → Bool) (score : α → ℕ) (key : α → K) (l : List α) (best : ℕ × Option K) :
    Prop where
  greatest : IsGreatest (Scores eligible score l) best.1
  nobody : best.2 = none ↔ best.1 = 0
  first : ∀ k, best.2 = some k → IsLeast {k | ∃ a ∈ l, eligible a ∧ score a = best.1 ∧ key a = k} k

lemma Scores.mono {eligible' : α → Bool} {l : List α} (h : ∀ a ∈ l, eligible a → eligible' a) :
    Scores eligible score l ⊆ Scores eligible' score l := by
  rintro s (rfl | ⟨a, ha, helig, hscore⟩)
  · exact .inl rfl
  · exact .inr ⟨a, ha, h a ha helig, hscore⟩

lemma scores_append {a : α} {l : List α} {s : ℕ} :
    s ∈ Scores eligible score (l ++ [a]) ↔ s ∈ Scores eligible score l ∨ eligible a ∧ score a = s := by
  simp only [Scores, Set.mem_insert_iff, Set.mem_ofPred_eq, List.mem_append, List.mem_singleton]
  constructor
  · rintro (hzero | ⟨b, hb | rfl, hmatch⟩)
    · exact .inl (.inl hzero)
    · exact .inl (.inr ⟨b, hb, hmatch⟩)
    · exact .inr hmatch
  · rintro ((hzero | ⟨b, hb, hmatch⟩) | hmatch)
    · exact .inl hzero
    · exact .inr ⟨b, .inl hb, hmatch⟩
    · exact .inr ⟨a, .inr rfl, hmatch⟩

variable [LinearOrder K]

lemma Chosen.append {a : α} {l : List α} {best : ℕ × Option K} (h : Chosen eligible score key l best)
    (later : ∀ b ∈ l, key b < key a) :
    Chosen eligible score key (l ++ [a]) (keepGreater eligible score key best a) := by
  have hbound : ∀ b ∈ l, eligible b → score b ≤ best.1 := fun b hb helig => h.greatest.2 (.inr ⟨b, hb, helig, rfl⟩)
  by_cases hbetter : eligible a ∧ best.1 < score a
  · rw [keepGreater, if_pos hbetter]
    obtain ⟨helig, hlt⟩ := hbetter
    refine ⟨⟨scores_append.mpr (.inr ⟨helig, rfl⟩), fun s hs => ?_⟩, ?_, ?_⟩
    · rcases scores_append.mp hs with hs | ⟨-, rfl⟩
      · exact (h.greatest.2 hs).trans hlt.le
      · exact le_rfl
    · exact ⟨nofun, fun hzero => absurd hzero (Nat.ne_of_gt (Nat.zero_lt_of_lt hlt))⟩
    · rintro k ⟨⟩
      refine ⟨⟨a, List.mem_append_right _ (List.mem_singleton_self _), helig, rfl, rfl⟩, ?_⟩
      rintro k ⟨b, hb, helig', hscore, rfl⟩
      rcases List.mem_append.mp hb with hb | hb
      · have hle := hbound b hb helig'
        dsimp only at hscore
        omega
      · rw [List.mem_singleton.mp hb]
  · rw [keepGreater, if_neg hbetter]
    have hle : eligible a → score a ≤ best.1 := fun helig => not_lt.mp fun hlt => hbetter ⟨helig, hlt⟩
    refine ⟨⟨scores_append.mpr (.inl h.greatest.1), fun s hs => ?_⟩, h.nobody, fun k hk => ?_⟩
    · rcases scores_append.mp hs with hs | ⟨helig, rfl⟩
      · exact h.greatest.2 hs
      · exact hle helig
    · obtain ⟨⟨b, hb, hmatch⟩, hleast⟩ := h.first k hk
      refine ⟨⟨b, List.mem_append_left _ hb, hmatch⟩, ?_⟩
      rintro k' ⟨c, hc, hmatch'⟩
      rcases List.mem_append.mp hc with hc | hc
      · exact hleast ⟨c, hc, hmatch'⟩
      · obtain rfl := List.mem_singleton.mp hc
        rw [← hmatch'.2.2, ← hmatch.2.2]
        exact (later b hb).le

theorem chosen_foldl {l : List α} (sorted : l.Pairwise fun a b => key a < key b) :
    Chosen eligible score key l (l.foldl (keepGreater eligible score key) (0, none)) := by
  induction l using List.reverseRecOn with
  | nil =>
    refine ⟨⟨.inl rfl, ?_⟩, by simp, nofun⟩
    rintro s (rfl | ⟨a, ha, -⟩)
    · exact le_rfl
    · exact absurd ha List.not_mem_nil
  | append_singleton l a ih =>
    obtain ⟨hsorted, -, hlater⟩ := List.pairwise_append.mp sorted
    rw [List.foldl_append]
    exact (ih hsorted).append fun b hb => hlater b hb a (List.mem_singleton_self _)

end Cl8yDexBots.Foundation.FirstGreatest
