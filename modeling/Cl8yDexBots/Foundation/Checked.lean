import Mathlib

/-! Computations that may fail: what a successful run of one says about its parts. -/

namespace Cl8yDexBots.Foundation.Checked

variable {ε α β σ : Type}

def ensure (condition : Bool) (failure : ε) : Except ε Unit :=
  if condition then .ok () else .error failure

def orError (value : Option α) (failure : ε) : Except ε α :=
  match value with
  | some a => .ok a
  | none => .error failure

def withError (failure : ε) (x : Except β α) : Except ε α :=
  match x with
  | .ok a => .ok a
  | .error _ => .error failure

@[simp] lemma bind_eq_ok {x : Except ε α} {f : α → Except ε β} {b : β} :
    (x >>= f) = .ok b ↔ ∃ a, x = .ok a ∧ f a = .ok b := by
  cases x <;> simp [bind, Except.bind]

@[simp] lemma map_eq_ok {x : Except ε α} {f : α → β} {b : β} :
    (f <$> x) = .ok b ↔ ∃ a, x = .ok a ∧ f a = b := by
  cases x <;> simp [Functor.map, Except.map]

@[simp] lemma pure_eq_ok {a b : α} : (pure a : Except ε α) = .ok b ↔ a = b := by
  simp [pure, Except.pure]

@[simp] lemma ok_bind (a : α) (f : α → Except ε β) : (Except.ok a >>= f) = f a := rfl

@[simp] lemma error_bind (e : ε) (f : α → Except ε β) : (Except.error e >>= f) = .error e := rfl

@[simp] lemma throw_ne_ok {e : ε} {a : α} : (throw e : Except ε α) ≠ .ok a := by
  simp [throw, throwThe, MonadExceptOf.throw]

@[simp] lemma ensure_eq_ok {condition : Bool} {failure : ε} {u : Unit} :
    ensure condition failure = .ok u ↔ condition = true := by
  cases condition <;> simp [ensure]

@[simp] lemma orError_eq_ok {value : Option α} {failure : ε} {a : α} :
    orError value failure = .ok a ↔ value = some a := by
  cases value <;> simp [orError]

@[simp] lemma withError_eq_ok {x : Except β α} {failure : ε} {a : α} :
    withError failure x = .ok a ↔ x = .ok a := by
  cases x <;> simp [withError]

lemma bind_eq_error {x : Except ε α} {f : α → Except ε β} {e : ε} :
    (x >>= f) = .error e ↔ x = .error e ∨ ∃ a, x = .ok a ∧ f a = .error e := by
  cases x <;> simp [bind, Except.bind]

def okAnd (x : Except ε α) (test : α → Bool) : Bool :=
  match x with
  | .ok a => test a
  | .error _ => false

lemma okAnd_iff {x : Except ε α} {test : α → Bool} :
    okAnd x test = true ↔ ∃ a, x = .ok a ∧ test a = true := by
  cases x <;> simp [okAnd]

def failsWith [DecidableEq ε] (x : Except ε α) (failure : ε) : Bool :=
  match x with
  | .ok _ => false
  | .error e => e = failure

lemma failsWith_iff [DecidableEq ε] {x : Except ε α} {failure : ε} :
    failsWith x failure = true ↔ x = .error failure := by
  cases x <;> simp [failsWith]

def foldChecked (step : σ → α → Except ε σ) (s : σ) : List α → Except ε σ
  | [] => .ok s
  | a :: as => do
    let next ← step s a
    foldChecked step next as

/-- The invariant rule of a checked fold. -/
theorem foldChecked_invariant {step : σ → α → Except ε σ} {motive : σ → List α → Prop} {as : List α}
    {s t : σ} (h : foldChecked step s as = .ok t) (init : motive s as)
    (next : ∀ s a rest s', step s a = .ok s' → motive s (a :: rest) → motive s' rest) :
    motive t [] := by
  induction as generalizing s with
  | nil => cases h; exact init
  | cons a as ih =>
    simp only [foldChecked, bind_eq_ok] at h
    obtain ⟨s', hs, ht⟩ := h
    exact ih ht (next s a as s' hs init)

/-- Every step of a checked fold meets its condition, in the state that the steps before it leave. -/
def Along (step : σ → α → Except ε σ) (condition : σ → α → Prop) (s : σ) : List α → Prop
  | [] => True
  | a :: as => condition s a ∧ ∀ t, step s a = .ok t → Along step condition t as

/-- A fold goes through just in case all its steps do. -/
theorem foldChecked_ok_iff {step : σ → α → Except ε σ} {condition : σ → α → Prop}
    (h : ∀ s a, (∃ t, step s a = .ok t) ↔ condition s a) (s : σ) (as : List α) :
    (∃ t, foldChecked step s as = .ok t) ↔ Along step condition s as := by
  induction as generalizing s with
  | nil => exact iff_of_true ⟨s, rfl⟩ trivial
  | cons a as ih =>
    simp only [foldChecked, bind_eq_ok, Along, ← h]
    constructor
    · rintro ⟨t, m, hm, ht⟩
      refine ⟨⟨m, hm⟩, fun m' hm' => ?_⟩
      rw [hm, Except.ok.injEq] at hm'
      exact hm' ▸ (ih m).mp ⟨t, ht⟩
    · rintro ⟨⟨m, hm⟩, hrest⟩
      obtain ⟨t, ht⟩ := (ih m).mpr (hrest m hm)
      exact ⟨t, m, hm, ht⟩

lemma mapM_eq_ok {f : α → Except ε β} {as : List α} {bs : List β} :
    as.mapM f = .ok bs ↔ List.Forall₂ (fun a b => f a = .ok b) as bs := by
  induction as generalizing bs with
  | nil =>
    simp only [List.mapM_nil, pure_eq_ok, List.forall₂_nil_left_iff]
    exact eq_comm
  | cons a as ih =>
    simp only [List.mapM_cons, bind_eq_ok, pure_eq_ok, ih, List.forall₂_cons_left_iff]
    constructor
    · rintro ⟨b, hb, rest, hrest, rfl⟩
      exact ⟨b, rest, hb, hrest, rfl⟩
    · rintro ⟨b, rest, hb, hrest, rfl⟩
      exact ⟨b, hb, rest, hrest, rfl⟩

lemma mapM_exists {f : α → Except ε β} {as : List α} (h : ∀ a ∈ as, ∃ b, f a = .ok b) :
    ∃ bs, as.mapM f = .ok bs := by
  induction as with
  | nil => exact ⟨[], rfl⟩
  | cons a as ih =>
    obtain ⟨b, hb⟩ := h a List.mem_cons_self
    obtain ⟨bs, hbs⟩ := ih fun a' ha' => h a' (List.mem_cons_of_mem _ ha')
    refine ⟨b :: bs, ?_⟩
    rw [mapM_eq_ok] at hbs ⊢
    exact .cons hb hbs

lemma foldChecked_append {step : σ → α → Except ε σ} {as bs : List α} {s t : σ} :
    foldChecked step s (as ++ bs) = .ok t ↔
      ∃ m, foldChecked step s as = .ok m ∧ foldChecked step m bs = .ok t := by
  induction as generalizing s with
  | nil => simp [foldChecked]
  | cons a as ih =>
    simp only [List.cons_append, foldChecked, bind_eq_ok, ih]
    tauto

end Cl8yDexBots.Foundation.Checked
