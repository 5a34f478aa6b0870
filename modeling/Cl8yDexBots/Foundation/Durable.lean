import Mathlib

/-! Programs over a store that a crash may stop anywhere: a program logic with a crash invariant. -/

namespace Cl8yDexBots.Foundation.Durable

variable {S C : Type} {A : C → Type} {E α β γ : Type}

/-- A program over a store `S`. An update is atomic and hands on the store it found; a command goes to
the outside world and may be answered with anything. -/
inductive Script (S C : Type) (A : C → Type) (E α : Type) : Type
  | ret (a : α)
  | raise (e : E)
  | update (f : S → S) (k : S → Script S C A E α)
  | call (c : C) (k : A c → Script S C A E α)

namespace Script

def bind : Script S C A E α → (α → Script S C A E β) → Script S C A E β
  | ret a, f => f a
  | raise e, _ => raise e
  | update g k, f => update g fun s => (k s).bind f
  | call c k, f => call c fun a => (k a).bind f

def recover : Script S C A E α → (E → Script S C A E α) → Script S C A E α
  | ret a, _ => ret a
  | raise e, h => h e
  | update g k, h => update g fun s => (k s).recover h
  | call c k, h => call c fun a => (k a).recover h

instance : Monad (Script S C A E) where
  pure := ret
  bind := bind

def read : Script S C A E S := update id ret

def modify (f : S → S) : Script S C A E Unit := update f fun _ => ret ()

def ask (c : C) : Script S C A E (A c) := call c ret

def ofExcept : Except E α → Script S C A E α
  | .ok a => ret a
  | .error e => raise e

variable (f : α → Script S C A E β) (h : E → Script S C A E α)

@[simp] lemma bind_eq (p : Script S C A E α) : p >>= f = p.bind f := rfl

@[simp] lemma pure_eq (a : α) : (pure a : Script S C A E α) = ret a := rfl

@[simp] lemma ret_bind (a : α) : (ret a : Script S C A E α).bind f = f a := rfl

@[simp] lemma raise_bind (e : E) : (raise e : Script S C A E α).bind f = raise e := rfl

@[simp] lemma read_bind (f : S → Script S C A E β) : (read : Script S C A E S).bind f = update id f := rfl

@[simp] lemma modify_bind (g : S → S) (f : Unit → Script S C A E β) :
    (modify g : Script S C A E Unit).bind f = update g fun _ => f () := rfl

@[simp] lemma ask_bind (c : C) (f : A c → Script S C A E β) :
    (ask c : Script S C A E (A c)).bind f = call c f := rfl

@[simp] lemma bind_assoc (p : Script S C A E α) (g : β → Script S C A E γ) :
    (p.bind f).bind g = p.bind fun a => (f a).bind g := by
  induction p with
  | ret a => rfl
  | raise e => rfl
  | update u k ih => exact congrArg (update u) (funext ih)
  | call c k ih => exact congrArg (call c) (funext ih)

/-- The updates that a program may come to make. -/
inductive Makes (g : S → S) : Script S C A E α → Prop
  | here {k : S → Script S C A E α} : Makes g (update g k)
  | update {u : S → S} {k : S → Script S C A E α} (s : S) (hk : Makes g (k s)) : Makes g (update u k)
  | call {c : C} {k : A c → Script S C A E α} (a : A c) (hk : Makes g (k a)) : Makes g (call c k)

/-- What a program guarantees to the others at its store. -/
structure Guarantees (R : S → S → Prop) (p : Script S C A E α) : Prop where
  step : ∀ g, Makes g p → ∀ s, R s (g s)

section Guarantees

variable {R : S → S → Prop} {p : Script S C A E α} {f : α → Script S C A E β} {h : E → Script S C A E α}

lemma makes_bind {g : S → S} (hg : Makes g (p.bind f)) : Makes g p ∨ ∃ a, Makes g (f a) := by
  induction p with
  | ret a => exact .inr ⟨a, hg⟩
  | raise e => cases hg
  | update u k ih =>
    cases hg with
    | here => exact .inl .here
    | update s hg => exact (ih s hg).imp_left (.update s)
  | call c k ih =>
    cases hg with
    | call a hg => exact (ih a hg).imp_left (.call a)

lemma Guarantees.ret (a : α) : Guarantees R (.ret a : Script S C A E α) := by
  constructor
  intro g hg
  cases hg

lemma Guarantees.raise (e : E) : Guarantees R (.raise e : Script S C A E α) := by
  constructor
  intro g hg
  cases hg

lemma Guarantees.update {u : S → S} {k : S → Script S C A E α} (hu : ∀ s, R s (u s))
    (hk : ∀ s, Guarantees R (k s)) : Guarantees R (.update u k) := by
  constructor
  intro g hg
  cases hg with
  | here => exact hu
  | update s hg => exact (hk s).step g hg

lemma Guarantees.call {c : C} {k : A c → Script S C A E α} (hk : ∀ a, Guarantees R (k a)) :
    Guarantees R (.call c k) := by
  constructor
  intro g hg
  cases hg with
  | call a hg => exact (hk a).step g hg

theorem Guarantees.bind (hp : Guarantees R p) (hf : ∀ a, Guarantees R (f a)) : Guarantees R (p >>= f) := by
  constructor
  intro g hg
  rcases makes_bind hg with hg | ⟨a, hg⟩
  · exact hp.step g hg
  · exact (hf a).step g hg

lemma Guarantees.ofExcept (x : Except E α) : Guarantees R (.ofExcept x : Script S C A E α) := by
  cases x with
  | ok a => exact .ret a
  | error e => exact .raise e

lemma Guarantees.ask (c : C) : Guarantees R (.ask c : Script S C A E (A c)) := .call .ret

lemma Guarantees.modify {u : S → S} (hu : ∀ s, R s (u s)) : Guarantees R (.modify u : Script S C A E Unit) :=
  .update hu fun _ => .ret ()

end Guarantees

end Script

inductive Event (C : Type) (A : C → Type) : Type
  | started (c : C)
  | answered (c : C) (a : A c)

open Script Relation

variable (rely : S → S → Prop)

/-- Executions from a store and a log to a store and a log, the latest event first. Others may change the
store as `rely` says at any time, and every execution may stop where it is, without a result. -/
inductive Exec : Script S C A E α → S → List (Event C A) → S → List (Event C A) →
    Option (Except E α) → Prop
  | stop {p s l} : Exec p s l s l none
  | ret {a s l} : Exec (ret a) s l s l (some (.ok a))
  | raise {e s l} : Exec (raise e) s l s l (some (.error e))
  | update {f k s l s' l' o} (rest : Exec (k s) (f s) l s' l' o) : Exec (update f k) s l s' l' o
  | started {c k s l} : Exec (call c k) s l s (.started c :: l) none
  | call {c k a s l s' l' o} (rest : Exec (k a) s (.answered c a :: .started c :: l) s' l' o) :
      Exec (call c k) s l s' l' o
  | interfere {p s s₁ l s' l' o} (h : rely s s₁) (rest : Exec p s₁ l s' l' o) : Exec p s l s' l' o

/-- Whole executions of the programs of a service, one after the other; a crash loses what `reload` does
not bring back. -/
inductive Run (reload : S → S) (init : S → Prop) (service : Script S C A E Unit → Prop) :
    S → List (Event C A) → Prop
  | start {s} (h : init s) : Run reload init service s []
  | finished {p s l s' l' r} (before : Run reload init service s l) (member : service p)
      (h : Exec rely p s l s' l' (some r)) : Run reload init service s' l'
  | crashed {p s l s' l'} (before : Run reload init service s l) (member : service p)
      (h : Exec rely p s l s' l' none) : Run reload init service (reload s') l'
  | interfered {s s' l} (before : Run reload init service s l) (h : rely s s') : Run reload init service s' l

/-- What holds at any moment of a run, also in the middle of a program. -/
inductive Moment (reload : S → S) (init : S → Prop) (service : Script S C A E Unit → Prop) (s : S)
    (l : List (Event C A)) : Prop
  | between (h : Run rely reload init service s l)
  | within {p s₀ l₀} (before : Run rely reload init service s₀ l₀) (member : service p)
      (h : Exec rely p s₀ l₀ s l none)

/-- The weakest condition under which `p` keeps the crash invariant all along and ends in `post`. -/
def wp (inv : S → List (Event C A) → Prop) :
    Script S C A E α → (Except E α → S → List (Event C A) → Prop) → S → List (Event C A) → Prop
  | ret a, post, s, l => ∀ s₁, ReflTransGen rely s s₁ → post (.ok a) s₁ l
  | raise e, post, s, l => ∀ s₁, ReflTransGen rely s s₁ → post (.error e) s₁ l
  | update f k, post, s, l => ∀ s₁, ReflTransGen rely s s₁ →
      inv (f s₁) l ∧ wp inv (k s₁) post (f s₁) l
  | call c k, post, s, l => ∀ s₁, ReflTransGen rely s s₁ → inv s₁ (.started c :: l) ∧
      ∀ a, inv s₁ (.answered c a :: .started c :: l) ∧
        wp inv (k a) post s₁ (.answered c a :: .started c :: l)

def Stable (inv : S → List (Event C A) → Prop) : Prop := ∀ s s₁ l, inv s l → rely s s₁ → inv s₁ l

lemma Exec.bind {rely : S → S → Prop} {p : Script S C A E α} {f : α → Script S C A E β} {s s₁ s₂ : S}
    {l l₁ l₂ : List (Event C A)} {a : α} {o : Option (Except E β)}
    (hp : Exec rely p s l s₁ l₁ (some (.ok a))) (hf : Exec rely (f a) s₁ l₁ s₂ l₂ o) :
    Exec rely (p.bind f) s l s₂ l₂ o := by
  generalize hr : some (Except.ok a) = r at hp
  induction hp with
  | stop => cases hr
  | ret =>
    cases hr
    exact hf
  | raise => cases hr
  | update rest ih => exact .update (ih hf hr)
  | started => cases hr
  | call rest ih => exact .call (ih hf hr)
  | interfere h rest ih => exact .interfere h (ih hf hr)

section Rules

variable {rely} {inv : S → List (Event C A) → Prop} {post post' : Except E α → S → List (Event C A) → Prop}
  {p : Script S C A E α} {s s₁ : S} {l : List (Event C A)}

lemma Stable.trans (hs : Stable rely inv) (h : inv s l) (hrely : ReflTransGen rely s s₁) : inv s₁ l := by
  induction hrely with
  | refl => exact h
  | tail _ hstep ih => exact hs _ _ _ ih hstep

lemma wp_interfere (h : wp rely inv p post s l) (hrely : rely s s₁) : wp rely inv p post s₁ l := by
  cases p with
  | ret a => exact fun s₂ h₂ => h s₂ (.head hrely h₂)
  | raise e => exact fun s₂ h₂ => h s₂ (.head hrely h₂)
  | update f k => exact fun s₂ h₂ => h s₂ (.head hrely h₂)
  | call c k => exact fun s₂ h₂ => h s₂ (.head hrely h₂)

lemma wp_mono (hpost : ∀ r s l, post r s l → post' r s l) (h : wp rely inv p post s l) :
    wp rely inv p post' s l := by
  induction p generalizing s l with
  | ret a => exact fun s₁ h₁ => hpost _ _ _ (h s₁ h₁)
  | raise e => exact fun s₁ h₁ => hpost _ _ _ (h s₁ h₁)
  | update f k ih => exact fun s₁ h₁ => ⟨(h s₁ h₁).1, ih _ (h s₁ h₁).2⟩
  | call c k ih => exact fun s₁ h₁ => ⟨(h s₁ h₁).1, fun a => ⟨((h s₁ h₁).2 a).1, ih a ((h s₁ h₁).2 a).2⟩⟩

lemma wp_weaken {inv' : S → List (Event C A) → Prop} (hinv : ∀ s l, inv s l → inv' s l)
    (h : wp rely inv p post s l) : wp rely inv' p post s l := by
  induction p generalizing s l with
  | ret a => exact h
  | raise e => exact h
  | update f k ih => exact fun s₁ h₁ => ⟨hinv _ _ (h s₁ h₁).1, ih _ (h s₁ h₁).2⟩
  | call c k ih =>
    exact fun s₁ h₁ => ⟨hinv _ _ (h s₁ h₁).1, fun a => ⟨hinv _ _ ((h s₁ h₁).2 a).1, ih a ((h s₁ h₁).2 a).2⟩⟩

theorem wp_bind {f : α → Script S C A E β} {post : Except E β → S → List (Event C A) → Prop}
    (h : wp rely inv p (fun r s l => match r with
      | .ok a => wp rely inv (f a) post s l
      | .error e => wp rely inv (Script.raise e : Script S C A E β) post s l) s l) :
    wp rely inv (p.bind f) post s l := by
  induction p generalizing s l with
  | ret a => exact h s .refl
  | raise e => exact h s .refl
  | update g k ih => exact fun s₁ h₁ => ⟨(h s₁ h₁).1, ih _ (h s₁ h₁).2⟩
  | call c k ih => exact fun s₁ h₁ => ⟨(h s₁ h₁).1, fun a => ⟨((h s₁ h₁).2 a).1, ih a ((h s₁ h₁).2 a).2⟩⟩

theorem wp_recover {f : E → Script S C A E α}
    (h : wp rely inv p (fun r s l => match r with
      | .ok a => wp rely inv (Script.ret a : Script S C A E α) post s l
      | .error e => wp rely inv (f e) post s l) s l) : wp rely inv (p.recover f) post s l := by
  induction p generalizing s l with
  | ret a => exact h s .refl
  | raise e => exact h s .refl
  | update g k ih => exact fun s₁ h₁ => ⟨(h s₁ h₁).1, ih _ (h s₁ h₁).2⟩
  | call c k ih => exact fun s₁ h₁ => ⟨(h s₁ h₁).1, fun a => ⟨((h s₁ h₁).2 a).1, ih a ((h s₁ h₁).2 a).2⟩⟩

theorem wp_sound {s' : S} {l' : List (Event C A)} {o : Option (Except E α)} (hs : Stable rely inv)
    (hexec : Exec rely p s l s' l' o) (hinv : inv s l) (h : wp rely inv p post s l) :
    inv s' l' ∧ ∀ r, o = some r → post r s' l' := by
  induction hexec with
  | stop => exact ⟨hinv, by simp⟩
  | ret => exact ⟨hinv, fun r hr => by cases hr; exact h _ .refl⟩
  | raise => exact ⟨hinv, fun r hr => by cases hr; exact h _ .refl⟩
  | update rest ih => exact ih (h _ .refl).1 (h _ .refl).2
  | started => exact ⟨(h _ .refl).1, by simp⟩
  | call rest ih => exact ih ((h _ .refl).2 _).1 ((h _ .refl).2 _).2
  | interfere hrely rest ih => exact ih (hs _ _ _ hinv hrely) (wp_interfere h hrely)

section Others

/-! With others at the store, a program may lean on what none of their steps breaks. -/

variable {P : S → List (Event C A) → Prop} (hP : Stable rely P) (h : P s l)
include hP h

lemma Stable.wp_ret {a : α} (hpost : ∀ s, P s l → post (.ok a) s l) : wp rely inv (ret a) post s l :=
  fun s₁ h₁ => hpost s₁ (hP.trans h h₁)

lemma Stable.wp_raise {e : E} (hpost : ∀ s, P s l → post (.error e) s l) :
    wp rely inv (Script.raise e : Script S C A E α) post s l :=
  fun s₁ h₁ => hpost s₁ (hP.trans h h₁)

lemma Stable.wp_update {f : S → S} {k : S → Script S C A E α}
    (hstep : ∀ s, P s l → inv (f s) l ∧ wp rely inv (k s) post (f s) l) :
    wp rely inv (update f k) post s l :=
  fun s₁ h₁ => hstep s₁ (hP.trans h h₁)

lemma Stable.wp_call {c : C} {k : A c → Script S C A E α} (hstart : ∀ s, P s l → inv s (.started c :: l))
    (hanswer : ∀ s a, P s l → inv s (.answered c a :: .started c :: l))
    (hrest : ∀ s a, P s l → wp rely inv (k a) post s (.answered c a :: .started c :: l)) :
    wp rely inv (call c k) post s l :=
  fun s₁ h₁ => ⟨hstart s₁ (hP.trans h h₁), fun a => ⟨hanswer s₁ a (hP.trans h h₁), hrest s₁ a (hP.trans h h₁)⟩⟩

end Others

section Alone

/-! With nobody else at the store, a condition is a condition about this one execution. -/

variable {inv : S → List (Event C A) → Prop} {post : Except E α → S → List (Event C A) → Prop}

lemma eq_of_alone (h : ReflTransGen (fun _ _ : S => False) s s₁) : s₁ = s := by
  rcases h.cases_head with rfl | ⟨_, hfalse, -⟩
  · rfl
  · exact hfalse.elim

lemma wp_ret {a : α} (h : post (.ok a) s l) : wp (fun _ _ => False) inv (ret a) post s l := by
  intro s₁ hs
  rwa [eq_of_alone hs]

lemma wp_raise {e : E} (h : post (.error e) s l) :
    wp (fun _ _ => False) inv (Script.raise e : Script S C A E α) post s l := by
  intro s₁ hs
  rwa [eq_of_alone hs]

lemma wp_update {f : S → S} {k : S → Script S C A E α} (hinv : inv (f s) l)
    (h : wp (fun _ _ => False) inv (k s) post (f s) l) :
    wp (fun _ _ => False) inv (update f k) post s l := by
  intro s₁ hs
  rw [eq_of_alone hs]
  exact ⟨hinv, h⟩

lemma wp_call {c : C} {k : A c → Script S C A E α} (hstart : inv s (.started c :: l))
    (hanswer : ∀ a, inv s (.answered c a :: .started c :: l))
    (h : ∀ a, wp (fun _ _ => False) inv (k a) post s (.answered c a :: .started c :: l)) :
    wp (fun _ _ => False) inv (call c k) post s l := by
  intro s₁ hs
  rw [eq_of_alone hs]
  exact ⟨hstart, fun a => ⟨hanswer a, h a⟩⟩

lemma stable_alone : Stable (fun _ _ => False) inv := fun _ _ _ _ h => h.elim

end Alone

variable {reload : S → S} {init : S → Prop} {service : Script S C A E Unit → Prop}
  {good : S → List (Event C A) → Prop}

variable (rely reload init service inv good) in
/-- A service keeps `inv` at every moment and `good` between its programs: each program does so from any
good store, and a restart leads from the one to the other. -/
structure Kept : Prop where
  stable : Stable rely inv
  stable_good : Stable rely good
  start : ∀ s, init s → good s []
  weaken : ∀ s l, good s l → inv s l
  restart : ∀ s l, inv s l → good (reload s) l
  program : ∀ p, service p → ∀ s l, good s l → wp rely inv p (fun _ => good) s l

theorem Run.invariant (kept : Kept rely inv reload init service good)
    (h : Run rely reload init service s l) : good s l := by
  induction h with
  | start h => exact kept.start _ h
  | @finished p s l s' l' r before member h ih =>
    exact (wp_sound kept.stable h (kept.weaken _ _ ih) (kept.program p member _ _ ih)).2 r rfl
  | @crashed p s l s' l' before member h ih =>
    exact kept.restart _ _ (wp_sound kept.stable h (kept.weaken _ _ ih) (kept.program p member _ _ ih)).1
  | interfered before h ih => exact kept.stable_good _ _ _ ih h

theorem Moment.invariant (kept : Kept rely inv reload init service good)
    (h : Moment rely reload init service s l) : inv s l := by
  cases h with
  | between h => exact kept.weaken _ _ (h.invariant kept)
  | @within p s₀ l₀ before member h =>
    have hgood := before.invariant kept
    exact (wp_sound kept.stable h (kept.weaken _ _ hgood) (kept.program p member _ _ hgood)).1

end Rules

end Cl8yDexBots.Foundation.Durable
