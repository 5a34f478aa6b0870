import Cl8yDexBots.Foundation.Checked

/-! Depth-first delivery of the messages an actor emits, with replies and caught failures. -/

namespace Cl8yDexBots.Foundation.SubMessages

variable {S W M R E : Type}

inductive ReplyOn where
  | never
  | success
  | error
  | always
  deriving DecidableEq

namespace ReplyOn

def onSuccess : ReplyOn → Bool
  | success | always => true
  | never | error => false

def onError : ReplyOn → Bool
  | error | always => true
  | never | success => false

end ReplyOn

structure SubMsg (M : Type) where
  id : ℕ
  msg : M
  replyOn : ReplyOn
  deriving DecidableEq

namespace SubMsg

/-- A message whose outcome is not reported back; its failure aborts the transaction. -/
def plain (msg : M) : SubMsg M := ⟨0, msg, .never⟩

def replyOnSuccess (msg : M) (id : ℕ) : SubMsg M := ⟨id, msg, .success⟩

def replyAlways (msg : M) (id : ℕ) : SubMsg M := ⟨id, msg, .always⟩

end SubMsg

/-- An actor with storage `S` in a world `W`. The world decides how a message ends; a failed
message leaves the world as it was. -/
structure Host (S W M R E : Type) where
  runs : S → W → M → R → W → Prop
  fails : S → W → M → String → Prop
  reply : S → W → ℕ → Except String R → Except E (S × List (SubMsg M))

/-- One message is delivered, together with the reply it asks for. -/
inductive Deliver (H : Host S W M R E) :
    S → W → SubMsg M → Except String R → S → W → List (SubMsg M) → Prop
  | sent {s w m r w'} (silent : m.replyOn.onSuccess = false) (ran : H.runs s w m.msg r w') :
      Deliver H s w m (.ok r) s w' []
  | replied {s w m r w' s' new} (asked : m.replyOn.onSuccess = true) (ran : H.runs s w m.msg r w')
      (answer : H.reply s w' m.id (.ok r) = .ok (s', new)) : Deliver H s w m (.ok r) s' w' new
  | caught {s w m e s' new} (asked : m.replyOn.onError = true) (failed : H.fails s w m.msg e)
      (answer : H.reply s w m.id (.error e) = .ok (s', new)) : Deliver H s w m (.error e) s' w new

/-- A committed delivery of all messages, with the log of their outcomes. -/
inductive Dispatch (H : Host S W M R E) :
    S → W → List (SubMsg M) → List (SubMsg M × Except String R) → S → W → Prop
  | done {s w} : Dispatch H s w [] [] s w
  | step {s w m ms o s₁ w₁ new log s' w'} (first : Deliver H s w m o s₁ w₁ new)
      (rest : Dispatch H s₁ w₁ (new ++ ms) log s' w') : Dispatch H s w (m :: ms) ((m, o) :: log) s' w'

variable {H : Host S W M R E}

theorem Dispatch.invariant {motive : S → W → List (SubMsg M) → Prop}
    (deliver : ∀ {s w m ms o s₁ w₁ new}, motive s w (m :: ms) → Deliver H s w m o s₁ w₁ new →
      motive s₁ w₁ (new ++ ms))
    {s w ms log s' w'} (h : Dispatch H s w ms log s' w') (init : motive s w ms) : motive s' w' [] := by
  induction h with
  | done => exact init
  | step first _ ih => exact ih (deliver init first)

/-- What each message meets when it is delivered, and no later delivery undoes, the whole log meets at the end. -/
theorem Dispatch.logged {motive : S → W → List (SubMsg M) → Prop} {P : S → SubMsg M → Prop}
    (deliver : ∀ {s w m ms o s₁ w₁ new}, motive s w (m :: ms) → Deliver H s w m o s₁ w₁ new →
      motive s₁ w₁ (new ++ ms))
    (head : ∀ {s w m ms}, motive s w (m :: ms) → P s m)
    (keep : ∀ {s w m ms o s₁ w₁ new x}, motive s w (m :: ms) → Deliver H s w m o s₁ w₁ new → P s x → P s₁ x)
    {s w ms log s' w'} (h : Dispatch H s w ms log s' w') (init : motive s w ms) :
    (∀ x, P s x → P s' x) ∧ ∀ e ∈ log, P s' e.1 := by
  induction h with
  | done => simp
  | step first _ ih =>
    obtain ⟨hkept, hlogged⟩ := ih (deliver init first)
    refine ⟨fun x hx => hkept x (keep init first hx), ?_⟩
    intro e he
    rcases List.mem_cons.mp he with rfl | he
    · exact hkept _ (keep init first (head init))
    · exact hlogged e he

theorem Dispatch.progress {motive : S → W → List (SubMsg M) → Prop}
    (deliver : ∀ {s w m ms}, motive s w (m :: ms) →
      ∃ o s₁ w₁, Deliver H s w m o s₁ w₁ [] ∧ motive s₁ w₁ ms)
    {s w ms} (init : motive s w ms) : ∃ log s' w', Dispatch H s w ms log s' w' ∧ motive s' w' [] := by
  induction ms generalizing s w with
  | nil => exact ⟨[], s, w, .done, init⟩
  | cons m ms ih =>
    obtain ⟨o, s₁, w₁, first, next⟩ := deliver init
    obtain ⟨log, s', w', rest, last⟩ := ih next
    exact ⟨_, s', w', .step first rest, last⟩

structure Host.Deterministic (H : Host S W M R E) : Prop where
  runs : ∀ {s w m r₁ w₁ r₂ w₂}, H.runs s w m r₁ w₁ → H.runs s w m r₂ w₂ → r₁ = r₂ ∧ w₁ = w₂
  fails : ∀ {s w m e₁ e₂}, H.fails s w m e₁ → H.fails s w m e₂ → e₁ = e₂
  exclusive : ∀ {s w m r w' e}, H.runs s w m r w' → ¬ H.fails s w m e

lemma Deliver.unique (det : H.Deterministic) {s w m o₁ s₁ w₁ new₁ o₂ s₂ w₂ new₂}
    (h₁ : Deliver H s w m o₁ s₁ w₁ new₁) (h₂ : Deliver H s w m o₂ s₂ w₂ new₂) :
    s₁ = s₂ ∧ w₁ = w₂ ∧ new₁ = new₂ := by
  cases h₁ with
  | sent silent₁ ran₁ =>
    cases h₂ with
    | sent silent₂ ran₂ => exact ⟨rfl, (det.runs ran₁ ran₂).2, rfl⟩
    | replied asked₂ ran₂ answer₂ =>
      rw [silent₁] at asked₂
      cases asked₂
    | caught asked₂ failed₂ answer₂ => exact absurd failed₂ (det.exclusive ran₁)
  | replied asked₁ ran₁ answer₁ =>
    cases h₂ with
    | sent silent₂ ran₂ =>
      rw [silent₂] at asked₁
      cases asked₁
    | replied asked₂ ran₂ answer₂ =>
      obtain ⟨rfl, rfl⟩ := det.runs ran₁ ran₂
      rw [answer₁] at answer₂
      cases answer₂
      exact ⟨rfl, rfl, rfl⟩
    | caught asked₂ failed₂ answer₂ => exact absurd failed₂ (det.exclusive ran₁)
  | caught asked₁ failed₁ answer₁ =>
    cases h₂ with
    | sent silent₂ ran₂ => exact absurd failed₁ (det.exclusive ran₂)
    | replied asked₂ ran₂ answer₂ => exact absurd failed₁ (det.exclusive ran₂)
    | caught asked₂ failed₂ answer₂ =>
      obtain rfl := det.fails failed₁ failed₂
      rw [answer₁] at answer₂
      cases answer₂
      exact ⟨rfl, rfl, rfl⟩

theorem Dispatch.unique (det : H.Deterministic) {s w ms log₁ s₁ w₁ log₂ s₂ w₂}
    (h₁ : Dispatch H s w ms log₁ s₁ w₁) (h₂ : Dispatch H s w ms log₂ s₂ w₂) : s₁ = s₂ ∧ w₁ = w₂ := by
  induction h₁ generalizing log₂ s₂ w₂ with
  | done =>
    cases h₂
    exact ⟨rfl, rfl⟩
  | step first₁ _ ih =>
    cases h₂ with
    | step first₂ rest₂ =>
      obtain ⟨rfl, rfl, rfl⟩ := first₁.unique det first₂
      exact ih rest₂

end Cl8yDexBots.Foundation.SubMessages
