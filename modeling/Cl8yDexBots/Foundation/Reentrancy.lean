import Cl8yDexBots.Foundation.SubMessages

/-! An actor that hands messages to others, who may call it back before they return. -/

namespace Cl8yDexBots.Foundation.Reentrancy

open SubMessages

variable {S W M R : Type}

/-- What may happen to an actor with storage `S` in a world `W`. A call that fails leaves nothing behind. -/
structure Actor (S W M R : Type) where
  enters : S → W → S → W → List (SubMsg M) → Prop
  settles : W → M → W → Prop
  hands : M → Prop
  drifts : W → W → Prop
  replies : S → W → ℕ → Except String R → S → List (SubMsg M) → Prop

structure Frame (M : Type) where
  handed : Option (SubMsg M)
  rest : List (SubMsg M)

structure Config (S W M : Type) where
  storage : S
  world : W
  frames : List (Frame M)

def Config.pending (c : Config S W M) : List (SubMsg M) := c.frames.flatMap Frame.rest

def OthersTurn : List (Frame M) → Prop
  | [] => True
  | frame :: _ => frame.handed.isSome = true

inductive Step (A : Actor S W M R) : Config S W M → Config S W M → Prop
  | drifted {s w w' frames} (turn : OthersTurn frames) (h : A.drifts w w') :
      Step A ⟨s, w, frames⟩ ⟨s, w', frames⟩
  | entered {s w s' w' new frames} (turn : OthersTurn frames) (h : A.enters s w s' w' new) :
      Step A ⟨s, w, frames⟩ ⟨s', w', ⟨none, new⟩ :: frames⟩
  | settled {s w w' m rest frames} (silent : m.replyOn.onSuccess = false) (h : A.settles w m.msg w') :
      Step A ⟨s, w, ⟨none, m :: rest⟩ :: frames⟩ ⟨s, w', ⟨none, rest⟩ :: frames⟩
  | handed {s w m rest frames} (h : A.hands m.msg) :
      Step A ⟨s, w, ⟨none, m :: rest⟩ :: frames⟩ ⟨s, w, ⟨some m, rest⟩ :: frames⟩
  | returned {s w m rest frames} (silent : m.replyOn.onSuccess = false) :
      Step A ⟨s, w, ⟨some m, rest⟩ :: frames⟩ ⟨s, w, ⟨none, rest⟩ :: frames⟩
  | replied {s w m r s' new rest frames} (asked : m.replyOn.onSuccess = true)
      (answer : A.replies s w m.id (.ok r) s' new) :
      Step A ⟨s, w, ⟨some m, rest⟩ :: frames⟩ ⟨s', w, ⟨none, new ++ rest⟩ :: frames⟩
  | caught {s w m e s' new rest frames} (asked : m.replyOn.onError = true) (h : A.hands m.msg)
      (answer : A.replies s w m.id (.error e) s' new) :
      Step A ⟨s, w, ⟨none, m :: rest⟩ :: frames⟩ ⟨s', w, ⟨none, new ++ rest⟩ :: frames⟩
  | finished {s w frames} : Step A ⟨s, w, ⟨none, []⟩ :: frames⟩ ⟨s, w, frames⟩

variable {A : Actor S W M R} {I : S → W → List (SubMsg M) → Prop} {c c' : Config S W M}

structure Kept (A : Actor S W M R) (I : S → W → List (SubMsg M) → Prop) : Prop where
  drifts : ∀ {s w w' ms}, I s w ms → A.drifts w w' → I s w' ms
  enters : ∀ {s w s' w' new ms}, I s w ms → A.enters s w s' w' new → I s' w' (new ++ ms)
  settles : ∀ {s w w' m ms}, I s w (m :: ms) → A.settles w m.msg w' → I s w' ms
  hands : ∀ {s w m ms}, I s w (m :: ms) → A.hands m.msg → I s w ms
  replies : ∀ {s w id result s' new ms}, I s w ms → A.replies s w id result s' new → I s' w (new ++ ms)

lemma Step.kept (k : Kept A I) (h : Step A c c') (hc : I c.storage c.world c.pending) :
    I c'.storage c'.world c'.pending := by
  cases h with
  | drifted _ h => exact k.drifts hc h
  | entered _ h => exact k.enters hc h
  | settled _ h => exact k.settles hc h
  | handed h => exact k.hands hc h
  | returned _ => exact hc
  | @replied s w m r s' new rest frames _ answer =>
    show I s' w (new ++ rest ++ frames.flatMap Frame.rest)
    rw [List.append_assoc]
    exact k.replies hc answer
  | @caught s w m e s' new rest frames _ h answer =>
    show I s' w (new ++ rest ++ frames.flatMap Frame.rest)
    rw [List.append_assoc]
    exact k.replies (k.hands hc h) answer
  | finished => exact hc

theorem steps_kept (k : Kept A I) (h : Relation.ReflTransGen (Step A) c c')
    (hc : I c.storage c.world c.pending) : I c'.storage c'.world c'.pending := by
  induction h with
  | refl => exact hc
  | tail _ hstep ih => exact hstep.kept k ih

end Cl8yDexBots.Foundation.Reentrancy
