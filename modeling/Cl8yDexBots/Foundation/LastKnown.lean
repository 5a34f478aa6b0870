import Mathlib

/-! Runs whose steps learn a value about a subject, and a store that remembers the last one. -/

namespace Cl8yDexBots.Foundation.LastKnown

variable {State Subject Value : Type} {init : State → Prop}
  {step : State → Option (Subject × Value) → State → Prop}

/-- What a run reaches, and what its steps learned, the latest first. -/
inductive Run (init : State → Prop) (step : State → Option (Subject × Value) → State → Prop) :
    State → List (Subject × Value) → Prop
  | start {s} (h : init s) : Run init step s []
  | next {s learned s' history} (before : Run init step s history) (h : step s learned s') :
      Run init step s' (learned.toList ++ history)

variable [DecidableEq Subject]

def remember (known : Subject → Option Value) : Option (Subject × Value) → Subject → Option Value
  | none => known
  | some (subject, value) => fun t => if t = subject then some value else known t

/-- `known` starts empty and changes exactly as the steps learn. -/
structure Remembers (init : State → Prop) (step : State → Option (Subject × Value) → State → Prop)
    (known : State → Subject → Option Value) : Prop where
  fresh {s} (h : init s) (t : Subject) : known s t = none
  stepped {s learned s'} (h : step s learned s') : known s' = remember (known s) learned

lemma remember_lookup (learned : Option (Subject × Value)) (history : List (Subject × Value)) :
    remember (List.lookup · history) learned = (List.lookup · (learned.toList ++ history)) := by
  funext t
  cases learned with
  | none => rfl
  | some learned =>
    obtain ⟨subject, value⟩ := learned
    by_cases ht : t = subject
    · subst ht
      simp [remember]
    · have hb : (t == subject) = false := beq_eq_false_iff_ne.mpr ht
      simp [remember, ht, List.lookup, hb]

theorem Run.known {known : State → Subject → Option Value} (hk : Remembers init step known)
    {s : State} {history : List (Subject × Value)} (h : Run init step s history) :
    known s = (List.lookup · history) := by
  induction h with
  | start h =>
    funext t
    exact hk.fresh h t
  | next before h ih => rw [hk.stepped h, ih, remember_lookup]

def choose (answer last : Option Value) (fallback : Value) : Value := answer.getD (last.getD fallback)

end Cl8yDexBots.Foundation.LastKnown
