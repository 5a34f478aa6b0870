import Mathlib

/-! Submissions that have started and whose outcome is still open, read off a log. -/

namespace Cl8yDexBots.Foundation.Attempts

variable {Event Hash : Type}

inductive Attempt (Hash : Type) where
  | unknown
  | known (hash : Hash)

/-- What an event says about submissions. An answer is about the latest one. -/
inductive Move (Hash : Type) where
  | idle
  | start
  | accept (hash : Hash)
  | reject
  | observe (found : Hash → Bool)

def Attempt.observed (found : Hash → Bool) : Attempt Hash → Bool
  | unknown => false
  | known hash => found hash

def Move.apply : Move Hash → List (Attempt Hash) → List (Attempt Hash)
  | idle, open_ => open_
  | start, open_ => .unknown :: open_
  | accept hash, _ :: rest => .known hash :: rest
  | reject, _ :: rest => rest
  | observe found, open_ => open_.filter fun attempt => !attempt.observed found
  | _, [] => []

variable (move : Event → Move Hash)

def unresolved : List Event → List (Attempt Hash)
  | [] => []
  | e :: log => (move e).apply (unresolved log)

/-- Every submission starts while no earlier one is open. -/
def Exclusive : List Event → Prop
  | [] => True
  | e :: log => (move e = .start → unresolved move log = []) ∧ Exclusive log

variable {move}

lemma Exclusive.start {before after : List Event} {e : Event} (h : Exclusive move (after ++ e :: before))
    (hstart : move e = .start) : unresolved move before = [] := by
  induction after with
  | nil => exact h.1 hstart
  | cons _ after ih => exact ih h.2

end Cl8yDexBots.Foundation.Attempts
