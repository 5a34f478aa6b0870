import Cl8yDexBots.Foundation.Checked

/-! Unsigned integers of a fixed width whose operations fail instead of wrapping. -/

namespace Cl8yDexBots.Foundation.Words

open Checked

@[ext] structure Uint (bits : ℕ) where
  val : ℕ
  lt : val < 2 ^ bits
  deriving DecidableEq

/-- `panicked` stands for an operation that aborts the program where it has no result. -/
inductive ArithmeticError where
  | overflow
  | divideByZero
  | panicked
  deriving DecidableEq

class ArithmeticFailure (ε : Type) where
  ofArithmetic : ArithmeticError → ε

export ArithmeticFailure (ofArithmetic)

instance : ArithmeticFailure ArithmeticError := ⟨id⟩

variable {ε : Type} {bits wide : ℕ}

lemma val_injective : Function.Injective (@Uint.val bits) := fun _ _ h => Uint.ext h

instance : LinearOrder (Uint bits) := LinearOrder.lift' Uint.val val_injective

instance : Zero (Uint bits) := ⟨⟨0, Nat.two_pow_pos bits⟩⟩

instance : Inhabited (Uint bits) := ⟨0⟩

@[simp] lemma zero_val : (0 : Uint bits).val = 0 := rfl

lemma le_iff {a b : Uint bits} : a ≤ b ↔ a.val ≤ b.val := Iff.rfl

lemma lt_iff {a b : Uint bits} : a < b ↔ a.val < b.val := Iff.rfl

lemma eq_iff {a b : Uint bits} : a = b ↔ a.val = b.val := Uint.ext_iff

lemma min_val (a b : Uint bits) : (min a b).val = min a.val b.val := by
  rcases le_total a b with h | h
  · rw [min_eq_left h, min_eq_left (le_iff.mp h)]
  · rw [min_eq_right h, min_eq_right (le_iff.mp h)]

lemma max_val (a b : Uint bits) : (max a b).val = max a.val b.val := by
  rcases le_total a b with h | h
  · rw [max_eq_right h, max_eq_right (le_iff.mp h)]
  · rw [max_eq_left h, max_eq_left (le_iff.mp h)]

def isZero (a : Uint bits) : Bool := a.val == 0

@[simp] lemma isZero_iff {a : Uint bits} : isZero a = true ↔ a.val = 0 := by simp [isZero]

def narrow (failure : ε) (n : ℕ) : Except ε (Uint bits) :=
  if h : n < 2 ^ bits then .ok ⟨n, h⟩ else .error failure

@[simp] lemma narrow_eq_ok {failure : ε} {n : ℕ} {c : Uint bits} :
    narrow failure n = .ok c ↔ c.val = n := by
  rw [narrow]
  split
  · simp [eq_iff, eq_comm]
  · rename_i h
    simp only [reduceCtorEq, false_iff]
    exact fun hc => h (hc ▸ c.lt)

lemma narrow_of_lt {failure : ε} {n : ℕ} (h : n < 2 ^ bits) :
    narrow failure n = .ok (⟨n, h⟩ : Uint bits) := by
  simp

def widen (h : bits ≤ wide) (a : Uint bits) : Uint wide :=
  ⟨a.val, a.lt.trans_le (Nat.pow_le_pow_right two_pos h)⟩

@[simp] lemma widen_val (h : bits ≤ wide) (a : Uint bits) : (widen h a).val = a.val := rfl

section Operations

variable [ArithmeticFailure ε]

def checkedAdd (a b : Uint bits) : Except ε (Uint bits) :=
  narrow (ofArithmetic .overflow) (a.val + b.val)

def checkedSub (a b : Uint bits) : Except ε (Uint bits) :=
  if b.val ≤ a.val then narrow (ofArithmetic .overflow) (a.val - b.val)
  else .error (ofArithmetic .overflow)

def checkedMul (a b : Uint bits) : Except ε (Uint bits) :=
  narrow (ofArithmetic .overflow) (a.val * b.val)

def checkedDiv (a b : Uint bits) : Except ε (Uint bits) :=
  if b.val = 0 then .error (ofArithmetic .divideByZero)
  else narrow (ofArithmetic .overflow) (a.val / b.val)

def checkedMultiplyRatio (a : Uint bits) (numerator denominator : ℕ) : Except ε (Uint bits) :=
  if denominator = 0 then .error (ofArithmetic .divideByZero)
  else narrow (ofArithmetic .overflow) (a.val * numerator / denominator)

/-- The form of `checkedMultiplyRatio` that aborts where it has no result. -/
def multiplyRatio (a : Uint bits) (numerator denominator : ℕ) : Except ε (Uint bits) :=
  if denominator = 0 then .error (ofArithmetic .panicked)
  else narrow (ofArithmetic .panicked) (a.val * numerator / denominator)

def addOrPanic (a b : Uint bits) : Except ε (Uint bits) :=
  narrow (ofArithmetic .panicked) (a.val + b.val)

def subOrPanic (a b : Uint bits) : Except ε (Uint bits) :=
  if b.val ≤ a.val then narrow (ofArithmetic .panicked) (a.val - b.val)
  else .error (ofArithmetic .panicked)

def mulOrPanic (a b : Uint bits) : Except ε (Uint bits) :=
  narrow (ofArithmetic .panicked) (a.val * b.val)

def divOrPanic (a b : Uint bits) : Except ε (Uint bits) :=
  if b.val = 0 then .error (ofArithmetic .panicked)
  else narrow (ofArithmetic .panicked) (a.val / b.val)

@[simp] lemma addOrPanic_eq_ok {a b c : Uint bits} :
    (addOrPanic a b : Except ε _) = .ok c ↔ c.val = a.val + b.val := narrow_eq_ok

@[simp] lemma subOrPanic_eq_ok {a b c : Uint bits} :
    (subOrPanic a b : Except ε _) = .ok c ↔ b.val ≤ a.val ∧ c.val = a.val - b.val := by
  rw [subOrPanic]
  split <;> simp_all

@[simp] lemma mulOrPanic_eq_ok {a b c : Uint bits} :
    (mulOrPanic a b : Except ε _) = .ok c ↔ c.val = a.val * b.val := narrow_eq_ok

@[simp] lemma divOrPanic_eq_ok {a b c : Uint bits} :
    (divOrPanic a b : Except ε _) = .ok c ↔ b.val ≠ 0 ∧ c.val = a.val / b.val := by
  rw [divOrPanic]
  split <;> simp_all

@[simp] lemma checkedAdd_eq_ok {a b c : Uint bits} :
    (checkedAdd a b : Except ε _) = .ok c ↔ c.val = a.val + b.val := narrow_eq_ok

@[simp] lemma checkedSub_eq_ok {a b c : Uint bits} :
    (checkedSub a b : Except ε _) = .ok c ↔ b.val ≤ a.val ∧ c.val = a.val - b.val := by
  rw [checkedSub]
  split <;> simp_all

@[simp] lemma checkedMul_eq_ok {a b c : Uint bits} :
    (checkedMul a b : Except ε _) = .ok c ↔ c.val = a.val * b.val := narrow_eq_ok

@[simp] lemma checkedDiv_eq_ok {a b c : Uint bits} :
    (checkedDiv a b : Except ε _) = .ok c ↔ b.val ≠ 0 ∧ c.val = a.val / b.val := by
  rw [checkedDiv]
  split <;> simp_all

@[simp] lemma checkedMultiplyRatio_eq_ok {a c : Uint bits} {n d : ℕ} :
    (checkedMultiplyRatio a n d : Except ε _) = .ok c ↔ d ≠ 0 ∧ c.val = a.val * n / d := by
  rw [checkedMultiplyRatio]
  split <;> simp_all

@[simp] lemma multiplyRatio_eq_ok {a c : Uint bits} {n d : ℕ} :
    (multiplyRatio a n d : Except ε _) = .ok c ↔ d ≠ 0 ∧ c.val = a.val * n / d := by
  rw [multiplyRatio]
  split <;> simp_all

lemma checkedSub_of_le {a b : Uint bits} (h : b.val ≤ a.val) :
    (checkedSub a b : Except ε _) = .ok ⟨a.val - b.val, (Nat.sub_le _ _).trans_lt a.lt⟩ := by
  simp [h]

lemma multiplyRatio_of_le {a : Uint bits} {n d : ℕ} (hd : d ≠ 0) (h : n ≤ d) :
    ∃ c : Uint bits, (multiplyRatio a n d : Except ε _) = .ok c ∧ c.val = a.val * n / d := by
  have hle : a.val * n / d ≤ a.val :=
    Nat.div_le_of_le_mul (by rw [Nat.mul_comm d]; exact Nat.mul_le_mul_left _ h)
  exact ⟨⟨_, hle.trans_lt a.lt⟩, multiplyRatio_eq_ok.mpr ⟨hd, rfl⟩, rfl⟩

end Operations

end Cl8yDexBots.Foundation.Words
