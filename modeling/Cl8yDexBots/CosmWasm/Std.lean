import Cl8yDexBots.Foundation.Words
import Cl8yDexBots.Foundation.SubMessages

/-! The parts of the CosmWasm standard library that the contracts share. -/

namespace Cl8yDexBots.CosmWasm.Std

open Foundation.Checked Foundation.Words Foundation.SubMessages

abbrev Addr := String

abbrev Uint128 := Uint 128

abbrev Uint256 := Uint 256

/-- Both assets of a pair are numbered. -/
instance two_neZero : NeZero 2 := ⟨two_ne_zero⟩

def u128 (n : ℕ) : Uint128 := ⟨n % 2 ^ 128, Nat.mod_lt _ (Nat.two_pow_pos 128)⟩

inductive StdError where
  | genericErr (msg : String)
  | notFound (kind : String)
  | parseErr (target : String)
  | arithmetic (error : ArithmeticError)
  deriving DecidableEq

class StdFailure (ε : Type) where
  ofStd : StdError → ε

export StdFailure (ofStd)

instance : StdFailure StdError := ⟨id⟩

variable {ε : Type} [StdFailure ε]

instance : ArithmeticFailure ε := ⟨fun e => ofStd (.arithmetic e)⟩

def genericErr (msg : String) : ε := ofStd (.genericErr msg)

def liftStd {α : Type} (x : Except StdError α) : Except ε α :=
  match x with
  | .ok a => .ok a
  | .error e => .error (ofStd e)

@[simp] lemma liftStd_eq_ok {α : Type} {x : Except StdError α} {a : α} :
    (liftStd x : Except ε α) = .ok a ↔ x = .ok a := by
  cases x <;> simp [liftStd]

def to256 (a : Uint128) : Uint256 := widen (by decide) a

@[simp] lemma to256_val (a : Uint128) : (to256 a).val = a.val := rfl

structure Coin where
  denom : String
  amount : Uint128
  deriving DecidableEq

structure MessageInfo where
  sender : Addr
  funds : List Coin
  deriving DecidableEq

structure Env where
  blockTime : ℕ
  blockHeight : ℕ
  contract : Addr
  deriving DecidableEq

structure Response (M : Type) where
  messages : List (SubMsg M)
  attributes : List (String × String)
  deriving DecidableEq

namespace Response

variable {M : Type}

def addAttributes (r : Response M) (attributes : List (String × String)) : Response M :=
  { r with attributes := r.attributes ++ attributes }

def addMessage (r : Response M) (message : SubMsg M) : Response M :=
  { r with messages := r.messages ++ [message] }

@[simp] lemma addAttributes_messages (r : Response M) (attributes : List (String × String)) :
    (r.addAttributes attributes).messages = r.messages := rfl

@[simp] lemma addMessage_messages (r : Response M) (message : SubMsg M) :
    (r.addMessage message).messages = r.messages ++ [message] := rfl

end Response

def decimalFractional : ℕ := 10 ^ 18

@[ext] structure Decimal where
  atomics : Uint128
  deriving DecidableEq

namespace Decimal

lemma atomics_injective : Function.Injective Decimal.atomics := fun _ _ h => Decimal.ext h

instance : LinearOrder Decimal := LinearOrder.lift' atomics atomics_injective

lemma le_iff {a b : Decimal} : a ≤ b ↔ a.atomics.val ≤ b.atomics.val := Iff.rfl

lemma lt_iff {a b : Decimal} : a < b ↔ a.atomics.val < b.atomics.val := Iff.rfl

def zero : Decimal := ⟨0⟩

def one : Decimal := ⟨⟨decimalFractional, by decide⟩⟩

@[simp] lemma one_atomics_val : one.atomics.val = decimalFractional := rfl

def isZero (a : Decimal) : Bool := Foundation.Words.isZero a.atomics

def percent (x : ℕ) (h : x * 10 ^ 16 < 2 ^ 128) : Decimal := ⟨⟨x * 10 ^ 16, h⟩⟩

lemma five_percent_lt : 5 * 10 ^ 16 < 2 ^ 128 := by decide

lemma ten_percent_lt : 10 * 10 ^ 16 < 2 ^ 128 := by decide

def checkedFromRatio (numerator denominator : ℕ) : Except ε Decimal :=
  if denominator = 0 then .error (ofArithmetic .divideByZero)
  else do
    let atomics ← narrow (ofArithmetic .overflow) (numerator * decimalFractional / denominator)
    .ok ⟨atomics⟩

/-- The form of `checkedFromRatio` that aborts where it has no result. -/
def fromRatio (numerator denominator : ℕ) : Except ε Decimal :=
  withError (ofArithmetic .panicked)
    (checkedFromRatio numerator denominator : Except StdError Decimal)

def checkedDiv (a b : Decimal) : Except ε Decimal :=
  checkedFromRatio a.atomics.val b.atomics.val

def mul (a b : Decimal) : Except ε Decimal := do
  let atomics ← narrow (ofArithmetic .panicked) (a.atomics.val * b.atomics.val / decimalFractional)
  .ok ⟨atomics⟩

def sub (a b : Decimal) : Except ε Decimal := do
  let atomics ← withError (ofArithmetic .panicked)
    (checkedSub a.atomics b.atomics : Except StdError Uint128)
  .ok ⟨atomics⟩

def toUintFloor (a : Decimal) : ℕ := a.atomics.val / decimalFractional

@[simp] lemma checkedFromRatio_eq_ok {n d : ℕ} {c : Decimal} :
    (checkedFromRatio n d : Except ε _) = .ok c ↔
      d ≠ 0 ∧ c.atomics.val = n * decimalFractional / d := by
  rw [checkedFromRatio]
  split
  · simp_all
  · rename_i hd
    simp only [bind_eq_ok, narrow_eq_ok, Except.ok.injEq, ne_eq, hd, not_false_eq_true, true_and]
    constructor
    · rintro ⟨a, ha, rfl⟩
      exact ha
    · exact fun h => ⟨c.atomics, h, rfl⟩

@[simp] lemma fromRatio_eq_ok {n d : ℕ} {c : Decimal} :
    (fromRatio n d : Except ε _) = .ok c ↔ d ≠ 0 ∧ c.atomics.val = n * decimalFractional / d := by
  simp [fromRatio]

@[simp] lemma checkedDiv_eq_ok {a b c : Decimal} :
    (checkedDiv a b : Except ε _) = .ok c ↔
      b.atomics.val ≠ 0 ∧ c.atomics.val = a.atomics.val * decimalFractional / b.atomics.val :=
  checkedFromRatio_eq_ok

@[simp] lemma sub_eq_ok {a b c : Decimal} :
    (sub a b : Except ε _) = .ok c ↔
      b.atomics.val ≤ a.atomics.val ∧ c.atomics.val = a.atomics.val - b.atomics.val := by
  simp only [sub, bind_eq_ok, withError_eq_ok, checkedSub_eq_ok, Except.ok.injEq]
  constructor
  · rintro ⟨a', ha, rfl⟩
    exact ha
  · exact fun h => ⟨c.atomics, h, rfl⟩

end Decimal

def checkedRatioOr (value numerator denominator : Uint128) (zeroDenominator overflow : ε) :
    Except ε Uint128 := do
  ensure (!isZero denominator) zeroDenominator
  narrow overflow (value.val * numerator.val / denominator.val)

omit [StdFailure ε] in
@[simp] lemma checkedRatioOr_eq_ok {value numerator denominator c : Uint128} {e₁ e₂ : ε} :
    checkedRatioOr value numerator denominator e₁ e₂ = .ok c ↔
      denominator.val ≠ 0 ∧ c.val = value.val * numerator.val / denominator.val := by
  simp [checkedRatioOr, isZero]

end Cl8yDexBots.CosmWasm.Std
