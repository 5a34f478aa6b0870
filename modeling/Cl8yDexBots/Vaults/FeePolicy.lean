import Cl8yDexBots.Foundation.LastKnown
import Cl8yDexBots.CosmWasm.Std

/-! The rate a vault owes while the fee registry answers, and while it does not. -/

namespace Cl8yDexBots.Vaults.FeePolicy

open Foundation.LastKnown CosmWasm.Std

def learned {ε R : Type} (feeBps : R → ℕ) (answer : Except ε R) (subject : Addr) : Option (Addr × ℕ) :=
  match answer with
  | .ok fee => some (subject, min (feeBps fee) 10000)
  | .error _ => none

end Cl8yDexBots.Vaults.FeePolicy
