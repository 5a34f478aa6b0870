import Cl8yDexBots.CosmWasm.Std

/-! Native coins: what accounts hold, and what moving coins does to it. -/

namespace Cl8yDexBots.CosmWasm.Coins

open CosmWasm.Std

abbrev Bank := Addr → String → ℕ

def put (b : Bank) (holder : Addr) (denom : String) (amount : ℕ) : Bank :=
  Function.update b holder (Function.update (b holder) denom amount)

def moveCoin (sender recipient : Addr) (b : Bank) (coin : Coin) : Option Bank :=
  if 0 < coin.amount.val ∧ coin.amount.val ≤ b sender coin.denom then
    let taken := put b sender coin.denom (b sender coin.denom - coin.amount.val)
    some (put taken recipient coin.denom (taken recipient coin.denom + coin.amount.val))
  else none

def transfer (sender recipient : Addr) : Bank → List Coin → Option Bank
  | b, [] => some b
  | b, coin :: coins => do
    let b ← moveCoin sender recipient b coin
    transfer sender recipient b coins

def total (denom : String) (coins : List Coin) : ℕ :=
  (coins.map fun coin => if coin.denom = denom then coin.amount.val else 0).sum

@[simp] lemma total_nil (denom : String) : total denom [] = 0 := rfl

@[simp] lemma total_single (denom : String) (amount : Uint128) : total denom [⟨denom, amount⟩] = amount.val := by
  simp [total]

section Moves

variable {b b' : Bank} {sender recipient : Addr} {coin : Coin} {coins : List Coin}

lemma put_apply (b : Bank) (holder : Addr) (denom : String) (amount : ℕ) (other : Addr) (denom' : String) :
    put b holder denom amount other denom' =
      if other = holder ∧ denom' = denom then amount else b other denom' := by
  by_cases hholder : other = holder
  · subst hholder
    by_cases hdenom : denom' = denom
    · subst hdenom
      simp [put]
    · simp [put, hdenom]
  · simp [put, hholder]

lemma moveCoin_balance (h : moveCoin sender recipient b coin = some b') (holder : Addr) (denom : String) :
    b' holder denom + (if holder = sender then total denom [coin] else 0) =
      b holder denom + (if holder = recipient then total denom [coin] else 0) := by
  rw [moveCoin] at h
  split at h
  · rename_i hpays
    cases h
    by_cases hdenom : coin.denom = denom
    · subst hdenom
      have hpaid := hpays.2
      by_cases hsender : holder = sender
      · subst hsender
        by_cases hrecipient : holder = recipient
        · subst hrecipient
          simp only [put_apply, total, List.map_cons, List.map_nil, List.sum_cons, List.sum_nil, and_self, if_true]
          omega
        · simp only [put_apply, total, List.map_cons, List.map_nil, List.sum_cons, List.sum_nil, hrecipient, and_true,
            if_true, if_false]
          omega
      · by_cases hrecipient : holder = recipient
        · subst hrecipient
          simp only [put_apply, total, List.map_cons, List.map_nil, List.sum_cons, List.sum_nil, hsender, and_true,
            if_true, if_false]
          omega
        · simp [put_apply, hsender, hrecipient]
    · have hother : denom ≠ coin.denom := Ne.symm hdenom
      simp [put_apply, total, hdenom, hother]
  · cases h

lemma total_cons (denom : String) (coin : Coin) (coins : List Coin) :
    total denom (coin :: coins) = total denom [coin] + total denom coins := by
  simp [total]

theorem transfer_balance (h : transfer sender recipient b coins = some b') (holder : Addr) (denom : String) :
    b' holder denom + (if holder = sender then total denom coins else 0) =
      b holder denom + (if holder = recipient then total denom coins else 0) := by
  induction coins generalizing b with
  | nil =>
    cases h
    simp [total]
  | cons coin coins ih =>
    rw [transfer, Option.bind_eq_bind, Option.bind_eq_some_iff] at h
    obtain ⟨b₁, hcoin, hrest⟩ := h
    have hfirst := moveCoin_balance hcoin holder denom
    have hlast := ih hrest
    rw [total_cons]
    split_ifs at hfirst hlast ⊢ <;> omega

lemma transfer_single (h : 0 < coin.amount.val) (hfunds : coin.amount.val ≤ b sender coin.denom) :
    ∃ b', transfer sender recipient b [coin] = some b' := by
  rw [transfer, moveCoin, if_pos ⟨h, hfunds⟩]
  exact ⟨_, rfl⟩

end Moves

end Cl8yDexBots.CosmWasm.Coins
