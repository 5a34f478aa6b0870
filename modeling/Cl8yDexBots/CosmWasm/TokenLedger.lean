import Cl8yDexBots.CosmWasm.Cw20Base
import Cl8yDexBots.Foundation.StorageMap

/-! A ledger that keeps its supply equal to the sum of its balances, as an instance of the token. -/

namespace Cl8yDexBots.CosmWasm.TokenLedger

open Foundation.Checked Foundation.Words Foundation.StorageMap CosmWasm.Std CosmWasm.Cw20Base

structure Ledger where
  balances : Std.ExtTreeMap Addr Uint128
  supply : Uint128
  allowances : Addr → Addr → Uint128
  minter : Addr
  conserved : total balances Uint.val = supply.val

namespace Ledger

def held (l : Ledger) (a : Addr) : Uint128 := l.balances[a]?.getD 0

lemma weight_eq (l : Ledger) (a : Addr) : weight l.balances Uint.val a = (l.held a).val := by
  simp only [weight, held]
  cases l.balances[a]? <;> rfl

lemma held_le (l : Ledger) (a : Addr) : (l.held a).val ≤ l.supply.val := by
  rw [← l.conserved, ← l.weight_eq]
  exact weight_le_total _ _ _

lemma total_setHeld (l : Ledger) (a : Addr) (v : Uint128) :
    total (l.balances.insert a v) Uint.val + (l.held a).val = l.supply.val + v.val := by
  rw [← l.conserved, ← l.weight_eq]
  exact total_insert _ _ _ _

def debit (l : Ledger) (owner : Addr) (amount : Uint128) : Except String Ledger :=
  if h : amount.val ≤ (l.held owner).val then
    .ok { l with
      balances := l.balances.insert owner ⟨(l.held owner).val - amount.val, by have := (l.held owner).lt; omega⟩
      supply := ⟨l.supply.val - amount.val, by have := l.supply.lt; omega⟩
      conserved := by
        have hsum := l.total_setHeld owner
          ⟨(l.held owner).val - amount.val, by have := (l.held owner).lt; omega⟩
        have hle := l.held_le owner
        dsimp only at hsum ⊢
        omega }
  else .error "Overflow: Cannot Sub with given operands"

def credit (l : Ledger) (recipient : Addr) (amount : Uint128) : Except String Ledger :=
  if h : l.supply.val + amount.val < 2 ^ 128 then
    .ok { l with
      balances := l.balances.insert recipient
        ⟨(l.held recipient).val + amount.val, by have := l.held_le recipient; omega⟩
      supply := ⟨l.supply.val + amount.val, h⟩
      conserved := by
        have hsum := l.total_setHeld recipient
          ⟨(l.held recipient).val + amount.val, by have := l.held_le recipient; omega⟩
        dsimp only at hsum ⊢
        omega }
  else .error "Overflow: Cannot Add with given operands"

def allow (l : Ledger) (owner spender : Addr) (amount : Uint128) : Ledger :=
  let granted := Function.update (l.allowances owner) spender amount
  { l with allowances := Function.update l.allowances owner granted }

def deduct (l : Ledger) (owner spender : Addr) (amount : Uint128) : Except String Ledger :=
  if h : amount.val ≤ (l.allowances owner spender).val then
    .ok (l.allow owner spender
      ⟨(l.allowances owner spender).val - amount.val, by have := (l.allowances owner spender).lt; omega⟩)
  else .error "No allowance for this account"

def move (l : Ledger) (owner recipient : Addr) (amount : Uint128) : Except String Ledger := do
  let l ← l.debit owner amount
  l.credit recipient amount

def execute (l : Ledger) (sender : Addr) : BaseExecuteMsg → Except String (Ledger × Option ReceiveHook)
  | .transfer recipient amount => do
    let l ← l.move sender recipient amount
    .ok (l, none)
  | .burn amount => do
    let l ← l.debit sender amount
    .ok (l, none)
  | .send contract amount msg => do
    let l ← l.move sender contract amount
    .ok (l, some ⟨contract, sender, amount, msg⟩)
  | .mint recipient amount => do
    ensure (sender = l.minter) "Unauthorized"
    let l ← l.credit recipient amount
    .ok (l, none)
  | .increaseAllowance spender amount _ => do
    let next ← narrow "Overflow" ((l.allowances sender spender).val + amount.val)
    .ok (l.allow sender spender next, none)
  | .decreaseAllowance spender amount _ =>
    .ok (l.allow sender spender ⟨(l.allowances sender spender).val - amount.val,
      by have := (l.allowances sender spender).lt; omega⟩, none)
  | .transferFrom owner recipient amount => do
    let l ← l.deduct owner sender amount
    let l ← l.move owner recipient amount
    .ok (l, none)
  | .burnFrom owner amount => do
    let l ← l.deduct owner sender amount
    let l ← l.debit owner amount
    .ok (l, none)
  | .sendFrom owner contract amount msg => do
    let l ← l.deduct owner sender amount
    let l ← l.move owner contract amount
    .ok (l, some ⟨contract, sender, amount, msg⟩)
  | .updateMarketing .. | .uploadLogo _ => .error "Unauthorized"

def empty (minter : Addr) : Ledger where
  balances := ∅
  supply := 0
  allowances _ _ := 0
  minter
  conserved := total_empty _

end Ledger

instance : Token Ledger where
  totalSupply := Ledger.supply
  balance := Ledger.held
  allowance := Ledger.allowances
  instantiate msg := .ok (.empty msg.minter)
  execute _ l info msg := do
    let (l, hook) ← l.execute info.sender msg
    .ok (l, ⟨hook, []⟩)

namespace Ledger

variable {l l' : Ledger} {owner recipient spender sender : Addr} {amount : Uint128}

lemma debit_ok (h : l.debit owner amount = .ok l') :
    l'.supply.val + amount.val = l.supply.val ∧ l'.allowances = l.allowances ∧
      ∀ a, (l'.held a).val + (if owner = a then amount.val else 0) = (l.held a).val := by
  simp only [debit] at h
  split at h
  · rename_i hle
    cases h
    have hsupply := l.held_le owner
    refine ⟨by dsimp only; omega, rfl, fun a => ?_⟩
    by_cases ha : owner = a
    · subst ha
      simp only [held, lookup_insert, if_true, Option.getD_some]
      simp only [held] at hle
      omega
    · simp [held, ha]
  · cases h

lemma credit_ok (h : l.credit recipient amount = .ok l') :
    l'.supply.val = l.supply.val + amount.val ∧ l'.allowances = l.allowances ∧
      ∀ a, (l'.held a).val = (l.held a).val + if recipient = a then amount.val else 0 := by
  simp only [credit] at h
  split at h
  · cases h
    refine ⟨rfl, rfl, fun a => ?_⟩
    by_cases ha : recipient = a
    · subst ha
      simp [held]
    · simp [held, ha]
  · cases h

lemma move_held (h : l.move owner recipient amount = .ok l') (a : Addr) :
    (l'.held a).val + (if owner = a then amount.val else 0)
      = (l.held a).val + if recipient = a then amount.val else 0 := by
  simp only [move, bind_eq_ok] at h
  obtain ⟨l₁, hdebit, hcredit⟩ := h
  have h₁ := (debit_ok hdebit).2.2 a
  have h₂ := (credit_ok hcredit).2.2 a
  omega

lemma move_iff : (∃ l', l.move owner recipient amount = .ok l') ↔ amount.val ≤ (l.held owner).val := by
  constructor
  · rintro ⟨l', h⟩
    simp only [move, bind_eq_ok] at h
    obtain ⟨l₁, hdebit, -⟩ := h
    have howner := (debit_ok hdebit).2.2 owner
    rw [if_pos rfl] at howner
    omega
  · intro hle
    obtain ⟨l₁, hdebit⟩ : ∃ l₁, l.debit owner amount = .ok l₁ := by
      simp only [debit, dif_pos hle]
      exact ⟨_, rfl⟩
    have hsupply := (debit_ok hdebit).1
    have hbound := l.supply.lt
    simp only [move, hdebit, ok_bind, credit, dif_pos (show l₁.supply.val + amount.val < 2 ^ 128 by omega)]
    exact ⟨_, rfl⟩

lemma move_through {l₁ : Ledger} (between : Addr) (h : l.move owner recipient amount = .ok l₁) :
    ∃ l₂ l₃, l.move owner between amount = .ok l₂ ∧ l₂.move between recipient amount = .ok l₃ ∧
      ∀ a, l₃.held a = l₁.held a := by
  have hle := move_iff.mp ⟨l₁, h⟩
  obtain ⟨l₂, hfirst⟩ : ∃ l₂, l.move owner between amount = .ok l₂ := move_iff.mpr hle
  have hreceived := move_held hfirst between
  have hle' : amount.val ≤ (l₂.held between).val := by
    rw [if_pos rfl] at hreceived
    by_cases ho : owner = between
    · subst ho
      rw [if_pos rfl] at hreceived
      omega
    · rw [if_neg ho] at hreceived
      omega
  obtain ⟨l₃, hsecond⟩ : ∃ l₃, l₂.move between recipient amount = .ok l₃ := move_iff.mpr hle'
  refine ⟨l₂, l₃, hfirst, hsecond, ?_⟩
  intro a
  have hdirect := move_held h a
  have hthere := move_held hfirst a
  have hon := move_held hsecond a
  exact eq_iff.mpr (by omega)

lemma move_ok (h : l.move owner recipient amount = .ok l') :
    l'.supply.val = l.supply.val ∧ l'.allowances = l.allowances ∧
      ∀ a, (l.held a).val ≤ (l'.held a).val + if owner = a then amount.val else 0 := by
  simp only [move, bind_eq_ok] at h
  obtain ⟨l₁, hdebit, hcredit⟩ := h
  obtain ⟨hsupply, hallow, hheld⟩ := debit_ok hdebit
  obtain ⟨hsupply', hallow', hheld'⟩ := credit_ok hcredit
  refine ⟨by omega, by rw [hallow', hallow], fun a => ?_⟩
  have h₁ := hheld a
  have h₂ := hheld' a
  omega

lemma allow_le (h : amount.val ≤ (l.allowances owner spender).val) (o s : Addr) :
    ((l.allow owner spender amount).allowances o s).val ≤ (l.allowances o s).val := by
  simp only [allow]
  by_cases ho : o = owner
  · subst ho
    by_cases hs : s = spender
    · subst hs
      simpa using h
    · simp [hs]
  · simp [ho]

lemma deduct_ok (h : l.deduct owner spender amount = .ok l') :
    amount.val ≤ (l.allowances owner spender).val ∧ l'.supply = l.supply ∧ l'.held = l.held ∧
      ∀ o s, (l'.allowances o s).val ≤ (l.allowances o s).val := by
  simp only [deduct] at h
  split at h
  · rename_i hle
    cases h
    exact ⟨hle, rfl, rfl, allow_le (Nat.sub_le _ _)⟩
  · cases h

def Charged (l l' : Ledger) (sender : Addr) (spent : Option (Addr × Uint128)) : Prop :=
  ∀ a, (l.held a).val ≤ (l'.held a).val ∨ ∃ amount, spent = some (a, amount) ∧
    (a ≠ sender → amount.val ≤ (l.allowances a sender).val) ∧
      (l.held a).val ≤ (l'.held a).val + amount.val

lemma Charged.of_owner (hpays : owner ≠ sender → amount.val ≤ (l.allowances owner sender).val)
    (hheld : ∀ a, (l.held a).val ≤ (l'.held a).val + if owner = a then amount.val else 0) :
    Charged l l' sender (some (owner, amount)) := by
  intro a
  have ha := hheld a
  by_cases hs : owner = a
  · subst hs
    rw [if_pos rfl] at ha
    exact .inr ⟨amount, rfl, hpays, ha⟩
  · rw [if_neg hs, Nat.add_zero] at ha
    exact .inl ha

lemma move_charged (h : l.move sender recipient amount = .ok l') :
    l'.supply.val = l.supply.val ∧ Charged l l' sender (some (sender, amount)) ∧
      l'.allowances = l.allowances := by
  obtain ⟨hsupply, hallow, hheld⟩ := move_ok h
  exact ⟨hsupply, .of_owner (fun hne => absurd rfl hne) hheld, hallow⟩

lemma debit_charged (h : l.debit sender amount = .ok l') :
    l'.supply.val + amount.val = l.supply.val ∧ Charged l l' sender (some (sender, amount)) ∧
      l'.allowances = l.allowances := by
  obtain ⟨hsupply, hallow, hheld⟩ := debit_ok h
  exact ⟨hsupply, .of_owner (fun hne => absurd rfl hne) (fun a => (hheld a).ge), hallow⟩

lemma deduct_move_charged {l₁ : Ledger} (hdeduct : l.deduct owner sender amount = .ok l₁)
    (hmove : l₁.move owner recipient amount = .ok l') :
    l'.supply.val = l.supply.val ∧ Charged l l' sender (some (owner, amount)) ∧
      ∀ o s, (l'.allowances o s).val ≤ (l.allowances o s).val := by
  obtain ⟨hallowed, hsame, hsameHeld, hallow₁⟩ := deduct_ok hdeduct
  obtain ⟨hsupply, hallow, hheld⟩ := move_ok hmove
  rw [hsame] at hsupply
  rw [hsameHeld] at hheld
  exact ⟨hsupply, .of_owner (fun _ => hallowed) hheld, fun o s => by rw [hallow]; exact hallow₁ o s⟩

lemma deduct_debit_charged {l₁ : Ledger} (hdeduct : l.deduct owner sender amount = .ok l₁)
    (hdebit : l₁.debit owner amount = .ok l') :
    l'.supply.val + amount.val = l.supply.val ∧ Charged l l' sender (some (owner, amount)) ∧
      ∀ o s, (l'.allowances o s).val ≤ (l.allowances o s).val := by
  obtain ⟨hallowed, hsame, hsameHeld, hallow₁⟩ := deduct_ok hdeduct
  obtain ⟨hsupply, hallow, hheld⟩ := debit_ok hdebit
  rw [hsame] at hsupply
  rw [hsameHeld] at hheld
  exact ⟨hsupply, .of_owner (fun _ => hallowed) (fun a => (hheld a).ge),
    fun o s => by rw [hallow]; exact hallow₁ o s⟩

lemma execute_ok {msg : BaseExecuteMsg} {hook : Option ReceiveHook}
    (h : l.execute sender msg = .ok (l', hook)) :
    l'.supply.val + msg.burned = l.supply.val + msg.minted ∧
      (∀ a, (l.held a).val ≤ (l'.held a).val ∨ ∃ amount, msg.spent sender = some (a, amount) ∧
        (a ≠ sender → amount.val ≤ (l.allowances a sender).val) ∧
          (l.held a).val ≤ (l'.held a).val + amount.val) ∧
      ∀ o s, (msg.grants = true → o ≠ sender) → (l'.allowances o s).val ≤ (l.allowances o s).val := by
  cases msg with
  | transfer recipient amount =>
    simp only [execute, bind_eq_ok, Except.ok.injEq, Prod.mk.injEq] at h
    obtain ⟨_, hmove, rfl, -⟩ := h
    obtain ⟨hsupply, hspent, hallow⟩ := move_charged hmove
    exact ⟨hsupply, hspent, fun o s _ => by rw [hallow]⟩
  | burn amount =>
    simp only [execute, bind_eq_ok, Except.ok.injEq, Prod.mk.injEq] at h
    obtain ⟨_, hdebit, rfl, -⟩ := h
    obtain ⟨hsupply, hspent, hallow⟩ := debit_charged hdebit
    exact ⟨hsupply, hspent, fun o s _ => by rw [hallow]⟩
  | send contract amount msg =>
    simp only [execute, bind_eq_ok, Except.ok.injEq, Prod.mk.injEq] at h
    obtain ⟨_, hmove, rfl, -⟩ := h
    obtain ⟨hsupply, hspent, hallow⟩ := move_charged hmove
    exact ⟨hsupply, hspent, fun o s _ => by rw [hallow]⟩
  | mint recipient amount =>
    simp only [execute, bind_eq_ok, Except.ok.injEq, Prod.mk.injEq] at h
    obtain ⟨_, -, _, hcredit, rfl, -⟩ := h
    obtain ⟨hsupply, hallow, hheld⟩ := credit_ok hcredit
    refine ⟨hsupply, fun a => .inl ?_, fun o s _ => by rw [hallow]⟩
    rw [hheld a]
    exact Nat.le_add_right _ _
  | increaseAllowance spender amount expires =>
    simp only [execute, bind_eq_ok, Except.ok.injEq, Prod.mk.injEq] at h
    obtain ⟨next, -, rfl, -⟩ := h
    refine ⟨rfl, fun a => .inl le_rfl, fun o s hg => ?_⟩
    simp [allow, hg rfl]
  | decreaseAllowance spender amount expires =>
    simp only [execute, Except.ok.injEq, Prod.mk.injEq] at h
    obtain ⟨rfl, -⟩ := h
    exact ⟨rfl, fun a => .inl le_rfl, fun o s _ => allow_le (Nat.sub_le _ _) o s⟩
  | transferFrom owner recipient amount =>
    simp only [execute, bind_eq_ok, Except.ok.injEq, Prod.mk.injEq] at h
    obtain ⟨l₁, hdeduct, _, hmove, rfl, -⟩ := h
    obtain ⟨hsupply, hspent, hallow⟩ := deduct_move_charged hdeduct hmove
    exact ⟨hsupply, hspent, fun o s _ => hallow o s⟩
  | burnFrom owner amount =>
    simp only [execute, bind_eq_ok, Except.ok.injEq, Prod.mk.injEq] at h
    obtain ⟨l₁, hdeduct, _, hdebit, rfl, -⟩ := h
    obtain ⟨hsupply, hspent, hallow⟩ := deduct_debit_charged hdeduct hdebit
    exact ⟨hsupply, hspent, fun o s _ => hallow o s⟩
  | sendFrom owner contract amount msg =>
    simp only [execute, bind_eq_ok, Except.ok.injEq, Prod.mk.injEq] at h
    obtain ⟨l₁, hdeduct, _, hmove, rfl, -⟩ := h
    obtain ⟨hsupply, hspent, hallow⟩ := deduct_move_charged hdeduct hmove
    exact ⟨hsupply, hspent, fun o s _ => hallow o s⟩
  | updateMarketing project description marketing => cases h
  | uploadLogo logo => cases h

lemma token_execute {env : Env} {info : MessageInfo} {msg : BaseExecuteMsg} {r : Answer}
    (h : Token.execute env l info msg = .ok (l', r)) : ∃ hook, l.execute info.sender msg = .ok (l', hook) := by
  simp only [Token.execute, bind_eq_ok, Except.ok.injEq, Prod.mk.injEq, Prod.exists] at h
  obtain ⟨_, hook, h, rfl, -⟩ := h
  exact ⟨hook, h⟩

end Ledger

instance : LawfulToken Ledger where
  balance_le := Ledger.held_le
  instantiate h := by
    cases h
    exact ⟨rfl, fun _ _ => rfl⟩
  supply h := by
    obtain ⟨hook, h⟩ := Ledger.token_execute h
    exact (Ledger.execute_ok h).1
  spends h := by
    obtain ⟨hook, h⟩ := Ledger.token_execute h
    exact (Ledger.execute_ok h).2.1
  grants h owner spender hg := by
    obtain ⟨hook, h⟩ := Ledger.token_execute h
    exact (Ledger.execute_ok h).2.2 owner spender hg
  mints {env l l' info recipient amount r} h := by
    obtain ⟨hook, h⟩ := Ledger.token_execute h
    simp only [Ledger.execute, bind_eq_ok, Except.ok.injEq, Prod.mk.injEq] at h
    obtain ⟨_, -, _, hcredit, rfl, -⟩ := h
    have hheld := (Ledger.credit_ok hcredit).2.2
    simpa [Token.balance] using hheld recipient

end Cl8yDexBots.CosmWasm.TokenLedger
