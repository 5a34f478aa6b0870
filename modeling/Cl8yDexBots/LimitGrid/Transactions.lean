import Cl8yDexBots.LimitGrid.Vault

/-! Transactions of the limit-grid vault in a chain that acts on its own in between. -/

namespace Cl8yDexBots.LimitGrid.Transactions

open Foundation.Checked Foundation.SubMessages CosmWasm.Std
open State Vault

/-- The rest of the chain: what it answers, how it runs the vault's messages, and how it moves
between two transactions of the vault (fills, expiries, donations, deposits, other users). -/
structure Chain (W : Type) where
  vault : Addr
  blockTime : W → ℕ
  blockHeight : W → ℕ
  querier : W → Querier
  runs : W → CosmosMsg → List (String × String) → W → Prop
  fails : W → CosmosMsg → String → Prop
  drift : W → W → Prop
  genesis : W → Prop

variable {W : Type}

def Chain.env (C : Chain W) (w : W) : Env := ⟨C.blockTime w, C.blockHeight w, C.vault⟩

def Chain.host (C : Chain W) : Host Storage W CosmosMsg (List (String × String)) ContractError where
  runs _ := C.runs
  fails _ := C.fails
  reply st w id result := do
    let (st, response) ← Orders.reply (C.querier w) (C.env w) st id result
    .ok (st, response.messages)

abbrev Log := List (SubMsg CosmosMsg × Except String (List (String × String)))

/-- A committed transaction: the message is executed and everything it emits is delivered. -/
def Tx (C : Chain W) (st : Storage) (w : W) (info : MessageInfo) (msg : ExecuteMsg) (log : Log)
    (st' : Storage) (w' : W) : Prop :=
  ∃ st₁ response, execute (C.querier w) (C.env w) st info msg = .ok (st₁, response) ∧
    Dispatch C.host st₁ w response.messages log st' w'

inductive Reachable (C : Chain W) : Storage → W → Prop
  | instantiated {w info msg st response} (fresh : C.genesis w)
      (h : instantiate (C.querier w) info msg = .ok (st, response)) : Reachable C st w
  | drifted {st w w'} (before : Reachable C st w) (h : C.drift w w') : Reachable C st w'
  | executed {st w info msg log st' w'} (before : Reachable C st w)
      (h : Tx C st w info msg log st' w') : Reachable C st' w'

inductive Later (C : Chain W) (st₀ : Storage) (w₀ : W) : Storage → W → Prop
  | now : Later C st₀ w₀ st₀ w₀
  | drifted {st w w'} (before : Later C st₀ w₀ st w) (h : C.drift w w') : Later C st₀ w₀ st w'
  | executed {st w info msg log st' w'} (before : Later C st₀ w₀ st w)
      (h : Tx C st w info msg log st' w') : Later C st₀ w₀ st' w'

variable {C : Chain W} {I : Storage → W → List (SubMsg CosmosMsg) → Prop}

lemma Later.reachable {st₀ st : Storage} {w₀ w : W} (start : Reachable C st₀ w₀)
    (h : Later C st₀ w₀ st w) : Reachable C st w := by
  induction h with
  | now => exact start
  | drifted _ h ih => exact .drifted ih h
  | executed _ h ih => exact .executed ih h

lemma Reachable.drifts {st : Storage} {w w' : W} (h : Reachable C st w)
    (hdrift : Relation.ReflTransGen C.drift w w') : Reachable C st w' := by
  induction hdrift with
  | refl => exact h
  | tail _ hstep ih => exact .drifted ih hstep

theorem Tx.invariant
    (execute : ∀ {st w info msg st' response}, I st w [] →
      execute (C.querier w) (C.env w) st info msg = .ok (st', response) → I st' w response.messages)
    (deliver : ∀ {st w m ms o st' w' new}, I st w (m :: ms) → Deliver C.host st w m o st' w' new →
      I st' w' (new ++ ms))
    {st w info msg log st' w'} (h : Tx C st w info msg log st' w') (init : I st w []) : I st' w' [] := by
  obtain ⟨st₁, response, hexec, hrun⟩ := h
  exact hrun.invariant deliver (execute init hexec)

theorem Reachable.invariant
    (instantiate : ∀ {w info msg st response}, C.genesis w →
      instantiate (C.querier w) info msg = .ok (st, response) → I st w [])
    (drift : ∀ {st w w'}, I st w [] → C.drift w w' → I st w' [])
    (execute : ∀ {st w info msg st' response}, I st w [] →
      execute (C.querier w) (C.env w) st info msg = .ok (st', response) → I st' w response.messages)
    (deliver : ∀ {st w m ms o st' w' new}, I st w (m :: ms) → Deliver C.host st w m o st' w' new →
      I st' w' (new ++ ms))
    {st w} (h : Reachable C st w) : I st w [] := by
  induction h with
  | instantiated fresh h => exact instantiate fresh h
  | drifted _ h ih => exact drift ih h
  | executed _ h ih => exact h.invariant execute deliver ih

/-- What the rest of the chain keeps by itself and in running messages holds in every world that is reached. -/
theorem Reachable.world {P : W → Prop} (genesis : ∀ {w}, C.genesis w → P w)
    (drift : ∀ {w w'}, P w → C.drift w w' → P w')
    (runs : ∀ {w msg r w'}, P w → C.runs w msg r w' → P w') {st : Storage} {w : W} (h : Reachable C st w) : P w := by
  refine h.invariant (I := fun _ w _ => P w) (fun fresh _ => genesis fresh) drift (fun h _ => h) ?_
  intro st w m ms o st' w' new h hdeliver
  cases hdeliver with
  | sent silent ran => exact runs h ran
  | replied asked ran answer => exact runs h ran
  | caught asked failed answer => exact h

end Cl8yDexBots.LimitGrid.Transactions
