import Cl8yDexBots.LimitGrid.Manager
import Cl8yDexBots.LimitGrid.OrderBook

/-! The manager on its chain, where a contract that it creates may call it before its own creation ends. -/

namespace Cl8yDexBots.LimitGrid.ManagerRegister

open Std Relation Foundation.Checked Foundation.SubMessages Foundation.StorageMap CosmWasm.Std
open Manager

inductive Origin where
  | elsewhere
  | manager (request : SubMsg WasmInstantiate)

/-- A contract whose code is still running for the first time. -/
structure Creation where
  request : SubMsg WasmInstantiate
  address : Addr

abbrev Creation.id (creation : Creation) : ℕ := creation.request.id

def requestOwner (request : SubMsg WasmInstantiate) : Addr := request.msg.msg.owner

/-- The creations under way are nested, the innermost one first. -/
structure Chain where
  storage : Storage
  contracts : Addr → Option Origin
  creations : List Creation

variable (addrValidate : String → Except StdError Addr)

/-- Messages come from `senders`. The chain gives every contract an address of its own, and a call that fails
leaves nothing behind. -/
inductive Step (senders : Addr → Prop) : Chain → Chain → Prop
  | revised {c env info msg st r} (h : execute addrValidate env c.storage info msg = .ok (st, r))
      (sent : senders info.sender) (silent : r.messages = []) : Step senders c { c with storage := st }
  | begun {c env info msg st r request address} (h : execute addrValidate env c.storage info msg = .ok (st, r))
      (sent : senders info.sender) (asked : r.messages = [request]) (fresh : c.contracts address = none) :
      Step senders c
        ⟨st, Function.update c.contracts address (some (.manager request)), ⟨request, address⟩ :: c.creations⟩
  | ended {st contracts creation creations st' r}
      (h : reply addrValidate st creation.id (some creation.address) = .ok (st', r)) :
      Step senders ⟨st, contracts, creation :: creations⟩ ⟨st', contracts, creations⟩
  | elsewhere {c address} (fresh : c.contracts address = none) :
      Step senders c { c with contracts := Function.update c.contracts address (some .elsewhere) }

/-- The manager is built with or without the `mainnet` feature. -/
def OpeningIn (mainnet : Bool) (c : Chain) : Prop :=
  (∃ info msg r, instantiateIn addrValidate mainnet info msg = .ok (c.storage, r)) ∧
    (∀ address request, c.contracts address ≠ some (.manager request)) ∧ c.creations = []

def ReachableIn (mainnet : Bool) (c : Chain) : Prop :=
  ∃ c₀, OpeningIn addrValidate mainnet c₀ ∧ ReflTransGen (Step addrValidate fun _ => True) c₀ c

def Opening (c : Chain) : Prop := OpeningIn addrValidate false c

def Reachable (c : Chain) : Prop := ReachableIn addrValidate false c

/-- What the manager asks for, by the fields that never change. -/
structure Requested (config : Config) (request : SubMsg WasmInstantiate) : Prop where
  terms : request.msg.msg.terms = terms config
  admin : request.msg.admin = some (requestOwner request)
  funds : request.msg.funds = []
  codeId : request.msg.codeId ≠ 0

structure Sound (c : Chain) : Prop where
  positive : 1 ≤ c.storage.nextVaultId
  template : Template addrValidate c.storage.config
  opened : ∀ creation ∈ c.creations,
    c.storage.pendingVaults[creation.id]? = some ⟨creation.id, requestOwner creation.request⟩ ∧
      c.contracts creation.address = some (.manager creation.request) ∧ c.storage.vaults[creation.id]? = none
  distinct : (c.creations.map Creation.id).Nodup
  pending : ∀ (id : ℕ) p, c.storage.pendingVaults[id]? = some p → ∃ creation ∈ c.creations, creation.id = id
  numbered : ∀ id : ℕ, ((∃ v, c.storage.vaults[id]? = some v) ∨ ∃ creation ∈ c.creations, creation.id = id) ↔
    1 ≤ id ∧ id < c.storage.nextVaultId
  registered : ∀ (id : ℕ) owner address, c.storage.vaults[id]? = some ⟨owner, address⟩ ↔
    ∃ request, c.contracts address = some (.manager request) ∧ request.id = id ∧ requestOwner request = owner ∧
      (⟨request, address⟩ : Creation) ∉ c.creations
  owned : ∀ (owner : Addr) (id : ℕ) (address : Addr), (c.storage.ownedBy owner)[id]? = some address ↔
    c.storage.vaults[id]? = some ⟨owner, address⟩
  requested : ∀ address request, c.contracts address = some (.manager request) → Requested c.storage.config request

variable {addrValidate} {c c' : Chain}

lemma Requested.revised {config config' : Config} {sender : Addr} (h : Revised addrValidate config sender config')
    {request : SubMsg WasmInstantiate} (made : Requested config request) : Requested config' request :=
  ⟨made.terms.trans h.terms.symm, made.admin, made.funds, made.codeId⟩

lemma requested_creation {config : Config} (t : Template addrValidate config) (vaultId : ℕ) (owner : Addr)
    (label : Option String) : Requested config (creationRequest config vaultId owner label) :=
  ⟨rfl, rfl, rfl, t.codeId⟩

lemma Sound.opening (addr : ∀ s a, addrValidate s = .ok a → a = s) (h : Opening addrValidate c) :
    Sound addrValidate c := by
  obtain ⟨⟨info, msg, r, hinst⟩, hnew, hnone⟩ := h
  have htemplate := instantiate_template addr hinst
  simp only [instantiateIn, assertFeesConfigured, ok_bind, bind_eq_ok, Except.ok.injEq, Prod.mk.injEq] at hinst
  obtain ⟨_, -, _, -, _, -, registry, -, collector, -, admin, -, keeper, -, factory, -, hst, -⟩ := hinst
  have hvaults : c.storage.vaults = ∅ := by rw [← hst]
  have hpending : c.storage.pendingVaults = ∅ := by rw [← hst]
  have howned : c.storage.ownerVaults = ∅ := by rw [← hst]
  have hnext : c.storage.nextVaultId = 1 := by rw [← hst]
  constructor
  · exact hnext.ge
  · exact htemplate
  · simp [hnone]
  · simp [hnone]
  · simp [hpending]
  · intro id
    simp only [hvaults, hnone, hnext, ExtTreeMap.getElem?_empty]
    simp
    omega
  · intro id owner address
    simp only [hvaults, ExtTreeMap.getElem?_empty, reduceCtorEq, false_iff, not_exists]
    rintro request ⟨hrequest, -⟩
    exact hnew _ _ hrequest
  · intro owner id address
    simp [Storage.ownedBy, howned, hvaults]
  · intro address request h
    exact absurd h (hnew _ _)

lemma created_iff {contracts : Addr → Option Origin} {place : Addr} (fresh : contracts place = none) {origin : Origin}
    {a : Addr} {request : SubMsg WasmInstantiate} :
    Function.update contracts place (some origin) a = some (.manager request) ↔
      a = place ∧ origin = .manager request ∨ contracts a = some (.manager request) := by
  by_cases ha : a = place
  · subst ha
    simp [fresh]
  · simp [ha]

section Steps

variable {env : Env} {info : MessageInfo} {msg : ExecuteMsg} {st : Storage} {r : Response WasmInstantiate}

lemma Sound.revised (addr : ∀ s a, addrValidate s = .ok a → a = s) (s : Sound addrValidate c)
    (h : execute addrValidate env c.storage info msg = .ok (st, r)) (silent : r.messages = []) :
    Sound addrValidate { c with storage := st } := by
  obtain ⟨label, -, -, -, hmessages⟩ | ⟨config, hrevised, rfl, -⟩ := execute_cases h
  · rw [hmessages] at silent
    cases silent
  · exact ⟨s.positive, hrevised.template addr s.template, s.opened, s.distinct, s.pending, s.numbered, s.registered,
      s.owned, fun address request h => (s.requested address request h).revised hrevised⟩

lemma Sound.begun (s : Sound addrValidate c) {request : SubMsg WasmInstantiate} {address : Addr}
    (h : execute addrValidate env c.storage info msg = .ok (st, r)) (asked : r.messages = [request])
    (fresh : c.contracts address = none) :
    Sound addrValidate
      ⟨st, Function.update c.contracts address (some (.manager request)), ⟨request, address⟩ :: c.creations⟩ := by
  obtain ⟨label, -, -, rfl, hmessages⟩ | ⟨config, -, -, hmessages⟩ := execute_cases h
  swap
  · rw [hmessages] at asked
    cases asked
  · rw [hmessages] at asked
    cases asked
    have hunused : ∀ creation ∈ c.creations, creation.id ≠ c.storage.nextVaultId := by
      intro creation hmem
      exact ((s.numbered creation.id).mp (.inr ⟨creation, hmem, rfl⟩)).2.ne
    constructor
    · exact Nat.le_add_left ..
    · exact s.template
    · intro creation hmem
      rcases List.mem_cons.mp hmem with rfl | hmem
      · refine ⟨by simp [creationRequest, SubMsg.replyOnSuccess, requestOwner, vaultInstantiate],
          Function.update_self .., ?_⟩
        by_contra hsome
        obtain ⟨v, hv⟩ := Option.ne_none_iff_exists'.mp hsome
        exact absurd ((s.numbered _).mp (.inl ⟨v, hv⟩)).2 (lt_irrefl _)
      · obtain ⟨hpending, hcontract, hvault⟩ := s.opened creation hmem
        refine ⟨?_, (created_iff fresh).mpr (.inr hcontract), hvault⟩
        rw [lookup_insert, if_neg (hunused creation hmem).symm]
        exact hpending
    · rw [List.map_cons, List.nodup_cons]
      refine ⟨?_, s.distinct⟩
      intro hmem
      obtain ⟨creation, hcreation, heq⟩ := List.mem_map.mp hmem
      exact hunused creation hcreation heq
    · intro id p hp
      rw [lookup_insert] at hp
      split at hp
      · exact ⟨_, List.mem_cons_self, by assumption⟩
      · obtain ⟨creation, hmem, hid⟩ := s.pending id p hp
        exact ⟨creation, List.mem_cons_of_mem _ hmem, hid⟩
    · intro id
      have hpos := s.positive
      have hnumbered := s.numbered id
      simp only [List.mem_cons, exists_eq_or_imp]
      by_cases hid : id = c.storage.nextVaultId
      · subst hid
        simp [creationRequest, SubMsg.replyOnSuccess, hpos]
      · have hne : ¬ (Creation.mk (creationRequest c.storage.config c.storage.nextVaultId info.sender label)
            address).id = id := fun h => hid h.symm
        rw [or_iff_right hne, hnumbered]
        omega
    · intro id owner a
      simp only [created_iff fresh, Origin.manager.injEq, List.mem_cons, Creation.mk.injEq]
      rw [s.registered]
      constructor
      · rintro ⟨request, hrequest, hid, howner, hclosed⟩
        refine ⟨request, .inr hrequest, hid, howner, ?_⟩
        rintro (⟨rfl, rfl⟩ | hmem)
        · rw [fresh] at hrequest
          cases hrequest
        · exact hclosed hmem
      · rintro ⟨request, ⟨rfl, rfl⟩ | hrequest, hid, howner, hclosed⟩
        · exact absurd (.inl ⟨rfl, rfl⟩) hclosed
        · exact ⟨request, hrequest, hid, howner, fun hmem => hclosed (.inr hmem)⟩
    · exact s.owned
    · intro a request hrequest
      rcases (created_iff fresh).mp hrequest with ⟨-, heq⟩ | hrequest
      · cases heq
        exact requested_creation s.template ..
      · exact s.requested a request hrequest

lemma ownedBy_enrolled (creation : Creation) (owner : Addr) : Storage.ownedBy { st with
      vaults := st.vaults.insert creation.id ⟨requestOwner creation.request, creation.address⟩
      ownerVaults := st.ownerVaults.insert (requestOwner creation.request)
        ((st.ownedBy (requestOwner creation.request)).insert creation.id creation.address)
      pendingVaults := st.pendingVaults.erase creation.id } owner =
    if requestOwner creation.request = owner then
      (st.ownedBy (requestOwner creation.request)).insert creation.id creation.address
    else st.ownedBy owner := by
  rw [Storage.ownedBy, lookup_insert]
  split <;> rfl

section Ending

variable {contracts : Addr → Option Origin} {creation : Creation} {creations : List Creation}

lemma Sound.others (s : Sound addrValidate ⟨st, contracts, creation :: creations⟩) :
    ∀ other ∈ creations, other.id ≠ creation.id := by
  have hdistinct := s.distinct
  rw [List.map_cons, List.nodup_cons] at hdistinct
  intro other hmem heq
  exact hdistinct.1 (heq ▸ List.mem_map_of_mem hmem)

lemma Sound.enrolled (s : Sound addrValidate ⟨st, contracts, creation :: creations⟩) (id : ℕ) (owner a : Addr) :
    (st.vaults.insert creation.id ⟨requestOwner creation.request, creation.address⟩)[id]? = some ⟨owner, a⟩ ↔
      ∃ request, contracts a = some (.manager request) ∧ request.id = id ∧ requestOwner request = owner ∧
        (⟨request, a⟩ : Creation) ∉ creations := by
  obtain ⟨-, hcontract, hunregistered⟩ := s.opened creation List.mem_cons_self
  rw [lookup_insert]
  split
  · rename_i hid
    subst hid
    rw [Option.some.injEq, Vault.mk.injEq]
    constructor
    · rintro ⟨rfl, rfl⟩
      exact ⟨creation.request, hcontract, rfl, rfl, fun hmem => s.others _ hmem rfl⟩
    · rintro ⟨request, hrequest, hid, rfl, hclosed⟩
      by_cases hopen : (⟨request, a⟩ : Creation) = creation
      · rw [← hopen]
        exact ⟨rfl, rfl⟩
      · have hvault := (s.registered creation.id (requestOwner request) a).mpr
          ⟨request, hrequest, hid, rfl, by simp [hopen, hclosed]⟩
        rw [hunregistered] at hvault
        cases hvault
  · rename_i hid
    rw [s.registered]
    constructor
    · rintro ⟨request, hrequest, rfl, howner, hclosed⟩
      exact ⟨request, hrequest, rfl, howner, fun hmem => hclosed (List.mem_cons_of_mem _ hmem)⟩
    · rintro ⟨request, hrequest, rfl, howner, hclosed⟩
      refine ⟨request, hrequest, rfl, howner, ?_⟩
      intro hmem
      rcases List.mem_cons.mp hmem with heq | hmem
      · exact hid (by rw [← heq])
      · exact hclosed hmem

lemma Sound.ended (addr : ∀ s a, addrValidate s = .ok a → a = s) {st' : Storage}
    (s : Sound addrValidate ⟨st, contracts, creation :: creations⟩)
    (h : reply addrValidate st creation.id (some creation.address) = .ok (st', r)) :
    Sound addrValidate ⟨st', contracts, creations⟩ := by
  obtain ⟨hpending, -, hunregistered⟩ := s.opened creation List.mem_cons_self
  obtain ⟨p, t, address, hp, ht, haddress, rfl, -⟩ := reply_eq_ok.mp h
  cases hpending.symm.trans hp
  cases ht
  obtain rfl := addr _ _ haddress
  constructor
  · exact s.positive
  · exact s.template
  · intro other hmem
    obtain ⟨hp, hc, hv⟩ := s.opened other (List.mem_cons_of_mem _ hmem)
    simp only [lookup_erase, lookup_insert, if_neg (s.others other hmem).symm]
    exact ⟨hp, hc, hv⟩
  · exact (List.nodup_cons.mp s.distinct).2
  · intro id p hp
    rw [lookup_erase] at hp
    split at hp
    · cases hp
    · rename_i hne
      obtain ⟨other, hmem, hid⟩ := s.pending id p hp
      rcases List.mem_cons.mp hmem with rfl | hmem
      · exact absurd hid hne
      · exact ⟨other, hmem, hid⟩
  · intro id
    rw [← s.numbered id]
    simp only [lookup_insert, List.mem_cons, exists_eq_or_imp]
    by_cases hid : creation.id = id
    · simp [hid]
    · simp [hid]
  · exact s.enrolled
  · intro owner id a
    rw [ownedBy_enrolled, lookup_insert]
    have hold := s.owned owner id a
    by_cases hid : creation.id = id
    · subst hid
      rw [hunregistered] at hold
      by_cases howner : requestOwner creation.request = owner
      · simp [howner]
      · simp only [howner, if_false, if_true, hold]
        simp [howner]
    · by_cases howner : requestOwner creation.request = owner
      · subst howner
        simp only [if_true, lookup_insert, if_neg hid]
        exact hold
      · simp only [howner, if_false, if_neg hid]
        exact hold
  · exact s.requested

end Ending

end Steps

lemma Sound.step (addr : ∀ s a, addrValidate s = .ok a → a = s) (s : Sound addrValidate c)
    {senders : Addr → Prop} (h : Step addrValidate senders c c') : Sound addrValidate c' := by
  cases h with
  | revised h sent silent => exact s.revised addr h silent
  | begun h sent asked fresh => exact s.begun h asked fresh
  | ended h => exact s.ended addr h
  | @elsewhere c place fresh =>
    have hold : ∀ a request, Function.update c.contracts place (some .elsewhere) a = some (.manager request) ↔
        c.contracts a = some (.manager request) := by
      simp [created_iff fresh]
    constructor
    · exact s.positive
    · exact s.template
    · intro creation hmem
      obtain ⟨hp, hc, hv⟩ := s.opened creation hmem
      exact ⟨hp, (hold _ _).mpr hc, hv⟩
    · exact s.distinct
    · exact s.pending
    · exact s.numbered
    · intro id owner a
      simp only [hold]
      exact s.registered id owner a
    · exact s.owned
    · intro a request hrequest
      exact s.requested a request ((hold _ _).mp hrequest)

lemma ReachableIn.reachable {mainnet : Bool} (h : ReachableIn addrValidate mainnet c) : Reachable addrValidate c := by
  obtain ⟨c₀, ⟨⟨info, msg, r, hinst⟩, hrest⟩, hsteps⟩ := h
  exact ⟨c₀, ⟨⟨info, msg, r, instantiate_of_mainnet hinst⟩, hrest⟩, hsteps⟩

theorem Reachable.sound (addr : ∀ s a, addrValidate s = .ok a → a = s) (h : Reachable addrValidate c) :
    Sound addrValidate c := by
  obtain ⟨c₀, hopening, hsteps⟩ := h
  induction hsteps with
  | refl => exact .opening addr hopening
  | tail _ hstep ih => exact ih.step addr hstep

section Creation

variable {q : State.Querier} {env : Env} {config : Config}

def vaultConfig (config : Config) (owner : Addr) : State.Config :=
  { admin := config.admin, owner, pendingAdmin := none, keeper := config.keeper, factory := config.dexFactory,
    gasDenom := config.gasDenom, keeperReward := config.keeperReward,
    minimumGasReserve := config.minimumGasReserve, orderTimeoutSeconds := config.orderTimeoutSeconds,
    maxGridCount := config.maxGridCount, maxOrdersPerReconcile := config.maxOrdersPerReconcile,
    maxActiveOrdersPerBot := config.maxActiveOrdersPerVault, feeRegistry := config.feeRegistry,
    feeCollector := config.feeCollector }

lemma optionalAddr_self {o : Option Addr} (h : ∀ a, o = some a → q.addrValidate a = .ok a) :
    Vault.optionalAddr q o = .ok o := by
  cases o with
  | none => rfl
  | some a =>
    rw [Vault.optionalAddr, h a rfl]
    rfl

lemma vault_instantiates (t : Template q.addrValidate config) {owner : Addr} (known : q.addrValidate owner = .ok owner)
    (manager : Addr) : Vault.instantiate q ⟨manager, []⟩ (vaultInstantiate config owner).decoded =
      .ok (Vault.emptyVault (vaultConfig config owner), ⟨[], [("action", "instantiate")]⟩) := by
  simp only [Vault.instantiate, Vault.instantiateIn, Vault.assertCanonical, VaultInstantiateMsg.decoded,
    vaultInstantiate, Vault.assertNoFunds, ensure, List.isEmpty_nil, t.gasDenom, t.limits, t.keeperReward,
    t.orderTimeout, optionalAddr_self t.feeRegistry, optionalAddr_self t.feeCollector, t.fees, t.admin, t.keeper,
    t.dexFactory, known, liftStd, ok_bind, if_true, Bool.false_eq_true, not_true_eq_false, or_self,
    not_false_eq_true, decide_true]
  rfl

def asked (st : Storage) (owner : Addr) : Storage :=
  { st with
    nextVaultId := st.nextVaultId + 1
    pendingVaults := st.pendingVaults.insert st.nextVaultId ⟨st.nextVaultId, owner⟩ }

def asking (env : Env) (st : Storage) (owner : Addr) (label : Option String) : Response WasmInstantiate :=
  ⟨[creationRequest st.config st.nextVaultId owner label],
    [("action", "create_grid_vault"), ("vault_id", toString st.nextVaultId), ("owner", owner),
      ("manager", env.contract)]⟩

lemma createVault_asks {st : Storage} (room : st.nextVaultId + 1 < 2 ^ 64) (env : Env) (sender : Addr)
    (label : Option String) : execute addrValidate env st ⟨sender, []⟩ (.createVault label) =
      .ok (asked st sender, asking env st sender label) := by
  simp only [execute, assertNoFunds, executeCreateVault, ensure, room, List.isEmpty_nil, if_true, decide_true, ok_bind]
  rfl

lemma asked_registers {address : Addr} (valid : addrValidate address = .ok address) (st : Storage) (owner : Addr) :
    ∃ st' r, reply addrValidate (asked st owner) st.nextVaultId (some address) = .ok (st', r) ∧
      st'.vaults = st.vaults.insert st.nextVaultId ⟨owner, address⟩ ∧ st'.config = st.config ∧
      st'.nextVaultId = st.nextVaultId + 1 := by
  have hpending : (asked st owner).pendingVaults[st.nextVaultId]? = some ⟨st.nextVaultId, owner⟩ :=
    ExtTreeMap.getElem?_insert_self
  exact ⟨_, _, reply_eq_ok.mpr ⟨_, address, address, hpending, rfl, valid, rfl, rfl⟩, rfl, rfl, rfl⟩

lemma creates (senders : Addr → Prop) (room : c.storage.nextVaultId + 1 < 2 ^ 64) (sender : Addr) {address : Addr}
    (sent : senders sender) (valid : addrValidate address = .ok address) (fresh : c.contracts address = none) :
    ∃ c', ReflTransGen (Step addrValidate senders) c c' ∧ c'.creations = c.creations ∧
      c'.storage.nextVaultId = c.storage.nextVaultId + 1 ∧ c'.storage.config = c.storage.config ∧
      c'.storage.vaults = c.storage.vaults.insert c.storage.nextVaultId ⟨sender, address⟩ ∧
      ∀ a ≠ address, c'.contracts a = c.contracts a := by
  obtain ⟨st', r', hreply, hvaults, hconfig, hnext⟩ := asked_registers valid c.storage sender
  refine ⟨⟨st', Function.update c.contracts address (some (.manager (creationRequest c.storage.config
    c.storage.nextVaultId sender none))), c.creations⟩,
    (ReflTransGen.single (.begun (createVault_asks room ⟨0, 0, ""⟩ sender none) sent rfl fresh)).tail (.ended hreply),
    rfl, hnext, hconfig, hvaults, ?_⟩
  intro a ha
  exact Function.update_of_ne ha ..

def founding : InstantiateMsg :=
  { admin := "admin", keeper := "keeper", dexFactory := "factory", vaultCodeId := 7, gasDenom := "uluna",
    keeperReward := u128 20, minimumGasReserve := u128 100, orderTimeoutSeconds := 86400, maxGridCount := 20,
    maxOrdersPerReconcile := 10, maxActiveOrdersPerVault := 40, feeRegistry := none, feeCollector := none }

lemma founded : ∃ c, Reachable Except.ok c ∧ c.creations = [] ∧ c.storage.nextVaultId = 1 ∧
    c.storage.config.admin = "admin" ∧ c.storage.config.pendingAdmin = none ∧ c.storage.vaults = ∅ ∧
    ∀ a, c.contracts a = none :=
  ⟨⟨_, fun _ => none, []⟩, ⟨_, ⟨⟨⟨"founder", []⟩, founding, _, rfl⟩, by simp, rfl⟩, .refl⟩, rfl, rfl, rfl, rfl, rfl,
    fun _ => rfl⟩

lemma founded_two : ∃ c, Reachable Except.ok c ∧ c.creations = [] ∧ c.storage.nextVaultId = 3 ∧
    c.storage.config.admin = "admin" ∧ c.storage.config.pendingAdmin = none ∧
    c.storage.vaults[1]? = some ⟨"alice", "vault 1"⟩ ∧ c.storage.vaults[2]? = some ⟨"bob", "vault 2"⟩ ∧
    c.contracts "vault 3" = none := by
  obtain ⟨c₀, ⟨c, hopening, hrun⟩, hcalm, hnext, hadmin, hpending, -, hnone⟩ := founded
  have hroom : c₀.storage.nextVaultId + 1 < 2 ^ 64 := by omega
  obtain ⟨c₁, hrun₁, hcalm₁, hnext₁, hconfig₁, hvaults₁, hnone₁⟩ :=
    creates (fun _ => True) hroom "alice" trivial rfl (hnone "vault 1")
  have hroom₁ : c₁.storage.nextVaultId + 1 < 2 ^ 64 := by omega
  have hfresh : c₁.contracts "vault 2" = none := by
    rw [hnone₁ _ (by decide), hnone]
  obtain ⟨c₂, hrun₂, hcalm₂, hnext₂, hconfig₂, hvaults₂, hnone₂⟩ :=
    creates (fun _ => True) hroom₁ "bob" trivial rfl hfresh
  refine ⟨c₂, ⟨c, hopening, (hrun.trans hrun₁).trans hrun₂⟩, ?_, ?_, ?_, ?_, ?_, ?_, ?_⟩
  · rw [hcalm₂, hcalm₁, hcalm]
  · rw [hnext₂, hnext₁, hnext]
  · rw [hconfig₂, hconfig₁, hadmin]
  · rw [hconfig₂, hconfig₁, hpending]
  · rw [hvaults₂, hvaults₁, lookup_insert, lookup_insert, if_neg (by omega), if_pos hnext]
  · rw [hvaults₂, lookup_insert, if_pos (by omega)]
  · rw [hnone₂ _ (by decide), hnone₁ _ (by decide), hnone]

/-- Between transactions, the vaults registered are exactly the contracts that the manager created, each under the
id and the owner it was asked for, with ids from 1 on without a gap. -/
theorem register_exact (addr : ∀ s a, addrValidate s = .ok a → a = s) (h : Reachable addrValidate c)
    (settled : c.creations = []) :
    c.storage.pendingVaults = ∅ ∧
      (∀ id : ℕ, (∃ v, c.storage.vaults[id]? = some v) ↔ 1 ≤ id ∧ id < c.storage.nextVaultId) ∧
      (∀ (id : ℕ) owner address, c.storage.vaults[id]? = some ⟨owner, address⟩ ↔
        ∃ request, c.contracts address = some (.manager request) ∧ request.id = id ∧ requestOwner request = owner) ∧
      (∀ (id id' : ℕ) v v', c.storage.vaults[id]? = some v → c.storage.vaults[id']? = some v' →
        v.address = v'.address → id = id') ∧
      ∀ address request, c.contracts address = some (.manager request) → Requested c.storage.config request := by
  have s := h.sound addr
  have hregistered : ∀ (id : ℕ) owner address, c.storage.vaults[id]? = some ⟨owner, address⟩ ↔
      ∃ request, c.contracts address = some (.manager request) ∧ request.id = id ∧ requestOwner request = owner := by
    intro id owner address
    rw [s.registered]
    simp [settled]
  refine ⟨?_, ?_, hregistered, ?_, s.requested⟩
  · apply eq_empty_of_lookup
    intro id
    by_contra hsome
    obtain ⟨p, hp⟩ := Option.ne_none_iff_exists'.mp hsome
    obtain ⟨creation, hmem, -⟩ := s.pending id p hp
    rw [settled] at hmem
    cases hmem
  · intro id
    rw [← s.numbered id]
    simp [settled]
  · intro id id' v v' hv hv' heq
    obtain ⟨request, hrequest, hid, -⟩ := (hregistered id v.owner v.address).mp hv
    obtain ⟨request', hrequest', hid', -⟩ := (hregistered id' v'.owner v'.address).mp hv'
    rw [heq, hrequest'] at hrequest
    cases hrequest
    exact hid.symm.trans hid'

theorem register_exact_two : ∃ c, Reachable Except.ok c ∧ c.storage.vaults[2]? = some ⟨"bob", "vault 2"⟩ ∧
    c.storage.pendingVaults = ∅ ∧ ∀ id : ℕ, (∃ v, c.storage.vaults[id]? = some v) ↔ 1 ≤ id ∧ id < 3 := by
  obtain ⟨c, hreach, hcalm, hnext, -, -, -, hbob, -⟩ := founded_two
  obtain ⟨hpending, hids, -⟩ := register_exact (fun _ _ h => (Except.ok.inj h).symm) hreach hcalm
  rw [hnext] at hids
  exact ⟨c, hreach, hbob, hpending, hids⟩

/-- The answer lists the vaults of an owner, and no others, by increasing id. -/
theorem queryVaultsByOwner_exact (addr : ∀ s a, addrValidate s = .ok a → a = s) (h : Reachable addrValidate c)
    (owner : Addr) (known : addrValidate owner = .ok owner) :
    ∃ responses, queryVaultsByOwner addrValidate c.storage owner = .ok responses ∧
      (responses.map VaultResponse.vaultId).Pairwise (· < ·) ∧
      ∀ response, response ∈ responses ↔
        response.owner = owner ∧ queryVault c.storage response.vaultId = some response := by
  have s := h.sound addr
  refine ⟨(c.storage.ownedBy owner).toList.map fun entry => ⟨entry.1, owner, entry.2⟩, ?_, ?_, ?_⟩
  · simp only [queryVaultsByOwner, known, ok_bind]
  · rw [List.map_map, List.pairwise_map]
    exact ExtTreeMap.ordered_keys_toList.imp fun hlt => Nat.compare_eq_lt.mp hlt
  · rintro ⟨id, holder, address⟩
    have howned := s.owned owner id address
    simp only [List.mem_map, Prod.exists, VaultResponse.mk.injEq, queryVault, vaultResponse, Option.map_eq_some_iff]
    constructor
    · rintro ⟨id, a, hentry, rfl, rfl, rfl⟩
      exact ⟨rfl, ⟨_, _⟩, howned.mp (mem_toList_iff.mp hentry), trivial, rfl, rfl⟩
    · rintro ⟨rfl, v, hv, -, howner, haddress⟩
      obtain ⟨vowner, vaddress⟩ := v
      obtain rfl : vowner = holder := howner
      obtain rfl : vaddress = address := haddress
      exact ⟨id, vaddress, mem_toList_iff.mpr (howned.mpr hv), rfl, rfl, rfl⟩

theorem queryVaultsByOwner_exact_two : ∃ c responses, Reachable Except.ok c ∧
    queryVaultsByOwner Except.ok c.storage "bob" = .ok responses ∧ (⟨2, "bob", "vault 2"⟩ : VaultResponse) ∈ responses ∧
    (⟨1, "alice", "vault 1"⟩ : VaultResponse) ∉ responses := by
  obtain ⟨c, hreach, -, -, -, -, -, hbob, -⟩ := founded_two
  obtain ⟨responses, hquery, -, hmem⟩ :=
    queryVaultsByOwner_exact (fun _ _ h => (Except.ok.inj h).symm) hreach "bob" rfl
  refine ⟨c, responses, hreach, hquery, (hmem _).mpr ⟨rfl, ?_⟩, fun h => ?_⟩
  · simp [queryVault, hbob, vaultResponse]
  · exact absurd ((hmem _).mp h).1 (by decide)

variable (q env) in
/-- The manager takes the message whatever its configuration. The vault's own checks take the template in a build
without the `mainnet` feature; in one with it, just in case the template has the fee addresses that the build pins. And
the answer of the new vault is registered. -/
theorem createVault_accepted (mainnet : Option Vault.Pins) (addr : ∀ s a, addrValidate s = .ok a → a = s)
    (h : ReachableIn addrValidate mainnet.isSome c) (same : q.addrValidate = addrValidate)
    (room : c.storage.nextVaultId + 1 < 2 ^ 64) (sender address : Addr) (known : addrValidate sender = .ok sender)
    (valid : addrValidate address = .ok address) (label : Option String) :
    ∃ st r request, execute addrValidate env c.storage ⟨sender, []⟩ (.createVault label) = .ok (st, r) ∧
      r.messages = [request] ∧ request.id = c.storage.nextVaultId ∧
      ((∃ vst vr, Vault.instantiateIn mainnet q ⟨env.contract, request.msg.funds⟩ request.msg.msg.decoded =
          .ok (vst, vr) ∧ vr.messages = [] ∧ vst.config = vaultConfig c.storage.config sender) ↔
        Vault.Pinned mainnet c.storage.config.feeRegistry c.storage.config.feeCollector) ∧
      ∃ st' r', reply addrValidate st request.id (some address) = .ok (st', r') ∧
        st'.vaults = c.storage.vaults.insert c.storage.nextVaultId ⟨sender, address⟩ ∧
        st'.config = c.storage.config ∧ st'.nextVaultId = c.storage.nextVaultId + 1 := by
  have s := h.reachable.sound addr
  subst same
  refine ⟨_, _, _, createVault_asks room env sender label, rfl, rfl, ?_, asked_registers valid c.storage sender⟩
  simp only [Vault.instantiateIn_eq_ok]
  constructor
  · rintro ⟨vst, vr, ⟨-, hpinned⟩, -, hconfig⟩
    rwa [hconfig] at hpinned
  · intro hpinned
    exact ⟨_, _, ⟨vault_instantiates s.template known env.contract, hpinned⟩, rfl, rfl⟩

def pins : Vault.Pins := ⟨"registry", "collector", by decide⟩

lemma founded_pinned : ∃ c, ReachableIn Except.ok true c ∧ c.storage.nextVaultId = 1 ∧
    c.storage.config.feeRegistry = some "registry" ∧ c.storage.config.feeCollector = some "collector" :=
  ⟨⟨_, fun _ => none, []⟩, ⟨_, ⟨⟨⟨"founder", []⟩, { founding with
    feeRegistry := some "registry", feeCollector := some "collector" }, _, rfl⟩, by simp, rfl⟩, .refl⟩, rfl, rfl, rfl⟩

theorem createVault_accepted_third : (∃ c, Reachable Except.ok c ∧ c.storage.nextVaultId = 3 ∧
    ∃ st r, execute Except.ok ⟨0, 0, "manager"⟩ c.storage ⟨"carol", []⟩ (.createVault none) = .ok (st, r) ∧
      ∃ st' r', reply Except.ok st 3 (some "vault 3") = .ok (st', r') ∧
        st'.vaults = c.storage.vaults.insert 3 ⟨"carol", "vault 3"⟩) ∧
    ∃ c, ReachableIn Except.ok true c ∧ ∃ st r request,
      execute Except.ok ⟨0, 0, "manager"⟩ c.storage ⟨"carol", []⟩ (.createVault none) = .ok (st, r) ∧
      r.messages = [request] ∧ ∃ vst vr, Vault.instantiateIn (some pins) (OrderBook.querier OrderBook.opening)
        ⟨"manager", request.msg.funds⟩ request.msg.msg.decoded = .ok (vst, vr) := by
  constructor
  · obtain ⟨c, hreach, -, hnext, -⟩ := founded_two
    obtain ⟨st, r, request, hexec, -, hid, -, st', r', hreply, hvaults, -⟩ :=
      createVault_accepted (OrderBook.querier OrderBook.opening) ⟨0, 0, "manager"⟩ none
        (fun _ _ h => (Except.ok.inj h).symm) hreach rfl (by omega) "carol" "vault 3" rfl rfl none
    rw [hid, hnext] at hreply
    rw [hnext] at hvaults
    exact ⟨c, hreach, hnext, st, r, hexec, st', r', hreply, hvaults⟩
  · obtain ⟨c, hreach, hnext, hregistry, hcollector⟩ := founded_pinned
    obtain ⟨st, r, request, hexec, hmessages, -, hvault, -⟩ :=
      createVault_accepted (OrderBook.querier OrderBook.opening) ⟨0, 0, "manager"⟩ (some pins)
        (fun _ _ h => (Except.ok.inj h).symm) hreach rfl (by omega) "carol" "vault 1" rfl rfl none
    obtain ⟨vst, vr, hinst, -⟩ := hvault.mpr (by
      rintro _ ⟨⟩
      exact ⟨hregistry, hcollector⟩)
    exact ⟨c, hreach, st, r, request, hexec, hmessages, vst, vr, hinst⟩

end Creation

section Permanence

variable {senders : Addr → Prop}

lemma Step.keeps (s : Sound addrValidate c) (h : Step addrValidate senders c c') :
    terms c'.storage.config = terms c.storage.config ∧
      (∀ (id : ℕ) v, c.storage.vaults[id]? = some v → c'.storage.vaults[id]? = some v) ∧
      ∀ address origin, c.contracts address = some origin → c'.contracts address = some origin := by
  have hcontracts : ∀ {place : Addr} {new : Origin}, c.contracts place = none → ∀ address origin,
      c.contracts address = some origin → Function.update c.contracts place (some new) address = some origin := by
    intro place new fresh address origin horigin
    rw [Function.update_of_ne]
    · exact horigin
    · rintro rfl
      rw [fresh] at horigin
      cases horigin
  cases h with
  | revised h sent silent =>
    obtain ⟨label, -, -, -, hmessages⟩ | ⟨config, hrevised, rfl, -⟩ := execute_cases h
    · rw [hmessages] at silent
      cases silent
    · exact ⟨hrevised.terms, fun _ _ => id, fun _ _ => id⟩
  | begun h sent asked fresh =>
    obtain ⟨label, -, -, rfl, -⟩ | ⟨config, hrevised, rfl, -⟩ := execute_cases h
    · exact ⟨rfl, fun _ _ => id, hcontracts fresh⟩
    · exact ⟨hrevised.terms, fun _ _ => id, hcontracts fresh⟩
  | @ended st contracts creation creations st' r h =>
    obtain ⟨p, t, address, hp, -, -, rfl, -⟩ := reply_eq_ok.mp h
    obtain ⟨hpending, -, hfree⟩ := s.opened creation List.mem_cons_self
    cases hpending.symm.trans hp
    refine ⟨rfl, ?_, fun _ _ => id⟩
    intro id v hv
    rw [lookup_insert, if_neg]
    · exact hv
    · rintro rfl
      rw [hfree] at hv
      cases hv
  | elsewhere fresh => exact ⟨rfl, fun _ _ => id, hcontracts fresh⟩

lemma Step.config (h : Step addrValidate senders c c') (silent : ¬ senders c.storage.config.admin)
    (settled : c.storage.config.pendingAdmin = none) : c'.storage.config = c.storage.config := by
  have hrevised : ∀ {sender config}, senders sender → ¬ Revised addrValidate c.storage.config sender config := by
    intro sender config hsender hrevised
    cases hrevised with
    | updated admin => exact silent (admin ▸ hsender)
    | nominated admin => exact silent (admin ▸ hsender)
    | accepted nominee =>
      rw [settled] at nominee
      cases nominee
  cases h with
  | revised h sent silent =>
    obtain ⟨label, -, -, rfl, -⟩ | ⟨config, hchange, -, -⟩ := execute_cases h
    · rfl
    · exact absurd hchange (hrevised sent)
  | begun h sent asked fresh =>
    obtain ⟨label, -, -, rfl, -⟩ | ⟨config, hchange, -, -⟩ := execute_cases h
    · rfl
    · exact absurd hchange (hrevised sent)
  | ended h =>
    obtain ⟨p, t, address, -, -, -, rfl, -⟩ := reply_eq_ok.mp h
    rfl
  | elsewhere fresh => rfl

/-- A registered vault stays registered as it is, and what the manager asked for in creating it is a matter of record;
and while the admin sends nothing and nobody is nominated, no run changes the template. -/
theorem register_lasts (addr : ∀ s a, addrValidate s = .ok a → a = s) (h : Reachable addrValidate c)
    (run : ReflTransGen (Step addrValidate senders) c c') :
    terms c'.storage.config = terms c.storage.config ∧
      (∀ (id : ℕ) v, c.storage.vaults[id]? = some v → c'.storage.vaults[id]? = some v ∧
        ∃ request, c.contracts v.address = some (.manager request) ∧ c'.contracts v.address = some (.manager request)) ∧
      (¬ senders c.storage.config.admin → c.storage.config.pendingAdmin = none →
        c'.storage.config = c.storage.config) := by
  have s := h.sound addr
  have hrun : Sound addrValidate c' ∧ terms c'.storage.config = terms c.storage.config ∧
      (∀ (id : ℕ) v, c.storage.vaults[id]? = some v → c'.storage.vaults[id]? = some v) ∧
      (∀ address origin, c.contracts address = some origin → c'.contracts address = some origin) ∧
      (¬ senders c.storage.config.admin → c.storage.config.pendingAdmin = none →
        c'.storage.config = c.storage.config) := by
    induction run with
    | refl => exact ⟨s, rfl, fun _ _ => id, fun _ _ => id, fun _ _ => rfl⟩
    | tail _ hstep ih =>
      obtain ⟨s', hterms, hvaults, hcontracts, hconfig⟩ := ih
      obtain ⟨hterms', hvaults', hcontracts'⟩ := hstep.keeps s'
      refine ⟨s'.step addr hstep, hterms'.trans hterms, fun id v hv => hvaults' id v (hvaults id v hv),
        fun a o ho => hcontracts' a o (hcontracts a o ho), ?_⟩
      intro silent settled
      have hsame := hconfig silent settled
      rw [← hsame] at silent settled ⊢
      exact hstep.config silent settled
  obtain ⟨-, hterms, hvaults, hcontracts, hconfig⟩ := hrun
  refine ⟨hterms, ?_, hconfig⟩
  intro id v hv
  obtain ⟨request, hrequest, -⟩ := (s.registered id v.owner v.address).mp hv
  exact ⟨hvaults id v hv, request, hrequest, hcontracts _ _ hrequest⟩

theorem register_lasts_third : ∃ c c' : Chain, Reachable Except.ok c ∧ c'.storage.nextVaultId = 4 ∧
    c'.storage.vaults[2]? = some ⟨"bob", "vault 2"⟩ ∧ c'.storage.config = c.storage.config := by
  obtain ⟨c, hreach, -, hnext, hadmin, hpending, -, hbob, hfresh⟩ := founded_two
  obtain ⟨c', hrun, -, hnext', -⟩ :=
    creates (fun a => a ≠ "admin") (by omega) "carol" (by decide) rfl hfresh
  obtain ⟨-, hvaults, hconfig⟩ := register_lasts (fun _ _ h => (Except.ok.inj h).symm) hreach hrun
  exact ⟨c, c', hreach, by omega, (hvaults 2 _ hbob).1, hconfig (by simp [hadmin]) hpending⟩

end Permanence

end Cl8yDexBots.LimitGrid.ManagerRegister
