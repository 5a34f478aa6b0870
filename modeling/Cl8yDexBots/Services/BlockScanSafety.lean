import Cl8yDexBots.Services.BlockScan

/-! What the operator has indexed is one chain of blocks, whatever the node answers, wherever a scan stops and
whatever the keeper does in between. -/

namespace Cl8yDexBots.Services.BlockScanSafety

open Foundation.Checked Foundation.Durable Values Database BlockScan
open GridIndexer (Python Indexer Block Attrs)
open GridKeeper (Keeper Pass)

variable {py : Python} {ix : Scanner} {keeper : Keeper} {s s' : Store} {db db' : Db} {α : Type}

section Sparing

/-! The keeper and the refreshes of the orders leave the index of the chain alone. -/

def unattributed (e : RawEvent) : RawEvent := { e with reconciledBatch := none }

structure Spares (db db' : Db) : Prop where
  blocks : db'.blocks = db.blocks
  scanned : db'.scanned = db.scanned
  rawEvents : db'.rawEvents.map unattributed = db.rawEvents.map unattributed

def Sparing (s s' : Store) : Prop := s' = s ∨ Spares s.db s'.db ∧ s'.past = s.db :: s.past

lemma Spares.of_same (hblocks : db'.blocks = db.blocks) (hscanned : db'.scanned = db.scanned)
    (hraw : db'.rawEvents = db.rawEvents) : Spares db db' :=
  ⟨hblocks, hscanned, by rw [hraw]⟩

lemma Spares.trans {db₁ db₂ db₃ : Db} (h : Spares db₁ db₂) (h' : Spares db₂ db₃) : Spares db₁ db₃ :=
  ⟨h'.blocks.trans h.blocks, h'.scanned.trans h.scanned, h'.rawEvents.trans h.rawEvents⟩

variable {C : Type} {A : C → Type}

lemma select_spares (f : Db → α) : (select f : Script Store C A PyError α).Guarantees Sparing :=
  .update (fun _ => .inl rfl) fun _ => .ret _

lemma commit_spares {f : Db → Db} (h : ∀ db, Spares db (f db)) :
    (commit f : Script Store C A PyError Unit).Guarantees Sparing :=
  .modify fun s => .inr ⟨h s.db, rfl⟩

lemma transaction_spares {f : Db → Py (Db × α)} (h : ∀ db db' a, f db = .ok (db', a) → Spares db db') :
    (transaction f : Script Store C A PyError α).Guarantees Sparing := by
  apply Script.Guarantees.update
  · intro s
    cases hf : f s.db with
    | ok r => exact .inr ⟨h s.db r.1 r.2 hf, rfl⟩
    | error e => exact .inl rfl
  · intro s
    cases f s.db with
    | ok r => exact .ret r.2
    | error e => exact .raise e

lemma touch_spares (b : ℕ) (batch : Batch → Batch) (a : Option ℕ) (attempt : TxAttempt → TxAttempt) :
    Spares db (db.touch b batch a attempt) := .of_same rfl rfl rfl

open GridKeeper

lemma recordFailure_spares (b a : ℕ) (error : Json) (code : Option ℤ) (result : TxResultCode) :
    (recordFailure keeper b a error code result).Guarantees Sparing := by
  apply (select_spares _).bind
  intro failures
  apply (Script.Guarantees.ofExcept _).bind
  intro failures
  apply (Script.Guarantees.ask _).bind
  intro now
  apply transaction_spares
  intro db db' u h
  simp only [bind_eq_ok, Except.ok.injEq, Prod.mk.injEq] at h
  obtain ⟨_, -, _, -, rfl, -⟩ := h
  exact touch_spares ..

lemma reconcile_spares (b a : ℕ) (vault : String) (height : ℤ) (hash : Json) :
    Spares db (reconcile db b a vault height hash) := by
  refine ⟨rfl, rfl, ?_⟩
  have hsame : unattributed ∘ reconciled db b vault height = unattributed := by
    funext e
    simp only [Function.comp, reconciled]
    split <;> rfl
  calc (reconcile db b a vault height hash).rawEvents.map unattributed
      = db.rawEvents.map (unattributed ∘ reconciled db b vault height) := List.map_map
    _ = db.rawEvents.map unattributed := by rw [hsame]

lemma confirm_spares (b a : ℕ) (hash response : Json) : (confirm keeper b a hash response).Guarantees Sparing := by
  apply (Script.Guarantees.ofExcept _).bind
  intro height
  apply transaction_spares
  intro db db' u h
  simp only [bind_eq_ok, Except.ok.injEq, Prod.mk.injEq] at h
  obtain ⟨_, -, _, -, _, -, rfl, -⟩ := h
  exact reconcile_spares ..

lemma timeOut_spares (b a : ℕ) (error : String) : (timeOut b a error).Guarantees Sparing := by
  apply (commit_spares fun _ => touch_spares ..).bind
  exact fun _ => .ret _

lemma lose_spares (b : ℕ) (a : Option ℕ) (error : String) : (lose b a error).Guarantees Sparing := by
  apply (commit_spares fun _ => touch_spares ..).bind
  exact fun _ => .ret _

lemma deepEnough_spares (height : ℤ) : (deepEnough keeper height).Guarantees Sparing := by
  rw [deepEnough]
  split
  · apply (Script.Guarantees.ask _).bind
    intro latest
    cases latest with
    | ok latest => exact .ret _
    | error name => exact .raise _
  · exact .ret _

lemma pollOnce_spares (b a : ℕ) (hash : Json) {later : String → GridKeeper.Op Outcome}
    (hlater : ∀ error, (later error).Guarantees Sparing) :
    (pollOnce keeper b a hash later).Guarantees Sparing := by
  apply (Script.Guarantees.ask _).bind
  intro reply
  apply (Script.Guarantees.ofExcept _).bind
  intro found
  cases found with
  | none => exact hlater _
  | some found =>
    apply (deepEnough_spares _).bind
    intro deep
    cases deep with
    | false => exact hlater _
    | true =>
      simp only [Bool.not_true, Bool.false_eq_true, if_false]
      split
      · apply (Script.Guarantees.ofExcept _).bind
        intro reverted
        cases reverted with
        | true => exact (recordFailure_spares ..).bind fun _ => .ret _
        | false => exact (confirm_spares ..).bind fun _ => .ret _
      · apply (Script.Guarantees.ofExcept _).bind
        intro rawLog
        apply (Script.Guarantees.ofExcept _).bind
        intro log
        exact (recordFailure_spares ..).bind fun _ => .ret _

lemma poll_spares (b a : ℕ) (hash : Json) (rounds : ℕ) : (poll keeper b a hash rounds).Guarantees Sparing := by
  induction rounds with
  | zero => exact pollOnce_spares b a hash (timeOut_spares b a)
  | succ rounds ih => exact pollOnce_spares b a hash fun _ => ih

lemma accept_spares (b a : ℕ) (hash : Json) (code : ℤ) : (accept keeper b a hash code).Guarantees Sparing := by
  apply transaction_spares
  intro db db' u h
  simp only [bind_eq_ok] at h
  obtain ⟨_, -, _, -, h⟩ := h
  split at h <;> (cases h; exact touch_spares ..)

lemma received_spares (b a rounds : ℕ) (response : Json) :
    (received keeper b a rounds response).Guarantees Sparing := by
  apply (Script.Guarantees.ofExcept _).bind
  intro tx
  apply (Script.Guarantees.ofExcept _).bind
  intro result
  cases result with
  | error text => exact lose_spares ..
  | ok result =>
    apply (accept_spares ..).bind
    intro _
    split
    · apply (Script.Guarantees.ofExcept _).bind
      intro rawLog
      apply (Script.Guarantees.ofExcept _).bind
      intro log
      exact (recordFailure_spares ..).bind fun _ => .ret _
    · exact poll_spares ..

lemma attempt_spares (b rounds : ℕ) (signed : String) : (attempt keeper b rounds signed).Guarantees Sparing := by
  have hinsert : (transaction fun db => .ok ((db.insertAttempt ⟨b, .signed, .null, none⟩).touch b
      (fun row => { row with state := .signed, error := none }) none id, db.txAttempts.length) :
      GridKeeper.Op ℕ).Guarantees Sparing := by
    apply transaction_spares
    intro db db' a h
    cases h
    exact .of_same rfl rfl rfl
  apply hinsert.bind
  intro a
  apply (commit_spares fun _ => touch_spares ..).bind
  intro _
  apply (Script.Guarantees.ask _).bind
  intro response
  cases response with
  | error text => exact lose_spares ..
  | ok response => exact received_spares ..

lemma submit_spares (b rounds : ℕ) : (submit keeper b rounds).Guarantees Sparing := by
  apply (select_spares _).bind
  intro message
  apply (Script.Guarantees.ofExcept _).bind
  intro vault
  apply (Script.Guarantees.ask _).bind
  intro signed
  cases signed with
  | error text => exact (commit_spares fun _ => touch_spares ..).bind fun _ => .ret _
  | ok signed => exact attempt_spares ..

lemma backingOff_spares (batch : Batch) : (backingOff batch).Guarantees Sparing := by
  rw [backingOff]
  split
  · exact (Script.Guarantees.ask _).bind fun _ => .ret _
  · exact .ret _

lemma dispatch_spares (b rounds : ℕ) (batch : Batch) (latest : Option (ℕ × TxAttempt)) :
    (dispatch keeper b rounds batch latest).Guarantees Sparing := by
  rw [dispatch.eq_def]
  split
  · exact lose_spares ..
  · exact .ret _
  · split
    · split
      · exact poll_spares ..
      · exact submit_spares ..
    · exact submit_spares ..

lemma processBatch_spares (b rounds : ℕ) : (processBatch keeper b rounds).Guarantees Sparing := by
  apply (select_spares _).bind
  intro batch
  apply (Script.Guarantees.ofExcept _).bind
  intro batch
  split
  · exact .ret _
  · exact .ret _
  · apply (backingOff_spares batch).bind
    intro backoff
    cases backoff with
    | true => exact .ret _
    | false => exact (select_spares _).bind fun _ => dispatch_spares ..

lemma freezeBatch_spares {vault : String} {found : Option ℕ} (h : freezeBatch keeper vault db = .ok (db', found)) :
    Spares db db' := by
  simp only [freezeBatch] at h
  split at h
  · cases h
    exact .of_same rfl rfl rfl
  · split at h
    · cases h
      exact .of_same rfl rfl rfl
    · simp only [bind_eq_ok, Except.ok.injEq, Prod.mk.injEq] at h
      obtain ⟨db₁, hfold, rfl, -⟩ := h
      have hinserted := foldChecked_invariant (motive := fun db₂ _ => Spares db db₂) hfold (.of_same rfl rfl rfl)
      apply hinserted
      intro db₂ eventId _ db₃ h₃ hdb
      simp only [bind_eq_ok, ensure_eq_ok, exists_const, Except.ok.injEq] at h₃
      obtain ⟨-, rfl⟩ := h₃
      exact hdb.trans (.of_same rfl rfl rfl)

lemma verify_spares (reason : TxResultCode) (hash : Json) : (verify reason hash).Guarantees Sparing := by
  rw [verify]
  split
  · apply (Script.Guarantees.ofExcept _).bind
    intro _
    apply (Script.Guarantees.ask _).bind
    intro reply
    split
    · exact .raise _
    · exact .raise _
    · exact .ofExcept _
  · exact .ret _

lemma answered_spares {α : Type} (reply : Except String α) : (GridKeeper.answered reply).Guarantees Sparing := by
  cases reply with
  | ok a => exact .ret a
  | error name => exact .raise _

lemma resolveIntervention_spares (b : ℕ) (reason : TxResultCode) :
    (resolveIntervention b reason).Guarantees Sparing := by
  apply (select_spares _).bind
  intro row
  apply (Script.Guarantees.ofExcept _).bind
  rintro ⟨batch, hash⟩
  apply (Script.Guarantees.ofExcept _).bind
  intro _
  apply (Script.Guarantees.ofExcept _).bind
  intro _
  apply (verify_spares ..).bind
  intro _
  apply (Script.Guarantees.ask _).bind
  intro bot
  apply (answered_spares bot).bind
  intro _
  apply (Script.Guarantees.ask _).bind
  intro orders
  apply (answered_spares orders).bind
  intro _
  apply (Script.Guarantees.ask _).bind
  intro account
  apply (answered_spares account).bind
  intro _
  apply (Script.Guarantees.ask _).bind
  intro backup
  apply (answered_spares backup).bind
  intro _
  exact commit_spares fun _ => touch_spares ..

theorem pass_spares {p : GridKeeper.Op Unit} (h : Pass keeper p) : p.Guarantees Sparing := by
  cases h with
  | freezeBatch vault =>
    exact (transaction_spares fun _ _ _ h => freezeBatch_spares h).bind fun _ => .ret _
  | processBatch b rounds => exact (processBatch_spares b rounds).bind fun _ => .ret _
  | resolveIntervention b reason => exact resolveIntervention_spares b reason

lemma refreshOrders_spares {vault pair : String} {current : List (ℕ × String)}
    (h : GridIndexer.refreshOrders vault pair current db = .ok db') : Spares db db' := by
  simp only [GridIndexer.refreshOrders, bind_eq_ok, Except.ok.injEq] at h
  obtain ⟨db₁, hfold, rfl⟩ := h
  have hentered : Spares db db₁ := by
    apply foldChecked_invariant (motive := fun db₂ _ => Spares db db₂) hfold
    · split <;> exact .of_same rfl rfl rfl
    · intro db₂ order _ db₃ h₃ hdb
      simp only [GridIndexer.refreshOrder, bind_eq_ok, ensure_eq_ok, exists_const, Except.ok.injEq] at h₃
      obtain ⟨_, -, -, rfl⟩ := h₃
      exact hdb.trans (.of_same rfl rfl rfl)
  exact hentered.trans (.of_same rfl rfl rfl)

lemma registerVaults_spares (ix : Indexer) (db : Db) : Spares db (GridIndexer.registerVaults ix db) := by
  rw [GridIndexer.registerVaults]
  induction ix.vaults generalizing db with
  | nil => exact .of_same rfl rfl rfl
  | cons address rest ih =>
    apply Spares.trans _ (ih _)
    exact .of_same rfl rfl rfl

end Sparing

/-- What the rest of the operator does to the database in one step. -/
inductive Others (keeper : Keeper) (s : Store) : Store → Prop
  | keeping {p : GridKeeper.Op Unit} {g : Store → Store} (member : Pass keeper p) (h : Script.Makes g p) :
      Others keeper s (g s)
  | refreshing {vault pair : String} {current : List (ℕ × String)} {db' : Db}
      (h : GridIndexer.refreshOrders vault pair current s.db = .ok db') : Others keeper s ⟨db', s.db :: s.past⟩
  | registering (ix : Indexer) : Others keeper s ⟨GridIndexer.registerVaults ix s.db, s.db :: s.past⟩

theorem Others.sparing (h : Others keeper s s') : Sparing s s' := by
  cases h with
  | keeping member h => exact (pass_spares member).step _ h s
  | refreshing h => exact .inr ⟨refreshOrders_spares h, rfl⟩
  | registering ix => exact .inr ⟨registerVaults_spares ix s.db, rfl⟩

section Ingesting

/-! One block: what its transactions leave in the tables. -/

structure Ingests (chainId : String) (height : ℤ) (hashes : List String) (db db' : Db) : Prop where
  blocks : db'.blocks = db.blocks
  scanned : db'.scanned = db.scanned
  rawEvents : ∃ new, db'.rawEvents = db.rawEvents ++ new ∧
    ∀ e ∈ new, e.chainId = chainId ∧ e.height = height ∧ e.txHash ∈ hashes

variable {chainId : String} {height : ℤ} {hashes : List String}

lemma Ingests.of_same (hblocks : db'.blocks = db.blocks) (hscanned : db'.scanned = db.scanned)
    (hraw : db'.rawEvents = db.rawEvents) : Ingests chainId height hashes db db' :=
  ⟨hblocks, hscanned, [], by simp [hraw]⟩

lemma Ingests.trans {db₁ db₂ db₃ : Db} (h : Ingests chainId height hashes db₁ db₂)
    (h' : Ingests chainId height hashes db₂ db₃) : Ingests chainId height hashes db₁ db₃ := by
  obtain ⟨new, hraw, hnew⟩ := h.rawEvents
  obtain ⟨new', hraw', hnew'⟩ := h'.rawEvents
  refine ⟨h'.blocks.trans h.blocks, h'.scanned.trans h.scanned, new ++ new', ?_, ?_⟩
  · rw [hraw', hraw, List.append_assoc]
  · intro e he
    rcases List.mem_append.mp he with he | he
    · exact hnew e he
    · exact hnew' e he

lemma foldChecked_ingests {β : Type} {step : Db → β → Py Db} {as : List β}
    (hstep : ∀ db, ∀ a ∈ as, ∀ db', step db a = .ok db' → Ingests chainId height hashes db db')
    (h : foldChecked step db as = .ok db') : Ingests chainId height hashes db db' := by
  have hrest := foldChecked_invariant h
    (motive := fun db₁ rest => rest ⊆ as ∧ Ingests chainId height hashes db db₁)
    ⟨List.Subset.refl as, .of_same rfl rfl rfl⟩
  apply (hrest _).2
  intro db₁ a rest db₂ h₂ ⟨hsub, hdb⟩
  exact ⟨fun x hx => hsub (List.mem_cons_of_mem a hx), hdb.trans (hstep db₁ a (hsub List.mem_cons_self) db₂ h₂)⟩

lemma placement_ingests {vault : String} {knownPair : Option String} {attrs : Attrs}
    (h : GridIndexer.placement vault knownPair db attrs = .ok db') : Ingests chainId height hashes db db' := by
  simp only [GridIndexer.placement] at h
  split at h
  · split at h
    · simp only [GridIndexer.recordOrder, bind_eq_ok, ensure_eq_ok, exists_const] at h
      obtain ⟨_, -, -, h⟩ := h
      split at h <;> (cases h; exact .of_same rfl rfl rfl)
    · cases h
      exact .of_same rfl rfl rfl
  · cases h
    exact .of_same rfl rfl rfl

lemma insertRawEvent_ingests {e : RawEvent} (h : e.chainId = chainId ∧ e.height = height ∧ e.txHash ∈ hashes) :
    Ingests chainId height hashes db (db.insertRawEvent e) := by
  rw [Db.insertRawEvent]
  split
  · exact .of_same rfl rfl rfl
  · exact ⟨rfl, rfl, [e], rfl, by simpa using h⟩

lemma fill_ingests {ix : Indexer} {txHash : String} {parsed : Attrs × ℕ} (hhash : txHash ∈ hashes)
    (h : GridIndexer.fill ix height txHash db parsed = .ok db') : Ingests ix.chainId height hashes db db' := by
  simp only [GridIndexer.fill] at h
  split at h
  · cases h
    exact .of_same rfl rfl rfl
  · split at h
    · split at h
      · cases h
        exact .of_same rfl rfl rfl
      · simp only [bind_eq_ok] at h
        obtain ⟨_, -, h⟩ := h
        split at h
        · split at h
          · cases h
            exact .of_same rfl rfl rfl
          · simp only [bind_eq_ok, ensure_eq_ok, exists_const] at h
            obtain ⟨side, -, -, _, -, _, -, h⟩ := h
            cases h
            refine Ingests.trans ?_ (insertRawEvent_ingests ?_)
            · exact .of_same rfl rfl rfl
            · exact ⟨rfl, rfl, hhash⟩
        · cases h
          exact .of_same rfl rfl rfl
    · cases h
      exact .of_same rfl rfl rfl

lemma discovery_ingests {ix : Indexer} {attrs : Attrs} :
    Ingests chainId height hashes db (GridIndexer.discovery ix db attrs) := by
  simp only [GridIndexer.discovery]
  split
  · exact .of_same rfl rfl rfl
  · split
    · split <;> exact .of_same rfl rfl rfl
    · exact .of_same rfl rfl rfl

lemma ingestTx_ingests {ix : Indexer} {tx : String × Json} (hhash : tx.1 ∈ hashes)
    (h : GridIndexer.ingestTx py ix height db tx = .ok db') : Ingests ix.chainId height hashes db db' := by
  simp only [GridIndexer.ingestTx, bind_eq_ok] at h
  obtain ⟨_, -, _, -, h⟩ := h
  split at h
  · cases h
    exact .of_same rfl rfl rfl
  · simp only [bind_eq_ok, Except.ok.injEq] at h
    obtain ⟨_, -, _, -, parsed, -, db₁, hplaced, db₂, hfilled, rfl⟩ := h
    have h₁ : Ingests ix.chainId height hashes db db₁ := by
      simp only [GridIndexer.placements] at hplaced
      split at hplaced
      · exact foldChecked_ingests (fun _ _ _ _ h => placement_ingests h) hplaced
      · cases hplaced
        exact .of_same rfl rfl rfl
    have h₂ : Ingests ix.chainId height hashes db₁ db₂ :=
      foldChecked_ingests (fun _ _ _ _ h => fill_ingests hhash h) hfilled
    have h₃ : ∀ (attrs : List Attrs) db₂,
        Ingests ix.chainId height hashes db₂ (attrs.foldl (GridIndexer.discovery ix) db₂) := by
      intro attrs
      induction attrs with
      | nil => exact fun _ => .of_same rfl rfl rfl
      | cons attrs rest ih => exact fun db₂ => discovery_ingests.trans (ih _)
    exact h₁.trans (h₂.trans (h₃ parsed db₂))

end Ingesting

abbrev Log := List (Event Command Reply)

lemma text_of_isText {v : Json} {s : String} (h : v.isText s = true) : v = .str s := by
  cases v <;> simp_all [Json.isText, Json.text?]

def height (ix : Scanner) (i : ℕ) : ℤ := ix.deploymentHeight + i

/-- The tables hold these blocks, from the deployment height on, and nothing that is not theirs. Of a block whose hash
is null they hold neither a row nor a fill. -/
structure Stored (py : Python) (ix : Scanner) (db : Db) (bs : List Block) : Prop where
  blocks : ∀ i : ℕ, db.blocks ix.chainId (height ix i) = bs[i]?.bind (Block.row py)
  others : ∀ chainId h, chainId ≠ ix.chainId ∨ h < ix.deploymentHeight → db.blocks chainId h = none
  scanned : db.scanned = bs.getLast?.map Block.height
  events : ∀ e ∈ db.rawEvents, e.chainId = ix.chainId ∧
    ∃ b ∈ bs, (b.row py).isSome = true ∧ e.height = b.height ∧ e.txHash ∈ b.txs
  ordered : db.rawEvents.Pairwise fun e e' => e.height ≤ e'.height

def Fetched (ix : Scanner) (l : Log) (b : Block) : Prop :=
  ∃ answer results, .answered (.block b.height) (.ok answer) ∈ l ∧
    .answered (.blockResults b.height) (.ok results) ∈ l ∧ readBlock ix b.height answer results = .ok b

def Final (ix : Scanner) (l : Log) (b : Block) : Prop :=
  ∃ latest, .answered .latestHeight (.ok latest) ∈ l ∧ b.height + ix.finalityDepth ≤ latest

/-- The next block names this one as its parent, unless it names none or this one has no row. -/
def Links (py : Python) (b b' : Block) : Prop :=
  ∀ hash, b.row py = some hash → b'.parentHash.truthy = true → b'.parentHash = .str hash

/-- A database that was committed, and the next one, which has a block more. -/
def Ingested (py : Python) (ix : Scanner) (s : Store) (b : Block) : Prop :=
  ∃ before ∈ s.past, ∃ after ∈ s.db :: s.past, GridIndexer.scanHeight py ix.toIndexer b before = .ok after

/-- The index is the chain `bs`: fetched block by block, each one final when it was, linked to the one before
it and ingested as a whole; and it only ever grew. -/
structure Chain (py : Python) (ix : Scanner) (s : Store) (l : Log) (bs : List Block) : Prop where
  heights : ∀ (i : ℕ) b, bs[i]? = some b → b.height = height ix i
  stored : Stored py ix s.db bs
  linked : bs.IsChain (Links py)
  fetched : ∀ b ∈ bs, Fetched ix l b
  final : ∀ b ∈ bs, Final ix l b
  ingested : ∀ b ∈ bs, Ingested py ix s b
  past : ∀ old ∈ s.past, ∃ n, Stored py ix old (bs.take n)

variable {l : Log} {bs : List Block} {b : Block}

lemma Fetched.mono {e : Event Command Reply} (h : Fetched ix l b) : Fetched ix (e :: l) b := by
  obtain ⟨answer, results, hanswer, hresults, hread⟩ := h
  exact ⟨answer, results, List.mem_cons_of_mem _ hanswer, List.mem_cons_of_mem _ hresults, hread⟩

lemma Final.mono {e : Event Command Reply} (h : Final ix l b) : Final ix (e :: l) b := by
  obtain ⟨latest, hlatest, hle⟩ := h
  exact ⟨latest, List.mem_cons_of_mem _ hlatest, hle⟩

lemma Chain.mono {e : Event Command Reply} (h : Chain py ix s l bs) : Chain py ix s (e :: l) bs where
  heights := h.heights
  stored := h.stored
  linked := h.linked
  fetched b hb := (h.fetched b hb).mono
  final b hb := (h.final b hb).mono
  ingested := h.ingested
  past := h.past

lemma Spares.stored (hspares : Spares db db') (h : Stored py ix db bs) : Stored py ix db' bs where
  blocks := hspares.blocks ▸ h.blocks
  others := hspares.blocks ▸ h.others
  scanned := hspares.scanned ▸ h.scanned
  events := by
    intro e he
    have hmem : unattributed e ∈ db.rawEvents.map unattributed := by
      rw [← hspares.rawEvents]
      exact List.mem_map_of_mem he
    obtain ⟨e', he', heq⟩ := List.mem_map.mp hmem
    have h' := h.events e' he'
    simp only [unattributed, RawEvent.mk.injEq] at heq
    obtain ⟨hchain, hheight, htx, -⟩ := heq
    rwa [hchain, hheight, htx] at h'
  ordered := by
    have hmap : ∀ db : Db, (db.rawEvents.map unattributed).Pairwise (fun e e' => e.height ≤ e'.height) ↔
        db.rawEvents.Pairwise fun e e' => e.height ≤ e'.height := fun db => List.pairwise_map
    rw [← hmap, hspares.rawEvents, hmap]
    exact h.ordered

lemma Ingested.later (h : Ingested py ix s b) (db : Db) : Ingested py ix ⟨db, s.db :: s.past⟩ b := by
  obtain ⟨before, hbefore, after, hafter, hscan⟩ := h
  exact ⟨before, List.mem_cons_of_mem _ hbefore, after, List.mem_cons_of_mem _ hafter, hscan⟩

theorem Chain.sparing (h : Chain py ix s l bs) (hspares : Sparing s s') : Chain py ix s' l bs := by
  rcases hspares with rfl | ⟨hspares, hpast⟩
  · exact h
  · have hnext : s' = ⟨s'.db, s.db :: s.past⟩ := by rw [← hpast]
    rw [hnext]
    refine ⟨h.heights, hspares.stored h.stored, h.linked, h.fetched, h.final, fun b hb => (h.ingested b hb).later _, ?_⟩
    intro old hold
    rcases List.mem_cons.mp hold with rfl | hold
    · exact ⟨bs.length, by rw [List.take_length]; exact h.stored⟩
    · exact h.past old hold

lemma height_inj {i j : ℕ} (h : height ix i = height ix j) : i = j := by
  simp only [height] at h
  omega

lemma Chain.tip_height (h : Chain py ix s l bs) (hlast : bs.getLast? = some b) :
    b.height = ix.deploymentHeight + bs.length - 1 := by
  obtain ⟨front, rfl⟩ := List.getLast?_eq_some_iff.mp hlast
  have hb := h.heights front.length b (by simp)
  simp only [hb, height, List.length_append, List.length_singleton, Nat.cast_add, Nat.cast_one]
  ring

lemma scanHeight_spec (h : GridIndexer.scanHeight py ix.toIndexer b db = .ok db') :
    (∀ hash, db.blocks ix.chainId (b.height - 1) = some hash → b.parentHash.truthy = true →
      b.parentHash = .str hash) ∧
    db'.scanned = some b.height ∧
    (∀ chain h, db'.blocks chain h = if chain = ix.chainId ∧ h = b.height then
      (db.blocks ix.chainId b.height).or (b.row py) else db.blocks chain h) ∧
    ∃ new, db'.rawEvents = db.rawEvents ++ new ∧ ∀ e ∈ new, e.chainId = ix.chainId ∧ (b.row py).isSome = true ∧
      e.height = b.height ∧ e.txHash ∈ b.txs := by
  obtain ⟨haccepted, ingested, hfold, rfl⟩ := GridIndexer.scanHeight_eq_ok.mp h
  have hingests : Ingests ix.chainId b.height b.txs (db.insertBlock ix.chainId b.height (b.row py)) ingested := by
    apply foldChecked_ingests _ hfold
    intro db₂ tx htx db₃ h₃
    exact ingestTx_ingests (List.of_mem_zip htx).1 h₃
  refine ⟨?_, rfl, ?_, ?_⟩
  · intro hash hhash htruthy
    exact text_of_isText (haccepted.descends hash hhash htruthy)
  · intro chain h
    simp only [hingests.blocks, Db.insertBlock]
    split
    · rename_i hat
      rw [hat.1, hat.2]
    · rfl
  · obtain ⟨new, hraw, hnew⟩ := hingests.rawEvents
    cases hrow : b.row py with
    | none => exact ⟨[], by simp, by simp⟩
    | some hash => exact ⟨new, hraw, fun e he => ⟨(hnew e he).1, rfl, (hnew e he).2⟩⟩

lemma Stored.next (h : Stored py ix db bs) (hheights : ∀ (i : ℕ) b, bs[i]? = some b → b.height = height ix i)
    (hheight : b.height = height ix bs.length) (hscan : GridIndexer.scanHeight py ix.toIndexer b db = .ok db') :
    Stored py ix db' (bs ++ [b]) := by
  obtain ⟨-, hscanned, htable, new, hrows, hnew⟩ := scanHeight_spec hscan
  refine ⟨?_, ?_, ?_, ?_, ?_⟩
  · intro i
    simp only [htable, hheight, true_and]
    by_cases hi : height ix i = height ix bs.length
    · rw [if_pos hi, h.blocks, height_inj hi]
      simp
    · have hne : i ≠ bs.length := fun heq => hi (heq ▸ rfl)
      rw [if_neg hi, h.blocks i]
      rcases Nat.lt_or_ge i bs.length with hlt | hge
      · rw [List.getElem?_append_left hlt]
      · rw [List.getElem?_eq_none hge, List.getElem?_eq_none]
        simp only [List.length_append, List.length_singleton]
        omega
  · intro chain h₀ hother
    rw [htable, if_neg, h.others chain h₀ hother]
    rintro ⟨rfl, rfl⟩
    rcases hother with hne | hlt
    · exact hne rfl
    · rw [hheight, height] at hlt
      omega
  · simp [hscanned]
  · intro e he
    rw [hrows] at he
    rcases List.mem_append.mp he with he | he
    · obtain ⟨hchain, b', hb', hof⟩ := h.events e he
      exact ⟨hchain, b', List.mem_append_left _ hb', hof⟩
    · obtain ⟨hchain, hof⟩ := hnew e he
      exact ⟨hchain, b, by simp, hof⟩
  · rw [hrows, List.pairwise_append]
    refine ⟨h.ordered, ?_, ?_⟩
    · exact List.pairwise_of_forall_mem_list fun e he e' he' =>
        ((hnew e he).2.2.1.trans (hnew e' he').2.2.1.symm).le
    · intro e he e' he'
      obtain ⟨-, b', hb', -, hof, -⟩ := h.events e he
      obtain ⟨i, hi⟩ := List.getElem?_of_mem hb'
      have hlt : i < bs.length := (List.getElem?_eq_some_iff.mp hi).1
      rw [hof, hheights i b' hi, (hnew e' he').2.2.1, hheight, height, height]
      omega

theorem Chain.next (h : Chain py ix s l bs) (hheight : b.height = height ix bs.length) (hfetched : Fetched ix l b)
    (hfinal : Final ix l b) (hscan : GridIndexer.scanHeight py ix.toIndexer b s.db = .ok db') :
    Chain py ix ⟨db', s.db :: s.past⟩ l (bs ++ [b]) := by
  refine ⟨?_, h.stored.next h.heights hheight hscan, ?_, ?_, ?_, ?_, ?_⟩
  · intro i b' hb'
    rcases Nat.lt_or_ge i bs.length with hlt | hge
    · rw [List.getElem?_append_left hlt] at hb'
      exact h.heights i b' hb'
    · have hlast : i = bs.length := by
        have hlt := (List.getElem?_eq_some_iff.mp hb').1
        simp only [List.length_append, List.length_singleton] at hlt
        omega
      subst hlast
      have hsame : b = b' := by simpa using hb'
      rw [← hsame, hheight]
  · rw [List.isChain_append]
    refine ⟨h.linked, .singleton b, ?_⟩
    intro tip htip b' hb'
    have hsame : b = b' := by simpa using hb'
    rw [← hsame]
    have hbefore : b.height - 1 = tip.height := by
      rw [h.tip_height htip, hheight, height]
    intro hash hrow
    have hstored : s.db.blocks ix.chainId (b.height - 1) = some hash := by
      obtain ⟨front, hfront⟩ := List.getLast?_eq_some_iff.mp htip
      have hat : bs[front.length]? = some tip := by simp [hfront]
      rw [hbefore, h.heights front.length tip hat, h.stored.blocks, hat]
      exact hrow
    exact (scanHeight_spec hscan).1 hash hstored
  · intro b' hb'
    rcases List.mem_append.mp hb' with hb' | hb'
    · exact h.fetched b' hb'
    · rwa [List.mem_singleton.mp hb']
  · intro b' hb'
    rcases List.mem_append.mp hb' with hb' | hb'
    · exact h.final b' hb'
    · rwa [List.mem_singleton.mp hb']
  · intro b' hb'
    rcases List.mem_append.mp hb' with hb' | hb'
    · exact (h.ingested b' hb').later db'
    · rw [List.mem_singleton.mp hb']
      exact ⟨s.db, List.mem_cons_self, db', List.mem_cons_self, hscan⟩
  · intro old hold
    rcases List.mem_cons.mp hold with rfl | hold
    · exact ⟨bs.length, by rw [List.take_left]; exact h.stored⟩
    · obtain ⟨n, hn⟩ := h.past old hold
      refine ⟨min n bs.length, ?_⟩
      rw [List.take_append_of_le_length (Nat.min_le_right _ _), ← List.take_take, List.take_length]
      exact hn

section Scans

/-! One scan, from a log `l₀` on which the chain was `bs`. -/

variable {l₀ : Log} {new : List Block}

/-- The node has shown the indexed tip again since, under the hash that it has there. -/
def Confirmed (py : Python) (bs : List Block) (l₀ l : Log) : Prop :=
  ∃ fresh, l = fresh ++ l₀ ∧ ∀ tip ∈ bs.getLast?, ∃ answer hash,
    .answered (.block tip.height) (.ok answer) ∈ fresh ∧ tip.row py = some hash ∧ blockHash answer = .ok (.str hash)

structure Grown (py : Python) (ix : Scanner) (bs : List Block) (l₀ : Log) (new : List Block) (s : Store) (l : Log) :
    Prop where
  chain : Chain py ix s l (bs ++ new)
  log : l₀ <:+ l
  confirmed : new ≠ [] → Confirmed py bs l₀ l

def Growing (py : Python) (ix : Scanner) (bs : List Block) (l₀ : Log) (s : Store) (l : Log) : Prop :=
  ∃ new, Grown py ix bs l₀ new s l

lemma Confirmed.mono {e : Event Command Reply} (h : Confirmed py bs l₀ l) : Confirmed py bs l₀ (e :: l) := by
  obtain ⟨fresh, rfl, htip⟩ := h
  refine ⟨e :: fresh, rfl, fun tip hlast => ?_⟩
  obtain ⟨answer, hash, hmem, hhash⟩ := htip tip hlast
  exact ⟨answer, hash, List.mem_cons_of_mem _ hmem, hhash⟩

lemma Grown.mono {e : Event Command Reply} (h : Grown py ix bs l₀ new s l) : Grown py ix bs l₀ new s (e :: l) :=
  ⟨h.chain.mono, h.log.trans (List.suffix_cons _ _), fun hne => (h.confirmed hne).mono⟩

lemma grown_stable : Stable (Others keeper) (Grown py ix bs l₀ new) :=
  fun _ _ _ h hstep => ⟨h.chain.sparing hstep.sparing, h.log, h.confirmed⟩

lemma growing_stable : Stable (Others keeper) (Growing py ix bs l₀) := by
  rintro s s' l ⟨new, h⟩ hstep
  exact ⟨new, grown_stable s s' l h hstep⟩

abbrev Scans (py : Python) (ix : Scanner) (keeper : Keeper) (bs : List Block) (l₀ : Log) (p : Op α)
    (post : Except PyError α → Store → Log → Prop) (s : Store) (l : Log) : Prop :=
  wp (Others keeper) (Growing py ix bs l₀) p post s l

variable {β : Type} {post : Except PyError α → Store → Log → Prop}
  (herror : ∀ e s l, Growing py ix bs l₀ s l → post (.error e) s l)

section Rules

variable (h : Grown py ix bs l₀ new s l)
include h

lemma select_scans {f : Db → β} {k : β → Op α}
    (hk : ∀ s, Grown py ix bs l₀ new s l → Scans py ix keeper bs l₀ (k (f s.db)) post s l) :
    Scans py ix keeper bs l₀ (select f >>= k) post s l := by
  apply grown_stable.wp_update h
  intro s hs
  exact ⟨⟨new, hs⟩, hk s hs⟩

lemma commit_scans {f : Db → Db} {k : Unit → Op α} (hf : ∀ db, Spares db (f db))
    (hk : ∀ s, Grown py ix bs l₀ new s l → Scans py ix keeper bs l₀ (k ()) post s l) :
    Scans py ix keeper bs l₀ (commit f >>= k) post s l := by
  apply grown_stable.wp_update h
  intro s hs
  have hnext : Grown py ix bs l₀ new ⟨f s.db, s.db :: s.past⟩ l :=
    ⟨hs.chain.sparing (.inr ⟨hf s.db, rfl⟩), hs.log, hs.confirmed⟩
  exact ⟨⟨new, hnext⟩, hk _ hnext⟩

lemma ask_scans {c : Command} {k : Reply c → Op α}
    (hk : ∀ s r, Grown py ix bs l₀ new s (.answered c r :: .started c :: l) →
      Scans py ix keeper bs l₀ (k r) post s (.answered c r :: .started c :: l)) :
    Scans py ix keeper bs l₀ (Script.ask c >>= k) post s l := by
  apply grown_stable.wp_call h
  · exact fun s hs => ⟨new, hs.mono⟩
  · exact fun s r hs => ⟨new, hs.mono.mono⟩
  · exact fun s r hs => hk s r hs.mono.mono

include herror

lemma raise_scans {e : PyError} : Scans py ix keeper bs l₀ (Script.raise e) post s l :=
  grown_stable.wp_raise h fun s hs => herror e s l ⟨new, hs⟩

lemma ofExcept_scans {x : Py β} {k : β → Op α}
    (hk : ∀ v, x = .ok v → Scans py ix keeper bs l₀ (k v) post s l) :
    Scans py ix keeper bs l₀ (Script.ofExcept x >>= k) post s l := by
  cases x with
  | ok v => exact hk v rfl
  | error e => exact raise_scans herror h

lemma transaction_scans {f : Db → Py (Db × β)} {k : β → Op α} (hk : ∀ s db r, Grown py ix bs l₀ new s l →
      f s.db = .ok (db, r) → ∃ more, Grown py ix bs l₀ more ⟨db, s.db :: s.past⟩ l ∧
        Scans py ix keeper bs l₀ (k r) post ⟨db, s.db :: s.past⟩ l) :
    Scans py ix keeper bs l₀ (transaction f >>= k) post s l := by
  apply grown_stable.wp_update h
  intro s hs
  cases hf : f s.db with
  | ok r =>
    obtain ⟨more, hnext, hrest⟩ := hk s r.1 r.2 hs hf
    simp only [hf]
    exact ⟨⟨more, hnext⟩, hrest⟩
  | error e =>
    simp only [hf]
    exact ⟨⟨new, hs⟩, raise_scans herror hs⟩

end Rules

lemma registerVaults_scans {vaults : List String} {k : Unit → Op α} (h : Grown py ix bs l₀ new s l)
    (hk : ∀ s, Grown py ix bs l₀ new s l → Scans py ix keeper bs l₀ (k ()) post s l) :
    Scans py ix keeper bs l₀ (registerVaults ix vaults >>= k) post s l := by
  induction vaults generalizing s with
  | nil => exact hk s h
  | cons address rest ih =>
    simp only [registerVaults, Script.bind_eq, Script.bind_assoc]
    apply commit_scans h fun db => registerVaults_spares _ db
    exact fun s hs => ih hs

def tip (ix : Scanner) (bs : List Block) : ℤ := ix.deploymentHeight + bs.length - 1

lemma tip_row (h : Chain py ix s l bs) (hne : ¬ tip ix bs < ix.deploymentHeight) :
    ∃ b, bs.getLast? = some b ∧ b.height = tip ix bs ∧ s.db.blocks ix.chainId (tip ix bs) = b.row py := by
  rcases List.eq_nil_or_concat' bs with rfl | ⟨front, b, rfl⟩
  · simp [tip] at hne
  · have hat : (front ++ [b])[front.length]? = some b := by simp
    have hheight := h.heights front.length b hat
    have htip : tip ix (front ++ [b]) = height ix front.length := by
      simp only [tip, height, List.length_append, List.length_singleton, Nat.cast_add, Nat.cast_one]
      ring
    refine ⟨b, by simp, hheight.trans htip.symm, ?_⟩
    rw [htip, h.stored.blocks, hat]
    rfl

include herror

lemma validateObservedTip_scans {k : Unit → Op α} (h : Grown py ix bs l₀ [] s l)
    (hk : ∀ s l', l <:+ l' → Grown py ix bs l₀ [] s l' → Confirmed py bs l₀ l' →
      Scans py ix keeper bs l₀ (k ()) post s l') :
    Scans py ix keeper bs l₀ (validateObservedTip ix (tip ix bs) >>= k) post s l := by
  by_cases hlt : tip ix bs < ix.deploymentHeight
  · have hempty : bs.getLast? = none := by
      rw [List.getLast?_eq_none_iff, ← List.length_eq_zero_iff]
      simp only [tip] at hlt
      omega
    obtain ⟨fresh, hfresh⟩ := h.log
    simp only [validateObservedTip, hlt, if_true]
    exact hk s l List.suffix_rfl h ⟨fresh, hfresh.symm, by simp [hempty]⟩
  · simp only [validateObservedTip, hlt, if_false, Script.bind_eq, Script.bind_assoc]
    apply select_scans h
    intro s hs
    obtain ⟨b, hlast, hheight, hrow⟩ := tip_row (by simpa using hs.chain) hlt
    apply ofExcept_scans herror hs
    intro hash hhash
    rw [orError_eq_ok, hrow] at hhash
    apply ask_scans hs
    intro s reply hs
    cases reply with
    | error name => exact raise_scans herror hs
    | ok answer =>
      simp only [answered, Script.ret_bind]
      apply ofExcept_scans herror hs
      intro observed hobserved
      apply ofExcept_scans herror hs
      intro _ hsame
      rw [ensure_eq_ok] at hsame
      have hsuffix : l <:+ .answered (.block (tip ix bs)) (.ok answer) :: .started (.block (tip ix bs)) :: l :=
        (List.suffix_cons _ _).trans (List.suffix_cons _ _)
      apply hk s _ hsuffix hs
      obtain ⟨fresh, hfresh⟩ := h.log
      refine ⟨.answered (.block (tip ix bs)) (.ok answer) :: .started (.block (tip ix bs)) :: fresh,
        by simp [hfresh], ?_⟩
      intro b' hb'
      rw [hlast] at hb'
      cases hb'
      exact ⟨answer, hash, by simp [hheight], hhash, hobserved.trans (by rw [text_of_isText hsame])⟩

lemma scanHeight_scans {at_ : ℤ} {k : Unit → Op α} (h : Grown py ix bs l₀ new s l) (hconfirmed : Confirmed py bs l₀ l)
    (hheight : at_ = height ix (bs ++ new).length)
    (hfinal : ∃ latest, .answered .latestHeight (.ok latest) ∈ l ∧ at_ + ix.finalityDepth ≤ latest)
    (hk : ∀ s l' b, l <:+ l' → Grown py ix bs l₀ (new ++ [b]) s l' → Scans py ix keeper bs l₀ (k ()) post s l') :
    Scans py ix keeper bs l₀ (scanHeight py ix at_ >>= k) post s l := by
  simp only [scanHeight, Script.bind_eq, Script.bind_assoc]
  apply ask_scans h
  intro s reply hs
  cases reply with
  | error name => exact raise_scans herror hs
  | ok answer =>
    apply ask_scans hs
    intro s reply hs
    cases reply with
    | error name => exact raise_scans herror hs
    | ok results =>
      apply ofExcept_scans herror hs
      intro b hread
      apply transaction_scans herror hs
      intro s db _ hs hscan
      simp only [bind_eq_ok, Except.ok.injEq, Prod.mk.injEq] at hscan
      obtain ⟨_, hscan, rfl, -⟩ := hscan
      have hat : b.height = at_ := by
        simp only [readBlock, bind_eq_ok, Except.ok.injEq] at hread
        obtain ⟨_, -, _, -, _, -, _, -, _, -, _, -, _, -, _, -, _, -, _, -, rfl⟩ := hread
        rfl
      have hlate : Final ix l b := by
        obtain ⟨latest, hlatest, hle⟩ := hfinal
        exact ⟨latest, hlatest, hat ▸ hle⟩
      have hchain := hs.chain.next (hat.trans hheight)
        ⟨answer, results, by simp [hat], by simp [hat], hat ▸ hread⟩ hlate.mono.mono.mono.mono hscan
      rw [List.append_assoc] at hchain
      have hnext : Grown py ix bs l₀ (new ++ [b]) ⟨_, s.db :: s.past⟩ _ :=
        ⟨hchain, hs.log, fun _ => hconfirmed.mono.mono.mono.mono⟩
      refine ⟨_, hnext, hk _ _ b ?_ hnext⟩
      exact ⟨[_, _, _, _], rfl⟩

lemma scanFrom_scans (n : ℕ) {at_ : ℤ} {k : Unit → Op α} (h : Grown py ix bs l₀ new s l)
    (hconfirmed : Confirmed py bs l₀ l) (hheight : at_ = height ix (bs ++ new).length)
    (hfinal : n ≠ 0 → ∃ latest, .answered .latestHeight (.ok latest) ∈ l ∧ at_ + n - 1 + ix.finalityDepth ≤ latest)
    (hk : ∀ s l' more, more.length = n → l <:+ l' → Grown py ix bs l₀ (new ++ more) s l' →
      Scans py ix keeper bs l₀ (k ()) post s l') :
    Scans py ix keeper bs l₀ (scanFrom py ix at_ n >>= k) post s l := by
  induction n generalizing s l at_ new with
  | zero => exact hk s l [] rfl List.suffix_rfl (by rwa [List.append_nil])
  | succ n ih =>
    obtain ⟨latest, hlatest, hle⟩ := hfinal n.succ_ne_zero
    push_cast at hle
    simp only [scanFrom, Script.bind_eq, Script.bind_assoc]
    apply scanHeight_scans herror h hconfirmed hheight ⟨latest, hlatest, by omega⟩
    intro s₁ l₁ b hl₁ h₁
    apply ih h₁ (h₁.confirmed (by simp))
    · simp only [hheight, height, List.length_append, List.length_singleton]
      push_cast
      ring
    · intro _
      exact ⟨latest, hl₁.subset hlatest, by omega⟩
    · intro s₂ l₂ more hmore hl₂ h₂
      apply hk s₂ l₂ (b :: more) (by simp [hmore]) (hl₁.trans hl₂)
      rwa [List.append_assoc, List.singleton_append] at h₂

/-- How a scan ended: stopped by an error, or with as many blocks more as the node's height and the limit ask for. -/
def Ended (py : Python) (ix : Scanner) (limit : Option ℤ) (bs : List Block) (l₀ : Log) (r : Except PyError ℤ)
    (s : Store) (l : Log) : Prop :=
  match r with
  | .error _ => Growing py ix bs l₀ s l
  | .ok n => ∃ new, Grown py ix bs l₀ new s l ∧ n = new.length ∧ ∃ fresh latest, l = fresh ++ l₀ ∧
    .answered .latestHeight (.ok latest) ∈ fresh ∧ n = max 0 (stopAt ix limit (tip ix bs) latest - tip ix bs)

omit herror in
theorem scan_scans {limit : Option ℤ} (h : Chain py ix s l bs) :
    Scans py ix keeper bs l (scan py ix limit) (Ended py ix limit bs l) s l := by
  have hstart : Grown py ix bs l [] s l := ⟨by rwa [List.append_nil], List.suffix_rfl, fun h => absurd rfl h⟩
  have herror : ∀ e s l', Growing py ix bs l s l' → Ended py ix limit bs l (.error e) s l' := fun _ _ _ => id
  apply registerVaults_scans hstart
  intro s hs
  apply select_scans hs
  intro s hs
  have hcursor : s.db.scanned.getD (ix.deploymentHeight - 1) = tip ix bs := by
    have hchain : Chain py ix s l bs := by simpa using hs.chain
    rw [hchain.stored.scanned]
    cases hlast : bs.getLast? with
    | none => simp [tip, List.getLast?_eq_none_iff.mp hlast]
    | some b => exact hchain.tip_height hlast
  simp only [hcursor]
  apply validateObservedTip_scans herror hs
  intro s l₁ hl₁ hs hconfirmed
  apply ask_scans hs
  intro s reply hs
  cases reply with
  | error name => exact raise_scans herror hs
  | ok latest =>
    have htip : max (tip ix bs + 1) ix.deploymentHeight = tip ix bs + 1 := by
      simp only [tip]
      omega
    simp only [answered, Script.bind_eq, Script.ret_bind, htip]
    apply scanFrom_scans herror _ hs hconfirmed.mono.mono
    · simp only [tip, height, List.append_nil]
      ring
    · intro hsome
      refine ⟨latest, List.mem_cons_self, ?_⟩
      have hstop : stopAt ix limit (tip ix bs) latest ≤ max 0 (latest - ix.finalityDepth) := by
        cases limit with
        | none => exact le_refl _
        | some limit => exact min_le_left _ _
      have hdeployed := ix.deployed
      simp only [tip] at hsome hstop ⊢
      omega
    · intro s₂ l₂ more hmore hl₂ hs₂ s₃ hrely
      have hs₃ : Grown py ix bs l more s₃ l₂ := grown_stable.trans hs₂ hrely
      obtain ⟨before, rfl⟩ := hl₁
      obtain ⟨since, rfl⟩ := hl₂
      refine ⟨more, hs₃, ?_, since ++ .answered .latestHeight (.ok latest) :: .started .latestHeight :: before,
        latest, by simp, by simp, rfl⟩
      rw [hmore]
      omega

end Scans

def Fresh (s : Store) : Prop := s = ⟨Db.empty, []⟩

lemma chain_fresh (hs : Fresh s) : Chain py ix s [] [] := by
  subst hs
  have hstored : Stored py ix Db.empty [] :=
    ⟨fun _ => rfl, fun _ _ _ => rfl, rfl, fun e he => absurd he List.not_mem_nil, .nil⟩
  exact ⟨by simp, hstored, .nil, by simp, by simp, by simp, by simp⟩

theorem scanner_kept (py : Python) (ix : Scanner) (keeper : Keeper) :
    Kept (Others keeper) (fun s l => ∃ bs, Chain py ix s l bs) id Fresh (Scanning py ix)
      fun s l => ∃ bs, Chain py ix s l bs := by
  have hstable : Stable (Others keeper) fun s l => ∃ bs, Chain py ix s l bs := by
    rintro s s' l ⟨bs, h⟩ hstep
    exact ⟨bs, h.sparing hstep.sparing⟩
  refine ⟨hstable, hstable, fun s hs => ⟨[], chain_fresh hs⟩, fun _ _ => id, fun _ _ => id, ?_⟩
  rintro p ⟨limit⟩ s l ⟨bs, h⟩
  have hgrows : ∀ s' l', Growing py ix bs l s' l' → ∃ bs, Chain py ix s' l' bs := by
    rintro s' l' ⟨new, h'⟩
    exact ⟨bs ++ new, h'.chain⟩
  apply wp_bind
  apply wp_mono _ (wp_weaken hgrows (scan_scans h))
  rintro (e | n) s' l' hended
  · exact hstable.wp_raise (hgrows s' l' hended) fun _ => id
  · obtain ⟨new, h', -⟩ := hended
    exact hstable.wp_ret ⟨bs ++ new, h'.chain⟩ fun _ => id

def plainPython : Python := ⟨fun _ => true, fun _ => "", fun _ => ""⟩

def plainKeeper : Keeper := ⟨1, 0, fun _ => ""⟩

def firstScanner : Scanner := ⟨⟨"chain", [], []⟩, 1, 2, by decide, by decide, .ok⟩

def firstBlock : Json :=
  .obj [("block", .obj [("header", .obj [])]), ("block_id", .obj [("hash", .str "A")])]

lemma exec_scanHeight {at_ : ℤ} {answer results : Json} (hread : readBlock ix at_ answer results = .ok b)
    (hscan : GridIndexer.scanHeight py ix.toIndexer b s.db = .ok db') :
    Exec (Others keeper) (scanHeight py ix at_) s l ⟨db', s.db :: s.past⟩
      (.answered (.blockResults at_) (.ok results) :: .started (.blockResults at_) ::
        .answered (.block at_) (.ok answer) :: .started (.block at_) :: l) (some (.ok ())) := by
  refine .call (a := .ok answer) (.call (a := .ok results) ?_)
  simp only [answered, Script.ret_bind, hread, Script.ofExcept, Script.bind_eq, transaction]
  apply Exec.update
  simp only [hscan, ok_bind]
  exact .ret

lemma first_read : readBlock firstScanner 1 firstBlock (.obj []) = .ok ⟨1, .str "A", .str "", .null, [], []⟩ := by
  simp [readBlock, firstBlock, blockHash, parentHash, time, field, Json.getD, Json.get, Json.orElse, Json.truthy,
    Json.text, Json.iter, orError, List.lookup]

def firstLog : Log :=
  [.answered (.blockResults 1) (.ok (.obj [])), .started (.blockResults 1), .answered (.block 1) (.ok firstBlock),
    .started (.block 1), .answered .latestHeight (.ok 5), .started .latestHeight]

lemma first_scan : ∃ s, Exec (Others plainKeeper) (scan plainPython firstScanner (some 1)) ⟨Db.empty, []⟩ [] s firstLog
    (some (.ok 1)) ∧ s.db.scanned = some 1 := by
  obtain ⟨db, hscan⟩ : ∃ db, GridIndexer.scanHeight plainPython firstScanner.toIndexer
      ⟨1, .str "A", .str "", .null, [], []⟩ Db.empty = .ok db := ⟨_, rfl⟩
  refine ⟨⟨db, [Db.empty]⟩, .update (.call (a := .ok 5) ?_), (scanHeight_spec hscan).2.1⟩
  change Exec _ (((scanHeight plainPython firstScanner 1).bind fun _ => .ret ()).bind fun _ => .ret 1) _ _ _ _ _
  exact ((exec_scanHeight first_read hscan).bind .ret).bind .ret

/-- At any moment, whatever the node has answered, the keeper has done and the scans were stopped at: the index is one
chain of final blocks from the deployment height on, each ingested as a whole, of which nothing was ever taken back. -/
theorem index_is_chain (h : Moment (Others keeper) id Fresh (Scanning py ix) s l) :
    ∃ bs, Chain py ix s l bs :=
  h.invariant (scanner_kept py ix keeper)

theorem index_is_chain_first : ∃ s l bs, s.db.scanned = some 1 ∧ Chain plainPython firstScanner s l bs := by
  obtain ⟨s, hexec, hscanned⟩ := first_scan
  have hrun : Run (Others plainKeeper) id Fresh (Scanning plainPython firstScanner) s firstLog :=
    .finished (.start rfl) (.scan (some 1)) (hexec.bind .ret)
  obtain ⟨bs, h⟩ := index_is_chain (.between hrun)
  exact ⟨s, firstLog, bs, hscanned, h⟩

/-- A scan only adds to the chain, and nothing before the node has shown the indexed tip again. -/
theorem scan_extends {limit : Option ℤ} {s' : Store} {l' : Log} {o : Option (Except PyError ℤ)}
    (hrun : Run (Others keeper) id Fresh (Scanning py ix) s l)
    (hexec : Exec (Others keeper) (scan py ix limit) s l s' l' o) :
    ∃ bs new, Chain py ix s l bs ∧ Chain py ix s' l' (bs ++ new) ∧ (new ≠ [] → Confirmed py bs l l') ∧
      ∀ n, o = some (.ok n) → n = new.length ∧ ∃ fresh latest, l' = fresh ++ l ∧
        .answered .latestHeight (.ok latest) ∈ fresh ∧ n = max 0 (stopAt ix limit (tip ix bs) latest - tip ix bs) := by
  obtain ⟨bs, h⟩ := hrun.invariant (scanner_kept py ix keeper)
  have hstart : Growing py ix bs l s l :=
    ⟨[], by rwa [List.append_nil], List.suffix_rfl, fun h => absurd rfl h⟩
  obtain ⟨⟨new, hnew⟩, hended⟩ := wp_sound growing_stable hexec hstart (scan_scans h)
  rcases o with - | (e | n)
  · exact ⟨bs, new, h, hnew.chain, hnew.confirmed, by simp⟩
  · exact ⟨bs, new, h, hnew.chain, hnew.confirmed, by simp⟩
  · obtain ⟨new', hnew', hn, hnode⟩ := hended _ rfl
    refine ⟨bs, new', h, hnew'.chain, hnew'.confirmed, ?_⟩
    intro n' heq
    cases heq
    exact ⟨hn, hnode⟩

theorem scan_extends_first : ∃ s l new, s.db.scanned = some 1 ∧ Chain plainPython firstScanner s l new ∧
    new.length = 1 := by
  obtain ⟨s, hexec, hscanned⟩ := first_scan
  obtain ⟨bs, new, hbs, hchain, -, hended⟩ := scan_extends (.start rfl) hexec
  obtain ⟨hone, -⟩ := hended 1 rfl
  have hnone : bs.getLast? = none := by simpa [Db.empty] using hbs.stored.scanned.symm
  rw [List.getLast?_eq_none_iff.mp hnone, List.nil_append] at hchain
  exact ⟨s, firstLog, new, hscanned, hchain, by omega⟩

end Cl8yDexBots.Services.BlockScanSafety
