import Cl8yDexBots.Services.BatchAttempts

/-! Every fill is consumed exactly once, however blocks, batches and confirmations interleave. -/

namespace Cl8yDexBots.Services.FillAccounting

open Foundation.Checked Foundation.Durable Values Database GridIndexer GridKeeper BatchLedger BatchAttempts

/-- A transaction that confirms a batch was executed at or above the height that the batch was frozen through. -/
def Timely (db : Db) (l : Log) : Prop :=
  ∀ (b : ℕ) batch (a : ℕ) row response seen, db.batches[b]? = some batch → batch.state = .confirmed →
    db.txAttempts[a]? = some row → row.batchId = b → Seen l row.txHash response seen → seen.code = 0 →
    hasRevertedGridPage response = .ok false → batch.throughHeight ≤ seen.height

structure ExactlyOnce (s : Store) (l : Log) : Prop where
  stored : (s.db.rawEvents.map RawEvent.key).Nodup
  attributed : ∀ e ∈ s.db.rawEvents, ∀ b, e.reconciledBatch = some b →
    ∃ batch, s.db.batches[b]? = some batch ∧ batch.state = .confirmed ∧ batch.vault = e.vault
  permanent : ∀ old ∈ s.past, Keeps old s.db
  /-- A confirmed batch has all its fills, and none from above a block that executed it. -/
  covered : ∀ (b : ℕ) batch, s.db.batches[b]? = some batch → batch.state = .confirmed →
    (∀ frozen ∈ s.db.batchEvents, frozen.batchId = b →
      ∃ e, s.db.rawEvents[frozen.eventId]? = some e ∧ e.reconciledBatch = some b) ∧
    ∃ (a : ℕ) (row : TxAttempt) (response : Json) (seen : Sighting), s.db.txAttempts[a]? = some row ∧
      row.batchId = b ∧ Handed l b a ∧ Seen l row.txHash response seen ∧ seen.code = 0 ∧
      hasRevertedGridPage response = .ok false ∧
      ∀ e ∈ s.db.rawEvents, e.reconciledBatch = some b → e.height ≤ seen.height
  awaited : ∀ (n : ℕ) e, s.db.rawEvents[n]? = some e → e.reconciledBatch = none →
    (∃ b, activeBatch s.db e.vault = some b ∧ ⟨b, n⟩ ∈ s.db.batchEvents) ∨ (n, e) ∈ eligible s.db e.vault
  freezes : ∀ (keeper : Keeper) (vault : String), ∃ r, freezeBatch keeper vault s.db = .ok r

variable {render : Json → String} {s : Store} {l : Log} {b n : ℕ} {e : RawEvent}

lemma covered_of_timely (hinv : Inv render s l) (htimely : Timely s.db l) {batch : Batch}
    (hbatch : s.db.batches[b]? = some batch) (hconfirmed : batch.state = .confirmed) :
    (∀ frozen ∈ s.db.batchEvents, frozen.batchId = b →
      ∃ e, s.db.rawEvents[frozen.eventId]? = some e ∧ e.reconciledBatch = some b) ∧
    ∃ (a : ℕ) (row : TxAttempt) (response : Json) (seen : Sighting), s.db.txAttempts[a]? = some row ∧
      row.batchId = b ∧ Handed l b a ∧ Seen l row.txHash response seen ∧ seen.code = 0 ∧
      hasRevertedGridPage response = .ok false ∧
      ∀ e ∈ s.db.rawEvents, e.reconciledBatch = some b → e.height ≤ seen.height := by
  obtain ⟨a, row, response, seen, hrow, hof, hhanded, hseen, hcode, hpage, hbound, hall⟩ :=
    hinv.confirmed b batch hbatch hconfirmed
  have hthrough := htimely b batch a row response seen hbatch hconfirmed hrow hof hseen hcode hpage
  exact ⟨hall hthrough, a, row, response, seen, hrow, hof, hhanded, hseen, hcode, hpage, hbound⟩

lemma active_of_waiting (hinv : Inv render s l) (htimely : Timely s.db l) (he : s.db.rawEvents[n]? = some e)
    (hnone : e.reconciledBatch = none) {frozen : BatchEvent} (hfrozen : frozen ∈ s.db.batchEvents)
    (hof : frozen.eventId = n) : activeBatch s.db e.vault = some frozen.batchId := by
  obtain ⟨batch, e', hbatch, he', hvault, -⟩ := hinv.frozen frozen hfrozen
  rw [hof, he, Option.some.injEq] at he'
  subst he'
  have hlive : batch.state ≠ .confirmed := by
    intro hconfirmed
    obtain ⟨hall, -⟩ := covered_of_timely hinv htimely hbatch hconfirmed
    obtain ⟨e', he', hb⟩ := hall frozen hfrozen rfl
    rw [hof, he, Option.some.injEq] at he'
    rw [← he', hnone] at hb
    cases hb
  cases hactive : activeBatch s.db e.vault with
  | none => exact absurd (activeBatch_eq_none hactive hbatch hvault.symm) hlive
  | some b =>
    obtain ⟨batch', hbatch', hvault', hlive'⟩ := active_of_some hactive
    rw [hinv.single b frozen.batchId batch' batch hbatch' hbatch (hvault'.trans hvault) hlive' hlive]

lemma awaited_of_inv (hinv : Inv render s l) (htimely : Timely s.db l) (he : s.db.rawEvents[n]? = some e)
    (hnone : e.reconciledBatch = none) :
    (∃ b, activeBatch s.db e.vault = some b ∧ ⟨b, n⟩ ∈ s.db.batchEvents) ∨ (n, e) ∈ eligible s.db e.vault := by
  by_cases h : ∃ frozen ∈ s.db.batchEvents, frozen.eventId = n
  · obtain ⟨frozen, hfrozen, rfl⟩ := h
    exact .inl ⟨frozen.batchId, active_of_waiting hinv htimely he hnone hfrozen rfl, hfrozen⟩
  · right
    rw [eligible, List.mem_filter, mem_unreconciled]
    refine ⟨⟨he, rfl, hnone⟩, ?_⟩
    simpa using h

lemma freezeBatch_ok (hinv : Inv render s l) (htimely : Timely s.db l) (keeper : Keeper) (vault : String) :
    ∃ r, freezeBatch keeper vault s.db = .ok r := by
  cases hactive : activeBatch s.db vault with
  | some b => exact ⟨(s.db, some b), by simp only [freezeBatch, hactive]⟩
  | none =>
    by_cases hsome : orderRows keeper s.db vault = []
    · exact ⟨(s.db, none), by simp [freezeBatch, hactive, hsome]⟩
    · refine ⟨_, freezeBatch_opens hactive hsome ?_⟩
      refine List.nodup_append.mpr ⟨hinv.unique, frozen_nodup keeper s.db vault, ?_⟩
      rintro n hn _ hn' rfl
      obtain ⟨frozen, hfrozen, hof⟩ := List.mem_map.mp hn
      obtain ⟨⟨_, e⟩, he, rfl⟩ := List.mem_map.mp hn'
      obtain ⟨⟨hget, rfl, hnone⟩, -⟩ := mem_frozen.mp he
      rw [active_of_waiting hinv htimely hget hnone hfrozen hof] at hactive
      cases hactive

/-- At any moment of the operator's life: fills are stored once, attributed at most once and for good, covered by
the batch that is confirmed, and otherwise waiting in a batch or for one; and a vault can always be frozen. -/
theorem consumed_exactly_once {py : Python} {keeper : Keeper}
    (h : Moment (Indexing py) id Fresh (Pass keeper) s l) (htimely : Timely s.db l) : ExactlyOnce s l := by
  have hinv := h.invariant (keeper_kept py keeper)
  exact
    { stored := hinv.keys
      attributed := hinv.attributed
      permanent := hinv.past
      covered := fun b batch hbatch hconfirmed => covered_of_timely hinv htimely hbatch hconfirmed
      awaited := fun n e he hnone => awaited_of_inv hinv htimely he hnone
      freezes := freezeBatch_ok hinv htimely }

section Execution

/-! The fill of a vault, frozen and reconciled by a transaction two blocks later. -/

def executedResponse : Json := .obj [("txhash", .str "AA"), ("height", .int 12), ("code", .int 0)]

lemma executed_observed : observe (.str "AA") executedResponse = .ok ⟨12, 0, executedResponse⟩ := by
  simp [observe, executedResponse, txResponse, Values.txHash, field, Json.get, Json.getD, Json.has, Json.toInt,
    Json.orElse, Json.truthy, ensure, Json.lower, Json.text, orError, List.lookup, bind, Except.bind]

variable {β : Type} {py : Python} {k : Outcome → Op β} {a : ℕ} {batch : Batch} {o : Option (Except PyError β)}
  {s' : Store} {l' : Log}

lemma exec_polled {later : String → Op Outcome} (hbatch : s.db.batches[b]? = some batch)
    (h : Exec (Indexing py) (k .confirmed) ⟨reconcile s.db b a batch.vault 12 (.str "AA"), s.db :: s.past⟩
      (.answered (.queryTx (.str "AA")) (.ok executedResponse) :: .started (.queryTx (.str "AA")) :: l) s' l' o) :
    Exec (Indexing py) ((pollOnce plainKeeper b a (.str "AA") later).bind k) s l s' l' o := by
  have hseen : sighted (.str "AA") (.ok executedResponse) =
      .ok (some (executedResponse, ⟨12, 0, executedResponse⟩)) := by
    simp only [sighted, executed_observed]
    rfl
  have hpage : hasRevertedGridPage executedResponse = .ok false := rfl
  have hexecuted : executed (.str "AA") executedResponse = .ok 12 := by
    simp only [executed, executed_observed]
    rfl
  apply Exec.call (a := .ok executedResponse)
  simp only [Script.ret_bind, Script.bind_eq, hseen, Script.ofExcept, deepEnough, plainKeeper, ne_eq,
    not_true_eq_false, if_false, if_true, Bool.not_true, Bool.false_eq_true, hpage, confirm, hexecuted]
  apply Exec.update
  simp only [hbatch, orError, columnText, columnInt]
  exact h

def accepted (s : Store) (b a : ℕ) : Store :=
  ⟨s.db.touch b (fun row => { row with txHash := .str "AA", state := .broadcast }) (some a)
    fun row => { row with txHash := .str "AA", checkCode := some 0, state := .broadcast }, s.db :: s.past⟩

def confirmed (s : Store) (b a : ℕ) : Store :=
  ⟨reconcile s.db b a "vault1" 12 (.str "AA"), s.db :: s.past⟩

lemma exec_reported (hbatch : (accepted s b a).db.batches[b]? = some batch) (hvault : batch.vault = "vault1")
    (h : Exec (Indexing py) (k .confirmed) (confirmed (accepted s b a) b a)
      (.answered (.queryTx (.str "AA")) (.ok executedResponse) :: .started (.queryTx (.str "AA")) :: l) s' l' o) :
    Exec (Indexing py) ((reported plainKeeper b a 0 (.ok executedResponse)).bind k) s l s' l' o := by
  have htx : txResponse executedResponse = .ok executedResponse := rfl
  have hresult : broadcastResult executedResponse = .ok (.ok (0, .str "AA")) := rfl
  simp only [reported, received, htx, hresult, Script.ofExcept, Script.bind_eq, Script.ret_bind]
  apply Exec.update
  exact exec_polled hbatch (hvault ▸ h)

theorem fill_consumed : ∃ (s : Store) (l : Log) (batch : Batch), s.db.batches[0]? = some batch ∧
    batch.state = .confirmed ∧ ExactlyOnce s l := by
  obtain ⟨s, hrun, hbatches, hattempts⟩ := run_frozen
  have hx : s.db.batches[0]? = some ⟨"vault1", 10, .ready, .null, none, 0, none⟩ := by simp [hbatches]
  have hlatest : s.db.latestAttempt 0 = none := by simp [Db.latestAttempt, hattempts]
  have hbatch : (accepted (handing s 0) 0 s.db.txAttempts.length).db.batches[0]? =
      some ⟨"vault1", 10, .broadcast, .str "AA", none, 0, none⟩ := by
    simp [accepted, handing, Db.touch, Db.insertAttempt, hbatches]
  have hexec := exec_process hx (.inl ⟨rfl, rfl, hlatest⟩) (exec_submit "tx" (k := fun _ => .ret ()) hx
    (.call (exec_reported hbatch rfl .ret)) :
      Exec (Indexing plainPython) ((submit plainKeeper 0 0).bind fun _ => .ret ()) s [] _ _ _)
  refine ⟨_, _, ⟨"vault1", 10, .confirmed, .str "AA", none, 0, none⟩, ?_, rfl,
    consumed_exactly_once (.between (hrun.finished (.processBatch 0 0) hexec)) ?_⟩
  · simp [confirmed, accepted, handing, reconcile, Db.touch, Db.insertAttempt, hbatches]
  · intro b batch a row response seen hb hconfirmed hrow hof hseen hcode hpage
    have hrows : row.txHash = .str "AA" ∧ batch.throughHeight = 10 := by
      simp only [confirmed, accepted, handing, reconcile, Db.touch, Db.insertAttempt, hbatches, hattempts] at hb hrow
      rcases b with _ | b
      · rcases a with _ | a
        · simp at hb hrow
          subst hb hrow
          exact ⟨rfl, rfl⟩
        · simp at hrow
      · simp at hb
    obtain ⟨hhash, hthrough⟩ := hrows
    obtain ⟨hanswered, hobserved⟩ := hseen
    simp only [List.mem_cons, Event.answered.injEq, reduceCtorEq, List.not_mem_nil, or_false, false_and]
      at hanswered
    obtain ⟨-, hresponse⟩ := hanswered
    cases hresponse
    rw [hhash, executed_observed] at hobserved
    cases hobserved
    rw [hthrough]
    norm_num

end Execution

end Cl8yDexBots.Services.FillAccounting
