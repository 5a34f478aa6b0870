import Cl8yDexBots.Services.GridIndexer
import Cl8yDexBots.Services.GridKeeper

/-! What the operator's tables owe to the log of its broadcasts and queries, and that every transaction pays it. -/

namespace Cl8yDexBots.Services.BatchLedger

open Foundation.Checked Foundation.Durable Values Database GridIndexer GridKeeper

abbrev Log := List (Event Command Reply)

def Handed (l : Log) (batchId attemptId : ℕ) : Prop :=
  ∃ signed, .started (.broadcast batchId attemptId signed) ∈ l

def Seen (l : Log) (hash response : Json) (seen : Sighting) : Prop :=
  .answered (.queryTx hash) (.ok response) ∈ l ∧ observe hash response = .ok seen

/-- An attempt whose nonzero CheckTx code is recorded, or whose result was seen on chain. -/
def Resolved (db : Db) (l : Log) (attemptId : ℕ) : Prop :=
  ∃ row, db.txAttempts[attemptId]? = some row ∧
    ((∃ code, row.checkCode = some code ∧ code ≠ 0) ∨ ∃ response seen, Seen l row.txHash response seen)

/-- How the tables remember an attempt that is not resolved. -/
inductive InFlight (batch : Batch) (row : TxAttempt) : Prop
  | broadcasting (h : batch.state = .broadcasting)
  | unknown (h : batch.state = .unknown)
  | awaited (hbatch : batch.state = .broadcast ∨ batch.state = .timeout)
      (hrow : row.state = .broadcast ∨ row.state = .timeout) (hhash : row.txHash.truthy = true)

def Open (db : Db) (batchId attemptId : ℕ) : Prop :=
  db.latestAttempt batchId = some attemptId ∧ ∃ batch row, db.batches[batchId]? = some batch ∧
    db.txAttempts[attemptId]? = some row ∧ InFlight batch row

/-- Whenever an attempt was given to the network, those of its batch before it were resolved. -/
def Alone (db : Db) (l : Log) : Prop :=
  ∀ b a signed l', .started (.broadcast b a signed) :: l' <:+ l →
    ∀ a', Handed l' b a' → a' < a ∧ Resolved db l' a'

/-- The attempt and the sighting that confirmed a batch, and what they did to the stored fills. -/
def Executed (db : Db) (l : Log) (batchId : ℕ) (batch : Batch) : Prop :=
  ∃ attemptId row response seen, db.txAttempts[attemptId]? = some row ∧ row.batchId = batchId ∧
    Handed l batchId attemptId ∧ Seen l row.txHash response seen ∧ seen.code = 0 ∧
    hasRevertedGridPage response = .ok false ∧
    (∀ e ∈ db.rawEvents, e.reconciledBatch = some batchId → e.height ≤ seen.height) ∧
    (batch.throughHeight ≤ seen.height → ∀ frozen ∈ db.batchEvents, frozen.batchId = batchId →
      ∃ e, db.rawEvents[frozen.eventId]? = some e ∧ e.reconciledBatch = some batchId)

def Frozen (db : Db) (frozen : BatchEvent) : Prop :=
  ∃ batch e, db.batches[frozen.batchId]? = some batch ∧ db.rawEvents[frozen.eventId]? = some e ∧
    e.vault = batch.vault ∧ e.height ≤ batch.throughHeight ∧
    ∃ item ∈ db.batchItems, item.batchId = frozen.batchId ∧ item.pair = e.pair ∧ item.orderId = e.orderId

def Keeps (db db' : Db) : Prop :=
  ∀ (n : ℕ) e b, db.rawEvents[n]? = some e → e.reconciledBatch = some b →
    ∃ e', db'.rawEvents[n]? = some e' ∧ e'.key = e.key ∧ e'.reconciledBatch = some b

/-- No accepted broadcast brought a hash that the database keeps as nothing. -/
def Kept (render : Json → String) : Event Command Reply → Prop
  | .answered (.broadcast _ _ _) (.ok response) => ∀ tx hash stored, txResponse response = .ok tx →
    broadcastResult tx = .ok (.ok (0, hash)) → columnText render hash = .ok stored → stored.truthy = true
  | _ => True

def AllKept (render : Json → String) (l : Log) : Prop := ∀ e ∈ l, Kept render e

structure Inv (render : Json → String) (s : Store) (l : Log) : Prop where
  handed : ∀ (b a : ℕ), Handed l b a → ∃ row, s.db.txAttempts[a]? = some row ∧ row.batchId = b
  attempts : AllKept render l → ∀ b a, Handed l b a → Resolved s.db l a ∨ Open s.db b a
  alone : AllKept render l → Alone s.db l
  sent : ∀ (a : ℕ) row, s.db.txAttempts[a]? = some row → row.txHash.truthy = true → Handed l row.batchId a
  confirmed : ∀ (b : ℕ) batch, s.db.batches[b]? = some batch → batch.state = .confirmed → Executed s.db l b batch
  frozen : ∀ frozen ∈ s.db.batchEvents, Frozen s.db frozen
  unique : (s.db.batchEvents.map BatchEvent.eventId).Nodup
  waiting : ∀ frozen ∈ s.db.batchEvents, ∀ batch, s.db.batches[frozen.batchId]? = some batch →
    batch.state ≠ .confirmed → ∀ e, s.db.rawEvents[frozen.eventId]? = some e → e.reconciledBatch = none
  attributed : ∀ e ∈ s.db.rawEvents, ∀ b, e.reconciledBatch = some b →
    ∃ batch, s.db.batches[b]? = some batch ∧ batch.state = .confirmed ∧ batch.vault = e.vault
  single : ∀ (b b' : ℕ) x x', s.db.batches[b]? = some x → s.db.batches[b']? = some x' → x.vault = x'.vault →
    x.state ≠ .confirmed → x'.state ≠ .confirmed → b = b'
  keys : (s.db.rawEvents.map RawEvent.key).Nodup
  past : ∀ old ∈ s.past, Keeps old s.db

variable {render : Json → String} {s : Store} {l : Log} {db db' : Db} {b a : ℕ}

lemma Keeps.refl (db : Db) : Keeps db db := fun _ e _ he hb => ⟨e, he, rfl, hb⟩

lemma Keeps.trans {db₁ db₂ db₃ : Db} (h : Keeps db₁ db₂) (h' : Keeps db₂ db₃) : Keeps db₁ db₃ := by
  intro n e b he hb
  obtain ⟨e₂, he₂, hkey₂, hb₂⟩ := h n e b he hb
  obtain ⟨e₃, he₃, hkey₃, hb₃⟩ := h' n e₂ b he₂ hb₂
  exact ⟨e₃, he₃, hkey₃.trans hkey₂, hb₃⟩

lemma past_next (hpast : ∀ old ∈ s.past, Keeps old s.db) (h : Keeps s.db db') :
    ∀ old ∈ s.db :: s.past, Keeps old db' := by
  intro old hold
  rcases List.mem_cons.mp hold with rfl | hold
  · exact h
  · exact (hpast old hold).trans h

lemma latestAttempt_eq_some : db.latestAttempt b = some a ↔
    (∃ row, db.txAttempts[a]? = some row ∧ row.batchId = b) ∧
    ∀ (a' : ℕ) row', db.txAttempts[a']? = some row' → row'.batchId = b → a' ≤ a := by
  have hmem : ∀ n, n ∈ (List.range db.txAttempts.length).filter (fun a =>
      db.txAttempts[a]?.any fun row => row.batchId = b) ↔
      ∃ row, db.txAttempts[n]? = some row ∧ row.batchId = b := by
    intro n
    simp only [List.mem_filter, List.mem_range]
    constructor
    · rintro ⟨hlt, hrow⟩
      obtain ⟨row, hget⟩ : ∃ row, db.txAttempts[n]? = some row := ⟨_, List.getElem?_eq_getElem hlt⟩
      rw [hget] at hrow
      exact ⟨row, hget, by simpa using hrow⟩
    · rintro ⟨row, hget, hrow⟩
      obtain ⟨hlt, -⟩ := List.getElem?_eq_some_iff.mp hget
      exact ⟨hlt, by simp [hget, hrow]⟩
  rw [Db.latestAttempt, List.max?_eq_some_iff, hmem]
  constructor
  · rintro ⟨hrow, hmax⟩
    exact ⟨hrow, fun a' row' hget hrow' => hmax a' ((hmem a').mpr ⟨row', hget, hrow'⟩)⟩
  · rintro ⟨hrow, hmax⟩
    refine ⟨hrow, fun a' ha' => ?_⟩
    obtain ⟨row', hget, hrow'⟩ := (hmem a').mp ha'
    exact hmax a' row' hget hrow'

section Logging

/-! The log grows. -/

lemma Handed.mono {e : Event Command Reply} (h : Handed l b a) : Handed (e :: l) b a := by
  obtain ⟨signed, hmem⟩ := h
  exact ⟨signed, List.mem_cons_of_mem _ hmem⟩

lemma Seen.mono {e : Event Command Reply} {hash response : Json} {seen : Sighting}
    (h : Seen l hash response seen) : Seen (e :: l) hash response seen :=
  ⟨List.mem_cons_of_mem _ h.1, h.2⟩

lemma Resolved.mono {e : Event Command Reply} (h : Resolved db l a) : Resolved db (e :: l) a := by
  obtain ⟨row, hrow, hcode | ⟨response, seen, hseen⟩⟩ := h
  · exact ⟨row, hrow, .inl hcode⟩
  · exact ⟨row, hrow, .inr ⟨response, seen, hseen.mono⟩⟩

lemma Executed.mono {e : Event Command Reply} {batch : Batch} (h : Executed db l b batch) :
    Executed db (e :: l) b batch := by
  obtain ⟨a, row, response, seen, hrow, hof, hhanded, hseen, hrest⟩ := h
  exact ⟨a, row, response, seen, hrow, hof, hhanded.mono, hseen.mono, hrest⟩

lemma AllKept.tail {e : Event Command Reply} (h : AllKept render (e :: l)) : AllKept render l :=
  fun e' he' => h e' (List.mem_cons_of_mem _ he')

lemma Handed.suffix {l' : Log} (h : Handed l b a) (hl : l <:+ l') : Handed l' b a := by
  obtain ⟨signed, hmem⟩ := h
  exact ⟨signed, hl.subset hmem⟩

lemma Seen.suffix {l' : Log} {hash response : Json} {seen : Sighting} (h : Seen l hash response seen)
    (hl : l <:+ l') : Seen l' hash response seen :=
  ⟨hl.subset h.1, h.2⟩

lemma AllKept.suffix {l' : Log} (h : AllKept render l') (hl : l <:+ l') : AllKept render l :=
  fun e he => h e (hl.subset he)

def Still (e : Event Command Reply) : Prop := ∀ b a signed, e ≠ .started (.broadcast b a signed)

lemma Handed.of_still {e : Event Command Reply} (hstill : Still e) (h : Handed (e :: l) b a) : Handed l b a := by
  obtain ⟨signed, hmem⟩ := h
  rcases List.mem_cons.mp hmem with heq | hmem
  · exact absurd heq.symm (hstill b a signed)
  · exact ⟨signed, hmem⟩

lemma Inv.still {e : Event Command Reply} (hinv : Inv render s l) (hstill : Still e) : Inv render s (e :: l) where
  handed b a h := hinv.handed b a (h.of_still hstill)
  attempts hkept b a h := (hinv.attempts hkept.tail b a (h.of_still hstill)).imp_left Resolved.mono
  alone hkept b a signed l' hl := by
    rcases List.suffix_cons_iff.mp hl with heq | hl
    · exact absurd (List.cons.inj heq).1.symm (hstill b a signed)
    · exact hinv.alone hkept.tail b a signed l' hl
  sent a row hrow hhash := (hinv.sent a row hrow hhash).mono
  confirmed b batch hbatch hstate := (hinv.confirmed b batch hbatch hstate).mono
  frozen := hinv.frozen
  unique := hinv.unique
  waiting := hinv.waiting
  attributed := hinv.attributed
  single := hinv.single
  keys := hinv.keys
  past := hinv.past

end Logging

section Touching

variable {batch : Batch → Batch} {attemptId : Option ℕ} {attempt : TxAttempt → TxAttempt}

lemma touch_batches (n : ℕ) : (db.touch b batch attemptId attempt).batches[n]? =
    if b = n then db.batches[n]?.map batch else db.batches[n]? := by
  simp only [Db.touch, List.getElem?_modify]
  split <;> cases db.batches[n]? <;> rfl

lemma touch_attempts (n : ℕ) : (db.touch b batch attemptId attempt).txAttempts[n]? =
    if attemptId = some n then db.txAttempts[n]?.map attempt else db.txAttempts[n]? := by
  cases attemptId with
  | none => simp [Db.touch]
  | some a =>
    simp only [Db.touch, List.getElem?_modify, Option.some.injEq]
    split <;> cases db.txAttempts[n]? <;> rfl

@[simp] lemma touch_rawEvents : (db.touch b batch attemptId attempt).rawEvents = db.rawEvents := rfl
@[simp] lemma touch_batchItems : (db.touch b batch attemptId attempt).batchItems = db.batchItems := rfl
@[simp] lemma touch_batchEvents : (db.touch b batch attemptId attempt).batchEvents = db.batchEvents := rfl

lemma touch_latest (h : ∀ row, (attempt row).batchId = row.batchId) (n : ℕ) :
    (db.touch b batch attemptId attempt).latestAttempt n = db.latestAttempt n := by
  have hlength : (db.touch b batch attemptId attempt).txAttempts.length = db.txAttempts.length := by
    cases attemptId <;> simp [Db.touch]
  simp only [Db.latestAttempt, hlength]
  congr 2
  funext k
  rw [touch_attempts]
  split
  · cases db.txAttempts[k]? <;> simp [h]
  · rfl

def Owned (db : Db) (b : ℕ) (attemptId : Option ℕ) : Prop :=
  ∀ a, attemptId = some a → ∃ row, db.txAttempts[a]? = some row ∧ row.batchId = b

lemma touch_other {b' n : ℕ} {row : TxAttempt} (hown : Owned db b attemptId) (hne : b' ≠ b)
    (hrow : db.txAttempts[n]? = some row) (hof : row.batchId = b') :
    (db.touch b batch attemptId attempt).txAttempts[n]? = some row := by
  rw [touch_attempts, if_neg _, hrow]
  intro hid
  obtain ⟨row', hrow', hof'⟩ := hown n hid
  rw [hrow, Option.some.injEq] at hrow'
  exact hne (by rw [← hof, hrow', hof'])

lemma Resolved.touch (h : Resolved db l a) (hkeep : attemptId = some a → ∀ row,
      (attempt row).txHash = row.txHash ∧ (attempt row).checkCode = row.checkCode) :
    Resolved (db.touch b batch attemptId attempt) l a := by
  obtain ⟨row, hrow, hcode⟩ := h
  by_cases hid : attemptId = some a
  · obtain ⟨hhash, hcheck⟩ := hkeep hid row
    refine ⟨attempt row, by rw [touch_attempts, if_pos hid, hrow]; rfl, ?_⟩
    rwa [hhash, hcheck]
  · exact ⟨row, by rw [touch_attempts, if_neg hid, hrow], hcode⟩

lemma Alone.touch (halone : Alone db l) (hhanded : ∀ (b a : ℕ), Handed l b a → ∃ row, db.txAttempts[a]? = some row ∧
      row.batchId = b) (hlate : ∀ a, attemptId = some a → db.latestAttempt b = some a ∨
      ∀ row, (attempt row).txHash = row.txHash ∧ (attempt row).checkCode = row.checkCode) :
    Alone (db.touch b batch attemptId attempt) l := by
  intro b' a signed l' hl a' h
  obtain ⟨hlt, hresolved⟩ := halone b' a signed l' hl a' h
  refine ⟨hlt, hresolved.touch fun hid row => ?_⟩
  rcases hlate a' hid with hlatest | hsame
  · -- the attempt given to the network last is never before another one
    obtain ⟨⟨row', hrow', hof'⟩, hmax⟩ := latestAttempt_eq_some.mp hlatest
    obtain ⟨row₀, hrow₀, hof₀⟩ := hhanded b' a ⟨signed, hl.subset (List.mem_cons_self ..)⟩
    obtain ⟨row₁, hrow₁, hof₁⟩ := hhanded b' a' (h.suffix ((List.suffix_cons _ _).trans hl))
    rw [hrow', Option.some.injEq] at hrow₁
    have hsame : b' = b := by rw [← hof₁, ← hrow₁, hof']
    have hle := hmax a row₀ hrow₀ (hof₀.trans hsame)
    omega
  · exact hsame row

lemma Executed.touch {b' : ℕ} {x : Batch} (h : Executed db l b' x) (hown : Owned db b attemptId) (hne : b' ≠ b) :
    Executed (db.touch b batch attemptId attempt) l b' x := by
  obtain ⟨a, row, response, seen, hrow, hrowof, hrest⟩ := h
  exact ⟨a, row, response, seen, touch_other hown hne hrow hrowof, hrowof, hrest⟩

lemma Frozen.touch {frozen : BatchEvent} {x : Batch} (h : Frozen db frozen) (hx : db.batches[b]? = some x)
    (hvault : (batch x).vault = x.vault) (hthrough : (batch x).throughHeight = x.throughHeight) :
    Frozen (db.touch b batch attemptId attempt) frozen := by
  obtain ⟨x', e, hx', he, hvault', hheight, hitem⟩ := h
  by_cases hb : b = frozen.batchId
  · rw [← hb, hx, Option.some.injEq] at hx'
    subst hx'
    refine ⟨batch x, e, by rw [touch_batches, if_pos hb, ← hb, hx]; rfl, he, ?_, ?_, hitem⟩
    · rw [hvault, hvault']
    · rw [hthrough]
      exact hheight
  · exact ⟨x', e, by rw [touch_batches, if_neg hb, hx'], he, hvault', hheight, hitem⟩

lemma touch_resolved_or_open {b' : ℕ} (h : Resolved db l a ∨ Open db b' a) (hown : Owned db b attemptId)
    (hof : ∀ row, (attempt row).batchId = row.batchId) (hne : b' ≠ b)
    (hhanded : ∃ row, db.txAttempts[a]? = some row ∧ row.batchId = b') :
    Resolved (db.touch b batch attemptId attempt) l a ∨ Open (db.touch b batch attemptId attempt) b' a := by
  obtain ⟨row, hrow, hrowof⟩ := hhanded
  have hsame : (db.touch b batch attemptId attempt).txAttempts[a]? = some row := touch_other hown hne hrow hrowof
  rcases h with ⟨row', hrow', hcode⟩ | ⟨hlatest, x', row', hx', hrow', hflight⟩
  · rw [hrow, Option.some.injEq] at hrow'
    exact .inl ⟨row, hsame, hrow' ▸ hcode⟩
  · rw [hrow, Option.some.injEq] at hrow'
    refine .inr ⟨(touch_latest hof b').trans hlatest, x', row, ?_, hsame, hrow' ▸ hflight⟩
    rw [touch_batches, if_neg (Ne.symm hne), hx']

lemma touch_active {n : ℕ} {x y : Batch} (hx : db.batches[b]? = some x) (hlive : x.state ≠ .confirmed)
    (hvault : (batch x).vault = x.vault) (hy : (db.touch b batch attemptId attempt).batches[n]? = some y)
    (hactive : y.state ≠ .confirmed) :
    ∃ z, db.batches[n]? = some z ∧ z.vault = y.vault ∧ z.state ≠ .confirmed := by
  rw [touch_batches] at hy
  split at hy
  · rename_i hb
    rw [← hb, hx, Option.map_some, Option.some.injEq] at hy
    exact ⟨x, hb ▸ hx, by rw [← hy, hvault], hlive⟩
  · exact ⟨y, hy, rfl, hactive⟩

theorem Inv.touch {x : Batch} (hinv : Inv render s l) (hx : s.db.batches[b]? = some x) (hlive : x.state ≠ .confirmed)
    (hvault : (batch x).vault = x.vault) (hthrough : (batch x).throughHeight = x.throughHeight)
    (hstate : (batch x).state ≠ .confirmed) (hof : ∀ row, (attempt row).batchId = row.batchId)
    (hlatest : ∀ a, attemptId = some a → s.db.latestAttempt b = some a)
    (hsent : ∀ a row, attemptId = some a → s.db.txAttempts[a]? = some row → (attempt row).txHash.truthy = true →
      row.txHash.truthy = true ∨ Handed l b a)
    (hopen : AllKept render l → ∀ a, Handed l b a → Resolved (s.db.touch b batch attemptId attempt) l a ∨
      Open (s.db.touch b batch attemptId attempt) b a) :
    Inv render ⟨s.db.touch b batch attemptId attempt, s.db :: s.past⟩ l := by
  have hown : Owned s.db b attemptId := fun a ha => (latestAttempt_eq_some.mp (hlatest a ha)).1
  refine
    { handed := ?handed, attempts := ?attempts, sent := ?sent, confirmed := ?confirmed, frozen := ?frozen,
      unique := hinv.unique, waiting := ?waiting, attributed := ?attributed, single := ?single, keys := hinv.keys,
      alone := fun hkept => (hinv.alone hkept).touch hinv.handed fun a ha => .inl (hlatest a ha),
      past := past_next hinv.past (Keeps.refl s.db) }
  case handed =>
    intro b' a h
    obtain ⟨row, hrow, hrowof⟩ := hinv.handed b' a h
    simp only [touch_attempts, hrow]
    split
    · exact ⟨_, rfl, (hof row).trans hrowof⟩
    · exact ⟨row, rfl, hrowof⟩
  case sent =>
    intro a row hrow hhash
    rw [touch_attempts] at hrow
    split at hrow
    · rename_i hid
      obtain ⟨row₀, hrow₀, hof₀⟩ := hown a hid
      rw [hrow₀, Option.map_some, Option.some.injEq] at hrow
      subst hrow
      rw [hof row₀]
      rcases hsent a row₀ hid hrow₀ hhash with hold | hhanded
      · exact hinv.sent a row₀ hrow₀ hold
      · exact hof₀.symm ▸ hhanded
    · exact hinv.sent a row hrow hhash
  case attempts =>
    intro hkept b' a h
    by_cases hb : b' = b
    · subst hb
      exact hopen hkept a h
    · exact touch_resolved_or_open (hinv.attempts hkept b' a h) hown hof hb (hinv.handed b' a h)
  case confirmed =>
    intro b' x' hx' hconfirmed
    have hb : b' ≠ b := by
      rintro rfl
      simp only [touch_batches, if_true, hx, Option.map_some, Option.some.injEq] at hx'
      exact hstate (hx' ▸ hconfirmed)
    simp only [touch_batches, if_neg (Ne.symm hb)] at hx'
    exact (hinv.confirmed b' x' hx' hconfirmed).touch hown hb
  case frozen =>
    intro frozen hfrozen
    exact (hinv.frozen frozen hfrozen).touch hx hvault hthrough
  case waiting =>
    intro frozen hfrozen x' hx' hactive
    rw [touch_batches] at hx'
    split at hx'
    · rename_i hb
      exact hinv.waiting frozen hfrozen x (hb ▸ hx) hlive
    · exact hinv.waiting frozen hfrozen x' hx' hactive
  case attributed =>
    intro e he b' hb'
    obtain ⟨x', hx', hconfirmed, hvault'⟩ := hinv.attributed e he b' hb'
    refine ⟨x', ?_, hconfirmed, hvault'⟩
    rw [touch_batches, if_neg _, hx']
    rintro rfl
    rw [hx, Option.some.injEq] at hx'
    exact hlive (hx' ▸ hconfirmed)
  case single =>
    intro n n' y y' hy hy' hsame hactive hactive'
    obtain ⟨z, hz, hzvault, hzactive⟩ := touch_active hx hlive hvault hy hactive
    obtain ⟨z', hz', hzvault', hzactive'⟩ := touch_active hx hlive hvault hy' hactive'
    exact hinv.single n n' z z' hz hz' (by rw [hzvault, hsame, hzvault']) hzactive hzactive'

end Touching

section Indexing

/-! The indexer appends fills and leaves the keeper's tables alone. -/

structure Appends (db db' : Db) : Prop where
  batches : db'.batches = db.batches
  batchItems : db'.batchItems = db.batchItems
  batchEvents : db'.batchEvents = db.batchEvents
  txAttempts : db'.txAttempts = db.txAttempts
  rawEvents : ∃ new, db'.rawEvents = db.rawEvents ++ new ∧ ∀ e ∈ new, e.reconciledBatch = none
  keys : (db.rawEvents.map RawEvent.key).Nodup → (db'.rawEvents.map RawEvent.key).Nodup

lemma Appends.of_same (hbatches : db'.batches = db.batches) (hitems : db'.batchItems = db.batchItems)
    (hevents : db'.batchEvents = db.batchEvents) (hattempts : db'.txAttempts = db.txAttempts)
    (hraw : db'.rawEvents = db.rawEvents) : Appends db db' :=
  ⟨hbatches, hitems, hevents, hattempts, ⟨[], by simp [hraw]⟩, fun h => hraw ▸ h⟩

lemma Appends.refl (db : Db) : Appends db db := .of_same rfl rfl rfl rfl rfl

lemma Appends.trans {db₁ db₂ db₃ : Db} (h : Appends db₁ db₂) (h' : Appends db₂ db₃) : Appends db₁ db₃ where
  batches := h'.batches.trans h.batches
  batchItems := h'.batchItems.trans h.batchItems
  batchEvents := h'.batchEvents.trans h.batchEvents
  txAttempts := h'.txAttempts.trans h.txAttempts
  rawEvents := by
    obtain ⟨new, hraw, hnew⟩ := h.rawEvents
    obtain ⟨new', hraw', hnew'⟩ := h'.rawEvents
    refine ⟨new ++ new', by rw [hraw', hraw, List.append_assoc], ?_⟩
    intro e he
    rcases List.mem_append.mp he with he | he
    · exact hnew e he
    · exact hnew' e he
  keys := h'.keys ∘ h.keys

lemma foldChecked_appends {α : Type} {step : Db → α → Py Db} {as : List α}
    (hstep : ∀ db a db', step db a = .ok db' → Appends db db') (h : foldChecked step db as = .ok db') :
    Appends db db' := by
  apply foldChecked_invariant (motive := fun db' _ => Appends db db') h (Appends.refl db)
  intro db₁ a _ db₂ h₂ hdb
  exact hdb.trans (hstep db₁ a db₂ h₂)

lemma insertRawEvent_appends {e : RawEvent} (hnew : e.reconciledBatch = none) :
    Appends db (db.insertRawEvent e) := by
  by_cases hold : (db.rawEvents.any fun old => old.key = e.key) = true
  · rw [Db.insertRawEvent, if_pos hold]
    exact .refl db
  · rw [Db.insertRawEvent, if_neg hold]
    refine ⟨rfl, rfl, rfl, rfl, ⟨[e], rfl, by simpa using hnew⟩, fun hkeys => ?_⟩
    simp only [List.any_eq_true, decide_eq_true_eq, not_exists, not_and] at hold
    simp only [List.map_append, List.map_cons, List.map_nil]
    rw [List.nodup_append]
    refine ⟨hkeys, List.nodup_singleton _, ?_⟩
    intro k hk k' hk' heq
    obtain ⟨old, hmem, rfl⟩ := List.mem_map.mp hk
    exact hold old hmem (heq.trans (List.mem_singleton.mp hk'))

lemma recordOrder_appends {pair vault : String} {orderId : ℕ} {side : Option String}
    (h : recordOrder db pair orderId vault side = .ok db') : Appends db db' := by
  simp only [recordOrder, bind_eq_ok, ensure_eq_ok, exists_const] at h
  obtain ⟨_, -, -, h⟩ := h
  split at h <;> (cases h; exact .of_same rfl rfl rfl rfl rfl)

lemma placement_appends {vault : String} {knownPair : Option String} {attrs : Attrs}
    (h : placement vault knownPair db attrs = .ok db') : Appends db db' := by
  simp only [placement] at h
  split at h
  · split at h
    · exact recordOrder_appends h
    · cases h
      exact .refl db
  · cases h
    exact .refl db

lemma fill_appends {ix : Indexer} {height : ℤ} {txHash : String} {parsed : Attrs × ℕ}
    (h : fill ix height txHash db parsed = .ok db') : Appends db db' := by
  simp only [fill] at h
  split at h
  · cases h
    exact .refl db
  · split at h
    · split at h
      · cases h
        exact .refl db
      · simp only [bind_eq_ok] at h
        obtain ⟨_, -, h⟩ := h
        split at h
        · split at h
          · cases h
            exact .refl db
          · simp only [bind_eq_ok, ensure_eq_ok, exists_const] at h
            obtain ⟨side, -, -, _, -, _, -, h⟩ := h
            cases h
            apply Appends.trans _ (insertRawEvent_appends rfl)
            exact .of_same rfl rfl rfl rfl rfl
        · cases h
          exact .refl db
    · cases h
      exact .refl db

lemma discovery_appends {ix : Indexer} {attrs : Attrs} : Appends db (discovery ix db attrs) := by
  simp only [discovery]
  split
  · exact .refl db
  · split
    · split
      · exact .refl db
      · exact .of_same rfl rfl rfl rfl rfl
    · exact .refl db

lemma ingestTx_appends {py : Python} {ix : Indexer} {height : ℤ} {tx : String × Json}
    (h : ingestTx py ix height db tx = .ok db') : Appends db db' := by
  simp only [ingestTx, bind_eq_ok] at h
  obtain ⟨_, -, _, -, h⟩ := h
  split at h
  · cases h
    exact .refl db
  · simp only [bind_eq_ok, Except.ok.injEq] at h
    obtain ⟨_, -, _, -, parsed, -, db₁, hplaced, db₂, hfilled, rfl⟩ := h
    have h₁ : Appends db db₁ := by
      simp only [placements] at hplaced
      split at hplaced
      · exact foldChecked_appends (fun _ _ _ h => placement_appends h) hplaced
      · cases hplaced
        exact .refl db
    have h₂ : Appends db₁ db₂ := foldChecked_appends (fun _ _ _ h => fill_appends h) hfilled
    have h₃ : ∀ (attrs : List Attrs) db₂, Appends db₂ (attrs.foldl (discovery ix) db₂) := by
      intro attrs
      induction attrs with
      | nil => exact Appends.refl
      | cons attrs rest ih => exact fun db₂ => discovery_appends.trans (ih _)
    exact h₁.trans (h₂.trans (h₃ parsed db₂))

lemma scanHeight_appends {py : Python} {ix : Indexer} {block : Block}
    (h : scanHeight py ix block db = .ok db') : Appends db db' := by
  obtain ⟨-, db₁, hfold, rfl⟩ := scanHeight_eq_ok.mp h
  have hentered : Appends db (db.insertBlock ix.chainId block.height (block.row py)) := .of_same rfl rfl rfl rfl rfl
  have h₁ := hentered.trans (foldChecked_appends (fun _ _ _ h => ingestTx_appends h) hfold)
  cases hrow : block.row py with
  | none => exact ⟨h₁.batches, h₁.batchItems, h₁.batchEvents, h₁.txAttempts, ⟨[], by simp⟩, id⟩
  | some hash => exact h₁.trans (.of_same rfl rfl rfl rfl rfl)

lemma refreshOrders_appends {vault pair : String} {current : List (ℕ × String)}
    (h : refreshOrders vault pair current db = .ok db') : Appends db db' := by
  simp only [refreshOrders, bind_eq_ok, Except.ok.injEq] at h
  obtain ⟨db₁, hfold, rfl⟩ := h
  have hstep : ∀ db order db', refreshOrder vault pair db order = .ok db' → Appends db db' := by
    intro db order db' h
    simp only [refreshOrder, bind_eq_ok, ensure_eq_ok, exists_const, Except.ok.injEq] at h
    obtain ⟨_, -, -, rfl⟩ := h
    exact .of_same rfl rfl rfl rfl rfl
  refine Appends.trans ?_ ((foldChecked_appends hstep hfold).trans (.of_same rfl rfl rfl rfl rfl))
  split <;> exact .of_same rfl rfl rfl rfl rfl

lemma registerVaults_appends (ix : Indexer) (db : Db) : Appends db (registerVaults ix db) := by
  rw [registerVaults]
  induction ix.vaults generalizing db with
  | nil => exact .refl db
  | cons address rest ih =>
    apply Appends.trans _ (ih _)
    exact .of_same rfl rfl rfl rfl rfl

inductive Indexed (py : Python) (ix : Indexer) (db : Db) : Db → Prop
  | scanned {block : Block} {db' : Db} (h : scanHeight py ix block db = .ok db') : Indexed py ix db db'
  | refreshed {vault pair : String} {current : List (ℕ × String)} {db' : Db}
      (h : refreshOrders vault pair current db = .ok db') : Indexed py ix db db'
  | registered : Indexed py ix db (registerVaults ix db)

lemma Indexed.appends {py : Python} {ix : Indexer} (h : Indexed py ix db db') : Appends db db' := by
  cases h with
  | scanned h => exact scanHeight_appends h
  | refreshed h => exact refreshOrders_appends h
  | registered => exact registerVaults_appends ix db

/-- What the indexer may do between two steps of the keeper. -/
def Indexing (py : Python) (s s' : Store) : Prop := (∃ ix, Indexed py ix s.db s'.db) ∧ s'.past = s.db :: s.past

lemma Appends.keeps (h : Appends db db') : Keeps db db' := by
  intro n e b he hb
  obtain ⟨new, hraw, -⟩ := h.rawEvents
  refine ⟨e, ?_, rfl, hb⟩
  rw [hraw, List.getElem?_append_left (List.getElem?_eq_some_iff.mp he).1, he]

lemma Appends.mem {e : RawEvent} {b : ℕ} (h : Appends db db') (he : e ∈ db'.rawEvents)
    (hb : e.reconciledBatch = some b) : e ∈ db.rawEvents := by
  obtain ⟨new, hraw, hnew⟩ := h.rawEvents
  rw [hraw] at he
  rcases List.mem_append.mp he with he | he
  · exact he
  · rw [hnew e he] at hb
    cases hb

lemma Appends.latest (h : Appends db db') (b : ℕ) : db'.latestAttempt b = db.latestAttempt b := by
  rw [Db.latestAttempt, Db.latestAttempt, h.txAttempts]

lemma Appends.getElem (h : Appends db db') {n : ℕ} {e : RawEvent} (he : db.rawEvents[n]? = some e) :
    db'.rawEvents[n]? = some e := by
  obtain ⟨new, hraw, -⟩ := h.rawEvents
  rw [hraw, List.getElem?_append_left (List.getElem?_eq_some_iff.mp he).1, he]

theorem Inv.appends (hinv : Inv render s l) (h : Appends s.db db') : Inv render ⟨db', s.db :: s.past⟩ l where
  handed b a hh := by
    simp only [h.txAttempts]
    exact hinv.handed b a hh
  sent a row hrow hhash := hinv.sent a row (h.txAttempts ▸ hrow) hhash
  attempts hkept b a hh := by
    rcases hinv.attempts hkept b a hh with ⟨row, hrow, hcode⟩ | ⟨hlatest, x, row, hx, hrow, hflight⟩
    · exact .inl ⟨row, h.txAttempts ▸ hrow, hcode⟩
    · exact .inr ⟨(h.latest b).trans hlatest, x, row, h.batches ▸ hx, h.txAttempts ▸ hrow, hflight⟩
  alone hkept b a signed l' hl a' hh := by
    obtain ⟨hlt, row, hrow, hcode⟩ := hinv.alone hkept b a signed l' hl a' hh
    exact ⟨hlt, row, h.txAttempts ▸ hrow, hcode⟩
  confirmed b x hx hconfirmed := by
    obtain ⟨a, row, response, seen, hrow, hof, hhanded, hseen, hcode, hpage, hbound, hfrozen⟩ :=
      hinv.confirmed b x (h.batches ▸ hx) hconfirmed
    refine ⟨a, row, response, seen, h.txAttempts ▸ hrow, hof, hhanded, hseen, hcode, hpage, ?_, ?_⟩
    · intro e he hb
      exact hbound e (h.mem he hb) hb
    · intro hthrough frozen hmem hofb
      obtain ⟨e, he, hb⟩ := hfrozen hthrough frozen (h.batchEvents ▸ hmem) hofb
      exact ⟨e, h.getElem he, hb⟩
  frozen frozen hmem := by
    obtain ⟨x, e, hx, he, hvault, hheight, item, hitem, hrest⟩ := hinv.frozen frozen (h.batchEvents ▸ hmem)
    exact ⟨x, e, h.batches ▸ hx, h.getElem he, hvault, hheight, item, h.batchItems ▸ hitem, hrest⟩
  unique := by
    simp only [h.batchEvents]
    exact hinv.unique
  waiting frozen hmem x hx hactive e he := by
    obtain ⟨_, e', -, he', -⟩ := hinv.frozen frozen (h.batchEvents ▸ hmem)
    rw [h.getElem he', Option.some.injEq] at he
    exact hinv.waiting frozen (h.batchEvents ▸ hmem) x (h.batches ▸ hx) hactive e (he ▸ he')
  attributed e he b hb := by
    simp only [h.batches]
    exact hinv.attributed e (h.mem he hb) b hb
  single := by
    simp only [h.batches]
    exact hinv.single
  keys := h.keys hinv.keys
  past := past_next hinv.past h.keeps

end Indexing

section Attempting

lemma insertAttempt_getElem {new row : TxAttempt} {n : ℕ} (h : db.txAttempts[n]? = some row) :
    (db.insertAttempt new).txAttempts[n]? = some row := by
  rw [Db.insertAttempt, List.getElem?_append_left (List.getElem?_eq_some_iff.mp h).1, h]

lemma insertAttempt_elim {new row : TxAttempt} {n : ℕ} (h : (db.insertAttempt new).txAttempts[n]? = some row) :
    db.txAttempts[n]? = some row ∨ row = new ∧ n = db.txAttempts.length := by
  rw [Db.insertAttempt, List.getElem?_append] at h
  split at h
  · exact .inl h
  · rw [List.getElem?_singleton] at h
    split at h
    · cases h
      exact .inr ⟨rfl, by omega⟩
    · cases h

lemma latest_insertAttempt {new : TxAttempt} (h : new.batchId = b) :
    (db.insertAttempt new).latestAttempt b = some db.txAttempts.length := by
  refine latestAttempt_eq_some.mpr ⟨⟨new, by simp [Db.insertAttempt], h⟩, ?_⟩
  intro a row hrow _
  rcases insertAttempt_elim hrow with hrow | ⟨-, rfl⟩
  · exact (List.getElem?_eq_some_iff.mp hrow).1.le
  · rfl

lemma Resolved.insertAttempt {new : TxAttempt} (h : Resolved db l a) : Resolved (db.insertAttempt new) l a := by
  obtain ⟨row, hrow, hcode⟩ := h
  exact ⟨row, insertAttempt_getElem hrow, hcode⟩

lemma Inv.insertAttempt {new : TxAttempt} (hinv : Inv render s l) (hnew : new.batchId = b)
    (hhash : new.txHash = .null) (hresolved : AllKept render l → ∀ a, Handed l b a → Resolved s.db l a) :
    Inv render ⟨s.db.insertAttempt new, s.past⟩ l :=
  { hinv with
    handed := by
      intro b' a h
      obtain ⟨row, hrow, hof⟩ := hinv.handed b' a h
      exact ⟨row, insertAttempt_getElem hrow, hof⟩
    sent := by
      intro a row hrow htruthy
      rcases insertAttempt_elim hrow with hrow | ⟨rfl, -⟩
      · exact hinv.sent a row hrow htruthy
      · rw [hhash] at htruthy
        cases htruthy
    attempts := by
      intro hkept b' a h
      by_cases hb : b' = b
      · subst hb
        exact .inl (hresolved hkept a h).insertAttempt
      · rcases hinv.attempts hkept b' a h with hresolved' | ⟨hlatest, x', row, hx', hrow, hflight⟩
        · exact .inl hresolved'.insertAttempt
        · refine .inr ⟨?_, x', row, hx', insertAttempt_getElem hrow, hflight⟩
          obtain ⟨⟨row', hrow', hof⟩, hmax⟩ := latestAttempt_eq_some.mp hlatest
          refine latestAttempt_eq_some.mpr ⟨⟨row', insertAttempt_getElem hrow', hof⟩, ?_⟩
          intro a' row'' hrow'' hof''
          rcases insertAttempt_elim hrow'' with hrow'' | ⟨rfl, -⟩
          · exact hmax a' row'' hrow'' hof''
          · exact absurd (hof''.symm.trans hnew) hb
    alone := by
      intro hkept b' a signed l' hl a' h
      obtain ⟨hlt, hresolved'⟩ := hinv.alone hkept b' a signed l' hl a' h
      exact ⟨hlt, hresolved'.insertAttempt⟩
    confirmed := by
      intro b' x' hx' hconfirmed
      obtain ⟨a, row, response, seen, hrow, hrest⟩ := hinv.confirmed b' x' hx' hconfirmed
      exact ⟨a, row, response, seen, insertAttempt_getElem hrow, hrest⟩ }

end Attempting

section Confirming

variable {vault : String} {height : ℤ}

lemma reconciled_cases (db : Db) (b : ℕ) (vault : String) (height : ℤ) (e : RawEvent) :
    reconciled db b vault height e = e ∨ (reconciled db b vault height e = { e with reconciledBatch := some b } ∧
      e.reconciledBatch = none ∧ e.vault = vault ∧ e.height ≤ height) := by
  by_cases h : e.reconciledBatch.isNone ∧ e.vault = vault ∧ e.height ≤ height ∧
      (db.batchItems.any fun item => item.batchId = b && item.pair = e.pair && item.orderId = e.orderId)
  · exact .inr ⟨if_pos h, by simpa using h.1, h.2.1, h.2.2.1⟩
  · exact .inl (if_neg h)

lemma reconciled_of_some {e : RawEvent} {b' : ℕ} (h : e.reconciledBatch = some b') :
    reconciled db b vault height e = e := by
  rcases reconciled_cases db b vault height e with heq | ⟨-, hnone, -⟩
  · exact heq
  · rw [h] at hnone
    cases hnone

lemma reconciled_attributed {e : RawEvent} {b' : ℕ}
    (h : (reconciled db b vault height e).reconciledBatch = some b') :
    e.reconciledBatch = some b' ∨ b' = b ∧ e.vault = vault ∧ e.height ≤ height := by
  rcases reconciled_cases db b vault height e with heq | ⟨heq, -, hvault, hheight⟩
  · exact .inl (heq ▸ h)
  · rw [heq] at h
    exact .inr ⟨(Option.some.inj h).symm, hvault, hheight⟩

@[simp] lemma reconciled_key (e : RawEvent) : (reconciled db b vault height e).key = e.key := by
  rcases reconciled_cases db b vault height e with heq | ⟨heq, -⟩
  · rw [heq]
  · rw [heq]
    rfl

lemma reconciled_same (db : Db) (b : ℕ) (vault : String) (height : ℤ) (e : RawEvent) :
    (reconciled db b vault height e).vault = e.vault ∧ (reconciled db b vault height e).height = e.height ∧
    (reconciled db b vault height e).pair = e.pair ∧ (reconciled db b vault height e).orderId = e.orderId := by
  rcases reconciled_cases db b vault height e with heq | ⟨heq, -⟩
  · rw [heq]
    exact ⟨rfl, rfl, rfl, rfl⟩
  · rw [heq]
    exact ⟨rfl, rfl, rfl, rfl⟩

lemma reconcile_rawEvents (a : ℕ) (txHash : Json) (n : ℕ) : (reconcile db b a vault height txHash).rawEvents[n]? =
    db.rawEvents[n]?.map (reconciled db b vault height) := by
  simp [reconcile]

lemma reconcile_mem {e : RawEvent} {a : ℕ} {txHash : Json}
    (h : e ∈ (reconcile db b a vault height txHash).rawEvents) :
    ∃ e₀ ∈ db.rawEvents, reconciled db b vault height e₀ = e := by
  simpa [reconcile] using h

lemma reconcile_batches (a : ℕ) (txHash : Json) (n : ℕ) : (reconcile db b a vault height txHash).batches[n]? =
    if b = n then db.batches[n]?.map fun row => { row with state := .confirmed, txHash, error := none }
    else db.batches[n]? := by
  rw [reconcile, touch_batches]

lemma reconcile_keeps (a : ℕ) (txHash : Json) : Keeps db (reconcile db b a vault height txHash) := by
  intro n e b' he hb
  refine ⟨e, ?_, rfl, hb⟩
  rw [reconcile_rawEvents, he, Option.map_some, reconciled_of_some hb]

/-- The node shows an attempt of a live batch executed, and the other attempts at it are resolved. -/
structure Confirms (render : Json → String) (s : Store) (l : Log) (b a : ℕ) (x : Batch) (row : TxAttempt)
    (response : Json) (seen : Sighting) : Prop where
  inv : Inv render s l
  batch : s.db.batches[b]? = some x
  live : x.state ≠ .confirmed
  attempt : s.db.txAttempts[a]? = some row
  own : row.batchId = b
  handed : Handed l b a
  others : AllKept render l → ∀ a', a' ≠ a → Handed l b a' → Resolved s.db l a'
  shown : Seen l row.txHash response seen
  code : seen.code = 0
  page : hasRevertedGridPage response = .ok false

namespace Confirms

abbrev after (s : Store) (b a : ℕ) (x : Batch) (seen : Sighting) (stored : Json) : Db :=
  reconcile s.db b a x.vault seen.height stored

variable {x : Batch} {row : TxAttempt} {response stored : Json} {seen : Sighting}

lemma other_batch {b' : ℕ} (hne : b' ≠ b) : (after s b a x seen stored).batches[b']? = s.db.batches[b']? := by
  rw [reconcile_batches, if_neg (Ne.symm hne)]

variable (h : Confirms render s l b a x row response seen)
include h

lemma resolved (hkept : AllKept render l) {a' : ℕ} (hhanded : Handed l b a') :
    Resolved (after s b a x seen stored) l a' := by
  have hold : Resolved s.db l a' := by
    by_cases ha : a' = a
    · subst ha
      exact ⟨row, h.attempt, .inr ⟨response, seen, h.shown⟩⟩
    · exact h.others hkept a' ha hhanded
  exact Resolved.touch hold fun _ _ => ⟨rfl, rfl⟩

lemma other_attempt {b' n : ℕ} {row' : TxAttempt} (hne : b' ≠ b) (hrow : s.db.txAttempts[n]? = some row')
    (hof : row'.batchId = b') : (after s b a x seen stored).txAttempts[n]? = some row' := by
  refine touch_other ?_ hne hrow hof
  rintro _ ⟨⟩
  exact ⟨row, h.attempt, h.own⟩

lemma own_attempt : (after s b a x seen stored).txAttempts[a]? = some { row with state := .confirmed } := by
  rw [after, reconcile, touch_attempts, if_pos rfl, h.attempt]
  rfl

lemma own_batch :
    (after s b a x seen stored).batches[b]? = some { x with state := .confirmed, txHash := stored, error := none } := by
  rw [reconcile_batches, if_pos rfl, h.batch]
  rfl

/-- A batch that was confirmed before is another one. -/
lemma ne_confirmed {b' : ℕ} {x' : Batch} (hx' : s.db.batches[b']? = some x') (hconfirmed : x'.state = .confirmed) :
    b' ≠ b := by
  rintro rfl
  rw [h.batch, Option.some.injEq] at hx'
  exact h.live (hx' ▸ hconfirmed)

lemma unattributed {e : RawEvent} (he : e ∈ s.db.rawEvents) : e.reconciledBatch ≠ some b := by
  intro hb
  obtain ⟨x', hx', hconfirmed, -⟩ := h.inv.attributed e he b hb
  exact h.ne_confirmed hx' hconfirmed rfl

lemma handed_after {b' a' : ℕ} (hhanded : Handed l b' a') :
    ∃ row', (after s b a x seen stored).txAttempts[a']? = some row' ∧ row'.batchId = b' := by
  obtain ⟨row', hrow', hof'⟩ := h.inv.handed b' a' hhanded
  by_cases hb : b' = b
  · subst hb
    by_cases ha : a' = a
    · subst ha
      exact ⟨_, h.own_attempt, h.own⟩
    · refine ⟨row', ?_, hof'⟩
      rw [after, reconcile, touch_attempts, if_neg fun h => ha (Option.some.inj h).symm, hrow']
  · exact ⟨row', h.other_attempt hb hrow' hof', hof'⟩

lemma sent_after {a' : ℕ} {row' : TxAttempt} (hrow' : (after s b a x seen stored).txAttempts[a']? = some row')
    (hhash : row'.txHash.truthy = true) : Handed l row'.batchId a' := by
  rw [after, reconcile, touch_attempts] at hrow'
  split at hrow'
  · rename_i ha
    obtain rfl : a = a' := Option.some.inj ha
    rw [h.attempt, Option.map_some, Option.some.injEq] at hrow'
    subst hrow'
    exact h.own.symm ▸ h.handed
  · exact h.inv.sent a' row' hrow' hhash

lemma attempts_after (hkept : AllKept render l) {b' a' : ℕ} (hhanded : Handed l b' a') :
    Resolved (after s b a x seen stored) l a' ∨ Open (after s b a x seen stored) b' a' := by
  by_cases hb : b' = b
  · subst hb
    exact .inl (h.resolved hkept hhanded)
  · obtain ⟨row', hrow', hof'⟩ := h.inv.handed b' a' hhanded
    have hsame : (after s b a x seen stored).txAttempts[a']? = some row' := h.other_attempt hb hrow' hof'
    rcases h.inv.attempts hkept b' a' hhanded with ⟨row'', hrow'', hcode'⟩ | ⟨hlatest, x', row'', hx', hrow'', hflight⟩
    · rw [hrow', Option.some.injEq] at hrow''
      exact .inl ⟨row', hsame, hrow'' ▸ hcode'⟩
    · rw [hrow', Option.some.injEq] at hrow''
      have hlatest' : (after s b a x seen stored).latestAttempt b' = some a' := by
        rw [after, reconcile, touch_latest (by intro row; rfl)]
        exact hlatest
      exact .inr ⟨hlatest', x', row', (other_batch hb).trans hx', hsame, hrow'' ▸ hflight⟩

lemma alone_after (hkept : AllKept render l) : Alone (after s b a x seen stored) l := by
  have halone : Alone { s.db with
      rawEvents := s.db.rawEvents.map (reconciled s.db b x.vault seen.height) } l := h.inv.alone hkept
  refine halone.touch h.inv.handed ?_
  exact fun _ _ => .inr fun _ => ⟨rfl, rfl⟩

/-- The batch itself: its frozen fills up to the height are the ones it is given. -/
lemma own_executed : Executed (after s b a x seen stored) l b
    { x with state := .confirmed, txHash := stored, error := none } := by
  refine ⟨a, _, response, seen, h.own_attempt, h.own, h.handed, h.shown, h.code, h.page, ?_, ?_⟩
  · intro e he hb
    obtain ⟨e₀, he₀, rfl⟩ := reconcile_mem he
    rcases reconciled_attributed hb with hb | ⟨-, -, hheight⟩
    · exact absurd hb (h.unattributed he₀)
    · rw [(reconciled_same s.db b x.vault seen.height e₀).2.1]
      exact hheight
  · intro hthrough frozen hfrozen hfrozenof
    obtain ⟨x', e, hx', he, hvault, hheight, item, hitem, hitemof, hpair, horder⟩ := h.inv.frozen frozen hfrozen
    rw [hfrozenof, h.batch, Option.some.injEq] at hx'
    subst hx'
    refine ⟨reconciled s.db b x.vault seen.height e, by rw [reconcile_rawEvents, he]; rfl, ?_⟩
    have hnone := h.inv.waiting frozen hfrozen x (hfrozenof ▸ h.batch) h.live e he
    rw [reconciled, if_pos]
    refine ⟨by rw [hnone]; rfl, hvault, hheight.trans hthrough, ?_⟩
    rw [List.any_eq_true]
    exact ⟨item, hitem, by simp [hitemof, hfrozenof, hpair, horder]⟩

lemma confirmed_after {b' : ℕ} {x' : Batch} (hx' : (after s b a x seen stored).batches[b']? = some x')
    (hconfirmed : x'.state = .confirmed) : Executed (after s b a x seen stored) l b' x' := by
  by_cases hb : b' = b
  · subst hb
    rw [h.own_batch, Option.some.injEq] at hx'
    exact hx' ▸ h.own_executed
  · rw [other_batch hb] at hx'
    obtain ⟨a', row', response', seen', hrow', hof', hhanded', hseen', hcode', hpage', hbound, hall⟩ :=
      h.inv.confirmed b' x' hx' hconfirmed
    refine ⟨a', row', response', seen', h.other_attempt hb hrow' hof', hof', hhanded', hseen', hcode', hpage', ?_, ?_⟩
    · intro e he hb'
      obtain ⟨e₀, he₀, rfl⟩ := reconcile_mem he
      rcases reconciled_attributed hb' with hold | ⟨heq, -⟩
      · rw [(reconciled_same s.db b x.vault seen.height e₀).2.1]
        exact hbound e₀ he₀ hold
      · exact absurd heq hb
    · intro hthrough frozen hfrozen hfrozenof
      obtain ⟨e, he, hb'⟩ := hall hthrough frozen hfrozen hfrozenof
      exact ⟨e, by rw [reconcile_rawEvents, he, Option.map_some, reconciled_of_some hb'], hb'⟩

lemma frozen_after {frozen : BatchEvent} (hfrozen : frozen ∈ s.db.batchEvents) :
    Frozen (after s b a x seen stored) frozen := by
  obtain ⟨x', e, hx', he, hvault, hheight, item, hitem, hitemof, hpair, horder⟩ := h.inv.frozen frozen hfrozen
  obtain ⟨hvault', hheight', hpair', horder'⟩ := reconciled_same s.db b x.vault seen.height e
  obtain ⟨x'', hx'', hsamevault, hsamethrough⟩ : ∃ x'',
      (after s b a x seen stored).batches[frozen.batchId]? = some x'' ∧
      x''.vault = x'.vault ∧ x''.throughHeight = x'.throughHeight := by
    rw [reconcile_batches, hx']
    split
    · exact ⟨_, rfl, rfl, rfl⟩
    · exact ⟨_, rfl, rfl, rfl⟩
  refine ⟨x'', reconciled s.db b x.vault seen.height e, hx'', by rw [reconcile_rawEvents, he]; rfl, ?_, ?_, item,
    hitem, hitemof, ?_, ?_⟩
  · rw [hvault', hvault, hsamevault]
  · rw [hheight', hsamethrough]
    exact hheight
  · rw [hpair, hpair']
  · rw [horder, horder']

lemma waiting_after {frozen : BatchEvent} (hfrozen : frozen ∈ s.db.batchEvents) {x' : Batch}
    (hx' : (after s b a x seen stored).batches[frozen.batchId]? = some x') (hactive : x'.state ≠ .confirmed)
    {e : RawEvent} (he : (after s b a x seen stored).rawEvents[frozen.eventId]? = some e) :
    e.reconciledBatch = none := by
  have hb : frozen.batchId ≠ b := by
    intro hb
    rw [hb, h.own_batch, Option.some.injEq] at hx'
    subst hx'
    exact hactive rfl
  rw [other_batch hb] at hx'
  rw [reconcile_rawEvents] at he
  obtain ⟨x'', e₀, hx'', he₀, hvault, -⟩ := h.inv.frozen frozen hfrozen
  rw [hx', Option.some.injEq] at hx''
  subst hx''
  rw [he₀, Option.map_some, Option.some.injEq] at he
  subst he
  have hnone := h.inv.waiting frozen hfrozen x' hx' hactive e₀ he₀
  rcases reconciled_cases s.db b x.vault seen.height e₀ with heq | ⟨-, -, hsame, -⟩
  · rw [heq]
    exact hnone
  · -- two batches of one vault are never active together
    exact absurd (h.inv.single _ _ x' x hx' h.batch (hvault.symm.trans hsame) hactive h.live) hb

lemma attributed_after {e : RawEvent} (he : e ∈ (after s b a x seen stored).rawEvents) {b' : ℕ}
    (hb' : e.reconciledBatch = some b') : ∃ batch, (after s b a x seen stored).batches[b']? = some batch ∧
      batch.state = .confirmed ∧ batch.vault = e.vault := by
  obtain ⟨e₀, he₀, rfl⟩ := reconcile_mem he
  rw [(reconciled_same s.db b x.vault seen.height e₀).1]
  rcases reconciled_attributed hb' with hold | ⟨rfl, hvault, -⟩
  · obtain ⟨x', hx', hconfirmed, hvault⟩ := h.inv.attributed e₀ he₀ b' hold
    exact ⟨x', (other_batch (h.ne_confirmed hx' hconfirmed)).trans hx', hconfirmed, hvault⟩
  · exact ⟨_, h.own_batch, rfl, hvault.symm⟩

lemma active_before {n : ℕ} {y : Batch} (hy : (after s b a x seen stored).batches[n]? = some y)
    (hactive : y.state ≠ .confirmed) : s.db.batches[n]? = some y := by
  rw [reconcile_batches] at hy
  split at hy
  · rename_i hb
    rw [← hb, h.batch, Option.map_some, Option.some.injEq] at hy
    subst hy
    exact absurd rfl hactive
  · exact hy

theorem inv_after : Inv render ⟨after s b a x seen stored, s.db :: s.past⟩ l where
  handed _ _ hhanded := h.handed_after hhanded
  attempts hkept _ _ hhanded := h.attempts_after hkept hhanded
  alone hkept := h.alone_after hkept
  sent _ _ hrow hhash := h.sent_after hrow hhash
  confirmed _ _ hx hconfirmed := h.confirmed_after hx hconfirmed
  frozen _ hfrozen := h.frozen_after hfrozen
  unique := h.inv.unique
  waiting _ hfrozen _ hx hactive _ he := h.waiting_after hfrozen hx hactive he
  attributed _ he _ hb := h.attributed_after he hb
  single n n' y y' hy hy' hsame hactive hactive' :=
    h.inv.single n n' y y' (h.active_before hy hactive) (h.active_before hy' hactive') hsame hactive hactive'
  keys := by
    have hmap : (after s b a x seen stored).rawEvents.map RawEvent.key = s.db.rawEvents.map RawEvent.key := by
      simp [reconcile, Function.comp_def]
    rw [hmap]
    exact h.inv.keys
  past := past_next h.inv.past (reconcile_keeps a stored)

end Confirms

end Confirming

section Freezing

variable {vault : String} {keeper : Keeper}

lemma mem_unreconciled {n : ℕ} {e : RawEvent} : (n, e) ∈ unreconciled db vault ↔
    db.rawEvents[n]? = some e ∧ e.vault = vault ∧ e.reconciledBatch = none := by
  simp [unreconciled, List.mem_zipIdx_iff_getElem?]

lemma active_iff (state : BatchState) : state.active = true ↔ state ≠ .confirmed := by
  cases state <;> simp [BatchState.active]

lemma activeBatch_eq_none (h : activeBatch db vault = none) {x : Batch} (hx : db.batches[b]? = some x)
    (hvault : x.vault = vault) : x.state = .confirmed := by
  by_contra hactive
  rw [activeBatch, List.find?_eq_none] at h
  have hlt := (List.getElem?_eq_some_iff.mp hx).1
  apply h b (List.mem_range.mpr hlt)
  simp [hx, hvault, active_iff, hactive]

lemma orderRows_nodup (keeper : Keeper) (db : Db) (vault : String) : (orderRows keeper db vault).Nodup := by
  apply List.Nodup.sublist (List.take_sublist _ _)
  rw [(List.mergeSort_perm _ _).nodup_iff]
  exact List.nodup_dedup _

lemma mem_frozen {n : ℕ} {e : RawEvent} : (n, e) ∈ frozen keeper db vault ↔
    (db.rawEvents[n]? = some e ∧ e.vault = vault ∧ e.reconciledBatch = none) ∧
    orderOf e ∈ orderRows keeper db vault := by
  simp only [frozen, List.mem_flatMap, eventsOf, List.mem_filter, mem_unreconciled, decide_eq_true_eq]
  constructor
  · rintro ⟨order, hmem, he, rfl⟩
    exact ⟨he, hmem⟩
  · rintro ⟨he, hmem⟩
    exact ⟨_, hmem, he, rfl⟩

lemma frozen_nodup (keeper : Keeper) (db : Db) (vault : String) :
    ((frozen keeper db vault).map Prod.fst).Nodup := by
  have hids : ((unreconciled db vault).map Prod.fst).Nodup := by
    apply List.Nodup.sublist (List.Sublist.map _ List.filter_sublist)
    have hindex : (db.rawEvents.zipIdx.map Prod.swap).map Prod.fst = List.range db.rawEvents.length := by
      rw [List.map_map, List.range_eq_range', ← List.zipIdx_map_snd 0 db.rawEvents]
      rfl
    rw [hindex]
    exact List.nodup_range
  rw [frozen, List.map_flatMap, List.nodup_flatMap]
  constructor
  · intro order _
    exact hids.sublist (List.Sublist.map _ List.filter_sublist)
  · apply (orderRows_nodup keeper db vault).imp
    intro order order' hne n hn hn'
    obtain ⟨⟨n₁, e⟩, he, rfl⟩ := List.mem_map.mp hn
    obtain ⟨⟨n₂, e'⟩, he', rfl⟩ := List.mem_map.mp hn'
    simp only [eventsOf, List.mem_filter, mem_unreconciled, decide_eq_true_eq] at he he'
    rw [he.1.1, Option.some.injEq] at he'
    exact hne (by rw [← he.2, he'.1.1, he'.2])

lemma le_foldl_max {heights : List ℤ} {init h : ℤ} (hmem : h ∈ heights) : h ≤ heights.foldl max init := by
  induction heights generalizing init with
  | nil => cases hmem
  | cons x rest ih =>
    rcases List.mem_cons.mp hmem with rfl | hmem
    · have hgrow : ∀ (rest : List ℤ) (m : ℤ), m ≤ rest.foldl max m := by
        intro rest
        induction rest with
        | nil => exact fun m => le_rfl
        | cons y rest ih => exact fun m => (le_max_left m y).trans (ih _)
      exact (le_max_right init h).trans (hgrow rest _)
    · exact ih hmem

lemma insertBatchEvents_ok {events : List ℕ}
    (h : (db.batchEvents.map BatchEvent.eventId ++ events).Nodup) : insertBatchEvents db b events =
      .ok { db with batchEvents := db.batchEvents ++ events.map fun e => ⟨b, e⟩ } := by
  induction events generalizing db with
  | nil => simp [insertBatchEvents, foldChecked]
  | cons e rest ih =>
    have hnew : (db.batchEvents.any fun frozen => frozen.eventId = e) = false := by
      rw [List.any_eq_false]
      intro frozen hmem heq
      have hdisjoint := (List.nodup_append.mp h).2.2 frozen.eventId (List.mem_map_of_mem hmem) e
        (List.mem_cons_self ..)
      exact hdisjoint (by simpa using heq)
    have hrest : insertBatchEvents { db with batchEvents := db.batchEvents ++ [⟨b, e⟩] } b rest = _ :=
      ih (by simpa using h)
    simp only [insertBatchEvents, foldChecked, hnew, Bool.not_false] at hrest ⊢
    simpa [ensure] using hrest

lemma insertBatchEvents_eq_ok {events : List ℕ} (hunique : (db.batchEvents.map BatchEvent.eventId).Nodup)
    (h : insertBatchEvents db b events = .ok db') :
    db' = { db with batchEvents := db.batchEvents ++ events.map fun e => ⟨b, e⟩ } ∧
    (db'.batchEvents.map BatchEvent.eventId).Nodup := by
  induction events generalizing db with
  | nil =>
    cases h
    exact ⟨by simp, hunique⟩
  | cons e rest ih =>
    simp only [insertBatchEvents, foldChecked, bind_eq_ok, ensure_eq_ok, exists_const, Except.ok.injEq] at h
    obtain ⟨db₁, ⟨hnew, rfl⟩, h⟩ := h
    have hunique₁ : ((db.batchEvents ++ [(⟨b, e⟩ : BatchEvent)]).map BatchEvent.eventId).Nodup := by
      rw [List.map_append, List.nodup_append]
      refine ⟨hunique, List.nodup_singleton _, ?_⟩
      intro n hn n' hn' heq
      obtain ⟨frozen, hmem, rfl⟩ := List.mem_map.mp hn
      simp only [Bool.not_eq_true', List.any_eq_false, decide_eq_true_eq] at hnew
      exact hnew frozen hmem (heq.trans (List.mem_singleton.mp hn'))
    obtain ⟨rfl, hnodup⟩ := ih hunique₁ h
    exact ⟨by simp, hnodup⟩

lemma active_of_some (h : activeBatch db vault = some b) :
    ∃ x, db.batches[b]? = some x ∧ x.vault = vault ∧ x.state ≠ .confirmed := by
  have hrow := List.find?_some h
  cases hx : db.batches[b]? with
  | none => simp [hx] at hrow
  | some x =>
    simp only [hx, Option.any_some, Bool.and_eq_true, decide_eq_true_eq, active_iff] at hrow
    exact ⟨x, rfl, hrow⟩

def opened (keeper : Keeper) (db : Db) (vault : String) : Db :=
  { db with
    batches := db.batches ++
      [⟨vault, ((frozen keeper db vault).map fun e => e.2.height).foldl max 0, .ready, .null, none, 0, none⟩]
    batchItems := db.batchItems ++ (orderRows keeper db vault).map (itemOf db vault db.batches.length)
    batchEvents := db.batchEvents ++ ((frozen keeper db vault).map Prod.fst).map fun e => ⟨db.batches.length, e⟩ }

lemma freezeBatch_cases {r : Option ℕ} (hunique : (db.batchEvents.map BatchEvent.eventId).Nodup)
    (h : freezeBatch keeper vault db = .ok (db', r)) :
    db' = db ∨ activeBatch db vault = none ∧ db' = opened keeper db vault ∧
      (db'.batchEvents.map BatchEvent.eventId).Nodup := by
  simp only [freezeBatch] at h
  split at h
  · cases h
    exact .inl rfl
  · rename_i hactive
    split at h
    · cases h
      exact .inl rfl
    · simp only [bind_eq_ok, Except.ok.injEq, Prod.mk.injEq] at h
      obtain ⟨db₁, hinsert, rfl, -⟩ := h
      obtain ⟨rfl, hnodup⟩ := insertBatchEvents_eq_ok (by exact hunique) hinsert
      exact .inr ⟨hactive, rfl, hnodup⟩

lemma freezeBatch_opens (hactive : activeBatch db vault = none) (hsome : orderRows keeper db vault ≠ [])
    (hnew : (db.batchEvents.map BatchEvent.eventId ++ (frozen keeper db vault).map Prod.fst).Nodup) :
    freezeBatch keeper vault db = .ok (opened keeper db vault, some db.batches.length) := by
  have hsome : ¬ (orderRows keeper db vault).isEmpty := by simpa using hsome
  simp only [freezeBatch, hactive, hsome]
  rw [insertBatchEvents_ok (by exact hnew)]
  rfl

theorem Inv.opened (hinv : Inv render s l) (hactive : activeBatch s.db vault = none)
    (hunique : ((opened keeper s.db vault).batchEvents.map BatchEvent.eventId).Nodup) :
    Inv render ⟨opened keeper s.db vault, s.db :: s.past⟩ l := by
  have hold : ∀ {n : ℕ} {x : Batch}, s.db.batches[n]? = some x →
      (BatchLedger.opened keeper s.db vault).batches[n]? = some x := by
    intro n x hx
    rw [BatchLedger.opened, List.getElem?_append_left (List.getElem?_eq_some_iff.mp hx).1, hx]
  have helim : ∀ {n : ℕ} {x : Batch}, (BatchLedger.opened keeper s.db vault).batches[n]? = some x →
      s.db.batches[n]? = some x ∨ n = s.db.batches.length ∧ x.vault = vault ∧ x.state ≠ .confirmed := by
    intro n x hx
    rw [BatchLedger.opened, List.getElem?_append] at hx
    split at hx
    · exact .inl hx
    · rw [List.getElem?_singleton] at hx
      split at hx
      · cases hx
        exact .inr ⟨by omega, rfl, nofun⟩
      · cases hx
  have hevents : ∀ {frozen : BatchEvent}, frozen ∈ (BatchLedger.opened keeper s.db vault).batchEvents →
      frozen ∈ s.db.batchEvents ∨ frozen.batchId = s.db.batches.length ∧
        ∃ e, (frozen.eventId, e) ∈ GridKeeper.frozen keeper s.db vault := by
    intro frozen hmem
    simp only [BatchLedger.opened, List.mem_append, List.mem_map] at hmem
    rcases hmem with hmem | ⟨n, ⟨⟨n', e⟩, he, rfl⟩, rfl⟩
    · exact .inl hmem
    · exact .inr ⟨rfl, e, he⟩
  refine
    { handed := hinv.handed, attempts := ?attempts, alone := hinv.alone, sent := hinv.sent, confirmed := ?confirmed,
      frozen := ?frozen, unique := hunique, waiting := ?waiting, attributed := ?attributed, single := ?single,
      keys := hinv.keys, past := past_next hinv.past (Keeps.refl s.db) }
  case attempts =>
    intro hkept b a h
    rcases hinv.attempts hkept b a h with hresolved | ⟨hlatest, x, row, hx, hrow, hflight⟩
    · exact .inl hresolved
    · exact .inr ⟨hlatest, x, row, hold hx, hrow, hflight⟩
  case confirmed =>
    intro b x hx hconfirmed
    rcases helim hx with hx | ⟨-, -, hactive⟩
    · obtain ⟨a, row, response, seen, hrow, hof, hhanded, hseen, hcode, hpage, hbound, hall⟩ :=
        hinv.confirmed b x hx hconfirmed
      refine ⟨a, row, response, seen, hrow, hof, hhanded, hseen, hcode, hpage, hbound, ?_⟩
      intro hthrough frozen hmem hfrozenof
      rcases hevents hmem with hmem | ⟨hnew, -⟩
      · exact hall hthrough frozen hmem hfrozenof
      · have hlt := (List.getElem?_eq_some_iff.mp hx).1
        omega
    · exact absurd hconfirmed hactive
  case frozen =>
    intro frozen hmem
    rcases hevents hmem with hmem | ⟨hnew, e, he⟩
    · obtain ⟨x, e, hx, he, hvault, hheight, item, hitem, hrest⟩ := hinv.frozen frozen hmem
      exact ⟨x, e, hold hx, he, hvault, hheight, item, List.mem_append_left _ hitem, hrest⟩
    · obtain ⟨⟨hget, hvault, -⟩, horder⟩ := mem_frozen.mp he
      refine ⟨_, e, by rw [hnew, BatchLedger.opened]; exact List.getElem?_concat_length .., hget, hvault, ?_,
        itemOf s.db vault s.db.batches.length (orderOf e), ?_, hnew.symm, rfl, rfl⟩
      · exact le_foldl_max (List.mem_map.mpr ⟨_, he, rfl⟩)
      · exact List.mem_append_right _ (List.mem_map_of_mem horder)
  case waiting =>
    intro frozen hmem x hx hactive' e he
    rcases hevents hmem with hmem | ⟨-, e', he'⟩
    · obtain ⟨x', -, hx', -⟩ := hinv.frozen frozen hmem
      rw [hold hx', Option.some.injEq] at hx
      subst hx
      exact hinv.waiting frozen hmem x' hx' hactive' e he
    · obtain ⟨⟨hget, -, hnone⟩, -⟩ := mem_frozen.mp he'
      rw [show s.db.rawEvents[frozen.eventId]? = some e from he, Option.some.injEq] at hget
      rw [hget]
      exact hnone
  case attributed =>
    intro e he b hb
    obtain ⟨x, hx, hrest⟩ := hinv.attributed e he b hb
    exact ⟨x, hold hx, hrest⟩
  case single =>
    intro n n' x x' hx hx' hsame hlive hlive'
    rcases helim hx with hx | ⟨hn, hvault, -⟩
    · rcases helim hx' with hx' | ⟨-, hvault', -⟩
      · exact hinv.single n n' x x' hx hx' hsame hlive hlive'
      · exact absurd (activeBatch_eq_none hactive hx (hsame.trans hvault')) hlive
    · rcases helim hx' with hx' | ⟨hn', -, -⟩
      · exact absurd (activeBatch_eq_none hactive hx' (hsame.symm.trans hvault)) hlive'
      · rw [hn, hn']

end Freezing

end Cl8yDexBots.Services.BatchLedger
