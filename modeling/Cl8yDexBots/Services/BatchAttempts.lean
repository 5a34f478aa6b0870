import Cl8yDexBots.Services.BatchLedger
import Cl8yDexBots.Services.TextCoding

/-! A batch has at most one attempt that may still land, whatever the node answers and wherever the keeper dies. -/

namespace Cl8yDexBots.Services.BatchAttempts

open Foundation.Checked Foundation.Durable Values Database GridIndexer GridKeeper BatchLedger

variable {py : Python} {keeper : Keeper} {render : Json → String} {s : Store} {l : Log} {b a : ℕ} {α : Type}

abbrev Ends (py : Python) (render : Json → String) (p : Op α) (post : Except PyError α → Store → Log → Prop)
    (s : Store) (l : Log) : Prop :=
  wp (Indexing py) (Inv render) p post s l

lemma inv_indexed {s' : Store} (hinv : Inv render s l) (h : Indexing py s s') : Inv render s' l := by
  obtain ⟨⟨ix, hstep⟩, hpast⟩ := h
  have hnext := hinv.appends hstep.appends
  rw [← hpast] at hnext
  exact hnext

lemma inv_stable : Stable (Indexing py) (Inv render) := fun _ _ _ hinv h => inv_indexed hinv h

/-- The batch that a pass works on, and its latest attempt; every other one is resolved. -/
structure Working (render : Json → String) (phase : Batch → TxAttempt → Prop) (b a : ℕ) (s : Store) (l : Log) :
    Prop where
  inv : Inv render s l
  latest : s.db.latestAttempt b = some a
  rows : ∃ x row, s.db.batches[b]? = some x ∧ x.state ≠ .confirmed ∧ s.db.txAttempts[a]? = some row ∧
    row.batchId = b ∧ phase x row
  others : AllKept render l → ∀ a', a' ≠ a → Handed l b a' → Resolved s.db l a'

def Decided (l : Log) (row : TxAttempt) : Prop :=
  (∃ code, row.checkCode = some code ∧ code ≠ 0) ∨ ∃ response seen, Seen l row.txHash response seen

variable {phase phase' : Batch → TxAttempt → Prop}

lemma Working.mono (hw : Working render phase b a s l) (h : ∀ x row, phase x row → phase' x row) :
    Working render phase' b a s l := by
  obtain ⟨hinv, hlatest, ⟨x, row, hx, hlive, hrow, hof, hphase⟩, hothers⟩ := hw
  exact ⟨hinv, hlatest, ⟨x, row, hx, hlive, hrow, hof, h x row hphase⟩, hothers⟩

lemma Working.indexed {s' : Store} (hw : Working render phase b a s l) (h : Indexing py s s') :
    Working render phase b a s' l := by
  have happends : Appends s.db s'.db := h.1.choose_spec.appends
  refine ⟨inv_indexed hw.inv h, (happends.latest b).trans hw.latest, ?_, ?_⟩
  · rw [happends.batches, happends.txAttempts]
    exact hw.rows
  · intro hkept a' ha' hhanded
    obtain ⟨row, hrow, hcode⟩ := hw.others hkept a' ha' hhanded
    exact ⟨row, happends.txAttempts ▸ hrow, hcode⟩

lemma working_stable : Stable (Indexing py) (Working render phase b a) := fun _ _ _ hw h => hw.indexed h

lemma Working.still {e : Event Command Reply} (hw : Working render phase b a s l) (hstill : Still e) :
    Working render phase b a s (e :: l) where
  inv := hw.inv.still hstill
  latest := hw.latest
  rows := hw.rows
  others hkept a' ha' h := (hw.others hkept.tail a' ha' (h.of_still hstill)).mono

/-- An update that leaves a batch its fills and an attempt its batch, and confirms nothing. -/
structure Modest (batch : Batch → Batch) (attempt : TxAttempt → TxAttempt) : Prop where
  vault : ∀ x, (batch x).vault = x.vault
  through : ∀ x, (batch x).throughHeight = x.throughHeight
  live : ∀ x, x.state ≠ .confirmed → (batch x).state ≠ .confirmed
  of : ∀ row, (attempt row).batchId = row.batchId

theorem Working.touch {batch : Batch → Batch} {attempt : TxAttempt → TxAttempt}
    (hw : Working render phase b a s l) (hmodest : Modest batch attempt)
    (hphase : ∀ x row, phase x row → phase' (batch x) (attempt row))
    (hsent : ∀ row, (attempt row).txHash.truthy = true → row.txHash.truthy = true ∨ Handed l b a)
    (hfate : AllKept render l → Handed l b a → ∀ x row, phase x row →
      Decided l (attempt row) ∨ InFlight (batch x) (attempt row)) :
    Working render phase' b a ⟨s.db.touch b batch (some a) attempt, s.db :: s.past⟩ l := by
  obtain ⟨hinv, hlatest, ⟨x, row, hx, hlive, hrow, hrowof, hrowphase⟩, hothers⟩ := hw
  have hx' : (s.db.touch b batch (some a) attempt).batches[b]? = some (batch x) := by
    rw [touch_batches, if_pos rfl, hx]
    rfl
  have hrow' : (s.db.touch b batch (some a) attempt).txAttempts[a]? = some (attempt row) := by
    rw [touch_attempts, if_pos rfl, hrow]
    rfl
  have hlatest' : (s.db.touch b batch (some a) attempt).latestAttempt b = some a :=
    (touch_latest hmodest.of b).trans hlatest
  have hothers' : AllKept render l → ∀ a', a' ≠ a → Handed l b a' →
      Resolved (s.db.touch b batch (some a) attempt) l a' := by
    intro hkept a' ha' h
    apply (hothers hkept a' ha' h).touch
    intro heq
    exact absurd (Option.some.inj heq).symm ha'
  refine ⟨?_, hlatest', ⟨batch x, attempt row, hx', hmodest.live x hlive, hrow', (hmodest.of row).trans hrowof,
    hphase x row hrowphase⟩, hothers'⟩
  apply hinv.touch hx hlive (hmodest.vault x) (hmodest.through x) (hmodest.live x hlive) hmodest.of
  · intro a' ha'
    cases ha'
    exact hlatest
  · intro a' row' ha' _
    cases ha'
    exact hsent row'
  · intro hkept a' h
    by_cases ha : a' = a
    · subst ha
      rcases hfate hkept h x row hrowphase with hdecided | hflight
      · exact .inl ⟨attempt row, hrow', hdecided⟩
      · exact .inr ⟨hlatest', batch x, attempt row, hx', hrow', hflight⟩
    · exact .inl (hothers' hkept a' ha h)

section Rules

/-! The program rules in the words of the keeper: what it reads, commits and asks. -/

variable {P : Store → Log → Prop} {β : Type} {post : Except PyError α → Store → Log → Prop}
  (hP : Stable (Indexing py) P) (h : P s l)

lemma done_ret {r : α} (h : Inv render s l) : Ends py render (Script.ret r) (fun _ => Inv render) s l :=
  inv_stable.wp_ret h fun _ => id

lemma done_raise {e : PyError} (h : Inv render s l) :
    Ends py render (Script.raise e : Op α) (fun _ => Inv render) s l :=
  inv_stable.wp_raise h fun _ => id

lemma ofExcept_ends {x : Py β} {k : β → Op α} (hinv : Inv render s l)
    (hk : ∀ v, x = .ok v → Ends py render (k v) (fun _ => Inv render) s l) :
    Ends py render (Script.ofExcept x >>= k) (fun _ => Inv render) s l := by
  cases x with
  | error e => exact done_raise hinv
  | ok v => exact hk v rfl

include hP h

lemma select_ends {f : Db → β} {k : β → Op α} (hinv : ∀ s, P s l → Inv render s l)
    (hk : ∀ s, P s l → Ends py render (k (f s.db)) post s l) :
    Ends py render (select f >>= k) post s l := by
  apply hP.wp_update h
  intro s hs
  exact ⟨hinv s hs, hk s hs⟩

lemma transaction_ends {f : Db → Py (Db × β)} {k : β → Op α} (hinv : ∀ s, P s l → Inv render s l)
    (hok : ∀ s db r, P s l → f s.db = .ok (db, r) →
      Inv render ⟨db, s.db :: s.past⟩ l ∧ Ends py render (k r) post ⟨db, s.db :: s.past⟩ l)
    (herror : ∀ s e, P s l → Ends py render (Script.raise e) post s l) :
    Ends py render (transaction f >>= k) post s l := by
  apply hP.wp_update h
  intro s hs
  cases hf : f s.db with
  | ok r =>
    obtain ⟨hnext, hk⟩ := hok s r.1 r.2 hs hf
    simp only [hf]
    exact ⟨hnext, hk⟩
  | error e =>
    simp only [hf]
    exact ⟨hinv s hs, herror s e hs⟩

lemma transaction_done {f : Db → Py (Db × β)} (hinv : ∀ s, P s l → Inv render s l)
    (hok : ∀ s db r, P s l → f s.db = .ok (db, r) → Inv render ⟨db, s.db :: s.past⟩ l) :
    Ends py render (transaction f) (fun _ => Inv render) s l := by
  apply hP.wp_update h
  intro s hs
  cases hf : f s.db with
  | ok r => exact ⟨hok s r.1 r.2 hs hf, done_ret (hok s r.1 r.2 hs hf)⟩
  | error e => exact ⟨hinv s hs, done_raise (hinv s hs)⟩

lemma commit_ends {f : Db → Db} {k : Unit → Op α}
    (hok : ∀ s, P s l → Inv render ⟨f s.db, s.db :: s.past⟩ l ∧
      Ends py render (k ()) post ⟨f s.db, s.db :: s.past⟩ l) :
    Ends py render (commit f >>= k) post s l :=
  hP.wp_update h hok

lemma ask_ends {c : Command} {k : Reply c → Op α} (hstill : ∀ b a signed, c ≠ .broadcast b a signed)
    (hinv : ∀ s, P s l → Inv render s l)
    (hk : ∀ s r, P s l → Ends py render (k r) post s (.answered c r :: .started c :: l)) :
    Ends py render (Script.ask c >>= k) post s l := by
  have hstarted : Still (.started c) := by
    intro b a signed heq
    exact hstill b a signed (Event.started.inj heq)
  apply hP.wp_call h
  · intro s hs
    exact (hinv s hs).still hstarted
  · intro s r hs
    exact ((hinv s hs).still hstarted).still nofun
  · exact hk

end Rules

lemma Decided.mono {e : Event Command Reply} {row : TxAttempt} (h : Decided l row) : Decided (e :: l) row := by
  rcases h with hcode | ⟨response, seen, hseen⟩
  · exact .inl hcode
  · exact .inr ⟨response, seen, hseen.mono⟩

lemma Working.asked {c : Command} {r : Reply c} (hw : Working render phase b a s l)
    (hstill : ∀ b a signed, c ≠ .broadcast b a signed) :
    Working render phase b a s (.answered c r :: .started c :: l) := by
  have hstarted : Still (.started c) := by
    intro b a signed heq
    exact hstill b a signed (Event.started.inj heq)
  exact (hw.still hstarted).still nofun

lemma recordFailure_ends {error : Json} {deliverCode : Option ℤ} {result : TxResultCode}
    (hw : Working render phase b a s l) (hdecided : ∀ x row, phase x row → Decided l row) :
    Ends py render (recordFailure keeper b a error deliverCode result) (fun _ => Inv render) s l := by
  apply select_ends working_stable hw fun _ => Working.inv
  intro s hw
  cases s.db.batches[b]?.map Batch.failureCount with
  | none => exact done_raise hw.inv
  | some failures =>
    apply ask_ends working_stable hw (by simp) fun _ => Working.inv
    intro s now hw
    apply transaction_done working_stable (hw.asked (by simp)) fun _ => Working.inv
    intro s db r hw hcommit
    simp only [bind_eq_ok, Except.ok.injEq, Prod.mk.injEq] at hcommit
    obtain ⟨_, -, _, -, rfl, -⟩ := hcommit
    have hmodest : Modest (fun row => { row with
        state := if maxFailures ≤ failures + 1 then .intervention else .ready
        error := some (result.value ++ ":" ++ keeper.text error)
        failureCount := failures + 1
        nextRetryAt := if (if maxFailures ≤ failures + 1 then BatchState.intervention else .ready) = .intervention
          then none else some (now + retryBackoffSeconds * 2 ^ (failures + 1 - 1)) })
        fun row => { row with state := result.attempt } := by
      refine ⟨fun _ => rfl, fun _ => rfl, fun x _ => ?_, fun _ => rfl⟩
      dsimp only
      split <;> simp
    have hnext : Working render (fun _ _ => True) b a _ _ := hw.touch hmodest (fun _ _ _ => trivial)
      (fun _ htruthy => .inl htruthy) fun _ _ x row hphase => .inl (hdecided x row hphase).mono.mono
    exact hnext.inv

def Awaiting (stored : Json) (_ : Batch) (row : TxAttempt) : Prop := row.txHash = stored

lemma timeOut_ends {stored : Json} {error : String} (hw : Working render (Awaiting stored) b a s l)
    (hreal : AllKept render l → stored.truthy = true) :
    Ends py render (timeOut b a error) (fun _ => Inv render) s l := by
  apply commit_ends working_stable hw
  intro s hw
  have hmodest : Modest (fun row => { row with state := .timeout, error := some error })
      fun row => { row with state := .timeout } :=
    ⟨fun _ => rfl, fun _ => rfl, fun _ _ => by simp, fun _ => rfl⟩
  have hnext : Working render (fun _ _ => True) b a _ _ := hw.touch hmodest (fun _ _ _ => trivial)
    (fun _ htruthy => .inl htruthy) fun hkept _ x row hphase =>
      .inr (.awaited (.inr rfl) (.inr rfl) (by rw [hphase]; exact hreal hkept))
  exact ⟨hnext.inv, done_ret hnext.inv⟩

lemma deepEnough_ends {height : ℤ} {k : Bool → Op α} (hw : Working render phase b a s l)
    (hk : ∀ s l' deep, Working render phase b a s l' → l <:+ l' → Ends py render (k deep) (fun _ => Inv render) s l') :
    Ends py render (deepEnough keeper height >>= k) (fun _ => Inv render) s l := by
  by_cases h : keeper.confirmationBlocks = 0
  · simp only [deepEnough, h, ne_eq, not_true_eq_false, if_false]
    exact hk s l true hw List.suffix_rfl
  · simp only [deepEnough, h, ne_eq, not_false_eq_true, if_true, Script.bind_eq, Script.bind_assoc]
    apply ask_ends working_stable hw (by simp) fun _ => Working.inv
    intro s latest hw
    have hw' := hw.asked (c := .latestHeight) (r := latest) (by simp)
    cases latest with
    | ok latest => exact hk s _ _ hw' ((List.suffix_cons _ _).trans (List.suffix_cons _ _))
    | error name => exact done_raise hw'.inv

lemma confirm_ends {stored hash response : Json} {seen : Sighting}
    (hw : Working render (Awaiting stored) b a s l) (hhanded : Handed l b a) (hseen : Seen l stored response seen)
    (hsame : stored = hash) (hcode : seen.code = 0) (hpage : hasRevertedGridPage response = .ok false) :
    Ends py render (confirm keeper b a hash response) (fun _ => Inv render) s l := by
  subst hsame
  have hexecuted : executed stored response = .ok seen.height := by
    simp [executed, hseen.2, hcode, ensure]
  simp only [confirm, hexecuted, Script.ofExcept, Script.bind_eq, Script.ret_bind]
  apply transaction_done working_stable hw fun _ => Working.inv
  intro s db r hw hcommit
  obtain ⟨hinv, -, ⟨x, row, hx, hlive, hrow, hof, hhash⟩, hothers⟩ := hw
  simp only [bind_eq_ok, orError_eq_ok, Except.ok.injEq, Prod.mk.injEq, columnInt] at hcommit
  obtain ⟨x', hx', height, hheight, kept, -, rfl, -⟩ := hcommit
  rw [hx, Option.some.injEq] at hx'
  subst hx'
  split at hheight
  · cases hheight
    exact Confirms.inv_after ⟨hinv, hx, hlive, hrow, hof, hhanded, hothers, hhash ▸ hseen, hcode, hpage⟩
  · cases hheight

lemma sighted_some {hash response : Json} {reply : Except QueryError Json} {seen : Sighting}
    (h : sighted hash reply = .ok (some (response, seen))) :
    reply = .ok response ∧ observe hash response = .ok seen := by
  rcases reply with (_ | name) | response'
  · cases h
  · cases h
  · simp only [sighted] at h
    split at h
    · split at h
      · rename_i hseen
        cases h
        exact ⟨rfl, hseen⟩
      · cases h
      · cases h
      · cases h
      · cases h
    · cases h

lemma pollOnce_ends {stored hash : Json} {later : String → Op Outcome}
    (hnames : ∀ response seen, observe hash response = .ok seen → stored = hash)
    (hw : Working render (Awaiting stored) b a s l) (hhanded : Handed l b a)
    (hlater : ∀ error s l', Working render (Awaiting stored) b a s l' → l <:+ l' →
      Ends py render (later error) (fun _ => Inv render) s l') :
    Ends py render (pollOnce keeper b a hash later) (fun _ => Inv render) s l := by
  apply ask_ends working_stable hw (by simp) fun _ => Working.inv
  intro s reply hw
  have hw' := hw.asked (c := .queryTx hash) (r := reply) (by simp)
  have hsuffix : l <:+ .answered (.queryTx hash) reply :: .started (.queryTx hash) :: l :=
    (List.suffix_cons _ _).trans (List.suffix_cons _ _)
  cases hfound : sighted hash reply with
  | error e => exact done_raise hw'.inv
  | ok found =>
    rcases found with _ | ⟨response, seen⟩
    · exact hlater _ s _ hw' hsuffix
    · obtain ⟨rfl, hobserved⟩ := sighted_some hfound
      have hsame := hnames response seen hobserved
      simp only [Script.ofExcept, Script.bind_eq, Script.ret_bind]
      apply deepEnough_ends hw'
      intro s l' deep hw' hl'
      have hseen : Seen l' stored response seen := by
        refine ⟨hl'.subset ?_, hsame ▸ hobserved⟩
        rw [hsame]
        exact List.mem_cons_self ..
      have hdecided : ∀ x row, Awaiting stored x row → Decided l' row := fun x row hphase =>
        .inr ⟨response, seen, hphase ▸ hseen⟩
      cases deep with
      | false => exact hlater _ s _ hw' (hsuffix.trans hl')
      | true =>
        by_cases hcode : seen.code = 0
        · simp only [hcode, Bool.not_true, Bool.false_eq_true, if_false, if_true]
          cases hpage : hasRevertedGridPage response with
          | error e => exact done_raise hw'.inv
          | ok reverted =>
            cases reverted with
            | true =>
              simp only [Script.ret_bind]
              refine wp_bind (wp_mono ?_ (recordFailure_ends hw' hdecided))
              rintro (e | u) s l hinv
              · exact done_raise hinv
              · exact done_ret hinv
            | false =>
              simp only [Script.ret_bind]
              refine wp_bind (wp_mono ?_
                (confirm_ends hw' (hhanded.suffix (hsuffix.trans hl')) hseen hsame hcode hpage))
              rintro (e | u) s l hinv
              · exact done_raise hinv
              · exact done_ret hinv
        · simp only [hcode, Bool.not_true, Bool.false_eq_true, if_false]
          cases seen.tx.get "raw_log" with
          | error e => exact done_raise hw'.inv
          | ok rawLog =>
            simp only [Script.ret_bind]
            cases seen.tx.get "log" with
            | error e => exact done_raise hw'.inv
            | ok log =>
              simp only [Script.ret_bind]
              refine wp_bind (wp_mono ?_ (recordFailure_ends hw' hdecided))
              rintro (e | u) s l hinv
              · exact done_raise hinv
              · exact done_ret hinv

lemma poll_ends {stored hash : Json} (rounds : ℕ) (hreal : AllKept render l → stored.truthy = true)
    (hnames : ∀ response seen, observe hash response = .ok seen → stored = hash)
    (hw : Working render (Awaiting stored) b a s l) (hhanded : Handed l b a) :
    Ends py render (poll keeper b a hash rounds) (fun _ => Inv render) s l := by
  induction rounds generalizing s l with
  | zero =>
    apply pollOnce_ends hnames hw hhanded
    intro error s l' hw' hl'
    exact timeOut_ends hw' fun hkept => hreal (hkept.suffix hl')
  | succ rounds ih =>
    apply pollOnce_ends hnames hw hhanded
    intro error s l' hw' hl'
    exact ih (fun hkept => hreal (hkept.suffix hl')) hw' (hhanded.suffix hl')

lemma lose_ends {error : String} (hw : Working render phase b a s l) :
    Ends py render (lose b (some a) error) (fun _ => Inv render) s l := by
  apply commit_ends working_stable hw
  intro s hw
  have hmodest : Modest (fun row => { row with state := .unknown, error := some error })
      fun row => { row with state := .unknown } :=
    ⟨fun _ => rfl, fun _ => rfl, fun _ _ => by simp, fun _ => rfl⟩
  have hnext : Working render (fun _ _ => True) b a _ _ := hw.touch hmodest (fun _ _ _ => trivial)
    (fun _ htruthy => .inl htruthy) fun _ _ x row _ => .inr (.unknown rfl)
  exact ⟨hnext.inv, done_ret hnext.inv⟩

lemma Working.handOver {signed : String} (hw : Working render phase b a s l) (hnew : ¬ Handed l b a)
    (hbroadcasting : ∀ x row, phase x row → x.state = .broadcasting) :
    Working render phase b a s (.started (.broadcast b a signed) :: l) := by
  obtain ⟨hinv, hlatest, ⟨x, row, hx, hlive, hrow, hof, hphase⟩, hothers⟩ := hw
  have helim : ∀ {b' a'}, Handed (.started (.broadcast b a signed) :: l) b' a' → b' = b ∧ a' = a ∨ Handed l b' a' := by
    rintro b' a' ⟨signed', hmem⟩
    rcases List.mem_cons.mp hmem with heq | hmem
    · cases heq
      exact .inl ⟨rfl, rfl⟩
    · exact .inr ⟨signed', hmem⟩
  have hopen : Open s.db b a := ⟨hlatest, x, row, hx, hrow, .broadcasting (hbroadcasting x row hphase)⟩
  refine ⟨?_, hlatest, ⟨x, row, hx, hlive, hrow, hof, hphase⟩, ?_⟩
  · exact
      { hinv with
        handed := by
          intro b' a' h
          rcases helim h with ⟨rfl, rfl⟩ | h
          · exact ⟨row, hrow, hof⟩
          · exact hinv.handed b' a' h
        attempts := by
          intro hkept b' a' h
          rcases helim h with ⟨rfl, rfl⟩ | h
          · exact .inr hopen
          · by_cases hsame : b' = b ∧ a' = a
            · obtain ⟨rfl, rfl⟩ := hsame
              exact .inr hopen
            · exact (hinv.attempts hkept.tail b' a' h).imp_left Resolved.mono
        alone := by
          intro hkept b' a₀ signed' l' hl a' h
          rcases List.suffix_cons_iff.mp hl with heq | hl
          · cases heq
            have hne : a' ≠ a := fun heq => hnew (heq ▸ h)
            obtain ⟨row', hrow', hof'⟩ := hinv.handed b a' h
            have hle := (latestAttempt_eq_some.mp hlatest).2 a' row' hrow' hof'
            exact ⟨by omega, hothers hkept.tail a' hne h⟩
          · exact hinv.alone hkept.tail b' a₀ signed' l' hl a' h
        sent := fun a' row' hrow' hhash => (hinv.sent a' row' hrow' hhash).mono
        confirmed := fun b' x' hx' hconfirmed => (hinv.confirmed b' x' hx' hconfirmed).mono }
  · intro hkept a' ha' h
    rcases helim h with ⟨-, rfl⟩ | h
    · exact absurd rfl ha'
    · exact (hothers hkept.tail a' ha' h).mono

structure Ready (render : Json → String) (b : ℕ) (s : Store) (l : Log) : Prop where
  inv : Inv render s l
  batch : ∃ x, s.db.batches[b]? = some x ∧ x.state ≠ .confirmed
  resolved : AllKept render l → ∀ a, Handed l b a → Resolved s.db l a

lemma ready_stable : Stable (Indexing py) (Ready render b) := by
  rintro s s' l ⟨hinv, hbatch, hresolved⟩ h
  have happends : Appends s.db s'.db := h.1.choose_spec.appends
  refine ⟨inv_indexed hinv h, happends.batches ▸ hbatch, ?_⟩
  intro hkept a hhanded
  obtain ⟨row, hrow, hcode⟩ := hresolved hkept a hhanded
  exact ⟨row, happends.txAttempts ▸ hrow, hcode⟩

lemma Ready.asked {c : Command} {r : Reply c} (hr : Ready render b s l)
    (hstill : ∀ b a signed, c ≠ .broadcast b a signed) :
    Ready render b s (.answered c r :: .started c :: l) := by
  have hstarted : Still (.started c) := by
    intro b a signed heq
    exact hstill b a signed (Event.started.inj heq)
  have hanswered : Still (.answered c r) := nofun
  refine ⟨(hr.inv.still hstarted).still hanswered, hr.batch, ?_⟩
  intro hkept a h
  exact (hr.resolved hkept.tail.tail a ((h.of_still hanswered).of_still hstarted)).mono.mono

lemma Ready.attempted (hr : Ready render b s l) : Working render (fun _ _ => True) b s.db.txAttempts.length
    ⟨(s.db.insertAttempt ⟨b, .signed, .null, none⟩).touch b
      (fun row => { row with state := .signed, error := none }) none id, s.db :: s.past⟩ l := by
  obtain ⟨hinv, ⟨x, hx, hlive⟩, hresolved⟩ := hr
  have hattempted : Inv render ⟨s.db.insertAttempt ⟨b, .signed, .null, none⟩, s.past⟩ l :=
    hinv.insertAttempt rfl rfl hresolved
  have htouched : Inv render ⟨(s.db.insertAttempt ⟨b, .signed, .null, none⟩).touch b
      (fun row => { row with state := .signed, error := none }) none id,
      s.db.insertAttempt ⟨b, .signed, .null, none⟩ :: s.past⟩ l := by
    apply hattempted.touch hx hlive rfl rfl (by simp) (fun _ => rfl) (by simp) (by simp)
    intro hkept a h
    exact .inl ((hresolved hkept a h).insertAttempt.touch nofun)
  refine ⟨{ htouched with past := past_next hinv.past (Keeps.refl s.db) }, ?_, ?_, ?_⟩
  · exact (touch_latest (fun _ => rfl) b).trans (latest_insertAttempt rfl)
  · refine ⟨{ x with state := .signed, error := none }, ⟨b, .signed, .null, none⟩, ?_, nofun, ?_, rfl, trivial⟩
    · rw [touch_batches, if_pos rfl, Db.insertAttempt, hx]
      rfl
    · simp [touch_attempts, Db.insertAttempt]
  · intro hkept a _ h
    exact (hresolved hkept a h).insertAttempt.touch nofun

lemma observe_str {hash response : Json} {seen : Sighting} (h : observe hash response = .ok seen) :
    ∃ text, hash = .str text := by
  simp only [observe, bind_eq_ok, ensure_eq_ok, exists_const] at h
  obtain ⟨tx, -, observed, -, -, _, -, height, -, _, -, code, -, -, lowered, -, pending, hpending, -⟩ := h
  cases hash with
  | str text => exact ⟨text, rfl⟩
  | _ => cases hpending

lemma stored_of_observed {hash stored : Json} (h : columnText render hash = .ok stored) :
    ∀ response seen, observe hash response = .ok seen → stored = hash := by
  intro response seen hseen
  obtain ⟨text, rfl⟩ := observe_str hseen
  cases h
  rfl

section Passes

variable {rounds : ℕ}

lemma received_ends {signed : String} {response : Json}
    (hw : Working keeper.render (fun x _ => x.state = .broadcasting) b a s
      (.answered (.broadcast b a signed) (.ok response) :: .started (.broadcast b a signed) :: l)) :
    Ends py keeper.render (received keeper b a rounds response) (fun _ => Inv keeper.render) s
      (.answered (.broadcast b a signed) (.ok response) :: .started (.broadcast b a signed) :: l) := by
  have hhanded : Handed (.answered (.broadcast b a signed) (.ok response) ::
      .started (.broadcast b a signed) :: l) b a := ⟨signed, by simp⟩
  simp only [received]
  cases htx : txResponse response with
  | error e => exact done_raise hw.inv
  | ok tx =>
    simp only [Script.ofExcept, Script.bind_eq, Script.ret_bind]
    cases hresult : broadcastResult tx with
    | error e => exact done_raise hw.inv
    | ok result =>
      rcases result with text | ⟨code, hash⟩
      · exact lose_ends hw
      · simp only [Script.ret_bind]
        apply transaction_ends working_stable hw fun _ => Working.inv
        · intro s db r hw hcommit
          simp only [bind_eq_ok] at hcommit
          obtain ⟨stored, hstored, code', hcode', hcommit⟩ := hcommit
          obtain rfl : code' = code := by
            simp only [columnInt] at hcode'
            split at hcode' <;> cases hcode'
            rfl
          by_cases hzero : code' = 0
          · subst hzero
            simp only [ne_eq, not_true_eq_false, if_false, Except.ok.injEq, Prod.mk.injEq] at hcommit ⊢
            obtain ⟨rfl, -⟩ := hcommit
            have hreal : AllKept keeper.render (.answered (.broadcast b a signed) (.ok response) ::
                .started (.broadcast b a signed) :: l) → stored.truthy = true := by
              intro hkept
              have hevent : BatchLedger.Kept keeper.render (.answered (.broadcast b a signed) (.ok response)) :=
                hkept _ (List.mem_cons_self ..)
              exact hevent tx hash stored htx hresult hstored
            have hmodest : Modest (fun row => { row with txHash := stored, state := .broadcast })
                fun row => { row with txHash := stored, checkCode := some 0, state := .broadcast } :=
              ⟨fun _ => rfl, fun _ => rfl, fun _ _ => by simp, fun _ => rfl⟩
            have hnext : Working keeper.render (Awaiting stored) b a _ _ := hw.touch hmodest
              (fun _ _ _ => rfl) (fun _ _ => .inr hhanded) fun hkept _ _ _ _ =>
                .inr (.awaited (.inl rfl) (.inl rfl) (hreal hkept))
            exact ⟨hnext.inv, poll_ends rounds hreal (stored_of_observed hstored) hnext hhanded⟩
          · simp only [hzero, ne_eq, not_false_eq_true, if_true, Except.ok.injEq, Prod.mk.injEq] at hcommit ⊢
            obtain ⟨rfl, -⟩ := hcommit
            have hmodest : Modest (fun row => { row with txHash := stored })
                fun row => { row with txHash := stored, checkCode := some code' } :=
              ⟨fun _ => rfl, fun _ => rfl, fun _ hlive => hlive, fun _ => rfl⟩
            have hnext : Working keeper.render (fun _ row => row.checkCode = some code') b a _ _ := hw.touch hmodest
              (fun _ _ _ => rfl) (fun _ _ => .inr hhanded) fun _ _ _ _ _ => .inl (.inl ⟨code', rfl, hzero⟩)
            refine ⟨hnext.inv, ?_⟩
            cases tx.get "raw_log" with
            | error e => exact done_raise hnext.inv
            | ok rawLog =>
              simp only [Script.ret_bind]
              cases tx.get "log" with
              | error e => exact done_raise hnext.inv
              | ok log =>
                simp only [Script.ret_bind]
                refine wp_bind (wp_mono ?_ (recordFailure_ends hnext fun _ _ hphase =>
                  .inl ⟨code', hphase, hzero⟩))
                rintro (e | u) s l hinv
                · exact done_raise hinv
                · exact done_ret hinv
        · intro s e hw
          exact done_raise hw.inv

lemma attempt_ends {signed : String} (hr : Ready keeper.render b s l) :
    Ends py keeper.render (attempt keeper b rounds signed) (fun _ => Inv keeper.render) s l := by
  apply transaction_ends ready_stable hr fun _ => Ready.inv
  · intro s db a hr hcommit
    cases hcommit
    have hw := hr.attempted
    have hnew : ¬ Handed l b s.db.txAttempts.length := by
      intro h
      obtain ⟨row, hrow, -⟩ := hr.inv.handed b _ h
      exact absurd (List.getElem?_eq_some_iff.mp hrow).1 (lt_irrefl _)
    refine ⟨hw.inv, ?_⟩
    generalize s.db.txAttempts.length = a at hw hnew
    apply commit_ends working_stable hw
    intro s hw
    have hmodest : Modest (fun row => { row with state := .broadcasting })
        fun row => { row with state := .broadcasting } :=
      ⟨fun _ => rfl, fun _ => rfl, fun _ _ => by simp, fun _ => rfl⟩
    have hbroadcasting : Working keeper.render (fun x _ => x.state = .broadcasting) b a _ _ := hw.touch hmodest
      (fun _ _ _ => rfl) (fun _ htruthy => .inl htruthy) fun _ _ _ _ _ => .inr (.broadcasting rfl)
    refine ⟨hbroadcasting.inv, ?_⟩
    have hstarted : ∀ s, Working keeper.render (fun x _ => x.state = .broadcasting) b a s l →
        Working keeper.render (fun x _ => x.state = .broadcasting) b a s (.started (.broadcast b a signed) :: l) :=
      fun s hw => hw.handOver hnew fun _ _ => id
    have hanswered : ∀ s (response : Except String Json),
        Working keeper.render (fun x _ => x.state = .broadcasting) b a s l →
        Working keeper.render (fun x _ => x.state = .broadcasting) b a s
          (.answered (.broadcast b a signed) response :: .started (.broadcast b a signed) :: l) :=
      fun s response hw => (hstarted s hw).still nofun
    apply working_stable.wp_call hbroadcasting
    · intro s hw
      exact (hstarted s hw).inv
    · intro s response hw
      exact (hanswered s response hw).inv
    · intro s response hw
      have hw := hanswered s response hw
      cases response with
      | error text => exact lose_ends hw
      | ok response => exact received_ends hw
  · intro s e hr
    exact done_raise hr.inv

lemma Ready.noted (hr : Ready render b s l) (text : String) :
    Inv render ⟨s.db.touch b (fun row => { row with error := some text }) none id, s.db :: s.past⟩ l := by
  obtain ⟨hinv, ⟨x, hx, hlive⟩, hresolved⟩ := hr
  apply hinv.touch hx hlive rfl rfl hlive (fun _ => rfl) (by simp) (by simp)
  intro hkept a h
  exact .inl ((hresolved hkept a h).touch (by simp))

lemma Ready.lost (hr : Ready render b s l) {error : String} :
    Inv render ⟨s.db.touch b (fun row => { row with state := .unknown, error := some error }) none
      (fun row => { row with state := .unknown }), s.db :: s.past⟩ l := by
  obtain ⟨hinv, ⟨x, hx, hlive⟩, hresolved⟩ := hr
  apply hinv.touch hx hlive rfl rfl (by simp) (by intro row; rfl) (by simp) (by simp)
  intro hkept a h
  exact .inl ((hresolved hkept a h).touch (by simp))

lemma Ready.restarted (hr : Ready render b s l) : Inv render ⟨s.db.touch b (fun row => { row with
    state := .ready, error := none, failureCount := 0, nextRetryAt := none }) none id, s.db :: s.past⟩ l := by
  obtain ⟨hinv, ⟨x, hx, hlive⟩, hresolved⟩ := hr
  apply hinv.touch hx hlive rfl rfl (by simp) (fun _ => rfl) (by simp) (by simp)
  intro hkept a h
  exact .inl ((hresolved hkept a h).touch (by simp))

lemma submit_ends (hr : Ready keeper.render b s l) :
    Ends py keeper.render (submit keeper b rounds) (fun _ => Inv keeper.render) s l := by
  apply select_ends ready_stable hr fun _ => Ready.inv
  intro s hr
  cases s.db.batches[b]?.map Batch.vault with
  | none => exact done_raise hr.inv
  | some vault =>
    apply ask_ends ready_stable hr (by simp) fun _ => Ready.inv
    intro s signed hr
    replace hr := hr.asked (r := signed) (by simp)
    cases signed with
    | error text =>
      apply commit_ends ready_stable hr
      intro s hr
      exact ⟨hr.noted text, done_ret (hr.noted text)⟩
    | ok signed => exact attempt_ends hr

structure Reading (render : Json → String) (b : ℕ) (x : Batch) (rows : List TxAttempt) (s : Store) (l : Log) :
    Prop where
  inv : Inv render s l
  batch : s.db.batches[b]? = some x
  attempts : s.db.txAttempts = rows

variable {x : Batch} {rows : List TxAttempt}

lemma reading_stable : Stable (Indexing py) (Reading render b x rows) := by
  rintro s s' l ⟨hinv, hbatch, hattempts⟩ h
  have happends : Appends s.db s'.db := h.1.choose_spec.appends
  exact ⟨inv_indexed hinv h, happends.batches ▸ hbatch, happends.txAttempts.trans hattempts⟩

lemma Reading.asked {c : Command} {r : Reply c} (hr : Reading render b x rows s l)
    (hstill : ∀ b a signed, c ≠ .broadcast b a signed) :
    Reading render b x rows s (.answered c r :: .started c :: l) := by
  have hstarted : Still (.started c) := by
    intro b a signed heq
    exact hstill b a signed (Event.started.inj heq)
  exact ⟨(hr.inv.still hstarted).still nofun, hr.batch, hr.attempts⟩

lemma Reading.working {row : TxAttempt} (hr : Reading render b x rows s l) (hlive : x.state ≠ .confirmed)
    (hlatest : s.db.latestAttempt b = some a) (hrow : s.db.txAttempts[a]? = some row) :
    Working render (fun x' row' => x' = x ∧ row' = row) b a s l := by
  obtain ⟨⟨row', hrow', hof⟩, -⟩ := latestAttempt_eq_some.mp hlatest
  rw [hrow, Option.some.injEq] at hrow'
  subst hrow'
  refine ⟨hr.inv, hlatest, ⟨x, row, hr.batch, hlive, hrow, hof, rfl, rfl⟩, ?_⟩
  intro hkept a' ha' h
  rcases hr.inv.attempts hkept b a' h with hresolved | ⟨hlatest', -⟩
  · exact hresolved
  · rw [hlatest, Option.some.injEq] at hlatest'
    exact absurd hlatest'.symm ha'

lemma Reading.ready (hr : Reading render b x rows s l) (hlive : x.state ≠ .confirmed)
    (hquiet : ∀ a row, s.db.latestAttempt b = some a → s.db.txAttempts[a]? = some row → ¬ InFlight x row) :
    Ready render b s l := by
  refine ⟨hr.inv, ⟨x, hr.batch, hlive⟩, ?_⟩
  intro hkept a h
  rcases hr.inv.attempts hkept b a h with hresolved | ⟨hlatest, x', row, hx', hrow, hflight⟩
  · exact hresolved
  · rw [hr.batch, Option.some.injEq] at hx'
    subst hx'
    exact absurd hflight (hquiet a row hlatest hrow)

lemma backingOff_ends {k : Bool → Op Outcome} (hr : Reading render b x rows s l)
    (hk : ∀ s l backoff, Reading render b x rows s l → Ends py render (k backoff) (fun _ => Inv render) s l) :
    Ends py render (backingOff x >>= k) (fun _ => Inv render) s l := by
  simp only [backingOff]
  split
  · simp only [Script.bind_eq, Script.bind_assoc]
    apply ask_ends reading_stable hr (by simp) fun _ => Reading.inv
    intro s now hr
    exact hk s _ _ (hr.asked (by simp))
  · exact hk s l false hr

lemma dispatch_ends (hr : Reading keeper.render b x rows s l) (hlive : x.state ≠ .confirmed) :
    Ends py keeper.render (dispatch keeper b rounds x ((s.db.latestAttempt b).bind fun a =>
      s.db.txAttempts[a]?.map fun row => (a, row))) (fun _ => Inv keeper.render) s l := by
  cases hlatest : s.db.latestAttempt b with
  | none =>
    have hready : Ready keeper.render b s l := hr.ready hlive (by simp [hlatest])
    simp only [dispatch, Option.bind_none]
    cases hstate : x.state with
    | broadcasting =>
      apply commit_ends ready_stable hready
      intro s hready
      exact ⟨hready.lost, done_ret hready.lost⟩
    | unknown => exact done_ret hr.inv
    | _ => exact submit_ends hready
  | some a =>
    obtain ⟨⟨row, hrow, hof⟩, -⟩ := latestAttempt_eq_some.mp hlatest
    have hworking := hr.working hlive hlatest hrow
    have hsubmit : ¬ InFlight x row → Ends py keeper.render (submit keeper b rounds)
        (fun _ => Inv keeper.render) s l := by
      intro hquiet
      apply submit_ends (hr.ready hlive _)
      intro a' row' hlatest' hrow'
      rw [hlatest, Option.some.injEq] at hlatest'
      rw [← hlatest', hrow, Option.some.injEq] at hrow'
      exact hrow' ▸ hquiet
    have hlook : (row.txHash.truthy ∧ (row.state = .broadcast ∨ row.state = .timeout)) →
        Ends py keeper.render (poll keeper b a row.txHash rounds) (fun _ => Inv keeper.render) s l := by
      rintro ⟨htruthy, -⟩
      apply poll_ends rounds (fun _ => htruthy) (fun _ _ _ => rfl)
      · exact hworking.mono fun x' row' h => congrArg TxAttempt.txHash h.2
      · exact hof ▸ hr.inv.sent a row hrow htruthy
    simp only [dispatch, hrow, Option.bind_some, Option.map_some]
    cases hstate : x.state with
    | broadcasting => exact lose_ends hworking
    | unknown => exact done_ret hr.inv
    | confirmed => exact absurd hstate hlive
    | _ =>
      dsimp only
      split
      · rename_i hknown
        exact hlook hknown
      · rename_i hknown
        apply hsubmit
        rintro (h | h | ⟨-, hsent, htruthy⟩)
        · exact absurd (hstate.symm.trans h) (by simp)
        · exact absurd (hstate.symm.trans h) (by simp)
        · exact hknown ⟨htruthy, hsent⟩

lemma proceed_ends (hr : Reading keeper.render b x rows s l) (hlive : x.state ≠ .confirmed) :
    Ends py keeper.render (proceed keeper b rounds x) (fun _ => Inv keeper.render) s l := by
  apply backingOff_ends hr
  intro s l backoff hr
  cases backoff with
  | true => exact done_ret hr.inv
  | false =>
    apply select_ends reading_stable hr fun _ => Reading.inv
    intro s hr
    exact dispatch_ends hr hlive

theorem processBatch_ends (hinv : Inv keeper.render s l) :
    Ends py keeper.render (processBatch keeper b rounds) (fun _ => Inv keeper.render) s l := by
  apply select_ends inv_stable hinv fun _ => id
  intro s hinv
  cases hx : s.db.batches[b]? with
  | none => exact done_raise hinv
  | some x =>
    have hr : Reading keeper.render b x s.db.txAttempts s l := ⟨hinv, hx, rfl⟩
    simp only [orError, Script.ofExcept, Script.bind_eq, Script.ret_bind]
    cases hstate : x.state with
    | confirmed => exact done_ret hinv
    | intervention => exact done_ret hinv
    | _ => exact proceed_ends hr (by simp [hstate])

lemma verify_ends {reason : TxResultCode} {hash : Json} {k : Unit → Op Unit} (hr : Ready render b s l)
    (hk : ∀ s l, Ready render b s l → Ends py render (k ()) (fun _ => Inv render) s l) :
    Ends py render (verify reason hash >>= k) (fun _ => Inv render) s l := by
  simp only [verify]
  split
  · cases ensure hash.truthy PyError.valueError with
    | error e => exact done_raise hr.inv
    | ok u =>
      simp only [Script.ofExcept, Script.bind_eq, Script.ret_bind, Script.bind_assoc]
      apply ask_ends ready_stable hr (by simp) fun _ => Ready.inv
      intro s reply hr
      replace hr := hr.asked (r := reply) (by simp)
      match reply with
      | .error .rpcError => exact done_raise hr.inv
      | .error (.other name) => exact done_raise hr.inv
      | .ok reply =>
        dsimp only
        cases failedOnChain reason reply with
        | error e => exact done_raise hr.inv
        | ok u => exact hk s _ hr
  · exact hk s l hr

lemma checked_ends {c : Command} {k : Unit → Op Unit} (hanswer : Reply c = Except String Unit)
    (hstill : ∀ b a signed, c ≠ .broadcast b a signed) (hr : Ready render b s l)
    (hk : ∀ s l, Ready render b s l → Ends py render (k ()) (fun _ => Inv render) s l) :
    Ends py render (Script.ask c >>= fun r => answered (hanswer ▸ r) >>= k) (fun _ => Inv render) s l := by
  apply ask_ends ready_stable hr hstill fun _ => Ready.inv
  intro s reply hr
  replace hr := hr.asked (r := reply) hstill
  generalize (hanswer ▸ reply : Except String Unit) = answer
  cases answer with
  | error name => exact done_raise hr.inv
  | ok u => exact hk s _ hr

theorem resolveIntervention_ends {reason : TxResultCode} (hinv : Inv render s l) :
    Ends py render (resolveIntervention b reason) (fun _ => Inv render) s l := by
  apply select_ends inv_stable hinv fun _ => id
  intro s hinv
  apply ofExcept_ends hinv
  rintro ⟨_, hash⟩ hrow
  simp only [orError_eq_ok, Option.map_eq_some_iff, Prod.mk.injEq] at hrow
  obtain ⟨x, hx, rfl, rfl⟩ := hrow
  apply ofExcept_ends hinv
  intro _ hstate
  rw [ensure_eq_ok, decide_eq_true_eq] at hstate
  have hread : Reading render b x s.db.txAttempts s l := ⟨hinv, hx, rfl⟩
  have hr : Ready render b s l := by
    apply hread.ready (by simp [hstate])
    rintro a row - - (h | h | ⟨h | h, -, -⟩)
    all_goals exact absurd (hstate.symm.trans h) (by simp)
  apply ofExcept_ends hinv
  intro _ _
  apply verify_ends hr
  intro s l hr
  apply checked_ends rfl (by simp) hr
  intro s l hr
  apply checked_ends rfl (by simp) hr
  intro s l hr
  apply checked_ends rfl (by simp) hr
  intro s l hr
  apply checked_ends rfl (by simp) hr
  intro s l hr
  apply ready_stable.wp_update hr
  intro s hr
  exact ⟨hr.restarted, done_ret hr.restarted⟩

lemma freezeBatch_ends {vault : String} (hinv : Inv keeper.render s l) :
    Ends py keeper.render (transaction (freezeBatch keeper vault)) (fun _ => Inv keeper.render) s l := by
  apply transaction_done inv_stable hinv fun _ => id
  intro s db r hinv hcommit
  rcases freezeBatch_cases hinv.unique hcommit with rfl | ⟨hactive, rfl, hunique⟩
  · exact { hinv with past := past_next hinv.past (Keeps.refl s.db) }
  · exact hinv.opened hactive hunique

end Passes

lemma quietly_ends {p : Op α} (h : Ends py render p (fun _ => Inv render) s l) :
    Ends py render (p >>= fun _ => .ret ()) (fun _ => Inv render) s l := by
  refine wp_bind (wp_mono ?_ h)
  rintro (e | r) s l hinv
  · exact done_raise hinv
  · exact done_ret hinv

def Fresh (s : Store) : Prop := s = ⟨Db.empty, []⟩

lemma inv_fresh (hs : Fresh s) : Inv render s [] := by
  subst hs
  have hquiet : ∀ b a, ¬ Handed [] b a := by
    rintro b a ⟨signed, hmem⟩
    cases hmem
  refine
    { handed := fun b a h => absurd h (hquiet b a), attempts := fun _ b a h => absurd h (hquiet b a)
      alone := ?alone, sent := ?sent, confirmed := ?confirmed, frozen := ?frozen, unique := .nil, waiting := ?waiting
      attributed := ?attributed, single := ?single, keys := .nil, past := ?past }
  case alone =>
    intro _ b a signed l' hl
    cases List.suffix_nil.mp hl
  case sent => simp [Db.empty]
  case confirmed => simp [Db.empty]
  case frozen => simp [Db.empty]
  case waiting => simp [Db.empty]
  case attributed => simp [Db.empty]
  case single => simp [Db.empty]
  case past => simp

theorem keeper_kept (py : Python) (keeper : Keeper) :
    Kept (Indexing py) (Inv keeper.render) id Fresh (Pass keeper) (Inv keeper.render) where
  stable := inv_stable
  stable_good := inv_stable
  start s hs := inv_fresh hs
  weaken s l := id
  restart s l := id
  program p hp s l hinv := by
    cases hp with
    | freezeBatch vault => exact quietly_ends (freezeBatch_ends hinv)
    | processBatch b rounds => exact quietly_ends (processBatch_ends hinv)
    | resolveIntervention b reason => exact resolveIntervention_ends hinv

/-- At any moment, after any crash: a transaction was given to the network only when each earlier attempt of its batch
had a recorded failure or had been seen on chain, if no accepted broadcast brought a hash that the database drops;
and what is confirmed was executed. -/
theorem one_live_attempt (h : Moment (Indexing py) id Fresh (Pass keeper) s l) :
    (AllKept keeper.render l → Alone s.db l) ∧
    ∀ (b : ℕ) batch, s.db.batches[b]? = some batch → batch.state = .confirmed → Executed s.db l b batch := by
  have hinv := h.invariant (keeper_kept py keeper)
  exact ⟨hinv.alone, hinv.confirmed⟩

section Replay

/-! A node that accepts a transaction under the hash `NaN`, which the database keeps as no hash, and one that refuses
the first transaction of a batch. -/

def vaultIndexer : Indexer := ⟨"chain", ["vault1"], []⟩

def plainPython : Python := ⟨fun _ => true, fun _ => "", fun _ => ""⟩

def plainKeeper : Keeper := ⟨1, 0, fun _ => ""⟩

def fillEvent : Json := TextCoding.event [("action", "limit_order_fill"), ("_contract_address", "pairA"),
  ("maker", "vault1"), ("order_id", "7"), ("token0_amount", "3"), ("token1_amount", "5")]

def fillBlock : Block := ⟨10, .str "B", .str "", .null, ["T"], [.obj [("events", .arr [fillEvent])]]⟩

lemma fill_indexed : ∃ db₁ db₂, refreshOrders "vault1" "pairA" [(7, "ask")] (registerVaults vaultIndexer Db.empty) =
    .ok db₁ ∧ scanHeight plainPython vaultIndexer fillBlock db₁ = .ok db₂ ∧
    db₂.rawEvents.length = 1 ∧ ∀ e ∈ db₂.rawEvents, e.vault = "vault1" ∧ e.reconciledBatch = none ∧ e.height = 10 := by
  have hindexed : (match refreshOrders "vault1" "pairA" [(7, "ask")] (registerVaults vaultIndexer Db.empty) with
      | .ok db₁ => (match scanHeight plainPython vaultIndexer fillBlock db₁ with
        | .ok db₂ => db₂.rawEvents.length = 1 && db₂.rawEvents.all fun e =>
          e.vault = "vault1" ∧ e.reconciledBatch = none ∧ e.height = 10
        | .error _ => false)
      | .error _ => false) = true := by
    decide +kernel
  cases hdb₁ : refreshOrders "vault1" "pairA" [(7, "ask")] (registerVaults vaultIndexer Db.empty) with
  | error e => simp [hdb₁] at hindexed
  | ok db₁ =>
    cases hdb₂ : scanHeight plainPython vaultIndexer fillBlock db₁ with
    | error e => simp [hdb₁, hdb₂] at hindexed
    | ok db₂ => exact ⟨db₁, db₂, rfl, hdb₂, by simpa [hdb₁, hdb₂] using hindexed⟩

variable {s' : Store} {l' : Log} {o : Option (Except PyError α)} {β : Type}

lemma exec_transaction {f : Db → Py (Db × β)} {k : β → Op α} {db : Db} {r : β} (hf : f s.db = .ok (db, r))
    (h : Exec (Indexing py) (k r) ⟨db, s.db :: s.past⟩ l s' l' o) :
    Exec (Indexing py) (transaction f >>= k) s l s' l' o := by
  apply Exec.update
  simp only [hf, Script.ret_bind]
  exact h

def handing (s : Store) (b : ℕ) : Store :=
  let signed := (s.db.insertAttempt ⟨b, .signed, .null, none⟩).touch b
    (fun row => { row with state := .signed, error := none }) none id
  ⟨signed.touch b (fun row => { row with state := .broadcasting }) (some s.db.txAttempts.length)
    fun row => { row with state := .broadcasting }, signed :: s.db :: s.past⟩

variable {vault : String} {rounds : ℕ} {k : Outcome → Op β} {o : Option (Except PyError β)} {x : Batch}

lemma exec_submit (signed : String) (hx : s.db.batches[b]? = some x)
    (h : Exec (Indexing py) (.call (.broadcast b s.db.txAttempts.length signed) fun response =>
      (reported keeper b s.db.txAttempts.length rounds response).bind k) (handing s b)
      (.answered (.signExecute x.vault (orderIds s.db b)) (.ok signed) ::
        .started (.signExecute x.vault (orderIds s.db b)) :: l) s' l' o) :
    Exec (Indexing py) ((submit keeper b rounds).bind k) s l s' l' o := by
  apply Exec.update
  simp only [id, hx, Option.map_some, orError, Script.ofExcept, Script.bind_eq, Script.ret_bind]
  apply Exec.call (a := .ok signed)
  exact .update (.update h)

lemma run_frozen : ∃ s, Run (Indexing plainPython) id Fresh (Pass plainKeeper) s [] ∧
    s.db.batches = [⟨"vault1", 10, .ready, .null, none, 0, none⟩] ∧ s.db.txAttempts = [] := by
  obtain ⟨db₁, db₂, hrefreshed, hscanned, hone, hfill⟩ := fill_indexed
  have happends := (registerVaults_appends vaultIndexer Db.empty).trans
    ((refreshOrders_appends hrefreshed).trans (scanHeight_appends hscanned))
  have hstart : Run (Indexing plainPython) id Fresh (Pass plainKeeper) ⟨Db.empty, []⟩ [] := .start rfl
  have hregistered : Run (Indexing plainPython) id Fresh (Pass plainKeeper)
      ⟨registerVaults vaultIndexer Db.empty, [Db.empty]⟩ [] :=
    hstart.interfered ⟨⟨vaultIndexer, .registered⟩, rfl⟩
  have hrefreshed : Run (Indexing plainPython) id Fresh (Pass plainKeeper)
      ⟨db₁, [registerVaults vaultIndexer Db.empty, Db.empty]⟩ [] :=
    hregistered.interfered ⟨⟨vaultIndexer, .refreshed hrefreshed⟩, rfl⟩
  have hscanned : Run (Indexing plainPython) id Fresh (Pass plainKeeper)
      ⟨db₂, [db₁, registerVaults vaultIndexer Db.empty, Db.empty]⟩ [] :=
    hrefreshed.interfered ⟨⟨vaultIndexer, .scanned hscanned⟩, rfl⟩
  obtain ⟨e, he⟩ := List.length_eq_one_iff.mp hone
  obtain ⟨hvault, hnone, hheight⟩ := hfill e (by simp [he])
  have hbatches : db₂.batches = [] := happends.batches
  have hevents : db₂.batchEvents = [] := happends.batchEvents
  have hactive : activeBatch db₂ "vault1" = none := by simp [activeBatch, hbatches]
  have horders : orderRows plainKeeper db₂ "vault1" = [orderOf e] := by
    simp [orderRows, eligible, unreconciled, he, hevents, hvault, hnone, plainKeeper]
  have hnew : (db₂.batchEvents.map BatchEvent.eventId ++ (frozen plainKeeper db₂ "vault1").map Prod.fst).Nodup := by
    rw [hevents]
    exact frozen_nodup plainKeeper db₂ "vault1"
  have hfreeze := freezeBatch_opens hactive (by simp [horders]) hnew
  have hthrough : ((frozen plainKeeper db₂ "vault1").map fun e => e.2.height).foldl max 0 = 10 := by
    simp [frozen, horders, eventsOf, unreconciled, he, hvault, hnone, hheight]
  refine ⟨⟨opened plainKeeper db₂ "vault1", _⟩,
    hscanned.finished (.freezeBatch "vault1") (exec_transaction hfreeze .ret), ?_, happends.txAttempts⟩
  simp [opened, hbatches, hthrough]

lemma exec_process (hx : s.db.batches[b]? = some x) (hready : x.state = .ready ∧ x.nextRetryAt = none ∧
      s.db.latestAttempt b = none ∨ x.state = .broadcast ∧ ∃ a row, s.db.latestAttempt b = some a ∧
      s.db.txAttempts[a]? = some row ∧ row.txHash = .null)
    (h : Exec (Indexing py) ((submit keeper b rounds).bind k) s l s' l' o) :
    Exec (Indexing py) ((processBatch keeper b rounds).bind k) s l s' l' o := by
  apply Exec.update
  simp only [id, hx, orError, Script.ofExcept, Script.bind_eq, Script.ret_bind]
  rcases hready with ⟨hstate, hretry, hlatest⟩ | ⟨hstate, a, row, hlatest, hrow, hhash⟩
  · simp only [hstate, proceed, backingOff, hretry, Script.bind_eq, Script.ret_bind, Bool.false_eq_true, if_false]
    apply Exec.update
    simp only [id, Script.ret_bind, hlatest, dispatch, hstate, Option.bind_none]
    exact h
  · simp only [hstate, proceed, backingOff, Script.bind_eq, Script.ret_bind, Bool.false_eq_true, if_false]
    apply Exec.update
    simp only [id, Script.ret_bind, hlatest, hrow, dispatch, hstate, Option.bind_some, Option.map_some, hhash,
      Json.truthy, Bool.false_eq_true, false_and, if_false]
    exact h

/-- The first attempt of the batch is out; what its pass makes of the answer decides where the run is then. -/
lemma run_reported : ∃ s l, s.db.batches = [⟨"vault1", 10, .broadcasting, .null, none, 0, none⟩] ∧
    s.db.txAttempts = [⟨0, .broadcasting, .null, none⟩] ∧ AllKept plainKeeper.render l ∧
    ∀ response s' l' r, Exec (Indexing plainPython) ((reported plainKeeper 0 0 0 response).bind fun _ => .ret ()) s
      (.answered (.broadcast 0 0 "tx") response :: .started (.broadcast 0 0 "tx") :: l) s' l' (some r) →
      Run (Indexing plainPython) id Fresh (Pass plainKeeper) s' l' := by
  obtain ⟨s, hrun, hbatches, hattempts⟩ := run_frozen
  have hx : s.db.batches[0]? = some ⟨"vault1", 10, .ready, .null, none, 0, none⟩ := by simp [hbatches]
  have hlatest : s.db.latestAttempt 0 = none := by simp [Db.latestAttempt, hattempts]
  refine ⟨handing s 0, [.answered (.signExecute "vault1" (orderIds s.db 0)) (.ok "tx"),
    .started (.signExecute "vault1" (orderIds s.db 0))], ?_, ?_, ?_, ?_⟩
  · simp [handing, Db.touch, Db.insertAttempt, hbatches]
  · simp [handing, Db.touch, Db.insertAttempt, hattempts]
  · intro e he
    simp only [List.mem_cons, List.not_mem_nil, or_false] at he
    rcases he with rfl | rfl <;> trivial
  · intro response s' l' r hreported
    apply hrun.finished (r := r) (.processBatch 0 0)
    apply exec_process hx (.inl ⟨rfl, rfl, hlatest⟩)
    apply exec_submit "tx" hx
    rw [hattempts]
    exact .call hreported

def nanResponse : Json := .obj [("code", .int 0), ("txhash", .nan)]

def dropped (s : Store) (b a : ℕ) : Store :=
  ⟨s.db.touch b (fun row => { row with txHash := .null, state := .broadcast }) (some a)
    fun row => { row with txHash := .null, checkCode := some 0, state := .broadcast }, s.db :: s.past⟩

lemma exec_dropped {k : Outcome → Op β} : Exec (Indexing py) ((reported keeper b a 0 (.ok nanResponse)).bind k) s l
    (dropped s b a)
    (.answered (.queryTx .nan) (.error (.other "TypeError")) :: .started (.queryTx .nan) :: l)
    (some (.error (.other "TypeError"))) := by
  have htx : txResponse nanResponse = .ok nanResponse := rfl
  have hresult : broadcastResult nanResponse = .ok (.ok (0, .nan)) := rfl
  simp only [reported, received, htx, hresult, Script.ofExcept, Script.bind_eq, Script.ret_bind]
  apply Exec.update
  exact .call (a := .error (.other "TypeError")) .raise

lemma run_dropped : ∃ s l, Run (Indexing plainPython) id Fresh (Pass plainKeeper) s l ∧ Handed l 0 0 ∧
    s.db.batches[0]? = some ⟨"vault1", 10, .broadcast, .null, none, 0, none⟩ ∧
    s.db.txAttempts = [⟨0, .broadcast, .null, some 0⟩] := by
  obtain ⟨s, l, hbatches, hattempts, -, hrun⟩ := run_reported
  refine ⟨_, _, hrun _ _ _ _ exec_dropped, ⟨"tx", by simp⟩, ?_, ?_⟩
  · simp [dropped, Db.touch, hbatches]
  · simp [dropped, Db.touch, hattempts]

/-- The second transaction of a batch is given to the network while nothing is known of the first. -/
theorem live_attempts : ¬ ∀ (py : Python) (keeper : Keeper) s l,
    Moment (Indexing py) id Fresh (Pass keeper) s l → Alone s.db l := by
  intro hclaim
  obtain ⟨s, l, hrun, hhanded, hx, hattempts⟩ := run_dropped
  have hlatest : s.db.latestAttempt 0 = some 0 := by simp [Db.latestAttempt, hattempts]
  have hexec : Exec (Indexing plainPython) ((processBatch plainKeeper 0 0).bind fun _ => .ret ()) s l (handing s 0) _
      none := exec_process hx (.inr ⟨rfl, 0, _, hlatest, by rw [hattempts]; rfl, rfl⟩)
    (exec_submit "tx" hx .started)
  have halone := hclaim _ _ _ _ (.within hrun (.processBatch 0 0) hexec) 0 _ "tx" _ List.suffix_rfl 0
    (hhanded.suffix ((List.suffix_cons _ _).trans (List.suffix_cons _ _)))
  have hrow₀ : (handing s 0).db.txAttempts[0]? = some ⟨0, .broadcast, .null, some 0⟩ := by
    simp [handing, Db.touch, Db.insertAttempt, hattempts]
  obtain ⟨-, row, hrow, hfate⟩ := halone
  rw [hrow₀, Option.some.injEq] at hrow
  subst hrow
  rcases hfate with ⟨code, hcode, hne⟩ | ⟨response, seen, -, hseen⟩
  · cases hcode
    exact hne rfl
  · obtain ⟨text, htext⟩ := observe_str hseen
    cases htext

def refusal : Json := .obj [("code", .int 5), ("txhash", .str "AB"), ("raw_log", .str "out of gas")]

def refused (s : Store) (b a : ℕ) : Store :=
  ⟨s.db.touch b (fun row => { row with txHash := .str "AB" }) (some a)
    fun row => { row with txHash := .str "AB", checkCode := some 5 }, s.db :: s.past⟩

def retrying (s : Store) (b a : ℕ) (now : ℤ) : Store :=
  ⟨s.db.touch b (fun row => { row with
      state := .ready
      error := some "check_failed:out of gas"
      failureCount := 1
      nextRetryAt := some (now + 60) }) (some a) fun row => { row with state := .checkFailed }, s.db :: s.past⟩

variable {a : ℕ} {due now : ℤ} {row : TxAttempt}

lemma exec_accept : Exec (Indexing py) (accept keeper b a (.str "AB") 5) s l (refused s b a) l (some (.ok ())) :=
  .update .ret

lemma exec_recordFailure (now : ℤ) (hx : s.db.batches[b]? = some x) (hfirst : x.failureCount = 0) :
    Exec (Indexing py) (recordFailure keeper b a (.str "out of gas") none .checkFailed) s l (retrying s b a now)
      (.answered .wallClock now :: .started .wallClock :: l) (some (.ok ())) := by
  apply Exec.update
  simp only [id, hx, hfirst, Option.map_some, orError, Script.ofExcept, Script.bind_eq, Script.ret_bind]
  exact .call (a := now) (.update .ret)

lemma exec_refused (now : ℤ) (hx : s.db.batches[b]? = some x) (hfirst : x.failureCount = 0) :
    Exec (Indexing py) (reported keeper b a 0 (.ok refusal)) s l (retrying (refused s b a) b a now)
      (.answered .wallClock now :: .started .wallClock :: l) (some (.ok (.failed .checkFailed))) := by
  have hx' : (refused s b a).db.batches[b]? = some { x with txHash := .str "AB" } := by
    simp [refused, touch_batches, hx]
  have haccepted : Exec (Indexing py) (accept keeper b a (.str "AB") 5) s l (refused s b a) l (some (.ok ())) :=
    exec_accept
  exact haccepted.bind ((exec_recordFailure now hx' hfirst).bind .ret)

lemma exec_retry (hx : s.db.batches[b]? = some x) (hstate : x.state = .ready) (hretry : x.nextRetryAt = some due)
    (hdue : due ≤ now) (hlatest : s.db.latestAttempt b = some a) (hrow : s.db.txAttempts[a]? = some row)
    (hfailed : row.state = .checkFailed)
    (h : Exec (Indexing py) ((submit keeper b rounds).bind k) s
      (.answered .wallClock now :: .started .wallClock :: l) s' l' o) :
    Exec (Indexing py) ((processBatch keeper b rounds).bind k) s l s' l' o := by
  apply Exec.update
  simp only [id, hx, orError, Script.ofExcept, Script.bind_eq, Script.ret_bind, hstate, proceed, backingOff, hretry]
  apply Exec.call (a := now)
  have hlate : decide (now < due) = false := decide_eq_false (not_lt.mpr hdue)
  simp only [Script.ret_bind, hlate, Bool.false_eq_true, if_false]
  apply Exec.update
  simp only [id, Script.ret_bind, hlatest, hrow, dispatch, hstate, hfailed, Option.bind_some, Option.map_some,
    reduceCtorEq, or_self, and_false, if_false]
  exact h

lemma run_refused : ∃ s l, Run (Indexing plainPython) id Fresh (Pass plainKeeper) s l ∧ Handed l 0 0 ∧
    AllKept plainKeeper.render l ∧
    s.db.batches[0]? = some ⟨"vault1", 10, .ready, .str "AB", some "check_failed:out of gas", 1, some 60⟩ ∧
    s.db.txAttempts = [⟨0, .checkFailed, .str "AB", some 5⟩] := by
  obtain ⟨s, l, hbatches, hattempts, hkept, hrun⟩ := run_reported
  have hx : s.db.batches[0]? = some ⟨"vault1", 10, .broadcasting, .null, none, 0, none⟩ := by simp [hbatches]
  refine ⟨_, _, hrun _ _ _ _ ((exec_refused 0 hx rfl).bind .ret), ⟨"tx", by simp⟩, ?_, ?_, ?_⟩
  · intro e he
    simp only [List.mem_cons] at he
    rcases he with rfl | rfl | rfl | rfl | he
    case inr.inr.inl =>
      intro tx hash stored htx hresult
      cases htx
      cases hresult
    case inr.inr.inr.inr => exact hkept e he
    all_goals trivial
  · simp [retrying, refused, Db.touch, hbatches]
  · simp [retrying, refused, Db.touch, hattempts]

theorem second_attempt_alone : ∃ (s : Store) (l : Log), Handed l 0 0 ∧ Handed l 0 1 ∧ Alone s.db l ∧
    ∀ (b : ℕ) batch, s.db.batches[b]? = some batch → batch.state = .confirmed → Executed s.db l b batch := by
  obtain ⟨s, l, hrun, hhanded, hkept, hx, hattempts⟩ := run_refused
  have hlatest : s.db.latestAttempt 0 = some 0 := by simp [Db.latestAttempt, hattempts]
  have hexec : Exec (Indexing plainPython) ((processBatch plainKeeper 0 0).bind fun _ => .ret ()) s l (handing s 0) _
      none := exec_retry hx rfl rfl le_rfl hlatest (by rw [hattempts]; rfl) rfl
    (exec_submit "tx" hx .started)
  have hlife := one_live_attempt (.within hrun (.processBatch 0 0) hexec)
  have hnext : s.db.txAttempts.length = 1 := by simp [hattempts]
  refine ⟨_, _, hhanded.suffix ⟨[_, _, _, _, _], rfl⟩, ⟨"tx", by simp [hnext]⟩, hlife.1 ?_, hlife.2⟩
  intro e he
  simp only [List.mem_cons] at he
  rcases he with rfl | rfl | rfl | rfl | rfl | he
  all_goals first | exact hkept e he | trivial

end Replay

end Cl8yDexBots.Services.BatchAttempts
