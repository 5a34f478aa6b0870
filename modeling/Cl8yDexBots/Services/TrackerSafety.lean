import Cl8yDexBots.Foundation.Attempts
import Cl8yDexBots.Services.Tracker

/-! The state file shows every broadcast that is still open, whatever the node answers. -/

namespace Cl8yDexBots.Services.TrackerSafety

open Foundation.Checked Foundation.Durable Foundation.Attempts Values Tracker

variable {N : Type} {R : N → Type} {α : Type}

def sameHash (a b : Json) : Bool :=
  match a.lower, b.lower with
  | .ok x, .ok y => x = y
  | _, _ => false

abbrev Log (R : N → Type) := List (Event (Call N) (Answer R))

/-- How a keeper's log is read: what an event says about its broadcasts, and which events it promises
nothing after. -/
structure Reading (R : N → Type) where
  move : Event (Call N) (Answer R) → Move Json
  clear : Event (Call N) (Answer R) → Prop
  save_started : move (.started .save) = .idle
  save_answered (outcome : SaveOutcome) : move (.answered .save outcome) = .idle

variable (reading : Reading R)

def Reading.openBroadcasts (l : Log R) : List (Attempt Json) := unresolved reading.move l

def Reading.Clear (l : Log R) : Prop := ∀ e ∈ l, reading.clear e

def Marked (t : TxTracker) : Prop := t.broadcasting = true ∧ t.pendingHash.truthy = false

/-- The tracker shows the open broadcasts: none or one, marked or under its hash. -/
inductive Covers (t : TxTracker) : List (Attempt Json) → Prop
  | none : Covers t []
  | unknown (h : Marked t) : Covers t [.unknown]
  | marked {hash : Json} (h : Marked t) : Covers t [.known hash]
  | known {hash : Json} (h : t.pendingHash = hash) (real : hash.truthy = true) : Covers t [.known hash]

def Shows (l : Log R) (open_ : List (Attempt Json)) : Prop :=
  reading.Clear l → reading.openBroadcasts l = open_ ∧ Exclusive reading.move l

/-- What the state file owes to the log. -/
def FileSafe (s : Store) (l : Log R) : Prop := ∃ open_, Shows reading l open_ ∧ Covers s.file open_

def Safe (s : Store) (l : Log R) : Prop :=
  ∃ open_, Shows reading l open_ ∧ Covers s.file open_ ∧ Covers s.memory open_

abbrev Ends (p : Step R α) (post : Except PyError α → Store → Log R → Prop) (s : Store) (l : Log R) : Prop :=
  wp (fun _ _ => False) (FileSafe reading) p post s l

def Quiet (p : Step R α) : Prop :=
  ∀ s l open_, Shows reading l open_ → Covers s.file open_ →
    Ends reading p (fun _ s' l' => s' = s ∧ Shows reading l' open_) s l

def Watches (look : Json → Step R (Option Observation)) : Prop :=
  ∀ hash s l open_, Shows reading l open_ → Covers s.file open_ →
    Ends reading (look hash) (fun r s' l' => s' = s ∧ ∃ keep : Attempt Json → Bool,
      Shows reading l' (open_.filter keep) ∧ ∀ found, r = .ok (some found) → keep (.known hash) = false) s l

/-- How a broadcast that started with none open leaves it. -/
inductive Outcome : Except PyError Json → List (Attempt Json) → Prop
  | accepted {hash : Json} (real : hash.truthy = true) : Outcome (.ok hash) [.known hash]
  | rejected {e : PyError} : Outcome (.error e) []
  | ambiguous {e : PyError} (h : e.deterministic = false) : Outcome (.error e) [.unknown]

def Broadcasts (p : Step R Json) : Prop :=
  ∀ s l, Shows reading l [] → Marked s.file →
    Ends reading p (fun r s' l' => s' = s ∧ ∃ open_, Shows reading l' open_ ∧ Outcome r open_) s l

variable {reading} {s : Store} {l : Log R} {t : TxTracker} {open_ : List (Attempt Json)}
  {post : Except PyError α → Store → Log R → Prop}

lemma Shows.fileSafe (hl : Shows reading l open_) (h : Covers s.file open_) : FileSafe reading s l :=
  ⟨open_, hl, h⟩

lemma Shows.safe (hl : Shows reading l open_) (hfile : Covers s.file open_) (hmem : Covers s.memory open_) :
    Safe reading s l := ⟨open_, hl, hfile, hmem⟩

lemma Safe.fileSafe (h : Safe reading s l) : FileSafe reading s l := by
  obtain ⟨open_, hl, hfile, -⟩ := h
  exact hl.fileSafe hfile

lemma Shows.event {e : Event (Call N) (Answer R)} (hl : Shows reading l open_) (h : reading.move e ≠ .start) :
    Shows reading (e :: l) ((reading.move e).apply open_) := by
  intro hclear
  obtain ⟨rfl, hexcl⟩ := hl fun e' he' => hclear e' (List.mem_cons_of_mem _ he')
  exact ⟨rfl, fun hstart => absurd hstart h, hexcl⟩

lemma Shows.idle {e : Event (Call N) (Answer R)} (hl : Shows reading l open_) (h : reading.move e = .idle) :
    Shows reading (e :: l) open_ := by
  have hnext := hl.event (e := e) (by rw [h]; nofun)
  rw [h] at hnext
  cases open_ <;> exact hnext

lemma Shows.start {e : Event (Call N) (Answer R)} (hl : Shows reading l []) (h : reading.move e = .start) :
    Shows reading (e :: l) [.unknown] := by
  intro hclear
  obtain ⟨hnone, hexcl⟩ := hl fun e' he' => hclear e' (List.mem_cons_of_mem _ he')
  refine ⟨?_, fun _ => hnone, hexcl⟩
  simp only [Reading.openBroadcasts] at hnone ⊢
  rw [unresolved, hnone, h]
  rfl

lemma Shows.unclear {e : Event (Call N) (Answer R)} (h : ¬ reading.clear e) : Shows reading (e :: l) open_ :=
  fun hclear => absurd (hclear e (List.mem_cons_self ..)) h

lemma call_idle {c : Call N} {k : Answer R c → Step R α} (hl : Shows reading l open_) (hfile : Covers s.file open_)
    (hstart : reading.move (.started c) = .idle) (hanswer : ∀ a, reading.move (.answered c a) = .idle)
    (h : ∀ a l', Shows reading l' open_ → Ends reading (k a) post s l') :
    Ends reading (Script.call c k) post s l := by
  have hstarted := hl.idle hstart
  apply wp_call (hstarted.fileSafe hfile)
  · intro a
    exact (hstarted.idle (hanswer a)).fileSafe hfile
  · intro a
    exact h a _ (hstarted.idle (hanswer a))

lemma Covers.filter (h : Covers t open_) (keep : Attempt Json → Bool) : Covers t (open_.filter keep) := by
  cases h with
  | none => exact .none
  | unknown h =>
    cases hk : keep .unknown
    · simpa [hk] using Covers.none
    · simpa [hk] using Covers.unknown h
  | @marked hash h =>
    cases hk : keep (.known hash)
    · simpa [hk] using Covers.none
    · simpa [hk] using Covers.marked h
  | @known hash h real =>
    cases hk : keep (.known hash)
    · simpa [hk] using Covers.none
    · simpa [hk] using Covers.known h real

lemma Covers.eq_nil (h : Covers t open_) (hmark : ¬ Marked t) (hhash : t.pendingHash.truthy = false) :
    open_ = [] := by
  cases h with
  | none => rfl
  | unknown h => exact absurd h hmark
  | marked h => exact absurd h hmark
  | known h real => rw [h, real] at hhash; cases hhash

lemma Covers.filter_eq_nil {keep : Attempt Json → Bool} (h : Covers t open_)
    (hhash : t.pendingHash.truthy = true) (hkeep : keep (.known t.pendingHash) = false) :
    open_.filter keep = [] := by
  cases h with
  | none => rfl
  | unknown h => rw [h.2] at hhash; cases hhash
  | marked h => rw [h.2] at hhash; cases hhash
  | known h real =>
    subst h
    simp [hkeep]

lemma save_ends (hl : Shows reading l open_) (hfile : Covers s.file open_) (hmem : Covers s.memory open_) :
    Ends reading save (fun r s' l' => Shows reading l' open_ ∧ s'.memory = s.memory ∧ match r with
      | .ok _ => s'.file = s.memory
      | .error e => e.deterministic = false ∧ Covers s'.file open_) s l := by
  simp only [save, Script.bind_eq, Script.ask_bind]
  apply call_idle hl hfile reading.save_started reading.save_answered
  intro outcome l' hl'
  have hcopied : FileSafe reading ⟨s.memory, s.memory⟩ l' := hl'.fileSafe hmem
  cases outcome with
  | saved => exact wp_update hcopied (wp_ret ⟨hl', rfl, rfl⟩)
  | failedBefore => exact wp_raise ⟨hl', rfl, rfl, hfile⟩
  | failedAfter => exact wp_update hcopied (wp_raise ⟨hl', rfl, rfl, hmem⟩)

lemma save_safe (hl : Shows reading l open_) (hfile : Covers s.file open_) (hmem : Covers s.memory open_) :
    Ends reading save (fun _ => Safe reading) s l := by
  refine wp_mono ?_ (save_ends hl hfile hmem)
  rintro (e | u) s' l' ⟨hl', hmemory, hsaved⟩
  · exact hl'.safe hsaved.2 (hmemory ▸ hmem)
  · exact hl'.safe (hsaved ▸ hmem) (hmemory ▸ hmem)

lemma Outcome.covers {r : Except PyError Json} (h : Outcome r open_) (hmark : Marked t) : Covers t open_ := by
  cases h with
  | accepted real => exact .marked hmark
  | rejected => exact .none
  | ambiguous h => exact .unknown hmark

lemma quiet_ret (a : α) : Quiet reading (Script.ret a) := fun _ _ _ hl _ => wp_ret ⟨rfl, hl⟩

lemma quiet_raise (e : PyError) : Quiet reading (Script.raise e : Step R α) :=
  fun _ _ _ hl _ => wp_raise ⟨rfl, hl⟩

lemma quiet_request {c : N} {k : R c → Step R α} (hstart : reading.move (.started (.node c)) = .idle)
    (hanswer : ∀ a : R c, reading.move (.answered (.node c) a) = .idle) (h : ∀ a, Quiet reading (k a)) :
    Quiet reading (Script.call (Call.node c) k) := by
  intro s l open_ hl hfile
  apply call_idle hl hfile hstart hanswer
  intro a l' hl'
  exact h a s l' open_ hl' hfile

lemma submit_ends {fingerprint : String} {preflight : Step R Unit} {broadcast : Step R Json}
    (hpreflight : Quiet reading preflight) (hbroadcast : Broadcasts reading broadcast)
    (hl : Shows reading l []) (hhash : s.memory.pendingHash.truthy = false) :
    Ends reading (submit fingerprint preflight broadcast) (fun r s' l' =>
      ∃ open_, Shows reading l' open_ ∧ Covers s'.file open_ ∧ match r with
      | .ok hash => open_ = [.known hash] ∧ hash.truthy = true
      | .error e => Covers s'.memory open_ ∧ (e.deterministic = true → open_ = [])) s l := by
  simp only [submit, Script.bind_eq]
  refine wp_bind (wp_mono ?_ (hpreflight s l [] hl .none))
  rintro (e | u) s₀ l₁ ⟨rfl, hl₁⟩
  · exact wp_raise ⟨[], hl₁, .none, .none, fun _ => rfl⟩
  · simp only [setTracker, Script.modify_bind]
    refine wp_update (hl₁.fileSafe .none) (wp_bind (wp_mono ?_ (save_ends hl₁ .none .none)))
    rintro (e | u) s₁ l₂ ⟨hl₂, hmemory, hsaved⟩
    · exact wp_raise ⟨[], hl₂, .none, .none, fun _ => rfl⟩
    · have hmark : Marked s₁.memory := by
        rw [hmemory]
        exact ⟨rfl, hhash⟩
      have hfile : Marked s₁.file := by
        rw [hsaved]
        exact ⟨rfl, hhash⟩
      refine wp_mono ?_ (hbroadcast s₁ l₂ hl₂ hfile)
      rintro r s₂ l₃ ⟨rfl, open_, hl₃, houtcome⟩
      refine ⟨open_, hl₃, houtcome.covers hfile, ?_⟩
      cases houtcome with
      | accepted real => exact ⟨rfl, real⟩
      | rejected => exact ⟨.none, fun _ => rfl⟩
      | ambiguous h => exact ⟨.unknown hmark, fun hdet => by rw [h] at hdet; cases hdet⟩

lemma unmark_ends {fingerprint : String} {e : PyError} (hl : Shows reading l open_)
    (hfile : Covers s.file open_) (hmem : Covers s.memory open_) (hdet : e.deterministic = true → open_ = []) :
    Ends reading (unmark fingerprint e) (fun r s' l' => Safe reading s' l' ∧ ∃ e', r = .error e') s l := by
  by_cases h : e.deterministic = true
  · obtain rfl := hdet h
    simp only [unmark, h, if_true, setTracker, Script.bind_eq, Script.modify_bind]
    refine wp_update (hl.fileSafe .none) (wp_bind (wp_mono ?_ (save_safe hl .none .none)))
    rintro (e' | u) s₁ l₁ hsafe
    · exact wp_raise ⟨hsafe, e', rfl⟩
    · exact wp_raise ⟨hsafe, e, rfl⟩
  · simp only [unmark, h]
    exact wp_raise ⟨hl.safe hfile hmem, e, rfl⟩

lemma settle_ends {found : Observation} (hl : Shows reading l []) :
    Ends reading (settle found) (fun _ => Safe reading) s l := by
  have hnone : ∀ s, FileSafe reading s l := fun s => hl.fileSafe .none
  simp only [settle, setTracker, Script.bind_eq, Script.read_bind, Script.modify_bind]
  refine wp_update (hnone _) (wp_update (hnone _) ?_)
  by_cases hcode : found.code = 0
  · simp only [hcode, ne_eq, not_true_eq_false, if_false]
    refine wp_update (hnone _) (wp_bind (wp_mono ?_ (save_safe hl .none .none)))
    rintro (e | u) s₁ l₁ hsafe
    · exact wp_raise hsafe
    · exact wp_ret hsafe
  · simp only [hcode, ne_eq, not_false_eq_true, if_true]
    refine wp_update (hnone _) (wp_bind (wp_mono ?_ (save_safe hl .none .none)))
    rintro (e | u) s₁ l₁ hsafe
    · exact wp_raise hsafe
    · exact wp_raise hsafe

section Polling

variable {look : Json → Step R (Option Observation)} {confirmed : ℤ → Step R Bool}
  (hlook : Watches reading look) (hconfirmed : ∀ height, Quiet reading (confirmed height))
include hlook hconfirmed

lemma pollOnce_ends {later : Step R Bool} (hlater : ∀ s l, Safe reading s l →
    s.memory.pendingHash.truthy = true → Ends reading later (fun _ => Safe reading) s l)
    (hs : Safe reading s l) (hhash : s.memory.pendingHash.truthy = true) :
    Ends reading (pollOnce look confirmed later) (fun _ => Safe reading) s l := by
  obtain ⟨open_, hl, hfile, hmem⟩ := hs
  simp only [pollOnce, Script.bind_eq, Script.read_bind]
  apply wp_update (hl.fileSafe hfile)
  refine wp_bind (wp_mono ?_ (hlook s.memory.pendingHash _ l open_ hl hfile))
  rintro (e | found) s₁ l₁ ⟨rfl, keep, hl₁, hfound⟩
  · exact wp_raise (hl₁.safe (hfile.filter keep) (hmem.filter keep))
  · cases found with
    | none => exact hlater _ _ (hl₁.safe (hfile.filter keep) (hmem.filter keep)) hhash
    | some found =>
      -- the pending broadcast was the only one that could be open
      rw [hmem.filter_eq_nil hhash (hfound found rfl)] at hl₁
      refine wp_bind (wp_mono ?_ (hconfirmed found.height _ l₁ [] hl₁ .none))
      rintro (e | deep) s₂ l₂ ⟨rfl, hl₂⟩
      · exact wp_raise (hl₂.safe .none .none)
      · cases deep with
        | false => exact hlater _ _ (hl₂.safe .none .none) hhash
        | true => exact settle_ends hl₂

lemma pollRounds_ends (rounds : ℕ) (hs : Safe reading s l) (hhash : s.memory.pendingHash.truthy = true) :
    Ends reading (pollRounds look confirmed rounds) (fun _ => Safe reading) s l := by
  induction rounds generalizing s l with
  | zero =>
    apply pollOnce_ends hlook hconfirmed _ hs hhash
    intro s l hs _
    exact wp_ret hs
  | succ rounds ih =>
    apply pollOnce_ends hlook hconfirmed _ hs hhash
    intro s l hs hhash
    exact ih hs hhash

end Polling

lemma trade_ends {fingerprint : String} {preflight : Step R Unit} {broadcast : Step R Json}
    {poll : Step R Bool} (hpreflight : Quiet reading preflight) (hbroadcast : Broadcasts reading broadcast)
    (hpoll : ∀ s l, Safe reading s l → s.memory.pendingHash.truthy = true →
      Ends reading poll (fun _ => Safe reading) s l)
    (hl : Shows reading l []) (hhash : s.memory.pendingHash.truthy = false) :
    Ends reading (trade fingerprint preflight broadcast poll) (fun _ => Safe reading) s l := by
  refine wp_bind (wp_recover (wp_mono ?_ (submit_ends hpreflight hbroadcast hl hhash)))
  rintro (e | hash) s₁ l₁ ⟨open_, hl₁, hfile, hrest⟩
  · refine wp_mono ?_ (unmark_ends hl₁ hfile hrest.1 hrest.2)
    rintro r s₂ l₂ ⟨hs₂, e', rfl⟩
    exact wp_raise hs₂
  · obtain ⟨rfl, hreal⟩ := hrest
    apply wp_ret
    simp only [setTracker, Script.bind_eq, Script.modify_bind]
    refine wp_update (hl₁.fileSafe hfile) (wp_bind (wp_mono ?_ (save_ends hl₁ hfile (.known rfl hreal))))
    rintro (e | u) s₂ l₂ ⟨hl₂, hmemory, hsaved⟩
    · exact wp_raise (hl₂.safe hsaved.2 (hmemory ▸ .known rfl hreal))
    · have hs₂ : Safe reading s₂ l₂ := hl₂.safe (hsaved ▸ .known rfl hreal) (hmemory ▸ .known rfl hreal)
      refine wp_bind (wp_mono ?_ (hpoll s₂ l₂ hs₂ (by rw [hmemory]; exact hreal)))
      rintro (e | b) s₃ l₃ hs₃
      · exact wp_raise hs₃
      · exact wp_ret hs₃

lemma standDown_ends (hl : Shows reading l []) : Ends reading standDown (fun _ => Safe reading) s l := by
  simp only [standDown, setTracker, Script.bind_eq, Script.modify_bind]
  exact wp_update (hl.fileSafe .none) (save_safe hl .none .none)

lemma guarded_ends {poll : Step R Bool} {plan : TxTracker → Step R Unit}
    (hpoll : ∀ s l, Safe reading s l → s.memory.pendingHash.truthy = true →
      Ends reading poll (fun _ => Safe reading) s l)
    (hplan : ∀ s l, Shows reading l [] → s.memory.pendingHash.truthy = false →
      Ends reading (plan s.memory) (fun _ => Safe reading) s l)
    (hs : Safe reading s l) : Ends reading (guarded poll plan) (fun _ => Safe reading) s l := by
  simp only [guarded, Script.bind_eq, Script.read_bind]
  apply wp_update hs.fileSafe
  by_cases hhash : s.memory.pendingHash.truthy = true
  · simp only [hhash, Bool.not_true, Bool.and_false, Bool.false_eq_true, if_false, if_true]
    refine wp_bind (wp_mono ?_ (hpoll _ l hs hhash))
    rintro (e | b) s₁ l₁ hs₁
    · exact wp_raise hs₁
    · exact wp_ret hs₁
  · have hhash : s.memory.pendingHash.truthy = false := Bool.not_eq_true _ ▸ hhash
    by_cases hmark : s.memory.broadcasting = true
    · simp only [hmark, hhash, Bool.not_false, Bool.and_self, if_true]
      exact wp_ret hs
    · simp only [hmark, hhash, Bool.false_and, Bool.false_eq_true, if_false]
      obtain ⟨open_, hl, -, hmem⟩ := hs
      obtain rfl := hmem.eq_nil (fun h => hmark h.1) hhash
      exact hplan _ l hl hhash

def Fresh (s : Store) : Prop := s = ⟨.fresh, .fresh⟩

lemma tracker_kept {service : Step R Unit → Prop}
    (h : ∀ p, service p → ∀ s l, Safe reading s l → Ends reading p (fun _ => Safe reading) s l) :
    Kept (fun _ _ => False) (FileSafe reading) restart Fresh service (Safe reading) where
  stable := stable_alone
  stable_good := stable_alone
  start s h := by
    subst h
    exact ⟨[], fun _ => ⟨rfl, trivial⟩, .none, .none⟩
  weaken s l h := h.fileSafe
  restart s l h := by
    obtain ⟨open_, hl, hfile⟩ := h
    exact ⟨open_, hl, hfile, hfile⟩
  program := h

lemma FileSafe.exclusive (h : FileSafe reading s l) (hclear : reading.Clear l) :
    Covers s.file (reading.openBroadcasts l) ∧ ∀ before after e, l = after ++ e :: before →
      reading.move e = .start → reading.openBroadcasts before = [] := by
  obtain ⟨open_, hl, hfile⟩ := h
  obtain ⟨rfl, hexcl⟩ := hl hclear
  refine ⟨hfile, ?_⟩
  rintro before after e rfl hstart
  exact hexcl.start hstart

end Cl8yDexBots.Services.TrackerSafety
