import Cl8yDexBots.Services.StateFile

/-! A save of the keeper's state is all or nothing, and leaves the states it replaces in the backups. -/

namespace Cl8yDexBots.Services.StateFileSafety

open Foundation.Checked Foundation.Durable Foundation.Files Values JsonText StateFile

variable {floatRepr : ℚ → List Char} {sha256 : String → String} {identity : Identity} {t : SavedState}
  {disk disk' : StateDisk}

@[simp] lemma isNone_str (s : String) : isNone (some (.str s)) = false := rfl

@[simp] lemma isNone_document (identity : Identity) : isNone (some identity.document) = false := rfl

@[simp] lemma isText_str (s : String) : isText s (some (.str s)) = true := by simp [isText]

@[simp] lemma isIdentity_document (identity : Identity) : isIdentity identity (some identity.document) = true := by
  simp [isIdentity, Identity.document, List.lookup]

lemma fields_filter (t : SavedState) (checksum : Json) :
    (fields identity t ++ [("checksum", checksum)]).filter (fun entry => entry.1 ≠ "checksum") = fields identity t := by
  simp [fields]

theorem load_document (t : SavedState) :
    load floatRepr sha256 identity (some (document floatRepr sha256 identity t)) = .ok t := by
  have hstored : (fields identity t ++ [("checksum", Json.str (checksum floatRepr sha256 (fields identity t)))]).lookup
      "checksum" = some (.str (checksum floatRepr sha256 (fields identity t))) := by
    simp [fields, List.lookup]
  simp only [load, document, orError, ok_bind, hstored, fields_filter]
  simp [fields, List.lookup, isNumber, ensure, Json.truthy]

section Saving

variable {good : Option (Option Json) → Prop} {o : Option (File (Option Json))}

/-- The state file is as it was, and so is the new one that waits to take its place. -/
abbrev Waiting (good : Option (Option Json) → Prop) (o : Option (File (Option Json))) (disk : StateDisk) : Prop :=
  Holds disk .state good ∧ disk.now .temporary = o

abbrev StateKept (good : Option (Option Json) → Prop) (disk : StateDisk) : Prop := Holds disk .state good

lemma os_waiting {f : StateDisk → StateDisk} (h : ∀ d, Waiting good o d → Waiting good o (f d)) :
    Triple .osError (StateKept good) (Waiting good o) (os f) (Waiting good o) :=
  .perform (fun _ hd => hd.1) fun d hd => ⟨h d hd, (h d hd).1⟩

lemma write_waiting (number : ℕ) (contents : Option Json) (d : StateDisk) (h : Waiting good o d) :
    Waiting good o (d.write (.backup number) contents) :=
  ⟨h.1.write (by simp), by rw [Disk.write_now, Function.update_of_ne (by simp)]; exact h.2⟩

lemma replace_waiting (a b : ℕ) (d : StateDisk) (h : Waiting good o d) :
    Waiting good o (d.replace (.backup a) (.backup b)) := by
  refine ⟨h.1.replace (by simp) (by simp), ?_⟩
  rw [Disk.replace_now, Function.update_of_ne (by simp), Function.update_of_ne (by simp)]
  exact h.2

lemma copy_waiting (contents : Option Json) (number : ℕ) :
    Triple .osError (StateKept good) (Waiting good o) (copy contents (.backup number)) (Waiting good o) :=
  .seq (writeFile_keeps (fun _ h => h.1) fun b d => write_waiting number b d) (os_waiting fun _ => id)

lemma rotate_waiting (numbers : List ℕ) :
    Triple .osError (StateKept good) (Waiting good o) (rotate numbers) (Waiting good o) := by
  induction numbers with
  | nil => exact .ret fun _ h => h.1
  | cons number numbers ih =>
    simp only [rotate, Script.bind_eq, Script.read_bind]
    refine .read (fun _ h => h.1) fun d₀ hd₀ => ?_
    intro d l hd
    subst hd
    split
    · exact Triple.seq (os_waiting fun d => replace_waiting (number - 1) number d) ih d l hd₀
    · exact ih d l hd₀

lemma keepBackup_waiting :
    Triple .osError (StateKept good) (Waiting good o) keepBackup (Waiting good o) := by
  simp only [keepBackup, Script.bind_eq, Script.read_bind]
  refine .seq (os_waiting fun _ => id) (.read (fun _ h => h.1) fun d₀ hd₀ => ?_)
  intro d l hd
  subst hd
  cases d.read .state with
  | none => exact Triple.ret (fun _ h => h.1) d l hd₀
  | some contents =>
    exact Triple.seq (rotate_waiting _) (.seq (copy_waiting contents 1) (os_waiting fun _ => id)) d l hd₀

theorem save_replaces (t : SavedState) : Replaces PyError.osError StatePath.state
    (some (document floatRepr sha256 identity t)) (save floatRepr sha256 identity t) := by
  intro good
  refine .seq (m := fun d => Holds d .state good) ?_
    (replaceWith_replaces (by simp) (fun _ => keepBackup_waiting) good)
  exact .perform (fun _ h => h.mono fun _ => .inl) fun d h => ⟨h, h.mono fun _ => .inl⟩

end Saving

section Completion

lemma osQuiet_completes : Completes osQuiet := Completes.perform id

lemma rotate_completes (numbers : List ℕ) : Completes (rotate numbers) := by
  induction numbers with
  | nil => exact .ret
  | cons number numbers ih =>
    simp only [rotate, Script.bind_eq, Script.read_bind]
    refine .read fun d => ?_
    split
    · exact (Completes.perform _).seq ih
    · exact ih

lemma keepBackup_completes : Completes keepBackup := by
  simp only [keepBackup, Script.bind_eq, Script.read_bind]
  refine osQuiet_completes.seq (.read fun d => ?_)
  cases d.read .state with
  | none => exact .ret
  | some contents =>
    exact (rotate_completes _).seq (((Completes.writeFile _ _).seq osQuiet_completes).seq osQuiet_completes)

variable (floatRepr sha256 identity) in
lemma save_completes (t : SavedState) : Completes (save floatRepr sha256 identity t) :=
  osQuiet_completes.seq (.replaceWith _ _ _ keepBackup_completes)

end Completion

section Reading

abbrev Contents := StatePath → Option (Option Json)

def moved (source target : StatePath) (a : Contents) : Contents :=
  Function.update (Function.update a target (a source)) source none

def rotated : List ℕ → Contents → Contents
  | [], a => a
  | number :: numbers, a =>
    rotated numbers (if (a (.backup (number - 1))).isSome then moved (.backup (number - 1)) (.backup number) a else a)

def shelved : Option (Option Json) → Contents → Contents
  | some contents, a => Function.update (rotated [MAX_BACKUPS, MAX_BACKUPS - 1] a) (.backup 1) (some contents)
  | none, a => a

def backedUp (a : Contents) : Contents := shelved (a .state) a

lemma osQuiet_reads : Reads PyError.osError osQuiet id := Reads.same (f := id) fun _ => rfl

lemma rotate_reads (numbers : List ℕ) : Reads PyError.osError (rotate numbers) (rotated numbers) := by
  induction numbers with
  | nil => exact .ret
  | cons number numbers ih =>
    simp only [rotate, Script.bind_eq, Script.read_bind]
    refine Reads.read (g := fun b a => rotated numbers
      (if (b (.backup (number - 1))).isSome then moved (.backup (number - 1)) (.backup number) a else a)) fun d => ?_
    rw [Disk.isSome_read]
    split
    · exact (Reads.replace _ _).seq ih
    · exact ih

lemma keepBackup_reads : Reads PyError.osError keepBackup backedUp := by
  simp only [keepBackup, Script.bind_eq, Script.read_bind]
  refine osQuiet_reads.seq (Reads.read (g := fun b a => shelved (b .state) a) fun d => ?_)
  cases d.read .state with
  | none => exact .ret
  | some contents =>
    exact (rotate_reads _).seq (((Reads.writeFile _ _).seq osQuiet_reads).seq osQuiet_reads)

lemma save_reads (t : SavedState) : Reads PyError.osError (save floatRepr sha256 identity t) fun a =>
    moved .temporary .state
      (backedUp (Function.update a .temporary (some (some (document floatRepr sha256 identity t))))) :=
  osQuiet_reads.seq (Reads.replaceWith keepBackup_reads)

end Reading

section Starting

variable {log : List (SavedState × Bool)}

lemma start_of_read {o : Option SavedState}
    (h : disk.read .state = o.map fun t => some (document floatRepr sha256 identity t)) :
    start floatRepr sha256 identity disk = .ok (o.getD .fresh) := by
  rw [start, h]
  cases o with
  | none => rfl
  | some t => exact load_document t

/-- Whatever is interrupted, refused or lost, a start reads a state that was saved as a whole: the last one whose save
came to its end, or one whose save began after it. -/
theorem start_atomic (h : History .state (save floatRepr sha256 identity) log disk) :
    ∃ o ∈ candidates log, start floatRepr sha256 identity disk = .ok (o.getD .fresh) := by
  have hold := h.holds (fun t => some (document floatRepr sha256 identity t)) fun t => save_replaces t
  obtain ⟨o, ho, hread⟩ := hold.read
  exact ⟨o, ho, start_of_read hread⟩

def underWay : SavedState := ⟨.null, .str "plan", .null, .null, true⟩

def keeper : Identity := ⟨"chain", "vault", "signer", "rebalancer"⟩

def emptyDisk : StateDisk := ⟨fun _ => none, []⟩

abbrev Completed (disk : StateDisk) (t : SavedState) (disk' : StateDisk) : Prop :=
  ∃ l, Exec (fun _ _ => False) (save (fun _ => []) id keeper t) disk [] disk' l (some (.ok ()))

/-- A save up to the moment at which its file has taken the place of the old one, and the directory is not synced. -/
def install (t : SavedState) : FileStep Unit :=
  osQuiet.bind fun _ => (writeFile .osError .temporary (some (document (fun _ => []) id keeper t))).bind fun _ =>
    (perform .osError (Disk.sync .temporary)).bind fun _ =>
      keepBackup.bind fun _ => perform .osError (Disk.replace .temporary .state)

lemma install_completes (t : SavedState) : Completes (install t) :=
  osQuiet_completes.seq ((Completes.writeFile _ _).seq ((Completes.perform _).seq
    (keepBackup_completes.seq (Completes.perform _))))

lemma install_reads (t : SavedState) : Reads PyError.osError (install t) fun a =>
    moved .temporary .state
      (backedUp (Function.update a .temporary (some (some (document (fun _ => []) id keeper t))))) :=
  osQuiet_reads.seq ((Reads.writeFile _ _).seq ((Reads.same (Disk.read_sync _)).seq
    (keepBackup_reads.seq (Reads.replace _ _))))

lemma save_cut (t : SavedState) (disk : StateDisk) :
    ∃ disk' l, Exec (fun _ _ => False) (save (fun _ => []) id keeper t) disk [] disk' l none ∧
      disk'.read .state = backedUp (Function.update disk.read .temporary
        (some (some (document (fun _ => []) id keeper t)))) .temporary := by
  obtain ⟨disk', l, h⟩ := install_completes t disk []
  obtain ⟨-, hread, -⟩ := (install_reads t disk.read).exec rfl trivial h
  refine ⟨disk', l, ?_, by rw [hread rfl]; rfl⟩
  have hsave : save (fun _ => []) id keeper t =
      (install t).bind fun _ => perform .osError Disk.syncDirectory := by
    simp only [save, replaceWith, install, Script.bind_eq, Script.bind_assoc]
  rw [hsave]
  exact h.bind .stop

lemma lost_whole (disk : StateDisk) : ∃ disk', Lost disk disk' := by
  refine ⟨⟨fun path => (disk.now path).map fun file => ⟨file.data, true⟩, []⟩, .intro List.mem_cons_self fun path => ?_⟩
  cases disk.now path with
  | none => exact .absent
  | some file =>
    rcases file with ⟨data, _ | _⟩
    · exact .torn
    · exact .synced

/-- A broadcast under way is saved, and the power fails while its end is: the new file has taken the place of the old
one, and the directory is not synced. -/
theorem start_atomic_under_way : ∃ disk disk' l, Completed emptyDisk underWay disk ∧
    Exec (fun _ _ => False) (save (fun _ => []) id keeper .fresh) disk [] disk' l none ∧
    disk'.read .state = some (some (document (fun _ => []) id keeper .fresh)) ∧ (∃ disk'', Lost disk' disk'') ∧
    ∀ disk'', Lost disk' disk'' →
      start (fun _ => []) id keeper disk'' = .ok .fresh ∨ start (fun _ => []) id keeper disk'' = .ok underWay := by
  obtain ⟨disk, l, h⟩ := save_completes (fun _ => []) id keeper underWay emptyDisk []
  obtain ⟨disk', l', hcut, hread⟩ := save_cut .fresh disk
  have hfresh : Holds emptyDisk .state (· = none) := by
    intro d hd
    rw [List.mem_singleton.mp hd]
    exact ⟨none, rfl, rfl⟩
  refine ⟨disk, disk', l', ⟨l, h⟩, hcut, ?_, lost_whole disk', fun disk'' hlost => ?_⟩
  · obtain ⟨-, hdone, -⟩ := (save_reads underWay emptyDisk.read).exec rfl trivial h
    rw [hread, hdone rfl]
    rfl
  · obtain ⟨o, ho, hstart⟩ := start_atomic (.lost (.unfinished (.saved (.start hfresh) h) hcut (by simp)) hlost)
    rcases List.mem_cons.mp ho with rfl | ho
    · exact .inl hstart
    · rw [List.mem_singleton.mp ho] at hstart
      exact .inr hstart

end Starting

section Backups

/-- Saves that came to their ends, from a directory that was empty, the latest first. -/
inductive Saves (floatRepr : ℚ → List Char) (sha256 : String → String) (identity : Identity) :
    List SavedState → StateDisk → Prop
  | start {disk : StateDisk} (empty : ∀ path, disk.read path = none) : Saves floatRepr sha256 identity [] disk
  | saved {log} {disk disk' : StateDisk} {t : SavedState} {l l'} (before : Saves floatRepr sha256 identity log disk)
      (h : Exec (fun _ _ => False) (save floatRepr sha256 identity t) disk l disk' l' (some (.ok ()))) :
      Saves floatRepr sha256 identity (t :: log) disk'

variable {log : List SavedState}

/-- The state file and its backups, the newest first. -/
def shelf : ℕ → StatePath
  | 0 => .state
  | number + 1 => .backup (number + 1)

/-- What a directory with these contents in its state file and behind it holds. -/
def held (contents : List (Option Json)) : Contents
  | .state => contents[0]?
  | .backup number => if 1 ≤ number ∧ number ≤ MAX_BACKUPS then contents[number]? else none
  | _ => none

lemma held_shelf (contents : List (Option Json)) (number : ℕ) :
    held contents (shelf number) = if number ≤ MAX_BACKUPS then contents[number]? else none := by
  cases number with
  | zero => rfl
  | succ number => simp [shelf, held]

lemma held_saved (contents : List (Option Json)) (new : Option Json) :
    moved .temporary .state (backedUp (Function.update (held contents) .temporary (some new))) =
      held (new :: contents) := by
  funext path
  -- how many backups there are decides which of them move
  rcases contents with _ | ⟨a, _ | ⟨b, _ | ⟨c, rest⟩⟩⟩ <;> rcases path with _ | _ | number | _ | name <;>
    simp [moved, backedUp, shelved, rotated, held, Function.update_apply, MAX_BACKUPS]
  -- a backup with one of the three numbers, or none at all
  all_goals rcases number with _ | _ | _ | _ | number <;> simp
  rw [if_neg (by omega), if_neg (by omega)]

theorem Saves.read (h : Saves floatRepr sha256 identity log disk) :
    disk.read = held (log.map fun t => some (document floatRepr sha256 identity t)) := by
  induction h with
  | @start disk empty =>
    funext path
    rw [empty]
    cases path <;> simp [held]
  | @saved log disk disk' t l l' before h ih =>
    obtain ⟨-, hdone, -⟩ := (save_reads t disk.read).exec rfl trivial h
    rw [hdone rfl, ih]
    exact held_saved _ _

/-- After saves that came to their ends the state file holds the newest state and `.bak.n` the one saved `n` saves
before, up to the third; each is accepted as it was saved, and nothing else is left in the directory. -/
theorem backups_exact (h : Saves floatRepr sha256 identity log disk) :
    (∀ number t, number ≤ MAX_BACKUPS → log[number]? = some t → ∃ contents, disk.read (shelf number) = some contents ∧
      load floatRepr sha256 identity contents = .ok t) ∧
    ∀ path, (∀ number, number ≤ MAX_BACKUPS → number < log.length → path ≠ shelf number) → disk.read path = none := by
  rw [h.read]
  refine ⟨fun number t hnumber ht => ?_, fun path hpath => ?_⟩
  · refine ⟨some (document floatRepr sha256 identity t), ?_, load_document t⟩
    rw [held_shelf, if_pos hnumber, List.getElem?_map, ht]
    rfl
  · cases path with
    | state =>
      cases log with
      | nil => rfl
      | cons t log => exact absurd rfl (hpath 0 (Nat.zero_le _) (Nat.zero_lt_succ _))
    | backup number =>
      by_cases hnumber : 1 ≤ number ∧ number ≤ MAX_BACKUPS
      · obtain ⟨n, rfl⟩ := Nat.exists_eq_add_of_le' hnumber.1
        have hlong : log.length ≤ n + 1 := by
          by_contra hshort
          exact hpath (n + 1) hnumber.2 (by omega) rfl
        simp [held, hlong]
      · simp only [held, if_neg hnumber]
    | temporary => rfl
    | restored => rfl
    | other name => rfl

theorem backups_exact_twice : ∃ disk₁ disk₂ contents,
    Completed emptyDisk underWay disk₁ ∧ Completed disk₁ .fresh disk₂ ∧
    disk₂.read (.backup 1) = some contents ∧ load (fun _ => []) id keeper contents = .ok underWay := by
  obtain ⟨disk₁, l₁, h₁⟩ := save_completes (fun _ => []) id keeper underWay emptyDisk []
  obtain ⟨disk₂, l₂, h₂⟩ := save_completes (fun _ => []) id keeper .fresh disk₁ []
  obtain ⟨contents, hread, hload⟩ :=
    (backups_exact (.saved (.saved (.start fun _ => rfl) h₁) h₂)).1 1 underWay (by decide) rfl
  exact ⟨disk₁, disk₂, contents, ⟨l₁, h₁⟩, ⟨l₂, h₂⟩, hread, hload⟩

end Backups

section Refinement

variable {N : Type} {R : N → Type}

def textOrNull : Option String → Json
  | some s => .str s
  | none => .null

def saved (t : Tracker.TxTracker) (since : Json) : SavedState :=
  ⟨t.pendingHash, textOrNull t.pendingPlan, since, textOrNull t.suppressedPlan, t.broadcasting⟩

/-- The file stands for a tracker, however much a power loss takes back. -/
def StandsFor (identity : Identity) (floatRepr : ℚ → List Char) (sha256 : String → String) (t : Tracker.TxTracker)
    (disk : StateDisk) : Prop :=
  Holds disk .state fun o => ∃ since, o = some (some (document floatRepr sha256 identity (saved t since)))

lemma abstract_saves (s : Tracker.Store) : ∃ log, Exec (fun _ _ => False) (Tracker.save : Tracker.Step R Unit) s []
    ⟨s.memory, s.memory⟩ log (some (.ok ())) := by
  refine ⟨[.answered .save Tracker.SaveOutcome.saved, .started .save], .call (a := Tracker.SaveOutcome.saved) ?_⟩
  show Exec _ (Script.update (fun s : Tracker.Store => ⟨s.memory, s.memory⟩) fun _ => Script.ret ()) _ _ _ _ _
  exact .update .ret

lemma abstract_saves_late (s : Tracker.Store) : ∃ log, Exec (fun _ _ => False) (Tracker.save : Tracker.Step R Unit) s []
    ⟨s.memory, s.memory⟩ log (some (.error .osError)) := by
  refine ⟨[.answered .save Tracker.SaveOutcome.failedAfter, .started .save],
    .call (a := Tracker.SaveOutcome.failedAfter) ?_⟩
  show Exec _ (Script.update (fun s : Tracker.Store => ⟨s.memory, s.memory⟩)
    fun _ => Script.raise PyError.osError) _ _ _ _ _
  exact .update .raise

/-- What a save does on the disk, down to its interruption and a power loss after it, is something that the save of the
abstract tracker does: the next start reads that one's file, and after a finished save or a power loss for good. -/
theorem save_refines {s : Tracker.Store} {since : Json} {l l' : Log (Option Json)} {disk'' : StateDisk}
    {o : Option (Except PyError Unit)} (before : StandsFor identity floatRepr sha256 s.file disk)
    (h : Exec (fun _ _ => False) (save floatRepr sha256 identity (saved s.memory since)) disk l disk' l' o)
    (after : disk'' = disk' ∨ Lost disk' disk'') :
    ∃ s' log, Exec (fun _ _ => False) (Tracker.save : Tracker.Step R Unit) s [] s' log o ∧ s'.memory = s.memory ∧
      (∃ since', start floatRepr sha256 identity disk'' = .ok (saved s'.file since')) ∧
      (o = some (.ok ()) ∨ Lost disk' disk'' → StandsFor identity floatRepr sha256 s'.file disk'') := by
  obtain ⟨hcrash, hok, herror⟩ := (save_replaces (saved s.memory since) _).exec before (before.mono fun _ => .inl) h
  have hlater : ∀ {good}, Holds disk' .state good → Holds disk'' .state good := by
    intro good hgood
    rcases after with rfl | hlost
    · exact hgood
    · exact hgood.lost hlost
  have hfound : ∀ {t : Tracker.TxTracker} {since}, disk''.read .state =
      some (some (document floatRepr sha256 identity (saved t since))) →
      (∃ since', start floatRepr sha256 identity disk'' = .ok (saved t since')) ∧
      (Lost disk' disk'' → StandsFor identity floatRepr sha256 t disk'') := by
    intro t since hread
    refine ⟨⟨since, start_of_read (o := some _) hread⟩, fun hlost => ?_⟩
    exact ((hlater hcrash).decided hlost).mono fun o ho => ⟨since, ho.trans hread⟩
  rcases o with _ | e | u
  · rcases (hlater hcrash).read with ⟨since', hold⟩ | hnew
    · exact ⟨s, [], .stop, rfl, (hfound hold).1, fun hdone => (hfound hold).2 (hdone.resolve_left (by simp))⟩
    · exact ⟨⟨s.memory, s.memory⟩, _, .call (a := Tracker.SaveOutcome.saved) (.update .stop), rfl, (hfound hnew).1,
        fun hdone => (hfound hnew).2 (hdone.resolve_left (by simp))⟩
  · obtain rfl := herror e rfl
    rcases (hlater hcrash).read with ⟨since', hold⟩ | hnew
    · exact ⟨s, _, .call (a := Tracker.SaveOutcome.failedBefore) .raise, rfl, (hfound hold).1,
        fun hdone => (hfound hold).2 (hdone.resolve_left (by simp))⟩
    · obtain ⟨log, hlate⟩ := abstract_saves_late (R := R) s
      exact ⟨⟨s.memory, s.memory⟩, log, hlate, rfl, (hfound hnew).1,
        fun hdone => (hfound hnew).2 (hdone.resolve_left (by simp))⟩
  · obtain ⟨log, hsaved⟩ := abstract_saves (R := R) s
    have hnew := hlater (hok rfl)
    exact ⟨⟨s.memory, s.memory⟩, log, hsaved, rfl, (hfound hnew.read).1, fun _ => hnew.mono fun o ho => ⟨since, ho⟩⟩

theorem save_refines_marked : ∃ (disk disk' : StateDisk) (s' : Tracker.Store) (log : _),
    Completed emptyDisk (saved .fresh .null) disk ∧
    Completed disk (saved { Tracker.TxTracker.fresh with broadcasting := true } .null) disk' ∧
    Exec (fun _ _ => False) (Tracker.save : Tracker.Step (fun _ : Unit => Unit) Unit)
      ⟨.fresh, { Tracker.TxTracker.fresh with broadcasting := true }⟩ [] s' log (some (.ok ())) ∧
    (∃ since, start (fun _ => []) id keeper disk' = .ok (saved s'.file since)) ∧
    StandsFor keeper (fun _ => []) id s'.file disk' := by
  obtain ⟨disk, l, h⟩ := save_completes (fun _ => []) id keeper (saved .fresh .null) emptyDisk []
  obtain ⟨disk', l', h'⟩ := save_completes (fun _ => []) id keeper
    (saved { Tracker.TxTracker.fresh with broadcasting := true } .null) disk []
  have hfresh : Holds emptyDisk .state fun _ => True := by
    intro d hd
    rw [List.mem_singleton.mp hd]
    exact ⟨none, rfl, trivial⟩
  have hbefore := ((save_replaces (saved .fresh .null) _).exec hfresh (hfresh.mono fun _ => .inl) h).2.1 rfl
  have hstands : StandsFor keeper (fun _ => []) id .fresh disk := hbefore.mono fun o ho => ⟨.null, ho⟩
  obtain ⟨s', log, hsave, -, hstart, hlasting⟩ :=
    save_refines (s := ⟨.fresh, { Tracker.TxTracker.fresh with broadcasting := true }⟩)
      (R := fun _ : Unit => Unit) hstands h' (.inl rfl)
  exact ⟨disk, disk', s', log, ⟨l, h⟩, ⟨l', h'⟩, hsave, hstart, hlasting (.inl rfl)⟩

end Refinement

end Cl8yDexBots.Services.StateFileSafety
