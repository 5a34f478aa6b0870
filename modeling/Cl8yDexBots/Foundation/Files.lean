import Cl8yDexBots.Foundation.Durable

/-! Files of one directory: what a power loss leaves of them, and how one is replaced as a whole. -/

namespace Cl8yDexBots.Foundation.Files

open Durable

variable {P B E α : Type}

structure File (B : Type) where
  data : B
  synced : Bool

abbrev Directory (P B : Type) := P → Option (File B)

/-- The directory, and what it was since it was last synced, the latest first. -/
structure Disk (P B : Type) where
  now : Directory P B
  past : List (Directory P B)

namespace Disk

def versions (disk : Disk P B) : List (Directory P B) := disk.now :: disk.past

def read (disk : Disk P B) (path : P) : Option B := (disk.now path).map File.data

def become (now : Directory P B) (disk : Disk P B) : Disk P B := ⟨now, disk.versions⟩

variable [DecidableEq P]

def write (path : P) (data : B) (disk : Disk P B) : Disk P B :=
  disk.become (Function.update disk.now path (some ⟨data, false⟩))

def sync (path : P) (disk : Disk P B) : Disk P B :=
  disk.become (Function.update disk.now path ((disk.now path).map fun file => ⟨file.data, true⟩))

def replace (source target : P) (disk : Disk P B) : Disk P B :=
  disk.become (Function.update (Function.update disk.now target (disk.now source)) source none)

def syncDirectory (disk : Disk P B) : Disk P B := ⟨disk.now, []⟩

lemma write_now (path : P) (data : B) (disk : Disk P B) :
    (disk.write path data).now = Function.update disk.now path (some ⟨data, false⟩) := rfl

lemma sync_now (path : P) (disk : Disk P B) : (disk.sync path).now =
    Function.update disk.now path ((disk.now path).map fun file => ⟨file.data, true⟩) := rfl

lemma replace_now (source target : P) (disk : Disk P B) : (disk.replace source target).now =
    Function.update (Function.update disk.now target (disk.now source)) source none := rfl

@[simp] lemma read_write (path : P) (data : B) (disk : Disk P B) :
    (disk.write path data).read = Function.update disk.read path (some data) := by
  funext other
  rw [read, write_now, Function.update_apply, Function.update_apply]
  split <;> rfl

@[simp] lemma read_sync (path : P) (disk : Disk P B) : (disk.sync path).read = disk.read := by
  funext other
  rw [read, sync_now, Function.update_apply]
  split
  · rename_i heq
    subst heq
    rw [read]
    cases disk.now other <;> rfl
  · rfl

@[simp] lemma read_replace (source target : P) (disk : Disk P B) : (disk.replace source target).read =
    Function.update (Function.update disk.read target (disk.read source)) source none := by
  funext other
  simp only [read, replace_now, Function.update_apply]
  split
  · rfl
  · split <;> rfl

omit [DecidableEq P]

@[simp] lemma read_syncDirectory (disk : Disk P B) : disk.syncDirectory.read = disk.read := rfl

lemma isSome_read (disk : Disk P B) (path : P) : (disk.read path).isSome = (disk.now path).isSome :=
  Option.isSome_map

end Disk

/-- What was not synced may come back as anything. -/
inductive Survives : Option (File B) → Option (File B) → Prop
  | absent : Survives none none
  | synced {data} : Survives (some ⟨data, true⟩) (some ⟨data, true⟩)
  | torn {data data'} : Survives (some ⟨data, false⟩) (some ⟨data', true⟩)

lemma Survives.of_absent {f : Option (File B)} (h : Survives none f) : f = none := by
  cases h
  rfl

lemma Survives.of_synced {data : B} {f : Option (File B)} (h : Survives (some ⟨data, true⟩) f) :
    f = some ⟨data, true⟩ := by
  cases h
  rfl

/-- A power loss: the changes of the directory reached the disk in their order, up to some point. -/
inductive Lost (disk : Disk P B) : Disk P B → Prop
  | intro {d d'} (version : d ∈ disk.versions) (each : ∀ path, Survives (d path) (d' path)) : Lost disk ⟨d', []⟩

/-- However much is lost, the file at `path` is whole, with `good` contents, `none` standing for no file. -/
def Holds (disk : Disk P B) (path : P) (good : Option B → Prop) : Prop :=
  ∀ d ∈ disk.versions, ∃ o : Option B, d path = o.map (fun data => ⟨data, true⟩) ∧ good o

section Holding

variable {disk disk' : Disk P B} {path other : P} {good good' : Option B → Prop} {now : Directory P B} {data : B}

lemma Holds.mono (h : Holds disk path good) (weaker : ∀ o, good o → good' o) : Holds disk path good' := by
  intro d hd
  obtain ⟨o, hpath, ho⟩ := h d hd
  exact ⟨o, hpath, weaker o ho⟩

lemma Holds.read (h : Holds disk path good) : good (disk.read path) := by
  obtain ⟨o, hpath, ho⟩ := h disk.now List.mem_cons_self
  cases o with
  | none => simpa [Disk.read, hpath] using ho
  | some data => simpa [Disk.read, hpath] using ho

lemma Holds.become (h : Holds disk path good) {o : Option B} (hpath : now path = o.map (fun data => ⟨data, true⟩))
    (ho : good o) : Holds (disk.become now) path good := by
  intro d hd
  rcases List.mem_cons.mp hd with rfl | hd
  · exact ⟨o, hpath, ho⟩
  · exact h d hd

lemma Holds.untouched (h : Holds disk path good) (same : now path = disk.now path) :
    Holds (disk.become now) path good := by
  obtain ⟨o, hpath, ho⟩ := h disk.now List.mem_cons_self
  exact h.become (same.trans hpath) ho

lemma Holds.lost (h : Holds disk path good) (hlost : Lost disk disk') : Holds disk' path good := by
  cases hlost with
  | @intro d d' version each =>
    obtain ⟨o, hpath, ho⟩ := h d version
    have hsurvives := each path
    rw [hpath] at hsurvives
    intro d₁ hd₁
    rw [List.mem_singleton.mp hd₁]
    refine ⟨o, ?_, ho⟩
    cases o with
    | none => exact hsurvives.of_absent
    | some data => exact hsurvives.of_synced

lemma Holds.decided (h : Holds disk path good) (hlost : Lost disk' disk) : Holds disk path (· = disk.read path) := by
  cases hlost with
  | @intro d d' version each =>
    intro d₁ hd₁
    obtain ⟨o, hpath, -⟩ := h d₁ hd₁
    rw [List.mem_singleton.mp hd₁] at hpath ⊢
    refine ⟨o, hpath, ?_⟩
    rw [Disk.read, hpath]
    cases o <;> rfl

variable [DecidableEq P]

lemma Holds.write (h : Holds disk path good) (hne : path ≠ other) : Holds (disk.write other data) path good :=
  h.untouched (Function.update_of_ne hne ..)

lemma Holds.sync (h : Holds disk path good) (hne : path ≠ other) : Holds (disk.sync other) path good :=
  h.untouched (Function.update_of_ne hne ..)

lemma Holds.replace (h : Holds disk path good) {source target : P} (hsource : path ≠ source) (htarget : path ≠ target) :
    Holds (disk.replace source target) path good :=
  h.untouched ((Function.update_of_ne hsource ..).trans (Function.update_of_ne htarget ..))

lemma Holds.replaced (h : Holds disk path good) (hne : path ≠ other) (hnew : disk.now other = some ⟨data, true⟩)
    (hgood : good (some data)) : Holds (disk.replace other path) path good := by
  refine h.become (o := some data) ?_ hgood
  rw [Function.update_of_ne hne, Function.update_self, hnew]
  rfl

omit [DecidableEq P] in
lemma Holds.syncDirectory {o : Option B} (hpath : disk.now path = o.map (fun data => ⟨data, true⟩)) :
    Holds disk.syncDirectory path (· = o) := by
  intro d hd
  rw [List.mem_singleton.mp hd]
  exact ⟨o, hpath, rfl⟩

end Holding

inductive FileCall where
  | attempt
  | tear

/-- An operation is done or refused; a write that is not finished has left something. -/
abbrev FileAnswer (B : Type) : FileCall → Type
  | .attempt => Bool
  | .tear => B

abbrev FileScript (P B E α : Type) := Script (Disk P B) FileCall (FileAnswer B) E α

variable [DecidableEq P] (failure : E)

def perform (f : Disk P B → Disk P B) : FileScript P B E Unit := do
  let done : Bool ← Script.ask FileCall.attempt
  if done then Script.modify f else Script.raise failure

def writeFile (path : P) (data : B) : FileScript P B E Unit := do
  let part : B ← Script.ask FileCall.tear
  perform failure (Disk.write path part)
  perform failure (Disk.write path data)

/-- The new contents are written and synced under another name, and take the place of the old ones at once. -/
def replaceWith (temporary path : P) (data : B) (between : FileScript P B E Unit) : FileScript P B E Unit := do
  writeFile failure temporary data
  perform failure (Disk.sync temporary)
  between
  perform failure (Disk.replace temporary path)
  perform failure Disk.syncDirectory

abbrev Log (B : Type) := List (Event FileCall (FileAnswer B))

/-- Started where `before` holds, the program keeps `crash` all along; it ends with `after`, or raises `failure`. -/
def Triple (failure : E) (crash before : Disk P B → Prop) (p : FileScript P B E Unit)
    (after : Disk P B → Prop) : Prop :=
  ∀ (disk : Disk P B) (l : Log B), before disk → wp (fun _ _ => False) (fun d _ => crash d) p
    (fun r d _ => (r = .ok () → after d) ∧ (∀ e, r = .error e → e = failure) ∧ crash d) disk l

section Rules

variable {failure} {crash crash' before m after : Disk P B → Prop} {p q : FileScript P B E Unit}

omit [DecidableEq P]

lemma Triple.weaken (h : Triple failure crash before p after) (hcrash : ∀ d, crash d → crash' d) :
    Triple failure crash' before p after := by
  intro disk l hdisk
  exact wp_mono (fun _ d _ hpost => ⟨hpost.1, hpost.2.1, hcrash d hpost.2.2⟩)
    (wp_weaken (fun d _ => hcrash d) (h disk l hdisk))

lemma Triple.seq (hp : Triple failure crash before p m) (hq : Triple failure crash m q after) :
    Triple failure crash before (p.bind fun _ => q) after := by
  intro disk l hdisk
  refine wp_bind (wp_mono ?_ (hp disk l hdisk))
  rintro (e | u) d l' ⟨hok, herror, hcrash⟩
  · refine wp_raise ⟨fun h => absurd h (by simp), fun e' he' => ?_, hcrash⟩
    cases he'
    exact herror e rfl
  · exact hq d l' (hok rfl)

lemma Triple.ret (h : ∀ d, after d → crash d) :
    Triple failure crash after (Script.ret () : FileScript P B E Unit) after :=
  fun disk _ hdisk => wp_ret ⟨fun _ => hdisk, fun _ he => absurd he (by simp), h disk hdisk⟩

lemma Triple.perform {f : Disk P B → Disk P B} (hbefore : ∀ d, before d → crash d)
    (hafter : ∀ d, before d → after (f d) ∧ crash (f d)) : Triple failure crash before (perform failure f) after := by
  intro disk l hdisk
  simp only [Files.perform, Script.bind_eq, Script.ask_bind]
  refine wp_call (hbefore _ hdisk) (fun _ => hbefore _ hdisk) fun done => ?_
  cases done with
  | true =>
    exact wp_update (hafter _ hdisk).2
      (wp_ret ⟨fun _ => (hafter _ hdisk).1, fun _ he => absurd he (by simp), (hafter _ hdisk).2⟩)
  | false =>
    refine wp_raise ⟨fun h => absurd h (by simp), fun e he => ?_, hbefore _ hdisk⟩
    cases he
    rfl

lemma Triple.read {k : Disk P B → FileScript P B E Unit} (hbefore : ∀ d, before d → crash d)
    (h : ∀ d₀, before d₀ → Triple failure crash (· = d₀) (k d₀) after) :
    Triple failure crash before (Script.update id k) after :=
  fun disk _ hdisk => wp_update (hbefore _ hdisk) (h disk hdisk disk _ rfl)

lemma Triple.tear {k : B → FileScript P B E Unit} (hbefore : ∀ d, before d → crash d)
    (h : ∀ b, Triple failure crash before (k b) after) :
    Triple failure crash before (Script.call FileCall.tear k) after :=
  fun disk _ hdisk => wp_call (hbefore _ hdisk) (fun _ => hbefore _ hdisk) fun b => h b disk _ hdisk

theorem Triple.exec {disk disk' : Disk P B} {l l' : Log B} {o : Option (Except E Unit)}
    (h : Triple failure crash before p after) (hbefore : before disk) (hcrash : crash disk)
    (hexec : Exec (fun _ _ => False) p disk l disk' l' o) :
    crash disk' ∧ (o = some (.ok ()) → after disk') ∧ ∀ e, o = some (.error e) → e = failure := by
  obtain ⟨hkept, hpost⟩ := wp_sound stable_alone hexec hcrash (h disk l hbefore)
  exact ⟨hkept, fun ho => (hpost _ ho).1 rfl, fun e ho => (hpost _ ho).2.1 e rfl⟩

end Rules

/-- A program that puts `data` at `path`, or leaves what was there. -/
def Replaces (failure : E) (path : P) (data : B) (p : FileScript P B E Unit) : Prop :=
  ∀ good : Option B → Prop, Triple failure (fun d => Holds d path fun o => good o ∨ o = some data)
    (fun d => Holds d path good) p (fun d => Holds d path (· = some data))

section Replacing

variable {failure} {path temporary : P} {data : B} {good : Option B → Prop}

lemma writeFile_triple (hne : path ≠ temporary) :
    Triple failure (fun d => Holds d path good) (fun d => Holds d path good) (writeFile failure temporary data)
      (fun d => Holds d path good ∧ d.now temporary = some ⟨data, false⟩) := by
  simp only [writeFile, Script.bind_eq, Script.ask_bind]
  refine .tear (fun _ => id) fun part => .seq (m := fun d => Holds d path good) ?_ ?_
  · exact .perform (fun _ => id) fun d h => ⟨h.write hne, h.write hne⟩
  · exact .perform (fun _ => id) fun d h => ⟨⟨h.write hne, Function.update_self ..⟩, h.write hne⟩

lemma writeFile_keeps {crash I : Disk P B → Prop} (hcrash : ∀ d, I d → crash d)
    (hwrite : ∀ b d, I d → I (d.write path b)) : Triple failure crash I (writeFile failure path data) I := by
  simp only [writeFile, Script.bind_eq, Script.ask_bind]
  refine .tear hcrash fun part => .seq (m := I) ?_ ?_
  · exact .perform hcrash fun d h => ⟨hwrite part d h, hcrash _ (hwrite part d h)⟩
  · exact .perform hcrash fun d h => ⟨hwrite data d h, hcrash _ (hwrite data d h)⟩

/-- What happens between the writing and the replacement may touch anything but these two files. -/
theorem replaceWith_replaces (hne : path ≠ temporary) {between : FileScript P B E Unit}
    (hbetween : ∀ good, Triple failure (fun d => Holds d path good)
      (fun d => Holds d path good ∧ d.now temporary = some ⟨data, true⟩) between
      (fun d => Holds d path good ∧ d.now temporary = some ⟨data, true⟩)) :
    Replaces failure path data (replaceWith failure temporary path data between) := by
  intro good
  have hold : ∀ d : Disk P B, Holds d path good → Holds d path fun o => good o ∨ o = some data :=
    fun d h => h.mono fun o => .inl
  simp only [replaceWith, Script.bind_eq]
  refine .seq ((writeFile_triple hne).weaken hold) (.seq (m := fun d => Holds d path good ∧
    d.now temporary = some ⟨data, true⟩) ?_ (.seq ((hbetween good).weaken hold) (.seq
      (m := fun d => Holds d path (fun o => good o ∨ o = some data) ∧ d.now path = some ⟨data, true⟩) ?_ ?_)))
  · refine .perform (fun d h => hold d h.1) fun d h => ?_
    have hsync : (d.sync temporary).now temporary = some ⟨data, true⟩ := by
      rw [Disk.sync_now, Function.update_self, h.2]
      rfl
    exact ⟨⟨h.1.sync hne, hsync⟩, hold _ (h.1.sync hne)⟩
  · refine .perform (fun d h => hold d h.1) fun d h => ?_
    have hreplaced := (hold d h.1).replaced hne h.2 (.inr rfl)
    have hnow : (d.replace temporary path).now path = some ⟨data, true⟩ := by
      rw [Disk.replace_now, Function.update_of_ne hne, Function.update_self, h.2]
    exact ⟨⟨hreplaced, hnow⟩, hreplaced⟩
  · refine .perform (fun d h => h.1) fun d h => ?_
    have hsynced : Holds d.syncDirectory path (· = some data) := Holds.syncDirectory (o := some data) h.2
    exact ⟨hsynced, hsynced.mono fun o => .inr⟩

end Replacing

section Reading

/-- A program that comes to its end has turned what there was to read into what `g` says. -/
def Reads (failure : E) (p : FileScript P B E Unit) (g : (P → Option B) → P → Option B) : Prop :=
  ∀ a, Triple failure (fun _ => True) (fun d => d.read = a) p (fun d => d.read = g a)

variable {failure} {p q : FileScript P B E Unit} {g g' : (P → Option B) → P → Option B}

omit [DecidableEq P] in
lemma Reads.seq (hp : Reads failure p g) (hq : Reads failure q g') :
    Reads failure (p.bind fun _ => q) fun a => g' (g a) :=
  fun a => (hp a).seq (hq (g a))

omit [DecidableEq P] in
lemma Reads.ret : Reads failure (Script.ret () : FileScript P B E Unit) id :=
  fun _ => .ret fun _ _ => trivial

omit [DecidableEq P] in
lemma Reads.perform {f : Disk P B → Disk P B} (h : ∀ d, (f d).read = g d.read) :
    Reads failure (Files.perform failure f) g :=
  fun a => .perform (fun _ _ => trivial) fun d hd => ⟨by rw [h, hd], trivial⟩

omit [DecidableEq P] in
lemma Reads.read {k : Disk P B → FileScript P B E Unit} {g : (P → Option B) → (P → Option B) → P → Option B}
    (h : ∀ d, Reads failure (k d) (g d.read)) : Reads failure (Script.update id k) fun a => g a a := by
  refine fun a => .read (fun _ _ => trivial) fun d hd disk l hdisk => ?_
  subst hd hdisk
  exact h disk disk.read disk l rfl

lemma Reads.write (path : P) (data : B) :
    Reads failure (Files.perform failure (Disk.write path data)) fun a => Function.update a path (some data) :=
  .perform (Disk.read_write path data)

lemma Reads.writeFile (path : P) (data : B) :
    Reads failure (Files.writeFile failure path data) fun a => Function.update a path (some data) := by
  intro a
  simp only [Files.writeFile, Script.bind_eq, Script.ask_bind]
  refine .tear (fun _ _ => trivial) fun part => ?_
  have htwice : Reads failure _ _ := (Reads.write path part).seq (Reads.write path data)
  simpa only [Function.update_idem] using htwice a

omit [DecidableEq P] in
lemma Reads.same {f : Disk P B → Disk P B} (h : ∀ d, (f d).read = d.read) :
    Reads failure (Files.perform failure f) id :=
  .perform h

lemma Reads.replace (source target : P) :
    Reads failure (Files.perform failure (Disk.replace source target : Disk P B → Disk P B))
      fun a => Function.update (Function.update a target (a source)) source none :=
  .perform (Disk.read_replace source target)

lemma Reads.replaceWith {temporary path : P} {data : B} {between : FileScript P B E Unit}
    (h : Reads failure between g) : Reads failure (Files.replaceWith failure temporary path data between) fun a =>
      let b := g (Function.update a temporary (some data))
      Function.update (Function.update b path (b temporary)) temporary none := by
  simp only [Files.replaceWith, Script.bind_eq]
  exact (Reads.writeFile temporary data).seq ((Reads.same (Disk.read_sync temporary)).seq (h.seq
    ((Reads.replace temporary path).seq (Reads.same Disk.read_syncDirectory))))

end Reading

section Histories

variable {T : Type}

/-- Saves of values at `path`, finished or not, with power losses and work on other files in between. -/
inductive History (path : P) (save : T → FileScript P B E Unit) : List (T × Bool) → Disk P B → Prop
  | start {disk} (absent : Holds disk path (· = none)) : History path save [] disk
  | saved {log disk t l disk' l'} (before : History path save log disk)
      (h : Exec (fun _ _ => False) (save t) disk l disk' l' (some (.ok ()))) :
      History path save ((t, true) :: log) disk'
  | unfinished {log disk t l disk' l' o} (before : History path save log disk)
      (h : Exec (fun _ _ => False) (save t) disk l disk' l' o) (cut : o ≠ some (.ok ())) :
      History path save ((t, false) :: log) disk'
  | lost {log disk disk'} (before : History path save log disk) (h : Lost disk disk') : History path save log disk'
  | elsewhere {log disk disk'} (before : History path save log disk)
      (spared : ∀ good, Holds disk path good → Holds disk' path good) : History path save log disk'

/-- What a file may hold: the last value saved to the end, or one whose save began later. -/
def candidates : List (T × Bool) → List (Option T)
  | [] => [none]
  | (t, true) :: _ => [some t]
  | (t, false) :: log => some t :: candidates log

variable {failure} {path : P} {save : T → FileScript P B E Unit} {log : List (T × Bool)}
  {disk : Disk P B}

omit [DecidableEq P] in
theorem History.holds (contents : T → B) (replaces : ∀ t, Replaces failure path (contents t) (save t))
    (h : History path save log disk) : Holds disk path fun o => ∃ t ∈ candidates log, o = t.map contents := by
  have hsave : ∀ {log : List (T × Bool)} {disk disk' t l l' o},
      Holds disk path (fun o => ∃ t ∈ candidates log, o = t.map contents) →
      Exec (fun _ _ => False) (save t) disk l disk' l' o →
      Holds disk' path (fun o => (∃ t ∈ candidates log, o = t.map contents) ∨ o = some (contents t)) ∧
        (o = some (.ok ()) → Holds disk' path (· = some (contents t))) := by
    intro log disk disk' t l l' o hold hexec
    obtain ⟨hcrash, hok, -⟩ := (replaces t _).exec hold (hold.mono fun _ => .inl) hexec
    exact ⟨hcrash, hok⟩
  induction h with
  | start absent => exact absent.mono fun o ho => ⟨none, List.mem_cons_self, ho⟩
  | saved before h ih => exact ((hsave ih h).2 rfl).mono fun o ho => ⟨some _, List.mem_cons_self, ho⟩
  | unfinished before h cut ih =>
    refine (hsave ih h).1.mono ?_
    rintro o (⟨t, ht, rfl⟩ | rfl)
    · exact ⟨t, List.mem_cons_of_mem _ ht, rfl⟩
    · exact ⟨some _, List.mem_cons_self, rfl⟩
  | lost before h ih => exact ih.lost h
  | elsewhere before spared ih => exact spared _ ih

end Histories

section Completion

/-- With nothing refused the program comes to its end. -/
def Completes (p : FileScript P B E Unit) : Prop :=
  ∀ (disk : Disk P B) (l : Log B), ∃ disk' l', Exec (fun _ _ => False) p disk l disk' l' (some (.ok ()))

variable {failure} {p q : FileScript P B E Unit}

omit [DecidableEq P] in
lemma Completes.ret : Completes (Script.ret () : FileScript P B E Unit) := fun disk l => ⟨disk, l, .ret⟩

omit [DecidableEq P] in
lemma Completes.seq (hp : Completes p) (hq : Completes q) : Completes (p.bind fun _ => q) := by
  intro disk l
  obtain ⟨disk₁, l₁, h₁⟩ := hp disk l
  obtain ⟨disk₂, l₂, h₂⟩ := hq disk₁ l₁
  exact ⟨disk₂, l₂, h₁.bind h₂⟩

omit [DecidableEq P] in
lemma Completes.read {k : Disk P B → FileScript P B E Unit} (h : ∀ d, Completes (k d)) :
    Completes (Script.update id k) := by
  intro disk l
  obtain ⟨disk', l', hrest⟩ := h disk disk l
  exact ⟨disk', l', .update hrest⟩

omit [DecidableEq P] in
lemma Completes.perform (f : Disk P B → Disk P B) : Completes (Files.perform failure f) := by
  intro disk l
  refine ⟨f disk, .answered FileCall.attempt true :: .started FileCall.attempt :: l, .call (a := true) ?_⟩
  show Exec _ (Script.update f fun _ => Script.ret ()) _ _ _ _ _
  exact .update .ret

lemma Completes.writeFile (path : P) (data : B) : Completes (Files.writeFile failure path data) := by
  intro disk l
  have htwice : Completes ((Files.perform failure (Disk.write path data)).bind fun _ =>
      Files.perform failure (Disk.write path data)) := .seq (.perform _) (.perform _)
  obtain ⟨disk', l', h⟩ := htwice disk (.answered FileCall.tear data :: .started FileCall.tear :: l)
  refine ⟨disk', l', ?_⟩
  simp only [Files.writeFile, Script.bind_eq, Script.ask_bind]
  exact .call (a := data) h

lemma Completes.replaceWith {between : FileScript P B E Unit} (temporary path : P) (data : B)
    (h : Completes between) : Completes (Files.replaceWith failure temporary path data between) :=
  (Completes.writeFile temporary data).seq ((Completes.perform _).seq (h.seq
    ((Completes.perform _).seq (Completes.perform _))))

end Completion

end Cl8yDexBots.Foundation.Files
