import Cl8yDexBots.Services.OrderDiscovery

/-! Which fills the indexer stores as they are, when it has to guess the coding of their events. -/

namespace Cl8yDexBots.Services.FillDecoding

open Foundation.Checked Values Database GridIndexer BatchLedger TextCoding OrderDiscovery

inductive Coding
  | plain
  | base64
deriving DecidableEq

def Coding.write : Coding → String → String
  | .plain, s => s
  | .base64, s => encoded s

def written (c : Coding) (fields : Fields) : Fields := fields.map fun f => (c.write f.1, c.write f.2)

def readWritten (py : Python) (c : Coding) (fields : Fields) : Attrs := TextCoding.read py (written c fields)

def number (s : String) : ℕ := Nat.ofDigitChars 10 s.toList 0

/-- A numeral that the guess does not take for base64. -/
def Clear (py : Python) (c : Coding) (s : String) : Prop := c = .plain → ¬ Ambiguous py s

def Prints (py : Python) (s : String) : Prop := s.toList.all py.isPrintable = true

structure Fill where
  pair : String
  vault : String
  order : String
  side : Option String
  token0 : String
  token1 : String

def Fill.orderId (f : Fill) : ℕ := number f.order

def Fill.amounts (f : Fill) (side : String) : ℕ × ℕ :=
  if side = "ask" then (number f.token0, number f.token1) else (number f.token1, number f.token0)

def fillOf (fields : Fields) : Fill where
  pair := first fields.reverse ["_contract_address", "contract_address", "pair"]
  vault := first fields.reverse ["maker", "owner"]
  order := first fields.reverse ["order_id", "limit_order_id"]
  side := side fields.reverse
  token0 := first fields.reverse ["token0_amount", "token_0_amount", "amount0"]
  token1 := first fields.reverse ["token1_amount", "token_1_amount", "amount1"]

/-- A fill event, apart from its coding: its amounts and its order's id are numerals, and in the coding the guess gets
its other texts right. -/
structure FillEvent (py : Python) (c : Coding) (fields : Fields) : Prop where
  keys : ∀ field ∈ fields, decodeText py (c.write field.1) = field.1
  action : fields.reverse.lookup "action" = some "limit_order_fill"
  numerals : ∀ s ∈ [(fillOf fields).order, (fillOf fields).token0, (fillOf fields).token1], Numeral s
  legible : ∀ s ∈ ["limit_order_fill", (fillOf fields).pair, (fillOf fields).vault,
    first fields.reverse ["side", "order_side"]], decodeText py (c.write s) = s

section Reading

variable {py : Python} {c : Coding} {fields : Fields} {s : String} {n : ℕ}

lemma decodeText_base64 (h : Prints py s) : decodeText py (Coding.base64.write s) = s := decodeText_encoded py s h

theorem attributes_base64 {j : Json} (h : Carries j (written .base64 fields))
    (hprint : ∀ f ∈ fields, Prints py f.1 ∧ Prints py f.2) : attributes py j = .ok fields.reverse := by
  rw [attributes_carries h, TextCoding.read, written, List.map_map]
  have hsame : ∀ f ∈ fields, ((fun f : String × String => (decodeText py f.1, decodeText py f.2)) ∘
      fun f => (Coding.base64.write f.1, Coding.base64.write f.2)) f = f := by
    intro f hmem
    obtain ⟨hkey, hvalue⟩ := hprint f hmem
    simp only [Function.comp_apply, decodeText_base64 hkey, decodeText_base64 hvalue]
  rw [List.map_congr_left hsame, List.map_id']

lemma write_ne_empty (h : s ≠ "") : c.write s ≠ "" := by
  cases c with
  | plain => exact h
  | base64 =>
    intro hwrite
    have hlist : b64encode (bytes s.toList) = [] := by
      rw [← String.toList_ofList (l := b64encode _)]
      exact congrArg String.toList hwrite
    have hread := utf8_bytes s.toList
    have hbytes : bytes s.toList = [] := by
      have hdecode := b64decode_encode _ (bytes_lt s.toList)
      rw [hlist] at hdecode
      exact (Option.some.inj hdecode).symm
    rw [hbytes] at hread
    have hnil : s.toList = [] := (Option.some.inj hread).symm
    exact h (by rw [← String.ofList_toList (s := s), hnil])

lemma decodeText_write_empty : decodeText py (c.write "") = "" := by
  cases c <;> rfl

lemma lookup_written (hkeys : ∀ f ∈ fields, decodeText py (c.write f.1) = f.1) (key : String) :
    (readWritten py c fields).lookup key = (fields.reverse.lookup key).map fun s => decodeText py (c.write s) := by
  induction fields using List.reverseRecOn with
  | nil => rfl
  | append_singleton fields f ih =>
    have hread : readWritten py c (fields ++ [f]) = (f.1, decodeText py (c.write f.2)) :: readWritten py c fields := by
      simp [readWritten, TextCoding.read, written, hkeys f (by simp)]
    rw [hread, List.reverse_append, List.reverse_singleton, List.singleton_append, List.lookup_cons, List.lookup_cons,
      ih fun f hmem => hkeys f (by simp [hmem])]
    split <;> rfl

lemma first_written (hkeys : ∀ f ∈ fields, decodeText py (c.write f.1) = f.1) (names : List String) :
    first (readWritten py c fields) names = decodeText py (c.write (first fields.reverse names)) := by
  induction names with
  | nil => exact decodeText_write_empty.symm
  | cons name names ih =>
    rw [first, first, lookup_written hkeys]
    cases fields.reverse.lookup name with
    | none => exact ih
    | some value =>
      simp only [Option.map_some]
      by_cases h : value = ""
      · subst h
        rw [decodeText_write_empty]
        exact ih
      · rw [if_pos (decodeText_ne_empty (write_ne_empty h)), if_pos h]

lemma numeral_prints (hdigits : ∀ ch : Char, ch.isDigit = true → py.isPrintable ch = true) (hs : Numeral s) :
    Prints py s := by
  rw [Prints, List.all_eq_true]
  exact fun ch hmem => hdigits ch (hs.2 ch hmem)

lemma digitText_written (hdigits : ∀ ch : Char, ch.isDigit = true → py.isPrintable ch = true) (hs : Numeral s) :
    digitText (decodeText py (c.write s)) = some n ↔ Clear py c s ∧ n = number s := by
  have hnumber : digitText s = some n ↔ n = number s := by
    rw [digitText_eq_some]
    exact and_iff_right hs
  cases c with
  | plain =>
    rw [← hnumber]
    simpa [Clear, Coding.write] using digitText_decodeText hs
  | base64 =>
    rw [decodeText_base64 (numeral_prints hdigits hs), hnumber]
    simp [Clear]

end Reading

section Steps

variable {py : Python} {ix : Indexer} {c : Coding} {fields : Fields} {db db' : Db} {height : ℤ}
  {txHash : String} {n : ℕ}

def Sided (side : Option String) (db : Db) (pair : String) (orderId : ℕ) : Prop :=
  ∀ order, db.orders pair orderId = some order → ∃ s, side.or order.side = some s ∧ (s = "ask" ∨ s = "bid")

def Recorded (ix : Indexer) (txHash : String) (n : ℕ) (f : Fill) (db : Db) : Prop :=
  ∃ e ∈ db.rawEvents, e.key = (ix.chainId, f.pair, txHash, n, f.orderId) ∧ e.vault = f.vault ∧
    (e.inputAmount, e.outputAmount) = f.amounts e.side

lemma mem_insertRawEvent {e row : RawEvent} (h : e ∈ (db.insertRawEvent row).rawEvents) :
    e ∈ db.rawEvents ∨ e = row := by
  rw [Db.insertRawEvent] at h
  split at h
  · exact .inl h
  · simpa using h

lemma FillEvent.reads (h : FillEvent py c fields) :
    (readWritten py c fields).lookup "action" = some "limit_order_fill" ∧
    first (readWritten py c fields) ["_contract_address", "contract_address", "pair"] = (fillOf fields).pair ∧
    first (readWritten py c fields) ["maker", "owner"] = (fillOf fields).vault ∧
    first (readWritten py c fields) ["order_id", "limit_order_id"] = decodeText py (c.write (fillOf fields).order) ∧
    GridIndexer.side (readWritten py c fields) = (fillOf fields).side ∧
    first (readWritten py c fields) ["token0_amount", "token_0_amount", "amount0"] =
      decodeText py (c.write (fillOf fields).token0) ∧
    first (readWritten py c fields) ["token1_amount", "token_1_amount", "amount1"] =
      decodeText py (c.write (fillOf fields).token1) := by
  refine ⟨?_, ?_, ?_, first_written h.keys _, ?_, first_written h.keys _, first_written h.keys _⟩
  · rw [lookup_written h.keys, h.action, Option.map_some, h.legible _ (by simp)]
  · exact (first_written h.keys _).trans (h.legible (fillOf fields).pair (by simp))
  · exact (first_written h.keys _).trans (h.legible (fillOf fields).vault (by simp))
  · rw [GridIndexer.side, first_written h.keys, h.legible _ (by simp)]
    rfl

variable (hdigits : ∀ ch : Char, ch.isDigit = true → py.isPrintable ch = true)
include hdigits

lemma FillEvent.fills (h : FillEvent py c fields) {pair vault : String} {orderId : ℕ} :
    Fills pair orderId vault (readWritten py c fields) ↔ (pair = (fillOf fields).pair ∧
      vault = (fillOf fields).vault ∧ orderId = (fillOf fields).orderId) ∧ Clear py c (fillOf fields).order := by
  obtain ⟨haction, hpair, hvault, horder, -, -, -⟩ := h.reads
  have hread : ∀ n, digitText (decodeText py (c.write (fillOf fields).order)) = some n ↔
      Clear py c (fillOf fields).order ∧ n = (fillOf fields).orderId :=
    fun n => digitText_written hdigits (h.numerals _ (by simp))
  constructor
  · intro hfill
    obtain ⟨hclear, hid⟩ := (hread _).mp (horder ▸ hfill.order)
    exact ⟨⟨hfill.pair.symm.trans hpair, hfill.maker.symm.trans hvault, hid⟩, hclear⟩
  · rintro ⟨⟨rfl, rfl, rfl⟩, hclear⟩
    exact ⟨haction, hpair, hvault, horder ▸ (hread _).mpr ⟨hclear, rfl⟩⟩

lemma FillEvent.idle (h : FillEvent py c fields)
    (hidle : Known ix db (fillOf fields).vault (fillOf fields).pair → Clear py c (fillOf fields).order →
      (fillOf fields).orderId < 2 ^ 63 ∧
      ¬ Tracked db (fillOf fields).pair (fillOf fields).orderId (fillOf fields).vault) :
    fill ix height txHash db (readWritten py c fields, n) = .ok db := by
  apply fill_idle
  intro pair orderId vault hfill hknown
  obtain ⟨⟨rfl, rfl, rfl⟩, hclear⟩ := (h.fills hdigits).mp hfill
  exact hidle hknown hclear

lemma FillEvent.clear (h : FillEvent py c fields) (hknown : Known ix db (fillOf fields).vault (fillOf fields).pair)
    (hclear : Clear py c (fillOf fields).order)
    (hfill : fill ix height txHash db (readWritten py c fields, n) = .ok db') : (fillOf fields).orderId < 2 ^ 63 ∧
    (Tracked db (fillOf fields).pair (fillOf fields).orderId (fillOf fields).vault →
      Clear py c (fillOf fields).token0 ∧ Clear py c (fillOf fields).token1) := by
  have hfills := (h.fills hdigits).mpr ⟨⟨rfl, rfl, rfl⟩, hclear⟩
  obtain ⟨-, -, -, -, -, htoken0, htoken1⟩ := h.reads
  refine ⟨fill_small hfills hknown hfill, ?_⟩
  rintro ⟨order, hfound, hof⟩
  obtain ⟨-, _, amount0, amount1, -, -, hamount0, hamount1, -⟩ := (fill_known hfills hknown hfound hof).mp hfill
  exact ⟨((digitText_written hdigits (h.numerals _ (by simp))).mp (htoken0 ▸ hamount0)).1,
    ((digitText_written hdigits (h.numerals _ (by simp))).mp (htoken1 ▸ hamount1)).1⟩

lemma FillEvent.recorded (h : FillEvent py c fields) (hknown : Known ix db (fillOf fields).vault (fillOf fields).pair)
    (htracked : Tracked db (fillOf fields).pair (fillOf fields).orderId (fillOf fields).vault)
    (hsided : Sided (fillOf fields).side db (fillOf fields).pair (fillOf fields).orderId)
    (hsmall : (fillOf fields).orderId < 2 ^ 63)
    (hclear : ∀ s ∈ [(fillOf fields).order, (fillOf fields).token0, (fillOf fields).token1], Clear py c s)
    (hnew : ∀ e ∈ db.rawEvents, e.txHash = txHash → e.eventIndex ≠ n) :
    ∃ db', fill ix height txHash db (readWritten py c fields, n) = .ok db' ∧
      Recorded ix txHash n (fillOf fields) db' := by
  obtain ⟨-, -, -, -, hside, htoken0, htoken1⟩ := h.reads
  obtain ⟨order, hfound, hof⟩ := htracked
  obtain ⟨s, hs, hvalid⟩ := hsided order hfound
  have hfills := (h.fills hdigits).mpr ⟨⟨rfl, rfl, rfl⟩, hclear _ (by simp)⟩
  have hread : ∀ text ∈ [(fillOf fields).order, (fillOf fields).token0, (fillOf fields).token1],
      digitText (decodeText py (c.write text)) = some (number text) :=
    fun text hmem => (digitText_written hdigits (h.numerals text hmem)).mpr ⟨hclear text hmem, rfl⟩
  refine ⟨_, (fill_known hfills hknown hfound hof).mpr ⟨hsmall, s, _, _, hside ▸ hs, hvalid,
    htoken0 ▸ hread _ (by simp), htoken1 ▸ hread _ (by simp), rfl⟩, ?_⟩
  rw [Recorded, Db.insertRawEvent, if_neg]
  · exact ⟨_, List.mem_append_right _ (List.mem_singleton.mpr rfl), rfl, rfl, rfl⟩
  · simp only [List.any_eq_true, decide_eq_true_eq, not_exists, not_and]
    intro old hold hkey
    simp only [RawEvent.key, Prod.mk.injEq] at hkey
    exact hnew old hold hkey.2.2.1 hkey.2.2.2.1

omit hdigits

lemma fill_keeps {parsed : Attrs × ℕ} (h : fill ix height txHash db parsed = .ok db') :
    (∀ own pair orderId, Sided own db pair orderId → Sided own db' pair orderId) ∧
    ∀ e ∈ db'.rawEvents, e ∈ db.rawEvents ∨ e.txHash = txHash ∧ Known ix db e.vault e.pair ∧
      e.eventIndex = parsed.2 ∧ digitText (first parsed.1 ["order_id", "limit_order_id"]) = some e.orderId := by
  have hsame : (∀ own pair orderId, Sided own db pair orderId → Sided own db pair orderId) ∧
      ∀ e ∈ db.rawEvents, e ∈ db.rawEvents ∨ e.txHash = txHash ∧ Known ix db e.vault e.pair ∧
        e.eventIndex = parsed.2 ∧ digitText (first parsed.1 ["order_id", "limit_order_id"]) = some e.orderId :=
    ⟨fun _ _ _ h => h, fun _ he => .inl he⟩
  simp only [fill] at h
  split at h
  · cases h
    exact hsame
  split at h
  · rename_i orderId vaultRow hread hrow
    split at h
    · cases h
      exact hsame
    rename_i hknown
    simp only [not_or, not_not, Bool.not_eq_true', Bool.not_eq_false] at hknown
    simp only [bind_eq_ok] at h
    obtain ⟨_, -, h⟩ := h
    split at h
    · rename_i order horder
      split at h
      · cases h
        exact hsame
      simp only [bind_eq_ok, ensure_eq_ok, exists_const] at h
      obtain ⟨s, -, hvalid, token0, -, token1, -, h⟩ := h
      rw [decide_eq_true_eq] at hvalid
      cases h
      constructor
      · intro own pair orderId' hsided order' horder'
        rw [insertRawEvent_orders, putOrder_orders] at horder'
        split at horder'
        · rename_i hkey
          obtain ⟨rfl, rfl⟩ := hkey
          cases horder'
          -- the event's own side still comes first
          cases own with
          | none => exact ⟨s, rfl, hvalid⟩
          | some text =>
            obtain ⟨s', hs', hvalid'⟩ := hsided order horder
            exact ⟨s', hs', hvalid'⟩
        · exact hsided order' horder'
      · intro e he
        rcases mem_insertRawEvent he with hold | rfl
        · exact .inl hold
        · exact .inr ⟨rfl, ⟨hknown.1, hknown.2.1, vaultRow, hrow, hknown.2.2⟩, rfl, hread⟩
    · cases h
      exact hsame
  · cases h
    exact hsame

end Steps

section Transactions

variable {py : Python} {ix : Indexer} {c : Coding} {fields : Fields} {events : List Fields} {db db' db₁ : Db}
  {height : ℤ} {txHash : String} {txResult : Json} {n k : ℕ}

def FillTracked (db : Db) (fields : Fields) : Prop :=
  Tracked db (fillOf fields).pair (fillOf fields).orderId (fillOf fields).vault

/-- What it takes for a fill to be stored as it is: the vault's pair is known and the numerals are clear. An id that
no column holds is not looked up. -/
def Storable (py : Python) (c : Coding) (ix : Indexer) (db : Db) (fields : Fields) : Prop :=
  (Known ix db (fillOf fields).vault (fillOf fields).pair → Clear py c (fillOf fields).order →
    (fillOf fields).orderId < 2 ^ 63) ∧
  (FillTracked db fields → Known ix db (fillOf fields).vault (fillOf fields).pair ∧
    ∀ s ∈ [(fillOf fields).order, (fillOf fields).token0, (fillOf fields).token1], Clear py c s)

def Formed (py : Python) (c : Coding) (db : Db) (fields : Fields) : Prop :=
  (readWritten py c fields).lookup "action" ≠ some "limit_order_fill" ∨ FillEvent py c fields ∧
    (FillTracked db fields → Sided (fillOf fields).side db (fillOf fields).pair (fillOf fields).orderId)

structure Stays (db db' : Db) : Prop where
  vaults : db'.vaults = db.vaults
  tracked : ∀ p o w, Tracked db' p o w ↔ Tracked db p o w
  sided : ∀ own p o, Sided own db p o → Sided own db' p o

lemma Stays.fill {parsed : Attrs × ℕ} (h : Stays db₁ db) (hstep : fill ix height txHash db parsed = .ok db') :
    Stays db₁ db' where
  vaults := (fill_orders hstep).1.trans h.vaults
  tracked := fun p o w => ((fill_orders hstep).2 p o w).trans (h.tracked p o w)
  sided := fun own p o hsided => (fill_keeps hstep).1 own p o (h.sided own p o hsided)

lemma Stays.known {vault pair : String} (h : Stays db₁ db) : Known ix db vault pair ↔ Known ix db₁ vault pair := by
  rw [Known, Known, h.vaults]

lemma zipIdx_cons : ((fields :: events).map (readWritten py c)).zipIdx k =
    (readWritten py c fields, k) :: (events.map (readWritten py c)).zipIdx (k + 1) := rfl

lemma fill_silent (h : (readWritten py c fields).lookup "action" ≠ some "limit_order_fill") :
    fill ix height txHash db (readWritten py c fields, n) = .ok db := by
  rw [fill, if_pos h]

lemma Recorded.appends {f : Fill} (h : Recorded ix txHash n f db) (happends : Appends db db') :
    Recorded ix txHash n f db' := by
  obtain ⟨e, he, hrow⟩ := h
  obtain ⟨new, hraw, -⟩ := happends.rawEvents
  exact ⟨e, hraw ▸ List.mem_append_left _ he, hrow⟩

lemma fold_source (h : foldChecked (fill ix height txHash) db ((events.map (readWritten py c)).zipIdx k) = .ok db') :
    ∀ e ∈ db'.rawEvents, e ∈ db.rawEvents ∨ e.txHash = txHash ∧ Known ix db e.vault e.pair ∧
      ∃ n fields, events[n]? = some fields ∧ e.eventIndex = k + n ∧
      digitText (first (readWritten py c fields) ["order_id", "limit_order_id"]) = some e.orderId := by
  induction events generalizing db k with
  | nil =>
    cases h
    exact fun e he => .inl he
  | cons fields rest ih =>
    rw [zipIdx_cons, foldChecked, bind_eq_ok] at h
    obtain ⟨db₂, hstep, hrest⟩ := h
    intro e he
    rcases ih hrest e he with hold | ⟨hhash, hknown, n, fields', hevent, hindex, hread⟩
    · rcases (fill_keeps hstep).2 e hold with hold | ⟨hhash, hknown, hindex, hread⟩
      · exact .inl hold
      · exact .inr ⟨hhash, hknown, 0, fields, rfl, hindex, hread⟩
    · rw [Known, (fill_orders hstep).1, ← Known] at hknown
      exact .inr ⟨hhash, hknown, n + 1, fields', hevent, by omega, hread⟩

lemma fold_step (h : foldChecked (fill ix height txHash) db ((events.map (readWritten py c)).zipIdx k) = .ok db')
    (hstays : Stays db₁ db) (hevent : events[n]? = some fields) : ∃ db₂ db₃, Stays db₁ db₂ ∧
      fill ix height txHash db₂ (readWritten py c fields, k + n) = .ok db₃ := by
  induction events generalizing db k n with
  | nil => cases hevent
  | cons fields' rest ih =>
    rw [zipIdx_cons, foldChecked, bind_eq_ok] at h
    obtain ⟨db₂, hstep, hrest⟩ := h
    cases n with
    | zero =>
      cases hevent
      exact ⟨db, db₂, hstays, hstep⟩
    | succ n =>
      have hnext := ih hrest (hstays.fill hstep) hevent
      rwa [Nat.add_right_comm, Nat.add_assoc] at hnext

variable (hdigits : ∀ ch : Char, ch.isDigit = true → py.isPrintable ch = true)
include hdigits

lemma fold_recorded (hformed : ∀ fields ∈ events, Formed py c db₁ fields)
    (hstorable : ∀ fields ∈ events, FillEvent py c fields → Storable py c ix db₁ fields) (hstays : Stays db₁ db)
    (hnew : ∀ e ∈ db.rawEvents, e.txHash = txHash → e.eventIndex < k) :
    ∃ db', foldChecked (fill ix height txHash) db ((events.map (readWritten py c)).zipIdx k) = .ok db' ∧
      ∀ n fields, events[n]? = some fields → FillEvent py c fields → FillTracked db₁ fields →
        Recorded ix txHash (k + n) (fillOf fields) db' := by
  induction events generalizing db k with
  | nil => exact ⟨db, rfl, nofun⟩
  | cons fields rest ih =>
    have hone : ∃ db₂, fill ix height txHash db (readWritten py c fields, k) = .ok db₂ ∧
        (FillEvent py c fields → FillTracked db₁ fields → Recorded ix txHash k (fillOf fields) db₂) := by
      rcases hformed fields (List.mem_cons_self ..) with hsilent | ⟨hfill, hsided⟩
      · refine ⟨db, fill_silent hsilent, fun hfill => absurd hfill.reads.1 hsilent⟩
      · obtain ⟨hsmall, hclear⟩ := hstorable fields (List.mem_cons_self ..) hfill
        by_cases htracked : FillTracked db₁ fields
        · obtain ⟨hknown, hclear⟩ := hclear htracked
          obtain ⟨db₂, hstep, hrow⟩ := hfill.recorded hdigits (hstays.known.mpr hknown)
            ((hstays.tracked _ _ _).mpr htracked) (hstays.sided _ _ _ (hsided htracked))
            (hsmall hknown (hclear _ (by simp))) hclear fun e he hhash => (hnew e he hhash).ne
          exact ⟨db₂, hstep, fun _ _ => hrow⟩
        · refine ⟨db, hfill.idle hdigits ?_, fun _ h => absurd h htracked⟩
          intro hknown hclear
          exact ⟨hsmall (hstays.known.mp hknown) hclear, fun h => htracked ((hstays.tracked _ _ _).mp h)⟩
    obtain ⟨db₂, hstep, hrow⟩ := hone
    have hnew₂ : ∀ e ∈ db₂.rawEvents, e.txHash = txHash → e.eventIndex < k + 1 := by
      intro e he hhash
      rcases (fill_keeps hstep).2 e he with hold | ⟨-, -, hindex, -⟩
      · exact (hnew e hold hhash).trans (Nat.lt_succ_self k)
      · exact hindex ▸ Nat.lt_succ_self k
    obtain ⟨db', hrest, hrows⟩ := ih (fun fields hmem => hformed fields (List.mem_cons_of_mem _ hmem))
      (fun fields hmem => hstorable fields (List.mem_cons_of_mem _ hmem)) (hstays.fill hstep) hnew₂
    refine ⟨db', ?_, ?_⟩
    · rw [zipIdx_cons, foldChecked, hstep]
      exact hrest
    · intro n fields' hevent hfill htracked
      cases n with
      | zero =>
        cases hevent
        exact (hrow hfill htracked).appends (foldChecked_appends (fun _ _ _ h => fill_appends h) hrest)
      | succ n =>
        have hnext := hrows n fields' hevent hfill htracked
        rwa [Nat.add_right_comm, Nat.add_assoc] at hnext

lemma fold_storable (h : foldChecked (fill ix height txHash) db₁ ((events.map (readWritten py c)).zipIdx) = .ok db')
    (hnew : ∀ e ∈ db₁.rawEvents, e.txHash ≠ txHash)
    (hrows : ∀ n fields, events[n]? = some fields → FillEvent py c fields → FillTracked db₁ fields →
      Recorded ix txHash n (fillOf fields) db') : ∀ fields ∈ events, FillEvent py c fields →
      Storable py c ix db₁ fields := by
  intro fields hmem hfill
  obtain ⟨n, hevent⟩ := List.mem_iff_getElem?.mp hmem
  obtain ⟨db₂, db₃, hstays, hstep⟩ := fold_step h ⟨rfl, fun _ _ _ => Iff.rfl, fun _ _ _ => id⟩ hevent
  constructor
  · intro hknown hclear
    exact (hfill.clear hdigits (hstays.known.mpr hknown) hclear hstep).1
  · intro htracked
    obtain ⟨e, he, hkey, hvault, -⟩ := hrows n fields hevent hfill htracked
    simp only [RawEvent.key, Prod.mk.injEq] at hkey
    -- its row can only come from this event
    obtain ⟨hknown, hclear⟩ : Known ix db₁ (fillOf fields).vault (fillOf fields).pair ∧
        Clear py c (fillOf fields).order := by
      rcases fold_source h e he with hold | ⟨-, hknown, m, fields', hevent', hindex, hread⟩
      · exact absurd hkey.2.2.1 (hnew e hold)
      · have hsame : m = n := by
          have := hkey.2.2.2.1
          omega
        rw [hsame, hevent, Option.some.injEq] at hevent'
        rw [← hevent', hfill.reads.2.2.2.1] at hread
        exact ⟨hvault ▸ hkey.2.1 ▸ hknown, ((digitText_written hdigits (hfill.numerals _ (by simp))).mp hread).1⟩
    have hamounts := (hfill.clear hdigits (hstays.known.mpr hknown) hclear hstep).2
      ((hstays.tracked _ _ _).mpr htracked)
    refine ⟨hknown, ?_⟩
    simp only [List.forall_mem_cons, List.not_mem_nil, false_imp_iff, implies_true, and_true]
    exact ⟨hclear, hamounts⟩

omit hdigits

structure Ingesting (py : Python) (ix : Indexer) (c : Coding) (db db₁ : Db) (txHash : String) (txResult : Json)
    (events : List Fields) : Prop where
  succeeds : Succeeds txResult
  carried : ∃ items, txResult.get "events" = .ok (.arr items) ∧ List.Forall₂ Carries items (events.map (written c))
  placed : placements ix db (events.map (readWritten py c)) = .ok db₁
  new : ∀ e ∈ db₁.rawEvents, e.txHash ≠ txHash
  formed : ∀ fields ∈ events, Formed py c db₁ fields

lemma parsed_written (h : ∃ items, txResult.get "events" = .ok (.arr items) ∧
    List.Forall₂ Carries items (events.map (written c))) : Parsed py txResult (events.map (readWritten py c)) := by
  obtain ⟨items, hitems, hcarried⟩ := h
  refine ⟨.arr items, items, hitems, ?_, ?_⟩
  · cases items <;> rfl
  · rw [mapM_eq_ok, List.forall₂_map_right_iff]
    rw [List.forall₂_map_right_iff] at hcarried
    exact hcarried.imp fun _ _ => attributes_carries

lemma Ingesting.parsed (h : Ingesting py ix c db db₁ txHash txResult events) :
    Parsed py txResult (events.map (readWritten py c)) := parsed_written h.carried

lemma ingestTx_eq_ok (h : Ingesting py ix c db db₁ txHash txResult events) :
    ingestTx py ix height db (txHash, txResult) = .ok db' ↔ ∃ db₂,
      foldChecked (fill ix height txHash) db₁ (events.map (readWritten py c)).zipIdx = .ok db₂ ∧
      db' = (events.map (readWritten py c)).foldl (discovery ix) db₂ := by
  constructor
  · intro hingest
    rcases ingestTx_cases hingest with ⟨hfails, -⟩ | ⟨-, parsed, db₂, db₃, hparsed, hplaced, hfilled, rfl⟩
    · exact absurd h.succeeds hfails
    obtain rfl := h.parsed.unique hparsed
    rw [h.placed, Except.ok.injEq] at hplaced
    exact ⟨db₃, hplaced ▸ hfilled, rfl⟩
  · rintro ⟨db₂, hfilled, rfl⟩
    obtain ⟨code, hcode, hzero⟩ := h.succeeds
    obtain ⟨events', items, hevents, hitems, hparsed⟩ := h.parsed
    simp only [ingestTx, hcode, hzero, hevents, hitems, hparsed, h.placed, hfilled, ok_bind, ne_eq, not_true_eq_false,
      if_false]

/-- The guess is right about a plain numeral unless the numeral is base64 of printable text, and always about encoded
printable text; and the fills of tracked orders in a transaction are all stored, with their own ids and amounts, just
in case they are all storable. -/
theorem fills_decoded (hdigits : ∀ ch : Char, ch.isDigit = true → py.isPrintable ch = true) :
    (∀ s, Numeral s → (decodeText py s = s ↔ ¬ Ambiguous py s)) ∧
    (∀ j fields, Carries j (written .base64 fields) → (∀ f ∈ fields, Prints py f.1 ∧ Prints py f.2) →
      attributes py j = .ok fields.reverse) ∧
    ∀ ix c db db₁ height txHash txResult events, Ingesting py ix c db db₁ txHash txResult events →
      ((∃ db', ingestTx py ix height db (txHash, txResult) = .ok db' ∧ ∀ n fields, events[n]? = some fields →
        FillEvent py c fields → FillTracked db₁ fields → Recorded ix txHash n (fillOf fields) db') ↔
      ∀ fields ∈ events, FillEvent py c fields → Storable py c ix db₁ fields) := by
  refine ⟨fun s => decodeText_eq_self_iff, fun j fields => attributes_base64, ?_⟩
  intro ix c db db₁ height txHash txResult events h
  have hdiscovered : ∀ db₂ n f, Recorded ix txHash n f
      ((events.map (readWritten py c)).foldl (discovery ix) db₂) ↔ Recorded ix txHash n f db₂ := by
    intro db₂ n f
    rw [Recorded, (discovery_orders _ db₂).2.2, ← Recorded]
  constructor
  · rintro ⟨db', hingest, hrows⟩
    obtain ⟨db₂, hfilled, rfl⟩ := (ingestTx_eq_ok h).mp hingest
    exact fold_storable hdigits hfilled h.new fun n fields hevent hfill htracked =>
      (hdiscovered _ _ _).mp (hrows n fields hevent hfill htracked)
  · intro hstorable
    obtain ⟨db₂, hfilled, hrows⟩ := fold_recorded hdigits h.formed hstorable
      ⟨rfl, fun _ _ _ => Iff.rfl, fun _ _ _ => id⟩
      fun e he hhash => absurd hhash (h.new e he)
    refine ⟨_, (ingestTx_eq_ok h).mpr ⟨db₂, hfilled, rfl⟩, fun n fields hevent hfill htracked => ?_⟩
    have hrow := hrows n fields hevent hfill htracked
    rw [Nat.zero_add] at hrow
    exact (hdiscovered _ _ _).mpr hrow

/-! One fill of the tracked order 7, with an amount that is base64 of printable text and with one that is not. -/

def fillEvent (amount : String) : Fields := [("_contract_address", "pairA"), ("action", "limit_order_fill"),
  ("maker", "vault1"), ("order_id", "7"), ("side", "ask"), ("token0_amount", amount), ("token1_amount", "20")]

def filling (amount : String) : Json := .obj [("events", .arr [event (fillEvent amount)])]

def tracking : Db := vaultTable.putOrder "pairA" 7 ⟨"vault1", some "ask", true⟩

lemma fillEvent_side (amount : String) : first (fillEvent amount).reverse ["side", "order_side"] = "ask" := by
  simp [fillEvent, first, List.lookup]

lemma fillOf_fillEvent (amount : String) (h : amount ≠ "") :
    fillOf (fillEvent amount) = ⟨"pairA", "vault1", "7", some "ask", amount, "20"⟩ := by
  have hlower : ("ask" : String).toLower = "ask" := by decide +kernel
  have hside : side (fillEvent amount).reverse = some "ask" := by
    simp [side, fillEvent_side, hlower]
  simp only [fillOf, hside]
  simp [fillEvent, first, List.lookup, h]

lemma filling_formed {amount : String} (h : Numeral amount) : FillEvent asciiPython .plain (fillEvent amount) where
  keys := by
    have hkeys : ∀ key ∈ ["_contract_address", "action", "maker", "order_id", "side", "token0_amount",
        "token1_amount"], decodeText asciiPython key = key := by decide
    intro field hmem
    apply hkeys
    simp only [fillEvent, List.mem_cons, List.not_mem_nil, or_false] at hmem
    rcases hmem with rfl | rfl | rfl | rfl | rfl | rfl | rfl <;> simp [Coding.write]
  action := rfl
  numerals := by
    have hseven : Numeral "7" := by simp [Numeral]
    have htwenty : Numeral "20" := by simp [Numeral]
    rw [fillOf_fillEvent amount h.ne_empty]
    simp [h, hseven, htwenty]
  legible := by
    have htexts : ∀ s ∈ ["limit_order_fill", "pairA", "vault1", "ask"], decodeText asciiPython s = s := by
      decide
    rw [fillOf_fillEvent amount h.ne_empty, fillEvent_side]
    exact htexts

lemma filling_ingests {amount : String} (h : Numeral amount) :
    Ingesting asciiPython oneVault .plain tracking tracking "T" (filling amount) [fillEvent amount] where
  succeeds := ⟨.int 0, rfl, rfl⟩
  carried := by
    have hwritten : written .plain (fillEvent amount) = fillEvent amount := rfl
    refine ⟨_, rfl, .cons ?_ .nil⟩
    rw [hwritten]
    exact carries_event _
  placed := by
    have hidle : managers oneVault ([fillEvent amount].map (readWritten asciiPython .plain)) = [] := by
      simp [managers, (filling_formed h).reads.1]
    simp only [placements, hidle]
  new := nofun
  formed := by
    intro fields hmem
    obtain rfl := List.mem_singleton.mp hmem
    refine .inr ⟨filling_formed h, fun _ order horder => ⟨"ask", ?_, .inl rfl⟩⟩
    rw [fillOf_fillEvent amount h.ne_empty]
    rfl

lemma tracking_known : Known oneVault tracking "vault1" "pairA" ∧ Tracked tracking "pairA" 7 "vault1" :=
  ⟨⟨by decide, by decide, _, rfl, rfl, rfl⟩, _, rfl, rfl, rfl⟩

/-- An amount of 2400 is no number to the indexer, and its fill stops it. -/
theorem plain_amount_rejected : decodeText asciiPython "2400" = "ۍ4" ∧
    ¬ ∀ (py : Python) ix db db₁ height txHash txResult events,
    (∀ ch : Char, ch.isDigit = true → py.isPrintable ch = true) →
    Ingesting py ix .plain db db₁ txHash txResult events →
    (∀ fields, FillTracked db₁ fields → Known ix db₁ (fillOf fields).vault (fillOf fields).pair) →
    ∃ db', ingestTx py ix height db (txHash, txResult) = .ok db' ∧ ∀ n fields, events[n]? = some fields →
      FillEvent py .plain fields → FillTracked db₁ fields → Recorded ix txHash n (fillOf fields) db' := by
  refine ⟨by decide, fun hclaim => ?_⟩
  have hstopped : (match ingestTx asciiPython oneVault 10 tracking ("T", filling "2400") with
      | .error (.other text) => decide (text = "EventError")
      | _ => false) = true := by
    decide +kernel
  have hknown : ∀ fields, FillTracked tracking fields →
      Known oneVault tracking (fillOf fields).vault (fillOf fields).pair := by
    rintro fields ⟨row, hrow, -, howner⟩
    simp only [tracking, putOrder_orders] at hrow
    split at hrow
    · rename_i hkey
      cases hrow
      exact howner ▸ hkey.1 ▸ tracking_known.1
    · cases hrow
  obtain ⟨db', hingest, -⟩ := hclaim asciiPython oneVault tracking tracking 10 "T" (filling "2400") _ (fun _ _ => rfl)
    (filling_ingests (by simp [Numeral])) hknown
  simp [hingest] at hstopped

theorem plain_amount_stored : ∃ db', ingestTx asciiPython oneVault 10 tracking ("T", filling "10") = .ok db' ∧
    Recorded oneVault "T" 0 ⟨"pairA", "vault1", "7", some "ask", "10", "20"⟩ db' := by
  have hten : Numeral "10" := by simp [Numeral]
  have hfill := fillOf_fillEvent "10" (by decide)
  have hclear : ∀ s ∈ ["7", "10", "20"], Clear asciiPython .plain s := by
    simp only [List.forall_mem_cons, List.not_mem_nil, false_imp_iff, implies_true, and_true]
    refine ⟨?_, ?_, ?_⟩ <;>
    · rintro - ⟨cs, hdecode, -⟩
      cases hdecode
  have htracked : FillTracked tracking (fillEvent "10") := by
    rw [FillTracked, Fill.orderId, hfill]
    exact tracking_known.2
  obtain ⟨db', hingest, hrows⟩ := ((fills_decoded fun _ _ => rfl).2.2 oneVault .plain tracking tracking 10 "T"
    (filling "10") _ (filling_ingests hten)).mpr (by
      intro fields hmem _
      obtain rfl := List.mem_singleton.mp hmem
      rw [Storable, Fill.orderId, hfill]
      exact ⟨fun _ _ => by decide, fun _ => ⟨tracking_known.1, hclear⟩⟩)
  exact ⟨db', hingest, hfill ▸ hrows 0 _ rfl (filling_formed hten) htracked⟩

end Transactions

end Cl8yDexBots.Services.FillDecoding
