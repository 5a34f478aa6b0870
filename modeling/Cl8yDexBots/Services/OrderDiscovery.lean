import Cl8yDexBots.Services.BatchLedger
import Cl8yDexBots.Services.TextCoding

/-! Which orders the indexer finds in a transaction that places them, and that it stores the fills of those it has
found. -/

namespace Cl8yDexBots.Services.OrderDiscovery

open Foundation.Checked Values Database GridIndexer BatchLedger TextCoding

def Tracked (db : Db) (pair : String) (orderId : ℕ) (vault : String) : Prop :=
  ∃ row, db.orders pair orderId = some row ∧ row.active = true ∧ row.vault = vault

def found (attrs : Attrs) : Option ℕ := digitText (first attrs ["limit_order_placed", "order_id"])

/-- An event names an order of the pair to a vault that records orders. -/
def Names (vault : String) (knownPair : Option String) (pair : String) (orderId : ℕ) (attrs : Attrs) : Prop :=
  contract attrs = pair ∧ found attrs = some orderId ∧ pair ≠ "" ∧ pair ≠ vault ∧
    (knownPair.getD "" = "" ∨ pair = knownPair.getD "")

variable {py : Python} {ix : Indexer} {db db' : Db} {pair vault : String} {orderId : ℕ} {knownPair : Option String}

lemma putOrder_orders (row : OrderRow) (p : String) (o : ℕ) : (db.putOrder pair orderId row).orders p o =
    if p = pair ∧ o = orderId then some row else db.orders p o := rfl

lemma recordOrder_orders {side : Option String} (h : recordOrder db pair orderId vault side = .ok db') :
    db'.vaults = db.vaults ∧ Tracked db' pair orderId vault ∧
    ∀ p o, ¬ (p = pair ∧ o = orderId) → db'.orders p o = db.orders p o := by
  simp only [recordOrder, bind_eq_ok, ensure_eq_ok, exists_const] at h
  obtain ⟨_, -, -, h⟩ := h
  split at h
  · cases h
    exact ⟨rfl, ⟨_, by rw [putOrder_orders, if_pos ⟨rfl, rfl⟩], rfl, rfl⟩, fun p o hne => if_neg hne⟩
  · cases h
    exact ⟨rfl, ⟨_, by rw [putOrder_orders, if_pos ⟨rfl, rfl⟩], rfl, rfl⟩, fun p o hne => if_neg hne⟩

lemma placement_orders {attrs : Attrs} (h : placement vault knownPair db attrs = .ok db') :
    db'.vaults = db.vaults ∧ (Names vault knownPair pair orderId attrs → Tracked db' pair orderId vault) ∧
    (¬ Names vault knownPair pair orderId attrs → db'.orders pair orderId = db.orders pair orderId) := by
  simp only [placement] at h
  split at h
  · rename_i n hfound
    split at h
    · rename_i hnamed
      obtain ⟨hvaults, htracked, hothers⟩ := recordOrder_orders h
      refine ⟨hvaults, ?_, ?_⟩
      · rintro ⟨rfl, hsome, -⟩
        rw [found, hfound, Option.some.injEq] at hsome
        exact hsome ▸ htracked
      · intro hnot
        apply hothers
        rintro ⟨rfl, rfl⟩
        exact hnot ⟨rfl, hfound, hnamed⟩
    · rename_i hnamed
      cases h
      refine ⟨rfl, ?_, fun _ => rfl⟩
      rintro ⟨rfl, -, hrest⟩
      exact absurd hrest hnamed
  · rename_i hnone
    cases h
    refine ⟨rfl, ?_, fun _ => rfl⟩
    rintro ⟨-, hsome, -⟩
    rw [found, hnone] at hsome
    cases hsome

lemma placement_fold {parsed : List Attrs} (h : foldChecked (placement vault knownPair) db parsed = .ok db') :
    db'.vaults = db.vaults ∧
    (Tracked db' pair orderId vault ↔
      Tracked db pair orderId vault ∨ ∃ attrs ∈ parsed, Names vault knownPair pair orderId attrs) ∧
    ((∀ attrs ∈ parsed, ¬ Names vault knownPair pair orderId attrs) →
      db'.orders pair orderId = db.orders pair orderId) := by
  induction parsed generalizing db with
  | nil =>
    cases h
    simp
  | cons attrs rest ih =>
    simp only [foldChecked, bind_eq_ok] at h
    obtain ⟨db₁, hstep, hrest⟩ := h
    obtain ⟨hvaults₁, hnamed₁, hkept₁⟩ :=
      (placement_orders hstep : _ ∧ (Names vault knownPair pair orderId attrs → _) ∧ _)
    obtain ⟨hvaults, htracked, hkept⟩ := ih hrest
    refine ⟨hvaults.trans hvaults₁, ?_, ?_⟩
    · rw [htracked, List.exists_mem_cons_iff]
      by_cases hnames : Names vault knownPair pair orderId attrs
      · simp [hnames, hnamed₁ hnames]
      · simp only [Tracked, hkept₁ hnames, hnames, false_or]
    · intro hnone
      rw [hkept fun attrs hmem => hnone attrs (List.mem_cons_of_mem _ hmem),
        hkept₁ (hnone attrs (List.mem_cons_self ..))]

section Fills

variable {height : ℤ} {txHash : String} {parsed : Attrs × ℕ}

@[simp] lemma insertRawEvent_vaults (db : Db) (e : RawEvent) : (db.insertRawEvent e).vaults = db.vaults := by
  rw [Db.insertRawEvent]
  split <;> rfl

@[simp] lemma insertRawEvent_orders (db : Db) (e : RawEvent) : (db.insertRawEvent e).orders = db.orders := by
  rw [Db.insertRawEvent]
  split <;> rfl

lemma insertRawEvent_stored (db : Db) (e : RawEvent) : ∃ old ∈ (db.insertRawEvent e).rawEvents, old.key = e.key := by
  by_cases hold : (db.rawEvents.any fun old => old.key = e.key) = true
  · rw [Db.insertRawEvent, if_pos hold]
    simpa using hold
  · rw [Db.insertRawEvent, if_neg hold]
    exact ⟨e, List.mem_append_right _ (List.mem_singleton.mpr rfl), rfl⟩

lemma fill_orders (h : fill ix height txHash db parsed = .ok db') : db'.vaults = db.vaults ∧
    ∀ p o w, Tracked db' p o w ↔ Tracked db p o w := by
  simp only [fill] at h
  split at h
  · cases h
    exact ⟨rfl, fun _ _ _ => Iff.rfl⟩
  split at h
  · split at h
    · cases h
      exact ⟨rfl, fun _ _ _ => Iff.rfl⟩
    simp only [bind_eq_ok] at h
    obtain ⟨_, -, h⟩ := h
    split at h
    · rename_i order horder
      split at h
      · cases h
        exact ⟨rfl, fun _ _ _ => Iff.rfl⟩
      simp only [bind_eq_ok, ensure_eq_ok, exists_const] at h
      obtain ⟨side, -, -, _, -, _, -, h⟩ := h
      cases h
      constructor
      · rw [insertRawEvent_vaults]
        rfl
      · intro p o w
        simp only [Tracked, insertRawEvent_orders, putOrder_orders]
        split
        · rename_i hsame
          obtain ⟨rfl, rfl⟩ := hsame
          simp [horder]
        · rfl
    · cases h
      exact ⟨rfl, fun _ _ _ => Iff.rfl⟩
  · cases h
    exact ⟨rfl, fun _ _ _ => Iff.rfl⟩

lemma fill_fold {events : List (Attrs × ℕ)} (h : foldChecked (fill ix height txHash) db events = .ok db') :
    db'.vaults = db.vaults ∧ ∀ p o w, Tracked db' p o w ↔ Tracked db p o w := by
  apply foldChecked_invariant (motive := fun db' _ => db'.vaults = db.vaults ∧
    ∀ p o w, Tracked db' p o w ↔ Tracked db p o w) h ⟨rfl, fun _ _ _ => Iff.rfl⟩
  rintro db₁ parsed rest db₂ hstep ⟨hvaults, htracked⟩
  obtain ⟨hvaults₁, htracked₁⟩ := fill_orders hstep
  exact ⟨hvaults₁.trans hvaults, fun p o w => (htracked₁ p o w).trans (htracked p o w)⟩

structure Fills (pair : String) (orderId : ℕ) (vault : String) (attrs : Attrs) : Prop where
  action : attrs.lookup "action" = some "limit_order_fill"
  pair : first attrs ["_contract_address", "contract_address", "pair"] = pair
  maker : first attrs ["maker", "owner"] = vault
  order : digitText (first attrs ["order_id", "limit_order_id"]) = some orderId

def Known (ix : Indexer) (db : Db) (vault pair : String) : Prop :=
  vault ∈ ix.vaults ∧ pair ≠ "" ∧ ∃ row, db.vaults vault = some row ∧ row.enabled = true ∧ row.pair = some pair

section Outcomes

variable {attrs : Attrs} {n : ℕ}

lemma columnInt_nat {n : ℕ} : (∃ m, columnInt n = .ok m) ↔ n < 2 ^ 63 := by
  simp only [columnInt]
  split
  · simp only [Except.ok.injEq, exists_eq', true_iff]
    omega
  · simp only [reduceCtorEq, exists_false, false_iff]
    omega

lemma Fills.unique {pair' vault' : String} {orderId' : ℕ} (h : Fills pair orderId vault attrs)
    (h' : Fills pair' orderId' vault' attrs) : pair' = pair ∧ orderId' = orderId ∧ vault' = vault :=
  ⟨h'.pair.symm.trans h.pair, Option.some.inj (h'.order.symm.trans h.order), h'.maker.symm.trans h.maker⟩

lemma fill_idle (h : ∀ pair orderId vault, Fills pair orderId vault attrs → Known ix db vault pair →
    orderId < 2 ^ 63 ∧ ¬ Tracked db pair orderId vault) : fill ix height txHash db (attrs, n) = .ok db := by
  simp only [fill]
  split
  · rfl
  · rename_i haction
    split
    · rename_i orderId vaultRow horder hrow
      split
      · rfl
      · rename_i hknown
        simp only [not_or, not_not, Bool.not_eq_true', Bool.not_eq_false] at hknown
        obtain ⟨hsmall, huntracked⟩ := h _ orderId _ ⟨not_not.mp haction, rfl, rfl, horder⟩
          ⟨hknown.1, hknown.2.1, vaultRow, hrow, hknown.2.2⟩
        obtain ⟨m, hm⟩ := columnInt_nat.mpr hsmall
        simp only [hm, ok_bind]
        split
        · rename_i order hfound
          rw [if_pos]
          by_contra hneither
          simp only [not_or, not_not, Bool.not_eq_true', Bool.not_eq_false] at hneither
          exact huntracked ⟨order, hfound, hneither⟩
        · rfl
    · rfl

lemma Known.row (h : Known ix db vault pair) : ∃ row, db.vaults vault = some row ∧
    ¬ (vault ∉ ix.vaults ∨ pair = "" ∨ (!row.enabled) = true ∨ row.pair ≠ some pair) := by
  obtain ⟨hmember, hne, row, hrow, henabled, hsame⟩ := h
  exact ⟨row, hrow, by simp [hmember, hne, henabled, hsame]⟩

lemma fill_small (hfill : Fills pair orderId vault attrs) (hknown : Known ix db vault pair)
    (h : fill ix height txHash db (attrs, n) = .ok db') : orderId < 2 ^ 63 := by
  obtain ⟨row, hrow, hcounts⟩ := hknown.row
  simp only [fill, hfill.action, hfill.pair, hfill.maker, hfill.order, hrow, hcounts, ne_eq, not_true_eq_false,
    if_false, bind_eq_ok] at h
  obtain ⟨m, hm, -⟩ := h
  exact columnInt_nat.mp ⟨m, hm⟩

def fillRow (ix : Indexer) (height : ℤ) (txHash : String) (n : ℕ) (pair : String) (orderId : ℕ) (vault side : String)
    (token0 token1 : ℕ) : RawEvent :=
  let amounts := if side = "ask" then (token0, token1) else (token1, token0)
  ⟨ix.chainId, height, txHash, n, pair, orderId, vault, side, amounts.1, amounts.2, none⟩

lemma fill_known (hfill : Fills pair orderId vault attrs) (hknown : Known ix db vault pair) {order : OrderRow}
    (horder : db.orders pair orderId = some order) (htracked : order.active = true ∧ order.vault = vault) :
    fill ix height txHash db (attrs, n) = .ok db' ↔ orderId < 2 ^ 63 ∧ ∃ s token0 token1,
      (side attrs).or order.side = some s ∧ (s = "ask" ∨ s = "bid") ∧
      digitText (first attrs ["token0_amount", "token_0_amount", "amount0"]) = some token0 ∧
      digitText (first attrs ["token1_amount", "token_1_amount", "amount1"]) = some token1 ∧
      db' = (db.putOrder pair orderId { order with side := some s }).insertRawEvent
        (fillRow ix height txHash n pair orderId vault s token0 token1) := by
  obtain ⟨row, hrow, hcounts⟩ := hknown.row
  have hforeign : ¬ ((!order.active) = true ∨ order.vault ≠ vault) := by simp [htracked]
  simp only [fill, hfill.action, hfill.pair, hfill.maker, hfill.order, hrow, horder, hcounts, hforeign, ne_eq,
    not_true_eq_false, if_false, bind_eq_ok, orError_eq_ok, ensure_eq_ok, exists_const, decide_eq_true_eq,
    Except.ok.injEq, ← columnInt_nat]
  constructor
  · rintro ⟨m, hm, s, hs, hvalid, token0, htoken0, token1, htoken1, rfl⟩
    exact ⟨⟨m, hm⟩, s, token0, token1, hs, hvalid, htoken0, htoken1, rfl⟩
  · rintro ⟨⟨m, hm⟩, s, token0, token1, hs, hvalid, htoken0, htoken1, rfl⟩
    exact ⟨m, hm, s, hs, hvalid, token0, htoken0, token1, htoken1, rfl⟩

end Outcomes

lemma fill_stored {attrs : Attrs} {n : ℕ} (hknown : Known ix db vault pair) (htracked : Tracked db pair orderId vault)
    (hfill : Fills pair orderId vault attrs) (h : fill ix height txHash db (attrs, n) = .ok db') :
    ∃ e ∈ db'.rawEvents, e.key = (ix.chainId, pair, txHash, n, orderId) := by
  obtain ⟨order, horder, hof⟩ := htracked
  obtain ⟨-, s, token0, token1, -, -, -, -, rfl⟩ := (fill_known hfill hknown horder hof).mp h
  exact insertRawEvent_stored _ _

lemma fill_fold_stored {attrs : Attrs} {n : ℕ} {events : List (Attrs × ℕ)} (hknown : Known ix db vault pair)
    (htracked : Tracked db pair orderId vault) (hfill : Fills pair orderId vault attrs) (hmem : (attrs, n) ∈ events)
    (h : foldChecked (fill ix height txHash) db events = .ok db') :
    ∃ e ∈ db'.rawEvents, e.key = (ix.chainId, pair, txHash, n, orderId) := by
  induction events generalizing db with
  | nil => cases hmem
  | cons parsed rest ih =>
    simp only [foldChecked, bind_eq_ok] at h
    obtain ⟨db₁, hstep, hrest⟩ := h
    rcases List.mem_cons.mp hmem with heq | hmem
    · obtain ⟨e, he, hkey⟩ := fill_stored hknown htracked hfill (heq ▸ hstep)
      obtain ⟨new, hraw, -⟩ := (foldChecked_appends (fun _ _ _ h => fill_appends h) hrest).rawEvents
      exact ⟨e, hraw ▸ List.mem_append_left _ he, hkey⟩
    · obtain ⟨hvaults₁, htracked₁⟩ := fill_orders hstep
      exact ih (by rwa [Known, hvaults₁]) ((htracked₁ _ _ _).mpr htracked) hmem hrest

end Fills

section Transactions

variable {height : ℤ} {txHash : String} {txResult : Json} {parsed : List Attrs}

def Succeeds (txResult : Json) : Prop := ∃ code, txResult.getD "code" (.int 0) = .ok code ∧ code.toInt = .ok 0

def Parsed (py : Python) (txResult : Json) (parsed : List Attrs) : Prop :=
  ∃ events items, txResult.get "events" = .ok events ∧ (events.orElse (.arr [])).iter = .ok items ∧
    items.mapM (attributes py) = .ok parsed

lemma discovery_orders (parsed : List Attrs) (db : Db) :
    (parsed.foldl (discovery ix) db).vaults = db.vaults ∧ (parsed.foldl (discovery ix) db).orders = db.orders ∧
    (parsed.foldl (discovery ix) db).rawEvents = db.rawEvents := by
  induction parsed generalizing db with
  | nil => exact ⟨rfl, rfl, rfl⟩
  | cons attrs rest ih =>
    have hstep : (discovery ix db attrs).vaults = db.vaults ∧ (discovery ix db attrs).orders = db.orders ∧
        (discovery ix db attrs).rawEvents = db.rawEvents := by
      simp only [discovery]
      split
      · exact ⟨rfl, rfl, rfl⟩
      split
      · split <;> exact ⟨rfl, rfl, rfl⟩
      · exact ⟨rfl, rfl, rfl⟩
    obtain ⟨hvaults, horders, hraw⟩ := ih (discovery ix db attrs)
    exact ⟨hvaults.trans hstep.1, horders.trans hstep.2.1, hraw.trans hstep.2.2⟩

lemma ingestTx_cases (h : ingestTx py ix height db (txHash, txResult) = .ok db') :
    (¬ Succeeds txResult ∧ db' = db) ∨ Succeeds txResult ∧ ∃ parsed db₁ db₂, Parsed py txResult parsed ∧
      placements ix db parsed = .ok db₁ ∧ foldChecked (fill ix height txHash) db₁ parsed.zipIdx = .ok db₂ ∧
      db' = parsed.foldl (discovery ix) db₂ := by
  simp only [ingestTx, bind_eq_ok] at h
  obtain ⟨code, hcode, n, hn, h⟩ := h
  split at h
  · rename_i hne
    cases h
    refine .inl ⟨?_, rfl⟩
    rintro ⟨code', hcode', hzero⟩
    rw [hcode, Except.ok.injEq] at hcode'
    rw [← hcode', hn, Except.ok.injEq] at hzero
    exact hne hzero
  · rename_i hzero
    simp only [bind_eq_ok, Except.ok.injEq] at h
    obtain ⟨events, hevents, items, hitems, parsed, hparsed, db₁, hplaced, db₂, hfilled, rfl⟩ := h
    exact .inr ⟨⟨code, hcode, hn.trans (congrArg _ (not_not.mp hzero))⟩, parsed, db₁, db₂,
      ⟨events, items, hevents, hitems, hparsed⟩, hplaced, hfilled, rfl⟩

lemma Parsed.unique {parsed' : List Attrs} (h : Parsed py txResult parsed) (h' : Parsed py txResult parsed') :
    parsed' = parsed := by
  obtain ⟨events, items, hevents, hitems, hparsed⟩ := h
  obtain ⟨events', items', hevents', hitems', hparsed'⟩ := h'
  rw [hevents, Except.ok.injEq] at hevents'
  subst hevents'
  rw [hitems, Except.ok.injEq] at hitems'
  subst hitems'
  rw [hparsed, Except.ok.injEq] at hparsed'
  exact hparsed'.symm

theorem ingestTx_tracked (h : ingestTx py ix height db (txHash, txResult) = .ok db') (hs : Succeeds txResult)
    (hparsed : Parsed py txResult parsed) (hrecorded : vault ∈ managers ix parsed) :
    Tracked db' pair orderId vault ↔ Tracked db pair orderId vault ∨ managers ix parsed = [vault] ∧
      ∃ attrs ∈ parsed, Names vault ((db.vaults vault).bind VaultRow.pair) pair orderId attrs := by
  rcases ingestTx_cases h with ⟨hfails, -⟩ | ⟨-, parsed', db₁, db₂, hparsed', hplaced, hfilled, rfl⟩
  · exact absurd hs hfails
  obtain rfl := hparsed.unique hparsed'
  rw [Tracked, (discovery_orders parsed' db₂).2.1, ← Tracked, (fill_fold hfilled).2]
  simp only [placements] at hplaced
  split at hplaced
  · rename_i other hmanagers
    rw [hmanagers, List.mem_singleton] at hrecorded
    subst hrecorded
    rw [(placement_fold hplaced).2.1, hmanagers]
    simp
  · rename_i hmanagers
    cases hplaced
    have hnot : managers ix parsed' ≠ [vault] := hmanagers vault
    simp [hnot]

def Undisturbed (ix : Indexer) (vault pair : String) (orderId : ℕ) (parsed : List Attrs) : Prop :=
  ∀ other, managers ix parsed = [other] → other ≠ vault → ∀ attrs ∈ parsed, contract attrs = pair →
    found attrs ≠ some orderId

lemma placements_kept (h : placements ix db parsed = .ok db') (hleft : Undisturbed ix vault pair orderId parsed) :
    db'.vaults = db.vaults ∧ (Tracked db pair orderId vault → Tracked db' pair orderId vault) := by
  simp only [placements] at h
  split at h
  · rename_i other hmanagers
    obtain ⟨hvaults, htracked, hsame⟩ := (placement_fold h : _ ∧ (Tracked db' pair orderId other ↔ _) ∧ _)
    refine ⟨hvaults, fun hold => ?_⟩
    by_cases hother : other = vault
    · exact hother ▸ htracked.mpr (.inl (hother ▸ hold))
    · rw [Tracked, hsame, ← Tracked]
      · exact hold
      · rintro attrs hmem ⟨hpair, hfound, -⟩
        exact hleft other hmanagers hother attrs hmem hpair hfound
  · cases h
    exact ⟨rfl, id⟩

lemma ingestTx_kept (h : ingestTx py ix height db (txHash, txResult) = .ok db')
    (hleft : ∀ parsed, Parsed py txResult parsed → Undisturbed ix vault pair orderId parsed) :
    db'.vaults = db.vaults ∧ (Tracked db pair orderId vault → Tracked db' pair orderId vault) := by
  rcases ingestTx_cases h with ⟨-, rfl⟩ | ⟨-, parsed, db₁, db₂, hparsed, hplaced, hfilled, rfl⟩
  · exact ⟨rfl, id⟩
  obtain ⟨hvaults₃, horders₃, -⟩ :=
    (discovery_orders parsed db₂ : (parsed.foldl (discovery ix) db₂).vaults = _ ∧ _)
  obtain ⟨hvaults₂, htracked₂⟩ := fill_fold hfilled
  obtain ⟨hvaults₁, htracked₁⟩ := placements_kept hplaced (hleft parsed hparsed)
  refine ⟨hvaults₃.trans (hvaults₂.trans hvaults₁), fun hold => ?_⟩
  rw [Tracked, horders₃, ← Tracked, htracked₂]
  exact htracked₁ hold

end Transactions

section Blocks

variable {block : Block}

def Leaves (py : Python) (ix : Indexer) (vault pair : String) (orderId : ℕ) (block : Block) : Prop :=
  ∀ result ∈ block.results, ∀ parsed, Parsed py result parsed → Undisturbed ix vault pair orderId parsed

lemma ingest_fold_kept {height : ℤ} {txs : List (String × Json)}
    (h : foldChecked (ingestTx py ix height) db txs = .ok db')
    (hleft : ∀ tx ∈ txs, ∀ parsed, Parsed py tx.2 parsed → Undisturbed ix vault pair orderId parsed) :
    db'.vaults = db.vaults ∧ (Tracked db pair orderId vault → Tracked db' pair orderId vault) := by
  induction txs generalizing db with
  | nil =>
    cases h
    exact ⟨rfl, id⟩
  | cons tx rest ih =>
    simp only [foldChecked, bind_eq_ok] at h
    obtain ⟨db₁, hstep, hrest⟩ := h
    obtain ⟨hvaults₁, htracked₁⟩ := ingestTx_kept hstep (hleft tx (List.mem_cons_self ..))
    obtain ⟨hvaults, htracked⟩ := ih hrest fun tx hmem => hleft tx (List.mem_cons_of_mem _ hmem)
    exact ⟨hvaults.trans hvaults₁, htracked ∘ htracked₁⟩

lemma ingest_fold_stored {height : ℤ} {txs : List (String × Json)} {txHash : String} {txResult : Json}
    {parsed : List Attrs} {attrs : Attrs} {n : ℕ} (h : foldChecked (ingestTx py ix height) db txs = .ok db')
    (hleft : ∀ tx ∈ txs, ∀ parsed, Parsed py tx.2 parsed → Undisturbed ix vault pair orderId parsed)
    (hknown : Known ix db vault pair) (htracked : Tracked db pair orderId vault) (hmem : (txHash, txResult) ∈ txs)
    (hs : Succeeds txResult) (hparsed : Parsed py txResult parsed) (hevent : (attrs, n) ∈ parsed.zipIdx)
    (hfill : Fills pair orderId vault attrs) : ∃ e ∈ db'.rawEvents, e.key = (ix.chainId, pair, txHash, n, orderId) := by
  induction txs generalizing db with
  | nil => cases hmem
  | cons tx rest ih =>
    simp only [foldChecked, bind_eq_ok] at h
    obtain ⟨db₁, hstep, hrest⟩ := h
    rcases List.mem_cons.mp hmem with rfl | hmem
    · rcases ingestTx_cases hstep with ⟨hfails, -⟩ | ⟨-, parsed', db₂, db₃, hparsed', hplaced, hfilled, rfl⟩
      · exact absurd hs hfails
      obtain rfl := hparsed.unique hparsed'
      obtain ⟨hvaults, hkept⟩ := placements_kept hplaced (hleft _ (List.mem_cons_self ..) _ hparsed)
      obtain ⟨e, he, hkey⟩ := fill_fold_stored (by rwa [Known, hvaults]) (hkept htracked) hfill hevent hfilled
      obtain ⟨new, hraw, -⟩ := (foldChecked_appends (fun _ _ _ h => ingestTx_appends h) hrest).rawEvents
      refine ⟨e, ?_, hkey⟩
      rw [hraw, (discovery_orders _ _).2.2]
      exact List.mem_append_left _ he
    · obtain ⟨hvaults₁, htracked₁⟩ := ingestTx_kept hstep (hleft tx (List.mem_cons_self ..))
      exact ih hrest (fun tx hmem => hleft tx (List.mem_cons_of_mem _ hmem)) (by rwa [Known, hvaults₁])
        (htracked₁ htracked) hmem

lemma scanHeight_cases (h : scanHeight py ix block db = .ok db') :
    ∃ db₀ db₁, db₀.vaults = db.vaults ∧ db₀.orders = db.orders ∧
      foldChecked (ingestTx py ix block.height) db₀ (block.txs.zip block.results) = .ok db₁ ∧
      db'.vaults = db₁.vaults ∧ db'.orders = db₁.orders ∧
      ((block.row py).isSome = true → db'.rawEvents = db₁.rawEvents) := by
  obtain ⟨-, db₁, hfold, rfl⟩ := scanHeight_eq_ok.mp h
  exact ⟨db.insertBlock ix.chainId block.height (block.row py), db₁, rfl, rfl, hfold, rfl, rfl, fun hrow => if_pos hrow⟩

lemma registerVaults_keeps (ix : Indexer) (db : Db) : (registerVaults ix db).orders = db.orders ∧
    ∀ vault row, db.vaults vault = some row → ∃ row', (registerVaults ix db).vaults vault = some row' ∧
      row'.pair = row.pair ∧ (row.enabled = true → row'.enabled = true) := by
  rw [registerVaults]
  apply List.foldlRecOn (motive := fun db₁ : Db => db₁.orders = db.orders ∧
    ∀ vault row, db.vaults vault = some row → ∃ row', db₁.vaults vault = some row' ∧
      row'.pair = row.pair ∧ (row.enabled = true → row'.enabled = true))
  · exact ⟨rfl, fun vault row hrow => ⟨row, hrow, rfl, id⟩⟩
  · rintro db₁ ⟨horders, hrows⟩ address -
    refine ⟨horders, fun vault row hrow => ?_⟩
    obtain ⟨row₁, hrow₁, hpair, henabled⟩ := hrows vault row hrow
    by_cases hsame : vault = address
    · subst hsame
      exact ⟨{ row₁ with enabled := true }, by simp [Db.putVault, hrow₁], hpair, fun _ => rfl⟩
    · exact ⟨row₁, by simp [Db.putVault, hsame, hrow₁], hpair, henabled⟩

/-- What the operator does to its database later, refreshes of the orders apart. -/
inductive Later (py : Python) (ix : Indexer) (vault pair : String) (orderId : ℕ) (db : Db) : Db → Prop
  | refl : Later py ix vault pair orderId db db
  | registered {db₁} (h : Later py ix vault pair orderId db db₁) :
      Later py ix vault pair orderId db (registerVaults ix db₁)
  | scanned {db₁ db₂ block} (h : Later py ix vault pair orderId db db₁) (hscan : scanHeight py ix block db₁ = .ok db₂)
      (hleft : Leaves py ix vault pair orderId block) : Later py ix vault pair orderId db db₂
  | elsewhere {db₁ db₂} (h : Later py ix vault pair orderId db db₁) (hvaults : db₂.vaults = db₁.vaults)
      (horders : db₂.orders = db₁.orders) : Later py ix vault pair orderId db db₂

lemma Known.of_vaults (h : Known ix db vault pair) (hsame : db'.vaults = db.vaults) : Known ix db' vault pair := by
  rwa [Known, hsame]

lemma scanHeight_kept (hscan : scanHeight py ix block db = .ok db') (hleft : Leaves py ix vault pair orderId block) :
    db'.vaults = db.vaults ∧ (Tracked db pair orderId vault → Tracked db' pair orderId vault) := by
  obtain ⟨db₀, db₁, hvaults₀, horders₀, hfold, hvaults, horders, -⟩ := scanHeight_cases hscan
  obtain ⟨hvaults₁, htracked₁⟩ := ingest_fold_kept hfold fun tx hmem => hleft tx.2 (List.of_mem_zip hmem).2
  refine ⟨hvaults.trans (hvaults₁.trans hvaults₀), fun hold => ?_⟩
  rw [Tracked, horders, ← Tracked]
  apply htracked₁
  rwa [Tracked, horders₀]

lemma Later.keeps {db₁ : Db} (h : Later py ix vault pair orderId db db₁) (hknown : Known ix db vault pair)
    (htracked : Tracked db pair orderId vault) : Known ix db₁ vault pair ∧ Tracked db₁ pair orderId vault := by
  induction h with
  | refl => exact ⟨hknown, htracked⟩
  | @registered db₁ _ ih =>
    obtain ⟨⟨hmember, hpair, row, hrow, henabled, hsame⟩, htracked⟩ := ih
    obtain ⟨horders, hrows⟩ := registerVaults_keeps ix db₁
    obtain ⟨row', hrow', hpair', henabled'⟩ := hrows vault row hrow
    refine ⟨⟨hmember, hpair, row', hrow', henabled' henabled, hpair'.trans hsame⟩, ?_⟩
    rwa [Tracked, horders]
  | scanned _ hscan hleft ih =>
    obtain ⟨hvaults, hkept⟩ := scanHeight_kept hscan hleft
    exact ⟨ih.1.of_vaults hvaults, hkept ih.2⟩
  | elsewhere _ hvaults horders ih =>
    refine ⟨ih.1.of_vaults hvaults, ?_⟩
    rw [Tracked, horders]
    exact ih.2

lemma scanHeight_stored {hash : String} {result : Json} {parsed : List Attrs} {attrs : Attrs} {n : ℕ}
    (hscan : scanHeight py ix block db = .ok db') (hrow : (block.row py).isSome = true)
    (hleft : Leaves py ix vault pair orderId block) (hknown : Known ix db vault pair)
    (htracked : Tracked db pair orderId vault)
    (hmem : (hash, result) ∈ block.txs.zip block.results) (hs : Succeeds result) (hparsed : Parsed py result parsed)
    (hevent : (attrs, n) ∈ parsed.zipIdx) (hfill : Fills pair orderId vault attrs) :
    ∃ e ∈ db'.rawEvents, e.key = (ix.chainId, pair, hash, n, orderId) := by
  obtain ⟨db₀, db₁, hvaults₀, horders₀, hfold, -, -, hraw⟩ := scanHeight_cases hscan
  rw [hraw hrow]
  exact ingest_fold_stored hfold (fun tx hmem => hleft tx.2 (List.of_mem_zip hmem).2) (hknown.of_vaults hvaults₀)
    (by rwa [Tracked, horders₀]) hmem hs hparsed hevent hfill

end Blocks

section Placements

variable {height : ℤ} {txHash : String} {txResult : Json} {events : List Fields}

/-- A successful transaction in which a vault records orders that its pair placed, in plain text. -/
structure PlacesOrders (py : Python) (ix : Indexer) (db : Db) (txResult : Json) (vault pair : String)
    (events : List Fields) : Prop where
  succeeds : Succeeds txResult
  carried : ∃ items, txResult.get "events" = .ok (.arr items) ∧ List.Forall₂ Carries items events
  keys : ∀ fields ∈ events, ∀ f ∈ fields, decodeText py f.1 = f.1
  numerals : ∀ fields ∈ events, contract (read py fields) = pair → ∀ f ∈ fields,
    f.1 = "limit_order_placed" ∨ f.1 = "order_id" → Numeral f.2
  recorded : vault ∈ managers ix (events.map (read py))
  known : ∀ row, db.vaults vault = some row → row.pair.getD "" = "" ∨ row.pair = some pair
  named : pair ≠ "" ∧ pair ≠ vault

def Placed (py : Python) (pair : String) (events : List Fields) (orderId : ℕ) : Prop :=
  ∃ fields ∈ events, contract (read py fields) = pair ∧
    ∃ value, ("limit_order_placed", value) ∈ fields ∧ digitText value = some orderId

def shown (fields : Fields) : Option String := (lastOf "limit_order_placed" fields).or (lastOf "order_id" fields)

/-- The indexer sees the order in an event of the pair, and one vault records orders. -/
def Seen (py : Python) (ix : Indexer) (vault pair : String) (events : List Fields) (orderId : ℕ) : Prop :=
  managers ix (events.map (read py)) = [vault] ∧ ∃ fields ∈ events, contract (read py fields) = pair ∧
    ∃ value, shown fields = some value ∧ digitText value = some orderId ∧ ¬ Ambiguous py value

lemma PlacesOrders.parsed (h : PlacesOrders py ix db txResult vault pair events) :
    Parsed py txResult (events.map (read py)) := by
  obtain ⟨items, hitems, hcarried⟩ := h.carried
  refine ⟨.arr items, items, hitems, ?_, ?_⟩
  · cases items <;> rfl
  · rw [mapM_eq_ok, List.forall₂_map_right_iff]
    exact hcarried.imp fun _ _ => attributes_carries

lemma found_read {fields : Fields} (hkeys : ∀ f ∈ fields, decodeText py f.1 = f.1)
    (hnumerals : ∀ f ∈ fields, f.1 = "limit_order_placed" ∨ f.1 = "order_id" → Numeral f.2) :
    found (read py fields) = some orderId ↔
      ∃ value, shown fields = some value ∧ digitText value = some orderId ∧ ¬ Ambiguous py value := by
  have hplaced : ∀ value, lastOf "limit_order_placed" fields = some value → Numeral value :=
    fun value h => hnumerals _ (lastOf_mem h) (.inl rfl)
  have hid : ∀ value, lastOf "order_id" fields = some value → Numeral value :=
    fun value h => hnumerals _ (lastOf_mem h) (.inr rfl)
  rw [found, first_read hkeys fun value h => (hplaced value h).ne_empty, shown]
  cases hlast : lastOf "limit_order_placed" fields with
  | some value =>
    simp only [Option.some_or, Option.some.injEq, exists_eq_left', digitText_decodeText (hplaced value hlast)]
    exact and_comm
  | none =>
    rw [first_read hkeys fun value h => (hid value h).ne_empty]
    cases hlast' : lastOf "order_id" fields with
    | some value =>
      simp only [Option.none_or, Option.some.injEq, exists_eq_left', digitText_decodeText (hid value hlast')]
      exact and_comm
    | none => simp [first, digitText]

lemma seen_iff (h : PlacesOrders py ix db txResult vault pair events) :
    Seen py ix vault pair events orderId ↔ managers ix (events.map (read py)) = [vault] ∧
      ∃ attrs ∈ events.map (read py), Names vault ((db.vaults vault).bind VaultRow.pair) pair orderId attrs := by
  have hknown : ((db.vaults vault).bind VaultRow.pair).getD "" = "" ∨
      pair = ((db.vaults vault).bind VaultRow.pair).getD "" := by
    cases hrow : db.vaults vault with
    | none => exact .inl rfl
    | some row =>
      rcases h.known row hrow with hnone | hsome
      · exact .inl hnone
      · exact .inr (by simp [hsome])
  simp only [Seen, Names, List.mem_map, exists_exists_and_eq_and, hknown, h.named.1, h.named.2,
    ne_eq, not_false_eq_true, and_true]
  refine and_congr_right fun _ => exists_congr fun fields => and_congr_right fun hmem => and_congr_right fun hpair => ?_
  exact (found_read (h.keys fields hmem) (h.numerals fields hmem hpair)).symm

def asciiPython : Python := ⟨fun _ => true, fun _ => "", fun _ => ""⟩

def oneVault : Indexer := ⟨"chain", ["vault1"], []⟩

def vaultTable : Db := Db.empty.putVault "vault1" ⟨some "pairA", true⟩

end Placements

end Cl8yDexBots.Services.OrderDiscovery
