import Cl8yDexBots.Services.FillDecoding

/-! When the indexer takes a transaction in, finds all the orders placed there, and from then on stores their
fills. -/

namespace Cl8yDexBots.Services.DiscoveryCompleteness

open Foundation.Checked Values Database GridIndexer BatchLedger TextCoding OrderDiscovery FillDecoding

variable {py : Python} {ix : Indexer} {db db' : Db} {pair vault : String} {orderId : ℕ} {height : ℤ} {txHash : String}

section Entering

variable {knownPair : Option String} {parsed : List Attrs}

/-- What an event that may place an order makes of the table, whether the columns take it or not. -/
def enter (vault : String) (knownPair : Option String) (db : Db) (attrs : Attrs) : Db :=
  match found attrs with
  | some orderId =>
    if contract attrs ≠ "" ∧ contract attrs ≠ vault ∧
        (knownPair.getD "" = "" ∨ contract attrs = knownPair.getD "") then
      db.putOrder (contract attrs) orderId (match db.orders (contract attrs) orderId with
        | none => ⟨vault, side attrs, true⟩
        | some old => { old with vault, active := true })
    else db
  | none => db

def placed (ix : Indexer) (db : Db) (parsed : List Attrs) : Db :=
  match managers ix parsed with
  | [vault] => parsed.foldl (enter vault ((db.vaults vault).bind VaultRow.pair)) db
  | _ => db

/-- The ids of the orders that are recorded fit their column, and the vault has its row. -/
def Enters (ix : Indexer) (db : Db) (parsed : List Attrs) : Prop :=
  ∀ vault, managers ix parsed = [vault] → ∀ attrs ∈ parsed, ∀ pair orderId,
    Names vault ((db.vaults vault).bind VaultRow.pair) pair orderId attrs →
    orderId < 2 ^ 63 ∧ (db.vaults vault).isSome = true

@[simp] lemma enter_vaults (attrs : Attrs) : (enter vault knownPair db attrs).vaults = db.vaults := by
  simp only [enter]
  split
  · split <;> rfl
  · rfl

lemma recordOrder_eq_ok {side : Option String} : recordOrder db pair orderId vault side = .ok db' ↔
    (orderId < 2 ^ 63 ∧ (db.vaults vault).isSome = true) ∧
      db' = db.putOrder pair orderId (match db.orders pair orderId with
        | none => ⟨vault, side, true⟩
        | some old => { old with vault, active := true }) := by
  simp only [recordOrder, bind_eq_ok, ensure_eq_ok, exists_const, ← columnInt_nat, and_assoc, exists_and_right]
  refine and_congr_right fun _ => and_congr_right fun _ => ?_
  cases db.orders pair orderId <;> simp only [Except.ok.injEq] <;> exact eq_comm

lemma placement_eq_ok {attrs : Attrs} : placement vault knownPair db attrs = .ok db' ↔
    (∀ pair orderId, Names vault knownPair pair orderId attrs →
      orderId < 2 ^ 63 ∧ (db.vaults vault).isSome = true) ∧ db' = enter vault knownPair db attrs := by
  have hfound : digitText (first attrs ["limit_order_placed", "order_id"]) = found attrs := rfl
  simp only [placement, enter, hfound, Names]
  cases found attrs with
  | none =>
    simp only [Except.ok.injEq, reduceCtorEq, false_and, and_false, false_imp_iff, implies_true, true_and]
    exact eq_comm
  | some n =>
    by_cases hnamed : contract attrs ≠ "" ∧ contract attrs ≠ vault ∧
        (knownPair.getD "" = "" ∨ contract attrs = knownPair.getD "")
    · simp only [if_pos hnamed, recordOrder_eq_ok]
      refine and_congr_left fun _ => ⟨?_, fun h => h _ _ ⟨rfl, rfl, hnamed⟩⟩
      rintro h _ _ ⟨rfl, hn, -⟩
      exact Option.some.inj hn ▸ h
    · simp only [if_neg hnamed, Except.ok.injEq]
      refine ⟨fun h => ⟨?_, h.symm⟩, fun h => h.2.symm⟩
      rintro _ _ ⟨rfl, -, hrest⟩
      exact absurd hrest hnamed

lemma placement_fold_eq_ok : foldChecked (placement vault knownPair) db parsed = .ok db' ↔
    (∀ attrs ∈ parsed, ∀ pair orderId, Names vault knownPair pair orderId attrs →
      orderId < 2 ^ 63 ∧ (db.vaults vault).isSome = true) ∧ db' = parsed.foldl (enter vault knownPair) db := by
  induction parsed generalizing db with
  | nil =>
    simp only [foldChecked, Except.ok.injEq, List.not_mem_nil, false_imp_iff, implies_true, true_and, List.foldl_nil]
    exact eq_comm
  | cons attrs rest ih =>
    simp only [foldChecked, bind_eq_ok, placement_eq_ok, and_assoc, exists_and_left, exists_eq_left, ih, enter_vaults,
      List.forall_mem_cons, List.foldl_cons]

lemma placements_eq_ok : placements ix db parsed = .ok db' ↔ Enters ix db parsed ∧ db' = placed ix db parsed := by
  simp only [placements, placed, Enters]
  split
  · rename_i other hmanagers
    rw [placement_fold_eq_ok]
    simp [hmanagers]
  · rename_i hmanagers
    simp only [Except.ok.injEq]
    exact ⟨fun h => ⟨fun v hv => absurd hv (hmanagers v), h.symm⟩, fun h => h.2.symm⟩

end Entering

section Filling

variable {attrs : Attrs} {n k : ℕ} {events : List Attrs} {own : Option String}

def Amounted (attrs : Attrs) : Prop :=
  (digitText (first attrs ["token0_amount", "token_0_amount", "amount0"])).isSome = true ∧
    (digitText (first attrs ["token1_amount", "token_1_amount", "amount1"])).isSome = true

/-- A fill that the indexer can store or pass over: it can look the order up, and where it tracks it, it reads both
amounts and knows a side, also from an earlier fill of the transaction. -/
def Readable (ix : Indexer) (db : Db) (before : List Attrs) (attrs : Attrs) : Prop :=
  ∀ pair orderId vault, Fills pair orderId vault attrs → Known ix db vault pair → orderId < 2 ^ 63 ∧
    (Tracked db pair orderId vault → Amounted attrs ∧ (Sided (side attrs) db pair orderId ∨
      side attrs = none ∧ ∃ earlier ∈ before, Fills pair orderId vault earlier))

lemma sided_iff {order : OrderRow} (horder : db.orders pair orderId = some order) :
    Sided own db pair orderId ↔ ∃ s, own.or order.side = some s ∧ (s = "ask" ∨ s = "bid") := by
  simp [Sided, horder]

lemma fill_eq_ok : (∃ db', fill ix height txHash db (attrs, n) = .ok db') ↔ Readable ix db [] attrs := by
  by_cases hcase : ∃ pair orderId vault, Fills pair orderId vault attrs ∧ Known ix db vault pair
  · obtain ⟨pair, orderId, vault, hfill, hknown⟩ := hcase
    have hone : Readable ix db [] attrs ↔ orderId < 2 ^ 63 ∧
        (Tracked db pair orderId vault → Amounted attrs ∧ Sided (side attrs) db pair orderId) := by
      simp only [Readable, List.not_mem_nil, false_and, exists_false, and_false, or_false]
      refine ⟨fun h => h _ _ _ hfill hknown, fun h pair' orderId' vault' hfill' _ => ?_⟩
      obtain ⟨rfl, rfl, rfl⟩ := hfill.unique hfill'
      exact h
    rw [hone]
    by_cases htracked : Tracked db pair orderId vault
    · obtain ⟨order, horder, hof⟩ := htracked
      simp only [fill_known hfill hknown horder hof, sided_iff horder, Amounted, Option.isSome_iff_exists]
      constructor
      · rintro ⟨-, hsmall, s, token0, token1, hs, hvalid, htoken0, htoken1, -⟩
        exact ⟨hsmall, fun _ => ⟨⟨⟨token0, htoken0⟩, token1, htoken1⟩, s, hs, hvalid⟩⟩
      · rintro ⟨hsmall, hread⟩
        obtain ⟨⟨⟨token0, htoken0⟩, token1, htoken1⟩, s, hs, hvalid⟩ := hread ⟨order, horder, hof⟩
        exact ⟨_, hsmall, s, token0, token1, hs, hvalid, htoken0, htoken1, rfl⟩
    · simp only [htracked, false_imp_iff, and_true]
      constructor
      · rintro ⟨db', h⟩
        exact fill_small hfill hknown h
      · intro hsmall
        refine ⟨db, fill_idle fun pair' orderId' vault' hfill' _ => ?_⟩
        obtain ⟨rfl, rfl, rfl⟩ := hfill.unique hfill'
        exact ⟨hsmall, htracked⟩
  · have hnone : ∀ pair orderId vault, Fills pair orderId vault attrs → ¬ Known ix db vault pair :=
      fun pair orderId vault hfill hknown => hcase ⟨pair, orderId, vault, hfill, hknown⟩
    refine iff_of_true ⟨db, fill_idle ?_⟩ ?_
    · exact fun pair orderId vault hfill hknown => absurd hknown (hnone _ _ _ hfill)
    · exact fun pair orderId vault hfill hknown => absurd hknown (hnone _ _ _ hfill)

/-- A fill that goes through gives its order a side, and leaves every other one that its vault may fill alone. -/
lemma fill_row (hknown : Known ix db vault pair) (htracked : Tracked db pair orderId vault)
    (h : fill ix height txHash db (attrs, n) = .ok db') :
    (Fills pair orderId vault attrs → Sided none db' pair orderId) ∧
    (¬ Fills pair orderId vault attrs → db'.orders pair orderId = db.orders pair orderId) := by
  obtain ⟨order, horder, hof⟩ := htracked
  constructor
  · intro hfill
    obtain ⟨-, s, token0, token1, -, hvalid, -, -, rfl⟩ := (fill_known hfill hknown horder hof).mp h
    intro row hrow
    rw [insertRawEvent_orders, putOrder_orders, if_pos ⟨rfl, rfl⟩, Option.some.injEq] at hrow
    exact ⟨s, by rw [← hrow]; rfl, hvalid⟩
  · intro hother
    by_cases hcase : ∃ pair' orderId' vault', Fills pair' orderId' vault' attrs ∧ Known ix db vault' pair' ∧
        Tracked db pair' orderId' vault'
    · obtain ⟨pair', orderId', vault', hfill, hknown', order', horder', hof'⟩ := hcase
      obtain ⟨-, s, token0, token1, -, -, -, -, rfl⟩ := (fill_known hfill hknown' horder' hof').mp h
      rw [insertRawEvent_orders, putOrder_orders, if_neg]
      rintro ⟨rfl, rfl⟩
      -- the row is the vault's own, so that it was its fill
      rw [horder, Option.some.injEq] at horder'
      have hsame : vault = vault' := by rw [← hof.2, ← hof'.2, horder']
      exact hother (hsame ▸ hfill)
    · have hidle : fill ix height txHash db (attrs, n) = .ok db := by
        apply fill_idle
        intro pair' orderId' vault' hfill hknown'
        exact ⟨fill_small hfill hknown' h, fun htracked => hcase ⟨_, _, _, hfill, hknown', htracked⟩⟩
      rw [hidle, Except.ok.injEq] at h
      rw [h]

lemma sided_some {s : String} (htracked : Tracked db pair orderId vault) :
    Sided (some s) db pair orderId ↔ s = "ask" ∨ s = "bid" := by
  obtain ⟨order, horder, -⟩ := htracked
  simp [sided_iff horder]

lemma readable_next {before : List Attrs} {later : Attrs} (h : fill ix height txHash db (attrs, n) = .ok db') :
    Readable ix db (attrs :: before) later ↔ Readable ix db' before later := by
  obtain ⟨hvaults, htracked⟩ := fill_orders h
  refine forall_congr' fun pair => forall_congr' fun orderId => forall_congr' fun vault => imp_congr_right fun _ => ?_
  have hsame : Known ix db' vault pair ↔ Known ix db vault pair := by rw [Known, hvaults, ← Known]
  rw [hsame, htracked]
  refine imp_congr_right fun hknown => and_congr_right fun _ => imp_congr_right fun hold => and_congr_right fun _ => ?_
  obtain ⟨hsided, hkept⟩ := fill_row hknown hold h
  have hnew : Tracked db' pair orderId vault := (htracked _ _ _).mpr hold
  by_cases hfill : Fills pair orderId vault attrs
  · cases hside : side later with
    | none => exact iff_of_true (.inr ⟨rfl, attrs, List.mem_cons_self, hfill⟩) (.inl (hsided hfill))
    | some s => simp [sided_some hold, sided_some hnew]
  · simp [Sided, hkept hfill, hfill]

lemma fill_fold_eq_ok : (∃ db', foldChecked (fill ix height txHash) db (events.zipIdx n) = .ok db') ↔
    ∀ k attrs, events[k]? = some attrs → Readable ix db (events.take k) attrs := by
  induction events generalizing db n with
  | nil => simp [foldChecked]
  | cons attrs rest ih =>
    simp only [List.zipIdx_cons, foldChecked, bind_eq_ok]
    constructor
    · rintro ⟨db', db₁, hstep, hrest⟩ k later hlater
      cases k with
      | zero =>
        cases hlater
        exact fill_eq_ok.mp ⟨db₁, hstep⟩
      | succ k => exact (readable_next hstep).mpr (ih.mp ⟨db', hrest⟩ k later hlater)
    · intro hreadable
      obtain ⟨db₁, hstep⟩ := fill_eq_ok.mpr (hreadable 0 attrs rfl)
      obtain ⟨db', hrest⟩ := ih.mpr fun k later hlater =>
        (readable_next hstep).mp (hreadable (k + 1) later hlater)
      exact ⟨db', db₁, hstep, hrest⟩

end Filling

section Transactions

variable {txResult : Json} {parsed : List Attrs} {events : List Fields}

/-- A transaction that the indexer can take in: the orders it records fit the table, and its fills can be read on the
table that they make. -/
structure Digestible (ix : Indexer) (db : Db) (parsed : List Attrs) : Prop where
  enters : Enters ix db parsed
  readable : ∀ k attrs, parsed[k]? = some attrs → Readable ix (placed ix db parsed) (parsed.take k) attrs

def Refused (txResult : Json) : Prop :=
  ∃ code n, txResult.getD "code" (.int 0) = .ok code ∧ code.toInt = .ok n ∧ n ≠ 0

def Digests (py : Python) (ix : Indexer) (db : Db) (txResult : Json) : Prop :=
  Refused txResult ∨ Succeeds txResult ∧ ∃ parsed, Parsed py txResult parsed ∧ Digestible ix db parsed

lemma ingestTx_eq (hs : Succeeds txResult) (hparsed : Parsed py txResult parsed) :
    ingestTx py ix height db (txHash, txResult) = .ok db' ↔ Enters ix db parsed ∧ ∃ db₁,
      foldChecked (fill ix height txHash) (placed ix db parsed) parsed.zipIdx = .ok db₁ ∧
      db' = parsed.foldl (discovery ix) db₁ := by
  obtain ⟨code, hcode, hzero⟩ := hs
  obtain ⟨events, items, hevents, hitems, hparsed⟩ := hparsed
  simp only [ingestTx, hcode, hzero, hevents, hitems, hparsed, ok_bind, ne_eq, not_true_eq_false, if_false,
    bind_eq_ok, placements_eq_ok, Except.ok.injEq]
  constructor
  · rintro ⟨_, ⟨henters, rfl⟩, db₁, hfilled, rfl⟩
    exact ⟨henters, db₁, hfilled, rfl⟩
  · rintro ⟨henters, db₁, hfilled, rfl⟩
    exact ⟨_, ⟨henters, rfl⟩, db₁, hfilled, rfl⟩

lemma ingestTx_eq_ok_iff (hs : Succeeds txResult) (hparsed : Parsed py txResult parsed) :
    (∃ db', ingestTx py ix height db (txHash, txResult) = .ok db') ↔ Digestible ix db parsed := by
  simp only [ingestTx_eq hs hparsed]
  constructor
  · rintro ⟨_, henters, db₁, hfilled, -⟩
    exact ⟨henters, fill_fold_eq_ok.mp ⟨db₁, hfilled⟩⟩
  · rintro ⟨henters, hreadable⟩
    obtain ⟨db₁, hfilled⟩ := fill_fold_eq_ok.mpr hreadable
    exact ⟨_, henters, db₁, hfilled, rfl⟩

lemma ingestTx_digests (db : Db) (tx : String × Json) :
    (∃ db', ingestTx py ix height db tx = .ok db') ↔ Digests py ix db tx.2 := by
  obtain ⟨txHash, txResult⟩ := tx
  constructor
  · rintro ⟨db', h⟩
    by_cases hs : Succeeds txResult
    · rcases ingestTx_cases h with ⟨hfails, -⟩ | ⟨-, parsed, _, _, hparsed, -, -, -⟩
      · exact absurd hs hfails
      · exact .inr ⟨hs, parsed, hparsed, (ingestTx_eq_ok_iff hs hparsed).mp ⟨db', h⟩⟩
    · simp only [ingestTx, bind_eq_ok] at h
      obtain ⟨code, hcode, n, hn, -⟩ := h
      refine .inl ⟨code, n, hcode, hn, ?_⟩
      rintro rfl
      exact hs ⟨code, hcode, hn⟩
  · rintro (⟨code, n, hcode, hn, hne⟩ | ⟨hs, parsed, hparsed, hdigestible⟩)
    · refine ⟨db, ?_⟩
      simp only [ingestTx, hcode, hn, ok_bind, if_pos hne]
    · exact (ingestTx_eq_ok_iff hs hparsed).mpr hdigestible

end Transactions

section Blocks

variable {block : Block} {result : Json} {events : List Fields}

/-- A block with a hash that goes with what is stored, and whose transactions can all be taken in, one after the
other. -/
structure Scannable (py : Python) (ix : Indexer) (block : Block) (db : Db) : Prop where
  accepted : block.Accepted py ix db
  named : (block.row py).isSome = true
  digested : Along (ingestTx py ix block.height) (fun db tx => Digests py ix db tx.2)
    (db.insertBlock ix.chainId block.height (block.row py)) (block.txs.zip block.results)

lemma scanHeight_ok_iff (hnamed : (block.row py).isSome = true) :
    (∃ db', scanHeight py ix block db = .ok db') ↔ Scannable py ix block db := by
  simp only [scanHeight_eq_ok]
  constructor
  · rintro ⟨_, haccepted, ingested, hfold, -⟩
    exact ⟨haccepted, hnamed, (foldChecked_ok_iff ingestTx_digests _ _).mp ⟨ingested, hfold⟩⟩
  · rintro ⟨haccepted, -, hdigested⟩
    obtain ⟨ingested, hfold⟩ := (foldChecked_ok_iff ingestTx_digests _ _).mpr hdigested
    exact ⟨_, haccepted, ingested, hfold, rfl⟩

lemma ingest_fold_tracked {txs : List (String × Json)} {hash : String}
    (h : foldChecked (ingestTx py ix height) db txs = .ok db')
    (hleft : ∀ tx ∈ txs, ∀ parsed, Parsed py tx.2 parsed → Undisturbed ix vault pair orderId parsed)
    (hmem : (hash, result) ∈ txs) (hplaces : PlacesOrders py ix db result vault pair events)
    (hfound : Tracked db pair orderId vault ∨ Seen py ix vault pair events orderId) :
    Tracked db' pair orderId vault := by
  induction txs generalizing db with
  | nil => cases hmem
  | cons tx rest ih =>
    simp only [foldChecked, bind_eq_ok] at h
    obtain ⟨db₁, hstep, hrest⟩ := h
    obtain ⟨hvaults, hkept⟩ := ingestTx_kept hstep (hleft tx List.mem_cons_self)
    rcases List.mem_cons.mp hmem with rfl | hmem
    · have htracked : Tracked db₁ pair orderId vault := by
        rw [ingestTx_tracked hstep hplaces.succeeds hplaces.parsed hplaces.recorded, ← seen_iff hplaces]
        exact hfound
      exact (ingest_fold_kept hrest fun tx hmem => hleft tx (List.mem_cons_of_mem _ hmem)).2 htracked
    · refine ih hrest (fun tx hmem => hleft tx (List.mem_cons_of_mem _ hmem)) hmem ?_ (hfound.imp_left hkept)
      exact { hplaces with known := hvaults ▸ hplaces.known }

/-- A transaction of the block with a fill event, in plain text or in base64. -/
structure ShowsFill (py : Python) (block : Block) (hash : String) (result : Json) (c : Coding) (events : List Fields)
    (n : ℕ) (fields : Fields) : Prop where
  member : (hash, result) ∈ block.txs.zip block.results
  succeeds : Succeeds result
  carried : ∃ items, result.get "events" = .ok (.arr items) ∧ List.Forall₂ Carries items (events.map (written c))
  event : events[n]? = some fields
  fill : FillEvent py c fields

def FillOf (pair : String) (orderId : ℕ) (vault : String) (f : Fill) : Prop :=
  f.pair = pair ∧ f.orderId = orderId ∧ f.vault = vault

lemma ShowsFill.stored (hdigits : ∀ ch : Char, ch.isDigit = true → py.isPrintable ch = true) {hash : String}
    {c : Coding} {n : ℕ} {fields : Fields} (h : ShowsFill py block hash result c events n fields)
    (hof : FillOf pair orderId vault (fillOf fields)) (hclear : Clear py c (fillOf fields).order)
    (hscan : scanHeight py ix block db = .ok db') (hnamed : (block.row py).isSome = true)
    (hleft : Leaves py ix vault pair orderId block) (hknown : Known ix db vault pair)
    (htracked : Tracked db pair orderId vault) :
    ∃ e ∈ db'.rawEvents, e.key = (ix.chainId, pair, hash, n, orderId) := by
  have hfills : Fills pair orderId vault (readWritten py c fields) :=
    (h.fill.fills hdigits).mpr ⟨⟨hof.1.symm, hof.2.2.symm, hof.2.1.symm⟩, hclear⟩
  have hevent : (readWritten py c fields, n) ∈ (events.map (readWritten py c)).zipIdx := by
    rw [List.mem_zipIdx_iff_getElem?, List.getElem?_map, h.event, Option.map_some]
  exact scanHeight_stored hscan hnamed hleft hknown htracked h.member h.succeeds (parsed_written h.carried) hevent
    hfills

/-- The transaction is taken in and leaves every placed order tracked just in case it can be taken in and the indexer
sees each of them, or tracked it already. When all the transactions of its block, and of a later one, can be taken in
and nobody else records the orders, both blocks are stored, with the orders and with their later fills. -/
theorem placed_orders_followed (hdigits : ∀ ch : Char, ch.isDigit = true → py.isPrintable ch = true) :
    (∀ ix db height txHash txResult vault pair events, PlacesOrders py ix db txResult vault pair events →
      ((∃ db', ingestTx py ix height db (txHash, txResult) = .ok db' ∧
        ∀ orderId, Placed py pair events orderId → Tracked db' pair orderId vault) ↔
      Digestible ix db (events.map (read py)) ∧ ∀ orderId, Placed py pair events orderId →
        Tracked db pair orderId vault ∨ Seen py ix vault pair events orderId)) ∧
    ∀ ix block db hash result vault pair events, Scannable py ix block db →
      (hash, result) ∈ block.txs.zip block.results → PlacesOrders py ix db result vault pair events →
      (∀ orderId, Placed py pair events orderId → Leaves py ix vault pair orderId block ∧
        (Tracked db pair orderId vault ∨ Seen py ix vault pair events orderId)) →
      ∃ db', scanHeight py ix block db = .ok db' ∧ ∀ orderId, Placed py pair events orderId →
        Tracked db' pair orderId vault ∧ (Known ix db vault pair →
          ∀ db₁ later, Later py ix vault pair orderId db' db₁ → Scannable py ix later db₁ →
          Leaves py ix vault pair orderId later → ∃ db₂, scanHeight py ix later db₁ = .ok db₂ ∧
            ∀ hash result c events n fields, ShowsFill py later hash result c events n fields →
              FillOf pair orderId vault (fillOf fields) → Clear py c (fillOf fields).order →
              ∃ e ∈ db₂.rawEvents, e.key = (ix.chainId, pair, hash, n, orderId)) := by
  constructor
  · intro ix db height txHash txResult vault pair events h
    constructor
    · rintro ⟨db', hingest, htracked⟩
      refine ⟨(ingestTx_eq_ok_iff h.succeeds h.parsed).mp ⟨db', hingest⟩, fun orderId hplaced => ?_⟩
      rw [seen_iff h, ← ingestTx_tracked hingest h.succeeds h.parsed h.recorded]
      exact htracked orderId hplaced
    · rintro ⟨hdigestible, hfound⟩
      obtain ⟨db', hingest⟩ := (ingestTx_eq_ok_iff h.succeeds h.parsed).mpr hdigestible
      refine ⟨db', hingest, fun orderId hplaced => ?_⟩
      rw [ingestTx_tracked hingest h.succeeds h.parsed h.recorded, ← seen_iff h]
      exact hfound orderId hplaced
  · intro ix block db hash result vault pair events hscannable hmem hplaces hfound₀
    obtain ⟨db', hscan⟩ := (scanHeight_ok_iff hscannable.named).mpr hscannable
    refine ⟨db', hscan, fun orderId hplaced => ?_⟩
    obtain ⟨hleft, hfound⟩ := hfound₀ orderId hplaced
    obtain ⟨db₀, db₁, hvaults₀, horders₀, hfold, hvaults, horders, -⟩ := scanHeight_cases hscan
    have htracked : Tracked db' pair orderId vault := by
      rw [Tracked, horders, ← Tracked]
      refine ingest_fold_tracked hfold (fun tx hmem => hleft tx.2 (List.of_mem_zip hmem).2) hmem
        { hplaces with known := hvaults₀ ▸ hplaces.known } ?_
      rwa [Tracked, horders₀]
    refine ⟨htracked, fun hknown db₁ later hlater hscannable hleft => ?_⟩
    obtain ⟨db₂, hscan₂⟩ := (scanHeight_ok_iff hscannable.named).mpr hscannable
    obtain ⟨hknown₁, htracked₁⟩ :=
      hlater.keeps (hknown.of_vaults (scanHeight_kept hscan (hfound₀ orderId hplaced).1).1) htracked
    exact ⟨db₂, hscan₂, fun _ _ _ _ _ _ hshows hof hclear =>
      hshows.stored hdigits hof hclear hscan₂ hscannable.named hleft hknown₁ htracked₁⟩

/-! A batch placement of two orders in one event, and a placement of one with a fill in the next block. -/

def placement₂ : List Fields := [[("_contract_address", "pairA"), ("action", "place_limit_order_batch"),
  ("limit_order_placed", "7"), ("limit_order_placed", "8"), ("side", "ask")],
  [("_contract_address", "vault1"), ("action", "record_grid_orders"), ("bot_id", "1")]]

def placement₁ : List Fields := [[("_contract_address", "pairA"), ("action", "place_limit_order"),
  ("limit_order_placed", "7"), ("side", "ask")],
  [("_contract_address", "vault1"), ("action", "record_grid_orders"), ("bot_id", "1")]]

def placing (events : List Fields) : Json := .obj [("events", .arr (events.map event))]

lemma placing_places {events : List Fields} (hevents : events = placement₁ ∨ events = placement₂) :
    PlacesOrders asciiPython oneVault vaultTable (placing events) "vault1" "pairA" events where
  succeeds := ⟨.int 0, rfl, rfl⟩
  carried := by
    refine ⟨_, rfl, ?_⟩
    rw [List.forall₂_map_left_iff, List.forall₂_same]
    exact fun fields _ => carries_event fields
  keys := by
    rcases hevents with rfl | rfl <;> decide
  numerals := by
    have hall : ∀ fields ∈ events, ∀ f ∈ fields, f.1 = "limit_order_placed" ∨ f.1 = "order_id" → Numeral f.2 := by
      have hseven : Numeral "7" := by simp [Numeral]
      have height : Numeral "8" := by simp [Numeral]
      rcases hevents with rfl | rfl
      · simp only [placement₁, List.forall_mem_cons]
        simp [hseven]
      · simp only [placement₂, List.forall_mem_cons]
        simp [hseven, height]
    exact fun fields hmem _ => hall fields hmem
  recorded := by
    rcases hevents with rfl | rfl <;> decide
  known := by
    rintro row hrow
    cases hrow
    exact .inr rfl
  named := by decide

/-- Of two orders that one event places, only the last is found. -/
theorem batch_placement_lost : ¬ ∀ (py : Python) (ix : Indexer) (db db' : Db) (height : ℤ) (txHash : String)
    (txResult : Json) (vault pair : String) (events : List Fields),
    PlacesOrders py ix db txResult vault pair events → ingestTx py ix height db (txHash, txResult) = .ok db' →
    ∀ orderId, Placed py pair events orderId → Tracked db' pair orderId vault := by
  intro hclaim
  have hplaces := placing_places (.inr rfl : placement₂ = placement₁ ∨ placement₂ = placement₂)
  have hlost : (match ingestTx asciiPython oneVault 10 vaultTable ("T", placing placement₂) with
      | .ok db' => (db'.orders "pairA" 7).isNone
      | .error _ => false) = true := by
    decide
  cases hingest : ingestTx asciiPython oneVault 10 vaultTable ("T", placing placement₂) with
  | error e => simp [hingest] at hlost
  | ok db' =>
    have hplaced : Placed asciiPython "pairA" placement₂ 7 := by
      refine ⟨_, List.mem_cons_self .., by decide, "7", by decide, by decide⟩
    obtain ⟨row, hrow, -⟩ := hclaim _ _ _ _ _ _ _ _ _ _ hplaces hingest 7 hplaced
    simp [hingest, hrow] at hlost

def placingBlock : Block := ⟨10, .str "B", .str "", .null, ["T"], [placing placement₁]⟩

def fillingBlock : Block := ⟨11, .str "C", .str "B", .null, ["U"], [filling "10"]⟩

lemma blocks_stored : ∃ db', scanHeight asciiPython oneVault placingBlock vaultTable = .ok db' ∧
    ∃ db₂, scanHeight asciiPython oneVault fillingBlock db' = .ok db₂ := by
  have hstored : okAnd (scanHeight asciiPython oneVault placingBlock vaultTable) (fun db' =>
      okAnd (scanHeight asciiPython oneVault fillingBlock db') fun _ => true) = true := by
    decide +kernel
  obtain ⟨db', hplaced, hfilled⟩ := okAnd_iff.mp hstored
  obtain ⟨db₂, hfilled, -⟩ := okAnd_iff.mp hfilled
  exact ⟨db', hplaced, db₂, hfilled⟩

lemma oneVault_leaves : Leaves py oneVault "vault1" pair orderId block := by
  intro result _ parsed _ other hmanagers hne
  have hmem : other ∈ managers oneVault parsed := by simp [hmanagers]
  simp only [managers, List.mem_dedup, List.mem_map, List.mem_filter, Bool.and_eq_true, decide_eq_true_eq] at hmem
  obtain ⟨attrs, ⟨-, ⟨hvault, -⟩, -⟩, rfl⟩ := hmem
  exact absurd (List.mem_singleton.mp hvault) hne

lemma placement₁_seen (hplaced : Placed asciiPython "pairA" placement₁ orderId) :
    Seen asciiPython oneVault "vault1" "pairA" placement₁ orderId := by
  obtain ⟨fields, hmem, hpair, value, hvalue, hid⟩ := hplaced
  have hfields : fields ≠ placement₁[1] := by
    rintro rfl
    exact absurd hpair (by decide)
  simp only [placement₁, List.mem_cons, List.not_mem_nil, or_false] at hmem
  rcases hmem with rfl | rfl
  · have hseven : value = "7" := by simpa using hvalue
    subst hseven
    refine ⟨by decide, _, List.mem_cons_self .., hpair, "7", by decide, hid, ?_⟩
    rintro ⟨cs, hdecode, -⟩
    cases hdecode
  · exact absurd rfl hfields

theorem placed_orders_followed_single : ∃ db' db₂, scanHeight asciiPython oneVault placingBlock vaultTable = .ok db' ∧
    Tracked db' "pairA" 7 "vault1" ∧ scanHeight asciiPython oneVault fillingBlock db' = .ok db₂ ∧
    ∃ e ∈ db₂.rawEvents, e.key = ("chain", "pairA", "U", 0, 7) := by
  obtain ⟨db₁, hplaced, db₂, hfilled⟩ := blocks_stored
  have hten : Numeral "10" := by simp [Numeral]
  have hfill := fillOf_fillEvent "10" (by decide)
  obtain ⟨db', hscan, htracked⟩ := (placed_orders_followed fun _ _ => rfl).2 oneVault placingBlock vaultTable "T"
    (placing placement₁) "vault1" "pairA" placement₁ ((scanHeight_ok_iff rfl).mp ⟨db₁, hplaced⟩)
    (List.mem_cons_self ..) (placing_places (.inl rfl))
    fun _ hplaced => ⟨oneVault_leaves, .inr (placement₁_seen hplaced)⟩
  rw [hplaced, Except.ok.injEq] at hscan
  subst hscan
  obtain ⟨hseven, hlater⟩ := htracked 7 ⟨_, List.mem_cons_self .., by decide, "7", by decide, by decide⟩
  obtain ⟨db₂, hscan₂, hstored⟩ := hlater ⟨by decide, by decide, _, rfl, rfl, rfl⟩ db₁ fillingBlock .refl
    ((scanHeight_ok_iff rfl).mp ⟨db₂, hfilled⟩) oneVault_leaves
  refine ⟨db₁, db₂, hplaced, hseven, hscan₂, hstored "U" (filling "10") .plain _ 0 _
    ⟨List.mem_cons_self .., ⟨.int 0, rfl, rfl⟩, (filling_ingests hten).carried, rfl, filling_formed hten⟩ ?_ ?_⟩
  · rw [hfill]
    exact ⟨rfl, by decide, rfl⟩
  · rw [hfill]
    rintro - ⟨cs, hdecode, -⟩
    cases hdecode

end Blocks

end Cl8yDexBots.Services.DiscoveryCompleteness
