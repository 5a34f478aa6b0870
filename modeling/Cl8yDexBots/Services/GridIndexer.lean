import Cl8yDexBots.Services.Database

/-! The indexer: blocks in, orders and fills out. -/

namespace Cl8yDexBots.Services.GridIndexer

open Foundation.Checked Values Database

/-- What the indexer takes from its Python: which characters print, values that are not text as text, and the text
of a column for a number that is not an integer. -/
structure Python where
  isPrintable : Char → Bool
  str : Json → String
  render : Json → String

def sextet (c : Char) : Option ℕ :=
  if c.isUpper then some (c.toNat - 'A'.toNat)
  else if c.isLower then some (c.toNat - 'a'.toNat + 26)
  else if c.isDigit then some (c.toNat - '0'.toNat + 52)
  else if c = '+' then some 62
  else if c = '/' then some 63
  else none

/-- `b64decode` with `validate`; padding beyond what the text needs, which some Python versions let pass, is
refused. -/
def b64decode : List Char → Option (List ℕ)
  | [] => some []
  | [a, b, '=', '='] => do
    let a ← sextet a
    let b ← sextet b
    some [4 * a + b / 16]
  | [a, b, c, '='] => do
    let a ← sextet a
    let b ← sextet b
    let c ← sextet c
    some [4 * a + b / 16, b % 16 * 16 + c / 4]
  | a :: b :: c :: d :: rest => do
    let a ← sextet a
    let b ← sextet b
    let c ← sextet c
    let d ← sextet d
    let rest ← b64decode rest
    some ([4 * a + b / 16, b % 16 * 16 + c / 4, c % 4 * 64 + d] ++ rest)
  | _ => none

def continuation (b : ℕ) : Option ℕ := if 128 ≤ b ∧ b < 192 then some (b - 128) else none

def scalar (least n : ℕ) : Option Char :=
  if h : n.isValidChar then if least ≤ n then some (Char.ofNatAux n h) else none else none

def utf8 : List ℕ → Option (List Char)
  | [] => some []
  | b :: rest =>
    if b < 128 then do
      let c ← scalar 0 b
      let cs ← utf8 rest
      some (c :: cs)
    else if b < 192 then none
    else match rest with
      | b₁ :: rest =>
        if b < 224 then do
          let x ← continuation b₁
          let c ← scalar 128 ((b - 192) * 64 + x)
          let cs ← utf8 rest
          some (c :: cs)
        else match rest with
          | b₂ :: rest =>
            if b < 240 then do
              let x ← continuation b₁
              let y ← continuation b₂
              let c ← scalar 2048 (((b - 224) * 64 + x) * 64 + y)
              let cs ← utf8 rest
              some (c :: cs)
            else match rest with
              | b₃ :: rest =>
                if b < 248 then do
                  let x ← continuation b₁
                  let y ← continuation b₂
                  let z ← continuation b₃
                  let c ← scalar 65536 ((((b - 240) * 64 + x) * 64 + y) * 64 + z)
                  let cs ← utf8 rest
                  some (c :: cs)
                else none
              | [] => none
          | [] => none
      | [] => none

variable (py : Python)

/-- The printable text that a base64 text stands for, else the text itself. -/
def decodeText (s : String) : String :=
  match b64decode s.toList >>= utf8 with
  | some cs => if !cs.isEmpty && cs.all py.isPrintable then String.ofList cs else s
  | none => s

def text : Json → String
  | .null => ""
  | .str s => decodeText py s
  | j => decodeText py (py.str j)

abbrev Attrs := List (String × String)

/-- A dictionary, the last of equal keys first. -/
def attributes (event : Json) : Py Attrs := do
  let items ← event.getD "attributes" (.arr [])
  let items ← items.iter
  let pairs ← items.mapM fun item => do
    let key ← item.get "key"
    let value ← item.get "value"
    .ok (text py key, text py value)
  .ok pairs.reverse

def first (attrs : Attrs) : List String → String
  | [] => ""
  | name :: names =>
    match attrs.lookup name with
    | some value => if value ≠ "" then value else first attrs names
    | none => first attrs names

def contract (attrs : Attrs) : String := first attrs ["_contract_address", "contract_address"]

def side (attrs : Attrs) : Option String :=
  let text := (first attrs ["side", "order_side"]).toLower
  if text ≠ "" then some text else none

structure Indexer where
  chainId : String
  vaults : List String
  codeIds : List (String × String)

variable (ix : Indexer)

def managers (parsed : List Attrs) : List String :=
  ((parsed.filter fun attrs => decide (contract attrs ∈ ix.vaults) &&
    (attrs.lookup "action" = some "record_grid_orders" || attrs.lookup "action" = some "create_grid_bot") &&
    ((attrs.lookup "bot_id").getD "1" = "1")).map contract).dedup

/-- The upsert of an order; `orders.vault_address` is a foreign key. -/
def recordOrder (db : Db) (pair : String) (orderId : ℕ) (vault : String) (side : Option String) : Py Db := do
  let _ ← columnInt orderId
  ensure (db.vaults vault).isSome (.other "IntegrityError")
  match db.orders pair orderId with
  | none => .ok (db.putOrder pair orderId ⟨vault, side, true⟩)
  | some old => .ok (db.putOrder pair orderId { old with vault, active := true })

def placement (vault : String) (knownPair : Option String) (db : Db) (attrs : Attrs) : Py Db :=
  let pair := contract attrs
  match digitText (first attrs ["limit_order_placed", "order_id"]) with
  | some orderId =>
    if pair ≠ "" ∧ pair ≠ vault ∧ (knownPair.getD "" = "" ∨ pair = knownPair.getD "") then
      recordOrder db pair orderId vault (side attrs)
    else .ok db
  | none => .ok db

def placements (db : Db) (parsed : List Attrs) : Py Db :=
  match managers ix parsed with
  | [vault] => foldChecked (placement vault ((db.vaults vault).bind VaultRow.pair)) db parsed
  | _ => .ok db

/-- One event with its index: a fill of a tracked order is stored. -/
def fill (height : ℤ) (txHash : String) (db : Db) (parsed : Attrs × ℕ) : Py Db :=
  let (attrs, eventIndex) := parsed
  if attrs.lookup "action" ≠ some "limit_order_fill" then .ok db
  else
    let pair := first attrs ["_contract_address", "contract_address", "pair"]
    let maker := first attrs ["maker", "owner"]
    match digitText (first attrs ["order_id", "limit_order_id"]), db.vaults maker with
    | some orderId, some vaultRow =>
      if maker ∉ ix.vaults ∨ pair = "" ∨ !vaultRow.enabled ∨ vaultRow.pair ≠ some pair then .ok db
      else do
        let _ ← columnInt orderId
        match db.orders pair orderId with
        | some order =>
          if !order.active ∨ order.vault ≠ maker then .ok db
          else do
            let side ← orError ((side attrs).or order.side) (.other "EventError")
            ensure (side = "ask" ∨ side = "bid") (.other "EventError")
            let token0 ← orError (digitText (first attrs ["token0_amount", "token_0_amount", "amount0"]))
              (.other "EventError")
            let token1 ← orError (digitText (first attrs ["token1_amount", "token_1_amount", "amount1"]))
              (.other "EventError")
            let amounts := if side = "ask" then (token0, token1) else (token1, token0)
            let db := db.putOrder pair orderId { order with side := some side }
            .ok (db.insertRawEvent ⟨ix.chainId, height, txHash, eventIndex, pair, orderId, maker, side,
              amounts.1, amounts.2, none⟩)
        | none => .ok db
    | _, _ => .ok db

def discovery (db : Db) (attrs : Attrs) : Db :=
  if attrs.lookup "action" ≠ some "instantiate" then db
  else match ix.codeIds.reverse.find? fun entry => attrs.lookup "code_id" = some entry.2 with
    | some (kind, _) =>
      let address := contract attrs
      if address = "" then db
      else { db with discoveredVaults := fun a =>
        if a = address then some ((db.discoveredVaults a).getD kind) else db.discoveredVaults a }
    | none => db

def ingestTx (height : ℤ) (db : Db) (tx : String × Json) : Py Db := do
  let (txHash, txResult) := tx
  let code ← txResult.getD "code" (.int 0)
  let code ← code.toInt
  if code ≠ 0 then .ok db
  else do
    let events ← txResult.get "events"
    let events ← (events.orElse (.arr [])).iter
    let parsed ← events.mapM (attributes py)
    let db ← placements ix db parsed
    let db ← foldChecked (fill ix height txHash) db parsed.zipIdx
    .ok (parsed.foldl (discovery ix) db)

/-- A block as the node describes it. -/
structure Block where
  height : ℤ
  hash : Json
  parentHash : Json
  time : Json
  txs : List String
  results : List Json

/-- `_scan_height`: nothing is stored unless everything is. The hash columns of blocks and fills are `NOT NULL`, so
that the inserts of a block whose hash is null are ignored. -/
def scanHeight (block : Block) (db : Db) : Py Db := do
  ensure ((db.blocks ix.chainId (block.height - 1)).all fun previous =>
    !block.parentHash.truthy || block.parentHash.isText previous) (.other "ReorgError")
  ensure (block.txs.length = block.results.length) (.other "EventError")
  ensure ((db.blocks ix.chainId block.height).all fun existing => block.hash.isText existing) (.other "ReorgError")
  let hash ← columnText py.render block.hash
  let _ ← columnText py.render block.parentHash
  let _ ← columnText py.render block.time
  let db := db.insertBlock ix.chainId block.height hash.text?
  let ingested ← foldChecked (ingestTx py ix block.height) db (block.txs.zip block.results)
  .ok { ingested with
    rawEvents := if hash.text?.isSome then ingested.rawEvents else db.rawEvents
    scanned := some block.height }

/-- The hash under which a block has a row. -/
def Block.row (block : Block) : Option String :=
  match columnText py.render block.hash with
  | .ok hash => hash.text?
  | .error _ => none

/-- A block whose header goes with what is stored. -/
structure Block.Accepted (block : Block) (db : Db) : Prop where
  descends : ∀ hash, db.blocks ix.chainId (block.height - 1) = some hash → block.parentHash.truthy = true →
    block.parentHash.isText hash = true
  counted : block.txs.length = block.results.length
  unchanged : ∀ hash, db.blocks ix.chainId block.height = some hash → block.hash.isText hash = true
  fits : ∀ value ∈ [block.hash, block.parentHash, block.time], ∃ stored, columnText py.render value = .ok stored

variable {py ix}

lemma scanHeight_eq_ok {block : Block} {db db' : Db} : scanHeight py ix block db = .ok db' ↔
    block.Accepted py ix db ∧ ∃ ingested, foldChecked (ingestTx py ix block.height)
      (db.insertBlock ix.chainId block.height (block.row py)) (block.txs.zip block.results) = .ok ingested ∧
      db' = { ingested with
        rawEvents := if (block.row py).isSome then ingested.rawEvents else db.rawEvents
        scanned := some block.height } := by
  simp only [scanHeight, bind_eq_ok, ensure_eq_ok, exists_const, decide_eq_true_eq, Except.ok.injEq]
  constructor
  · rintro ⟨hdescends, hcounted, hunchanged, hash, hhash, _, hparent, _, htime, db₁, hfold, rfl⟩
    have hrow : block.row py = hash.text? := by rw [Block.row, hhash]
    rw [hrow]
    refine ⟨⟨?_, hcounted, ?_, ?_⟩, db₁, hfold, rfl⟩
    · intro previous hprevious htruthy
      simpa [hprevious, htruthy] using hdescends
    · intro existing hexisting
      simpa [hexisting] using hunchanged
    · simp only [List.forall_mem_cons, List.not_mem_nil, false_imp_iff, implies_true, and_true]
      exact ⟨⟨_, hhash⟩, ⟨_, hparent⟩, _, htime⟩
  · rintro ⟨haccepted, db₁, hfold, rfl⟩
    obtain ⟨hash, hhash⟩ := haccepted.fits block.hash (by simp)
    obtain ⟨parent, hparent⟩ := haccepted.fits block.parentHash (by simp)
    obtain ⟨time, htime⟩ := haccepted.fits block.time (by simp)
    have hrow : block.row py = hash.text? := by rw [Block.row, hhash]
    rw [hrow] at hfold ⊢
    refine ⟨?_, haccepted.counted, ?_, hash, hhash, parent, hparent, time, htime, db₁, hfold, rfl⟩
    · rw [Option.all_eq_true]
      intro previous hprevious
      cases htruthy : block.parentHash.truthy with
      | false => rfl
      | true => exact haccepted.descends previous hprevious htruthy
    · rw [Option.all_eq_true]
      exact haccepted.unchanged

variable (py ix)

def registerVaults (db : Db) : Db :=
  ix.vaults.foldl (fun db address => db.putVault address (match db.vaults address with
    | some row => { row with enabled := true }
    | none => ⟨none, true⟩)) db

def refreshOrder (vault pair : String) (db : Db) (order : ℕ × String) : Py Db := do
  let _ ← columnInt order.1
  ensure (db.vaults vault).isSome (.other "IntegrityError")
  .ok (db.putOrder pair order.1 ⟨vault, some order.2, true⟩)

def refreshOrders (vault pair : String) (current : List (ℕ × String)) (db : Db) : Py Db := do
  let db := match db.vaults vault with
    | some row => db.putVault vault { row with pair := some pair }
    | none => db
  let db ← foldChecked (refreshOrder vault pair) db current
  .ok { db with orders := fun p o => (db.orders p o).map fun row =>
    if p = pair ∧ row.vault = vault ∧ o ∉ current.map Prod.fst then { row with active := false } else row }

end Cl8yDexBots.Services.GridIndexer
