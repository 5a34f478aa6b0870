import Cl8yDexBots.Foundation.Checked

/-! JSON values as the services read them, and the exceptions they raise on the way. Case is that of ASCII letters. -/

namespace Cl8yDexBots.Services.Values

open Foundation.Checked

inductive Json where
  | null
  | bool (b : Bool)
  | int (n : ℤ)
  | float (value : ℚ)
  | nan
  | infinity
  | str (s : String)
  | arr (items : List Json)
  | obj (fields : List (String × Json))

/-- The exceptions that the services tell apart. -/
inductive PyError where
  | attributeError
  | keyError
  | typeError
  | valueError
  | overflowError
  | osError
  | rpcError (detail : String)
  | transport (detail : String)
  | ambiguousBroadcast (detail : String)
  | commandRejected (detail : String)
  | checkTxError (code : ℤ) (detail : String)
  | deliverTxError (txHash : Json) (code : ℤ) (detail : Json)
  | other (name : String)

/-- The faces of `DeterministicTxError`. -/
def PyError.deterministic : PyError → Bool
  | commandRejected _ | checkTxError _ _ | deliverTxError _ _ _ => true
  | _ => false

abbrev Py := Except PyError

def isInfixOf (pattern : List Char) : List Char → Bool
  | [] => pattern.isEmpty
  | c :: cs => pattern.isPrefixOf (c :: cs) || isInfixOf pattern cs

namespace Json

def truthy : Json → Bool
  | null => false
  | bool b => b
  | int n => n ≠ 0
  | float value => value ≠ 0
  | nan | infinity => true
  | str s => s ≠ ""
  | arr items => !items.isEmpty
  | obj fields => !fields.isEmpty

def orElse (a b : Json) : Json := if a.truthy then a else b

def getD (j : Json) (key : String) (fallback : Json) : Py Json :=
  match j with
  | obj fields => .ok ((fields.lookup key).getD fallback)
  | _ => .error .attributeError

def get (j : Json) (key : String) : Py Json := j.getD key null

def isDict : Json → Bool
  | obj _ => true
  | _ => false

def has (j : Json) (key : String) : Bool :=
  match j with
  | obj fields => (fields.lookup key).isSome
  | _ => false

def contains (j : Json) (key : String) : Py Bool :=
  match j with
  | obj fields => .ok (fields.lookup key).isSome
  | str s => .ok (isInfixOf key.toList s.toList)
  | arr items => .ok (items.any fun item => match item with
    | str s => s = key
    | _ => false)
  | _ => .error .typeError

def iter : Json → Py (List Json)
  | arr items => .ok items
  | obj fields => .ok (fields.map fun f => str f.1)
  | str s => .ok (s.toList.map fun c => str (String.singleton c))
  | _ => .error .typeError

def text : Json → Py String
  | str s => .ok s
  | _ => .error .attributeError

def text? : Json → Option String
  | str s => some s
  | _ => none

def isText (j : Json) (s : String) : Bool := j.text? = some s

/-- `lower` of text whose letters are ASCII; other letters stay as they are. -/
def lower (j : Json) : Py String := do
  let s ← j.text
  .ok s.toLower

def isSpace (c : Char) : Bool :=
  let n := c.toNat
  (9 ≤ n && n ≤ 13) || (28 ≤ n && n ≤ 32) || (8192 ≤ n && n ≤ 8202) ||
    [133, 160, 5760, 8232, 8233, 8239, 8287, 12288].contains n

def strip (cs : List Char) : List Char := ((cs.dropWhile isSpace).reverse.dropWhile isSpace).reverse

def digits : List Char → Option (List Char)
  | [] => none
  | [c] => if c.isDigit then some [c] else none
  | c :: '_' :: cs => if c.isDigit then (digits cs).map (c :: ·) else none
  | c :: cs => if c.isDigit then (digits cs).map (c :: ·) else none

def parseNat (cs : List Char) : Option ℕ := (digits cs).map fun ds => Nat.ofDigitChars 10 ds 0

/-- `int` of a text with ASCII digits; the digits of other scripts, which Python takes too, are left out. -/
def parseInt (s : String) : Option ℤ :=
  match strip s.toList with
  | '-' :: cs => (parseNat cs).map fun n => -(n : ℤ)
  | '+' :: cs => (parseNat cs).map fun n => (n : ℤ)
  | cs => (parseNat cs).map fun n => (n : ℤ)

def toInt : Json → Py ℤ
  | int n => .ok n
  | bool b => .ok (if b then 1 else 0)
  | float q => .ok (if 0 ≤ q then ⌊q⌋ else ⌈q⌉)
  | nan => .error .valueError
  | infinity => .error .overflowError
  | str s => orError (parseInt s) .valueError
  | null | arr _ | obj _ => .error .typeError

end Json

/-- `isdigit` and `int` of ASCII text; a text with digits of other scripts counts as no numeral. -/
def digitText (s : String) : Option ℕ :=
  let cs := s.toList
  if !cs.isEmpty && cs.all Char.isDigit then some (Nat.ofDigitChars 10 cs 0) else none

def txResponse (reply : Json) : Py Json := reply.getD "tx_response" reply

def txHash (response : Json) : Py Json := do
  let txhash ← response.get "txhash"
  let hash ← response.get "hash"
  .ok (txhash.orElse hash)

def field (j : Json) (key : String) : Py Json :=
  match j with
  | .obj fields => orError (fields.lookup key) .keyError
  | _ => .error .typeError

def transientMarkers : List String :=
  ["account sequence mismatch", "connection refused", "connection reset", "context deadline exceeded",
    "mempool full", "temporarily unavailable", "timed out", "timeout"]

def isTransientText (detail : String) : Bool :=
  let detail := detail.toLower
  transientMarkers.any fun marker => isInfixOf marker.toList detail.toList

end Cl8yDexBots.Services.Values
