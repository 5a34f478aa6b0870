import Cl8yDexBots.Services.DecimalText

/-! `json.dumps` with sorted keys and without blanks, and that its text says which value was written. -/

namespace Cl8yDexBots.Services.JsonText

open Values Decimals DecimalText

section Encoding

def unit (n : ℕ) : List Char :=
  ['\\', 'u', Nat.digitChar (n / 4096 % 16), Nat.digitChar (n / 256 % 16), Nat.digitChar (n / 16 % 16),
    Nat.digitChar (n % 16)]

def shortEscapes : List (Char × Char) :=
  [('\\', '\\'), ('"', '"'), ('\x08', 'b'), ('\x0c', 'f'), ('\n', 'n'), ('\r', 'r'), ('\t', 't')]

def escapeChar (c : Char) : List Char :=
  match shortEscapes.find? fun e => e.1 = c with
  | some e => ['\\', e.2]
  | none =>
    if 32 ≤ c.toNat ∧ c.toNat < 127 then [c]
    else if c.toNat < 65536 then unit c.toNat
    else unit (55296 + (c.toNat - 65536) / 1024) ++ unit (56320 + (c.toNat - 65536) % 1024)

def quoted (s : String) : List Char := '"' :: (s.toList.flatMap escapeChar ++ ['"'])

def encodeInt (n : ℤ) : List Char :=
  if n < 0 then '-' :: Nat.toDigits 10 n.natAbs else Nat.toDigits 10 n.natAbs

variable (floatRepr : ℚ → List Char)

mutual
def encode : Json → List Char
  | .null => ['n', 'u', 'l', 'l']
  | .bool true => ['t', 'r', 'u', 'e']
  | .bool false => ['f', 'a', 'l', 's', 'e']
  | .int n => encodeInt n
  | .float value => floatRepr value
  | .nan => ['N', 'a', 'N']
  | .infinity => ['I', 'n', 'f', 'i', 'n', 'i', 't', 'y']
  | .str s => quoted s
  | .arr [] => ['[', ']']
  | .arr (x :: xs) => '[' :: (encode x ++ encodeItems xs)
  | .obj [] => ['{', '}']
  | .obj ((key, x) :: fields) => '{' :: (quoted key ++ ':' :: (encode x ++ encodeFields fields))
def encodeItems : List Json → List Char
  | [] => [']']
  | x :: xs => ',' :: (encode x ++ encodeItems xs)
def encodeFields : List (String × Json) → List Char
  | [] => ['}']
  | (key, x) :: fields => ',' :: (quoted key ++ ':' :: (encode x ++ encodeFields fields))
end

def sorted (fields : List (String × Json)) : List (String × Json) :=
  fields.insertionSort fun a b => a.1 ≤ b.1

mutual
def sortKeys : Json → Json
  | .arr items => .arr (sortItems items)
  | .obj fields => .obj (sorted (sortFields fields))
  | value => value
def sortItems : List Json → List Json
  | [] => []
  | x :: xs => sortKeys x :: sortItems xs
def sortFields : List (String × Json) → List (String × Json)
  | [] => []
  | (key, x) :: fields => (key, sortKeys x) :: sortFields fields
end

def dumps (value : Json) : String := String.ofList (encode floatRepr (sortKeys value))

end Encoding

section Characters

variable {c d : Char} {s t cs ds : List Char}

def hexValue (c : Char) : ℕ := if c.isDigit then c.toNat - 48 else c.toNat - 87

def unitValue (a b c d : Char) : ℕ := hexValue a * 4096 + hexValue b * 256 + hexValue c * 16 + hexValue d

def unescape : List Char → Option (Char × List Char)
  | '\\' :: 'u' :: a :: b :: c :: d :: rest =>
    let high := unitValue a b c d
    if high < 55296 ∨ 57344 ≤ high then some (Char.ofNat high, rest)
    else match rest with
      | _ :: _ :: a :: b :: c :: d :: rest =>
        some (Char.ofNat (65536 + (high - 55296) * 1024 + (unitValue a b c d - 56320)), rest)
      | _ => none
  | '\\' :: short :: rest => (shortEscapes.find? fun e => e.2 = short).map fun e => (e.1, rest)
  | c :: rest => some (c, rest)
  | [] => none

lemma hexValue_digitChar {n : ℕ} (h : n < 16) : hexValue (Nat.digitChar n) = n := by
  interval_cases n <;> rfl

lemma unitValue_unit {n : ℕ} (h : n < 65536) : unitValue (Nat.digitChar (n / 4096 % 16))
    (Nat.digitChar (n / 256 % 16)) (Nat.digitChar (n / 16 % 16)) (Nat.digitChar (n % 16)) = n := by
  simp only [unitValue, hexValue_digitChar (Nat.mod_lt _ (by decide : 0 < 16))]
  omega

lemma unescape_unit {n : ℕ} (h : n < 55296 ∨ (57344 ≤ n ∧ n < 65536)) (rest : List Char) :
    unescape (unit n ++ rest) = some (Char.ofNat n, rest) := by
  have hsmall : n < 65536 := by omega
  have hvalue := unitValue_unit hsmall
  simp only [unit, List.cons_append, List.nil_append, unescape, hvalue]
  rw [if_pos (by omega)]

lemma unescape_pair {m : ℕ} (h : m < 1048576) (rest : List Char) :
    unescape (unit (55296 + m / 1024) ++ (unit (56320 + m % 1024) ++ rest)) =
      some (Char.ofNat (65536 + m), rest) := by
  have hsmall : 55296 + m / 1024 < 65536 ∧ 56320 + m % 1024 < 65536 := by omega
  have hhigh := unitValue_unit hsmall.1
  have hlow := unitValue_unit hsmall.2
  have hjoin : 65536 + (55296 + m / 1024 - 55296) * 1024 + (56320 + m % 1024 - 56320) = 65536 + m := by omega
  simp only [unit, List.cons_append, List.nil_append, unescape, hhigh, hlow]
  rw [if_neg (by omega), hjoin]

lemma unescape_plain (hc : c ≠ '\\') (rest : List Char) : unescape (c :: rest) = some (c, rest) := by
  rw [unescape.eq_4]
  · rintro a b e f g rfl
    exact absurd rfl hc
  · rintro a b rfl
    exact absurd rfl hc

lemma toNat_valid (c : Char) : c.toNat < 55296 ∨ (57344 ≤ c.toNat ∧ c.toNat < 1114112) := by
  rcases c.valid with h | ⟨hlow, hhigh⟩
  · exact Or.inl h
  · exact Or.inr ⟨hlow, hhigh⟩

lemma unescape_escapeChar (c : Char) (rest : List Char) :
    unescape (escapeChar c ++ rest) = some (c, rest) := by
  have hvalid := toNat_valid c
  rw [escapeChar]
  cases hshort : shortEscapes.find? fun e => e.1 = c with
  | some e =>
    have hmem := List.mem_of_find?_eq_some hshort
    have hfirst := List.find?_some hshort
    rw [decide_eq_true_eq] at hfirst
    simp only [shortEscapes, List.mem_cons, List.not_mem_nil, or_false] at hmem
    subst hfirst
    rcases hmem with rfl | rfl | rfl | rfl | rfl | rfl | rfl <;> rfl
  | none =>
    have hc : c ≠ '\\' := by
      rintro rfl
      cases hshort
    by_cases hplain : 32 ≤ c.toNat ∧ c.toNat < 127
    · rw [if_pos hplain]
      exact unescape_plain hc rest
    · rw [if_neg hplain]
      by_cases hsmall : c.toNat < 65536
      · have hunit : c.toNat < 55296 ∨ (57344 ≤ c.toNat ∧ c.toNat < 65536) := by omega
        rw [if_pos hsmall, unescape_unit hunit, Char.ofNat_toNat]
      · have hpair : c.toNat - 65536 < 1048576 := by omega
        have hback : 65536 + (c.toNat - 65536) = c.toNat := by omega
        rw [if_neg hsmall, List.append_assoc, unescape_pair hpair, hback, Char.ofNat_toNat]

lemma escapeChar_cancel (h : escapeChar c ++ s = escapeChar d ++ t) : c = d ∧ s = t := by
  have hread := unescape_escapeChar c s
  rw [h, unescape_escapeChar] at hread
  cases hread
  exact ⟨rfl, rfl⟩

lemma escapeChar_head (c : Char) : ∃ x xs, escapeChar c = x :: xs ∧ x ≠ '"' := by
  rw [escapeChar]
  cases hshort : shortEscapes.find? fun e => e.1 = c with
  | some e => exact ⟨_, _, rfl, by decide⟩
  | none =>
    have hc : c ≠ '"' := by
      rintro rfl
      cases hshort
    by_cases hplain : 32 ≤ c.toNat ∧ c.toNat < 127
    · exact ⟨c, [], if_pos hplain, hc⟩
    · by_cases hsmall : c.toNat < 65536
      · exact ⟨_, _, by rw [if_neg hplain, if_pos hsmall]; rfl, by decide⟩
      · exact ⟨_, _, by rw [if_neg hplain, if_neg hsmall]; rfl, by decide⟩

lemma body_cancel (h : cs.flatMap escapeChar ++ '"' :: s = ds.flatMap escapeChar ++ '"' :: t) :
    cs = ds ∧ s = t := by
  induction cs generalizing ds with
  | nil =>
    cases ds with
    | nil => exact ⟨rfl, (List.cons.inj h).2⟩
    | cons d ds =>
      obtain ⟨x, xs, hx, hne⟩ := escapeChar_head d
      rw [List.flatMap_cons, hx] at h
      exact absurd (List.cons.inj h).1.symm hne
  | cons c cs ih =>
    cases ds with
    | nil =>
      obtain ⟨x, xs, hx, hne⟩ := escapeChar_head c
      rw [List.flatMap_cons, hx] at h
      exact absurd (List.cons.inj h).1 hne
    | cons d ds =>
      rw [List.flatMap_cons, List.flatMap_cons, List.append_assoc, List.append_assoc] at h
      obtain ⟨rfl, hrest⟩ := escapeChar_cancel h
      obtain ⟨rfl, rfl⟩ := ih hrest
      exact ⟨rfl, rfl⟩

lemma quoted_cancel {a b : String} (h : quoted a ++ s = quoted b ++ t) : a = b ∧ s = t := by
  simp only [quoted, List.cons_append, List.append_assoc, List.nil_append] at h
  obtain ⟨hchars, hrest⟩ := body_cancel (List.cons.inj h).2
  exact ⟨String.toList_inj.mp hchars, hrest⟩

end Characters

section Numbers

variable {s t : List Char}

def Ends (s : List Char) : Prop := ∀ c cs, s = c :: cs → c = ',' ∨ c = ']' ∨ c = '}'

lemma Ends.no_digit (hs : Ends s) (c : Char) (cs : List Char) (h : s = c :: cs) : c.isDigit = false := by
  rcases hs c cs h with rfl | rfl | rfl <;> rfl

lemma digits_cancel {n m : ℕ} (hs : Ends s) (ht : Ends t)
    (h : Nat.toDigits 10 n ++ s = Nat.toDigits 10 m ++ t) : n = m ∧ s = t := by
  have hleft := span_digits (digits_toDigits n) hs.no_digit
  rw [h, span_digits (digits_toDigits m) ht.no_digit] at hleft
  obtain ⟨hdigits, hrest⟩ := Prod.mk.inj hleft
  have hvalue := congrArg (fun cs => Nat.ofDigitChars 10 cs 0) hdigits
  simp only [Nat.ofDigitChars_ten_toDigits] at hvalue
  exact ⟨hvalue.symm, hrest.symm⟩

lemma toDigits_head (n : ℕ) : ∃ c cs, Nat.toDigits 10 n = c :: cs ∧ c.isDigit = true := by
  cases h : Nat.toDigits 10 n with
  | nil => exact absurd h Nat.toDigits_ne_nil
  | cons c cs => exact ⟨c, cs, rfl, digits_toDigits n c (by rw [h]; exact List.mem_cons_self ..)⟩

lemma encodeInt_cancel {n m : ℤ} (hs : Ends s) (ht : Ends t) (h : encodeInt n ++ s = encodeInt m ++ t) :
    n = m ∧ s = t := by
  have hminus : ∀ (k : ℕ) (u v : List Char), Nat.toDigits 10 k ++ u ≠ '-' :: v := by
    intro k u v heq
    obtain ⟨c, cs, hc, hdigit⟩ := toDigits_head k
    rw [hc] at heq
    exact digit_ne hdigit rfl (List.cons.inj heq).1
  simp only [encodeInt] at h
  by_cases hn : n < 0
  · by_cases hm : m < 0
    · rw [if_pos hn, if_pos hm] at h
      obtain ⟨habs, hrest⟩ := digits_cancel hs ht (List.cons.inj h).2
      exact ⟨by omega, hrest⟩
    · rw [if_pos hn, if_neg hm] at h
      exact absurd h.symm (hminus _ _ _)
  · by_cases hm : m < 0
    · rw [if_neg hn, if_pos hm] at h
      exact absurd h (hminus _ _ _)
    · rw [if_neg hn, if_neg hm] at h
      obtain ⟨habs, hrest⟩ := digits_cancel hs ht h
      exact ⟨by omega, hrest⟩

end Numbers

section Values

mutual
def noFloat : Json → Bool
  | .float _ | .nan | .infinity => false
  | .arr items => noFloatItems items
  | .obj fields => noFloatFields fields
  | _ => true
def noFloatItems : List Json → Bool
  | [] => true
  | x :: xs => noFloat x && noFloatItems xs
def noFloatFields : List (String × Json) → Bool
  | [] => true
  | (_, x) :: fields => noFloat x && noFloatFields fields
end

def kindOf (c : Char) : ℕ :=
  if c = 'n' then 0 else if c = 't' ∨ c = 'f' then 1 else if c = '"' then 3 else if c = '[' then 4
  else if c = '\x7b' then 5 else if c = ']' then 6 else 2

def kind : Json → ℕ
  | .null => 0
  | .bool _ => 1
  | .int _ => 2
  | .str _ => 3
  | .arr _ => 4
  | .obj _ => 5
  | .float _ | .nan | .infinity => 7

variable {floatRepr : ℚ → List Char}

lemma encodeInt_head (n : ℤ) : ∃ c cs, encodeInt n = c :: cs ∧ kindOf c = 2 := by
  rw [encodeInt]
  by_cases hn : n < 0
  · rw [if_pos hn]
    exact ⟨_, _, rfl, rfl⟩
  · obtain ⟨c, cs, hc, hdigit⟩ := toDigits_head n.natAbs
    rw [if_neg hn]
    refine ⟨c, cs, hc, ?_⟩
    have hall : (digitChars.all fun c => kindOf c = 2) = true := by decide
    exact of_decide_eq_true (List.all_eq_true.mp hall c (digit_cases hdigit))

lemma encode_head (floatRepr : ℚ → List Char) {a : Json} (ha : noFloat a = true) :
    ∃ c cs, encode floatRepr a = c :: cs ∧ kindOf c = kind a := by
  cases a with
  | null => exact ⟨_, _, by rw [encode], rfl⟩
  | bool b => cases b <;> exact ⟨_, _, by rw [encode], rfl⟩
  | int n => rw [encode]; exact encodeInt_head n
  | float v => cases ha
  | nan => cases ha
  | infinity => cases ha
  | str s => exact ⟨_, _, by rw [encode]; rfl, rfl⟩
  | arr items => cases items <;> exact ⟨_, _, by rw [encode], rfl⟩
  | obj fields => cases fields <;> exact ⟨_, _, by rw [encode], rfl⟩

lemma kind_eq {a b : Json} {s t : List Char} (ha : noFloat a = true) (hb : noFloat b = true)
    (h : encode floatRepr a ++ s = encode floatRepr b ++ t) : kind a = kind b := by
  obtain ⟨c, cs, hc, hkind⟩ := encode_head floatRepr ha
  obtain ⟨d, ds, hd, hkind'⟩ := encode_head floatRepr hb
  rw [hc, hd] at h
  rw [← hkind, ← hkind', (List.cons.inj h).1]

lemma ends_items (xs : List Json) (s : List Char) : Ends (encodeItems floatRepr xs ++ s) := by
  intro c cs h
  cases xs with
  | nil =>
    rw [encodeItems] at h
    exact Or.inr (Or.inl (List.cons.inj h).1.symm)
  | cons x xs =>
    rw [encodeItems] at h
    exact Or.inl (List.cons.inj h).1.symm

lemma ends_fields (fields : List (String × Json)) (s : List Char) : Ends (encodeFields floatRepr fields ++ s) := by
  intro c cs h
  cases fields with
  | nil =>
    rw [encodeFields] at h
    exact Or.inr (Or.inr (List.cons.inj h).1.symm)
  | cons field fields =>
    rw [encodeFields] at h
    exact Or.inl (List.cons.inj h).1.symm

mutual

/-- The text of a value inside a document says which value it is and where it ends. -/
theorem encode_cancel : ∀ (a b : Json) {s t : List Char}, noFloat a = true → noFloat b = true → Ends s → Ends t →
    encode floatRepr a ++ s = encode floatRepr b ++ t → a = b ∧ s = t
  | .null, b, s, t, ha, hb, _, _, h => by
    have hkind := kind_eq ha hb h
    cases b <;> cases hkind
    rw [encode] at h
    simpa using h
  | .bool x, b, s, t, ha, hb, _, _, h => by
    have hkind := kind_eq ha hb h
    cases b <;> cases hkind
    next y => cases x <;> cases y <;> simp_all [encode]
  | .int n, b, s, t, ha, hb, hs, ht, h => by
    have hkind := kind_eq ha hb h
    cases b <;> cases hkind
    next m =>
      rw [encode, encode] at h
      obtain ⟨rfl, rfl⟩ := encodeInt_cancel hs ht h
      exact ⟨rfl, rfl⟩
  | .float _, _, _, _, ha, _, _, _, _ => by cases ha
  | .nan, _, _, _, ha, _, _, _, _ => by cases ha
  | .infinity, _, _, _, ha, _, _, _, _ => by cases ha
  | .str x, b, s, t, ha, hb, _, _, h => by
    have hkind := kind_eq ha hb h
    cases b <;> cases hkind
    next y =>
      rw [encode, encode] at h
      obtain ⟨rfl, rfl⟩ := quoted_cancel h
      exact ⟨rfl, rfl⟩
  | .arr xs, b, s, t, ha, hb, _, _, h => by
    have hkind := kind_eq ha hb h
    cases b <;> cases hkind
    next ys =>
      match xs, ys with
      | [], [] =>
        rw [encode] at h
        exact ⟨rfl, (List.cons.inj (List.cons.inj h).2).2⟩
      | [], y :: ys =>
        rw [noFloat, noFloatItems, Bool.and_eq_true] at hb
        obtain ⟨c, cs, hc, hkind⟩ := encode_head floatRepr hb.1
        rw [encode, encode, hc] at h
        rw [← (List.cons.inj (List.cons.inj h).2).1] at hkind
        cases y <;> cases hkind
      | x :: xs, [] =>
        rw [noFloat, noFloatItems, Bool.and_eq_true] at ha
        obtain ⟨c, cs, hc, hkind⟩ := encode_head floatRepr ha.1
        rw [encode, encode, hc] at h
        rw [(List.cons.inj (List.cons.inj h).2).1] at hkind
        cases x <;> cases hkind
      | x :: xs, y :: ys =>
        rw [noFloat] at ha hb
        rw [encode, encode] at h
        have htail : encodeItems floatRepr (x :: xs) ++ s = encodeItems floatRepr (y :: ys) ++ t := by
          rw [encodeItems, encodeItems]
          exact congrArg (',' :: ·) (List.cons.inj h).2
        obtain ⟨heq, rfl⟩ := items_cancel (x :: xs) (y :: ys) ha hb htail
        exact ⟨by rw [heq], rfl⟩
  | .obj xs, b, s, t, ha, hb, _, _, h => by
    have hkind := kind_eq ha hb h
    cases b <;> cases hkind
    next ys =>
      match xs, ys with
      | [], [] =>
        rw [encode] at h
        exact ⟨rfl, (List.cons.inj (List.cons.inj h).2).2⟩
      | [], (_, _) :: _ =>
        rw [encode, encode, quoted] at h
        exact absurd (List.cons.inj (List.cons.inj h).2).1 (by decide)
      | (_, _) :: _, [] =>
        rw [encode, encode, quoted] at h
        exact absurd (List.cons.inj (List.cons.inj h).2).1 (by decide)
      | (k, x) :: xs, (l, y) :: ys =>
        rw [noFloat] at ha hb
        rw [encode, encode] at h
        have htail : encodeFields floatRepr ((k, x) :: xs) ++ s = encodeFields floatRepr ((l, y) :: ys) ++ t := by
          rw [encodeFields, encodeFields]
          exact congrArg (',' :: ·) (List.cons.inj h).2
        obtain ⟨heq, rfl⟩ := fields_cancel ((k, x) :: xs) ((l, y) :: ys) ha hb htail
        exact ⟨by rw [heq], rfl⟩

theorem items_cancel : ∀ (xs ys : List Json) {s t : List Char}, noFloatItems xs = true → noFloatItems ys = true →
    encodeItems floatRepr xs ++ s = encodeItems floatRepr ys ++ t → xs = ys ∧ s = t
  | [], [], _, _, _, _, h => by
    rw [encodeItems] at h
    exact ⟨rfl, (List.cons.inj h).2⟩
  | [], y :: ys, _, _, _, _, h => by
    rw [encodeItems, encodeItems] at h
    exact absurd (List.cons.inj h).1 (by decide)
  | x :: xs, [], _, _, _, _, h => by
    rw [encodeItems, encodeItems] at h
    exact absurd (List.cons.inj h).1 (by decide)
  | x :: xs, y :: ys, s, t, hx, hy, h => by
    rw [noFloatItems, Bool.and_eq_true] at hx hy
    rw [encodeItems, encodeItems, List.cons_append, List.cons_append, List.append_assoc, List.append_assoc] at h
    obtain ⟨rfl, hrest⟩ := encode_cancel x y hx.1 hy.1 (ends_items xs s) (ends_items ys t) (List.cons.inj h).2
    obtain ⟨rfl, rfl⟩ := items_cancel xs ys hx.2 hy.2 hrest
    exact ⟨rfl, rfl⟩

theorem fields_cancel : ∀ (xs ys : List (String × Json)) {s t : List Char}, noFloatFields xs = true →
    noFloatFields ys = true → encodeFields floatRepr xs ++ s = encodeFields floatRepr ys ++ t → xs = ys ∧ s = t
  | [], [], _, _, _, _, h => by
    rw [encodeFields] at h
    exact ⟨rfl, (List.cons.inj h).2⟩
  | [], (_, _) :: _, _, _, _, _, h => by
    rw [encodeFields, encodeFields] at h
    exact absurd (List.cons.inj h).1 (by decide)
  | (_, _) :: _, [], _, _, _, _, h => by
    rw [encodeFields, encodeFields] at h
    exact absurd (List.cons.inj h).1 (by decide)
  | (k, x) :: xs, (l, y) :: ys, s, t, hx, hy, h => by
    rw [noFloatFields, Bool.and_eq_true] at hx hy
    rw [encodeFields, encodeFields, List.cons_append, List.cons_append, List.append_assoc, List.append_assoc,
      List.cons_append, List.cons_append, List.append_assoc, List.append_assoc] at h
    obtain ⟨rfl, hvalue⟩ := quoted_cancel (List.cons.inj h).2
    obtain ⟨rfl, hrest⟩ := encode_cancel x y hx.1 hy.1 (ends_fields xs s) (ends_fields ys t) (List.cons.inj hvalue).2
    obtain ⟨rfl, rfl⟩ := fields_cancel xs ys hx.2 hy.2 hrest
    exact ⟨rfl, rfl⟩

end

theorem dumps_injective {a b : Json} (ha : noFloat (sortKeys a) = true) (hb : noFloat (sortKeys b) = true)
    (h : dumps floatRepr a = dumps floatRepr b) : sortKeys a = sortKeys b := by
  have hchars := String.ofList_injective h
  have hnil : Ends [] := by
    intro c cs hcs
    cases hcs
  exact (encode_cancel (sortKeys a) (sortKeys b) ha hb hnil hnil (congrArg (· ++ []) hchars)).1

end Values

end Cl8yDexBots.Services.JsonText
