import Cl8yDexBots.Services.GridIndexer

/-! What the indexer's guess at base64 makes of encoded text and of plain numerals. -/

namespace Cl8yDexBots.Services.TextCoding

open Foundation.Checked Values Database GridIndexer

section Encoding

def symbol (n : ℕ) : Char :=
  if n < 26 then Char.ofNat ('A'.toNat + n)
  else if n < 52 then Char.ofNat ('a'.toNat + (n - 26))
  else if n < 62 then Char.ofNat ('0'.toNat + (n - 52))
  else if n = 62 then '+' else '/'

def b64encode : List ℕ → List Char
  | [] => []
  | [x] => [symbol (x / 4), symbol (x % 4 * 16), '=', '=']
  | [x, y] => [symbol (x / 4), symbol (x % 4 * 16 + y / 16), symbol (y % 16 * 4), '=']
  | x :: y :: z :: rest => symbol (x / 4) :: symbol (x % 4 * 16 + y / 16) :: symbol (y % 16 * 4 + z / 64) ::
      symbol (z % 64) :: b64encode rest

def bytes (cs : List Char) : List ℕ := cs.flatMap fun c => (String.utf8EncodeChar c).map UInt8.toNat

def encoded (s : String) : String := String.ofList (b64encode (bytes s.toList))

lemma sextet_symbol {n : ℕ} (h : n < 64) : sextet (symbol n) = some n := by
  interval_cases n <;> rfl

lemma symbol_ne_pad {n : ℕ} (h : n < 64) : symbol n ≠ '=' := by
  intro heq
  have hnone : sextet (symbol n) = none := by
    rw [heq]
    rfl
  rw [sextet_symbol h] at hnone
  cases hnone

lemma b64decode_group {a b c d : Char} {x y z w : ℕ} {rest : List Char} (ha : sextet a = some x)
    (hb : sextet b = some y) (hc : sextet c = some z) (hd : sextet d = some w) : b64decode (a :: b :: c :: d :: rest) =
    (b64decode rest).map ([4 * x + y / 16, y % 16 * 16 + z / 4, z % 4 * 64 + w] ++ ·) := by
  have hpad : d ≠ '=' := by
    rintro rfl
    cases hd
  rw [b64decode.eq_4 _ _ _ _ _ (fun _ h _ => hpad h) fun h _ => hpad h]
  simp only [ha, hb, hc, hd]
  cases b64decode rest <;> rfl

theorem b64decode_encode (xs : List ℕ) (h : ∀ x ∈ xs, x < 256) : b64decode (b64encode xs) = some xs := by
  induction xs using b64encode.induct with
  | case1 => rfl
  | case2 x =>
    have hx := h x (by simp)
    rw [b64encode, b64decode, sextet_symbol (by omega), sextet_symbol (by omega)]
    show some [4 * (x / 4) + x % 4 * 16 / 16] = some [x]
    congr 2
    omega
  | case3 x y =>
    have hx := h x (by simp)
    have hy := h y (by simp)
    rw [b64encode, b64decode.eq_3 _ _ _ (symbol_ne_pad (by omega)), sextet_symbol (by omega),
      sextet_symbol (by omega), sextet_symbol (by omega)]
    show some [4 * (x / 4) + (x % 4 * 16 + y / 16) / 16, (x % 4 * 16 + y / 16) % 16 * 16 + y % 16 * 4 / 4] =
      some [x, y]
    congr 2
    · omega
    · congr 1
      omega
  | case4 x y z rest ih =>
    have hx := h x (by simp)
    have hy := h y (by simp)
    have hz := h z (by simp)
    rw [b64encode, b64decode_group (sextet_symbol (by omega)) (sextet_symbol (by omega)) (sextet_symbol (by omega))
      (sextet_symbol (by omega)), ih fun x hx => h x (by simp [hx])]
    simp only [Option.map_some, List.cons_append, List.nil_append, Option.some.injEq, List.cons.injEq, and_true]
    omega

lemma continuation_low {n : ℕ} (h : n < 64) : continuation (n + 128) = some n := by
  rw [continuation, if_pos (by omega), Nat.add_sub_cancel]

section Utf8

variable {b b₁ b₂ b₃ x y z : ℕ} {c : Char} {rest : List ℕ}

lemma utf8_one (hb : b < 128) (hc : scalar 0 b = some c) : utf8 (b :: rest) = (utf8 rest).map (c :: ·) := by
  rw [utf8.eq_def]
  simp only [hb, if_true, hc]
  cases utf8 rest <;> rfl

lemma utf8_two (hb : 192 ≤ b ∧ b < 224) (hx : continuation b₁ = some x)
    (hc : scalar 128 ((b - 192) * 64 + x) = some c) : utf8 (b :: b₁ :: rest) = (utf8 rest).map (c :: ·) := by
  have h₁ : ¬ b < 128 := by omega
  have h₂ : ¬ b < 192 := by omega
  rw [utf8.eq_def]
  simp only [h₁, h₂, hb.2, if_false, if_true, hx, Option.bind_eq_bind, Option.bind_some, hc]
  cases utf8 rest <;> rfl

lemma utf8_three (hb : 224 ≤ b ∧ b < 240) (hx : continuation b₁ = some x) (hy : continuation b₂ = some y)
    (hc : scalar 2048 (((b - 224) * 64 + x) * 64 + y) = some c) :
    utf8 (b :: b₁ :: b₂ :: rest) = (utf8 rest).map (c :: ·) := by
  have h₁ : ¬ b < 128 := by omega
  have h₂ : ¬ b < 192 := by omega
  have h₃ : ¬ b < 224 := by omega
  rw [utf8.eq_def]
  simp only [h₁, h₂, h₃, hb.2, if_false, if_true, hx, hy, Option.bind_eq_bind, Option.bind_some, hc]
  cases utf8 rest <;> rfl

lemma utf8_four (hb : 240 ≤ b ∧ b < 248) (hx : continuation b₁ = some x) (hy : continuation b₂ = some y)
    (hz : continuation b₃ = some z) (hc : scalar 65536 ((((b - 240) * 64 + x) * 64 + y) * 64 + z) = some c) :
    utf8 (b :: b₁ :: b₂ :: b₃ :: rest) = (utf8 rest).map (c :: ·) := by
  have h₁ : ¬ b < 128 := by omega
  have h₂ : ¬ b < 192 := by omega
  have h₃ : ¬ b < 224 := by omega
  have h₄ : ¬ b < 240 := by omega
  rw [utf8.eq_def]
  simp only [h₁, h₂, h₃, h₄, hb.2, if_false, if_true, hx, hy, hz, Option.bind_eq_bind, Option.bind_some, hc]
  cases utf8 rest <;> rfl

end Utf8

lemma utf8_char (c : Char) (rest : List ℕ) :
    utf8 ((String.utf8EncodeChar c).map UInt8.toNat ++ rest) = (utf8 rest).map (c :: ·) := by
  have hscalar : ∀ least n, n = c.val.toNat → least ≤ n → scalar least n = some c := by
    rintro least n rfl h
    have hvalid : c.val.toNat.isValidChar := c.valid
    simp only [scalar, hvalid, h, if_true, dite_true]
    rfl
  have hbound : c.val.toNat < 1114112 := by
    rcases c.valid with h | ⟨-, h⟩ <;> omega
  have hlow := continuation_low (Nat.mod_lt c.val.toNat (by norm_num : 64 > 0))
  have hmiddle := continuation_low (Nat.mod_lt (c.val.toNat / 64) (by norm_num : 64 > 0))
  have hhigh := continuation_low (Nat.mod_lt (c.val.toNat / 4096) (by norm_num : 64 > 0))
  have hbyte : ∀ n, n < 256 → (UInt8.ofNat n).toNat = n := by
    intro n h
    simpa using h
  simp only [String.utf8EncodeChar]
  split
  · simp only [List.map_cons, List.map_nil, List.cons_append, List.nil_append]
    rw [hbyte _ (by omega)]
    exact utf8_one (by omega) (hscalar _ _ rfl (by omega))
  · split
    · simp only [List.map_cons, List.map_nil, List.cons_append, List.nil_append]
      rw [hbyte _ (by omega), hbyte _ (by omega)]
      exact utf8_two (by omega) hlow (hscalar _ _ (by omega) (by omega))
    · split
      · simp only [List.map_cons, List.map_nil, List.cons_append, List.nil_append]
        rw [hbyte _ (by omega), hbyte _ (by omega), hbyte _ (by omega)]
        exact utf8_three (by omega) hmiddle hlow (hscalar _ _ (by omega) (by omega))
      · simp only [List.map_cons, List.map_nil, List.cons_append, List.nil_append]
        rw [hbyte _ (by omega), hbyte _ (by omega), hbyte _ (by omega), hbyte _ (by omega)]
        exact utf8_four (by omega) hhigh hmiddle hlow (hscalar _ _ (by omega) (by omega))

lemma utf8_bytes (cs : List Char) : utf8 (bytes cs) = some cs := by
  induction cs with
  | nil => rfl
  | cons c cs ih =>
    have hcons : bytes (c :: cs) = (String.utf8EncodeChar c).map UInt8.toNat ++ bytes cs := rfl
    rw [hcons, utf8_char, ih]
    rfl

lemma bytes_lt (cs : List Char) : ∀ x ∈ bytes cs, x < 256 := by
  intro x hx
  simp only [bytes, List.mem_flatMap, List.mem_map] at hx
  obtain ⟨c, -, byte, -, rfl⟩ := hx
  exact byte.toNat_lt

theorem decodeText_encoded (py : Python) (s : String) (h : s.toList.all py.isPrintable = true) :
    decodeText py (encoded s) = s := by
  have hdecode : b64decode (encoded s).toList >>= utf8 = some s.toList := by
    rw [encoded, String.toList_ofList, b64decode_encode _ (bytes_lt _)]
    exact utf8_bytes _
  simp only [decodeText, hdecode, h, Bool.and_true]
  cases hempty : s.toList with
  | nil =>
    have hs : s = "" := by rw [← String.ofList_toList (s := s), hempty]
    subst hs
    rfl
  | cons c cs =>
    simp only [List.isEmpty_cons, Bool.not_false, if_true]
    rw [← hempty, String.ofList_toList]

end Encoding

section Numerals

def Numeral (s : String) : Prop := s.toList ≠ [] ∧ ∀ c ∈ s.toList, c.isDigit = true

instance (s : String) : Decidable (Numeral s) :=
  inferInstanceAs (Decidable (s.toList ≠ [] ∧ ∀ c ∈ s.toList, c.isDigit = true))

/-- A text that is also base64 of printable text. -/
def Ambiguous (py : Python) (s : String) : Prop :=
  ∃ cs, b64decode s.toList >>= utf8 = some cs ∧ cs ≠ [] ∧ cs.all py.isPrintable = true

variable {py : Python} {s : String} {n : ℕ}

lemma digitText_eq_some : digitText s = some n ↔ Numeral s ∧ n = Nat.ofDigitChars 10 s.toList 0 := by
  simp only [digitText, Numeral]
  split
  · rename_i h
    simp only [Bool.and_eq_true, Bool.not_eq_true', List.isEmpty_eq_false_iff, List.all_eq_true] at h
    constructor
    · rintro ⟨⟩
      exact ⟨h, rfl⟩
    · rintro ⟨-, rfl⟩
      rfl
  · rename_i h
    simp only [Bool.and_eq_true, Bool.not_eq_true', List.isEmpty_eq_false_iff, List.all_eq_true] at h
    simp only [reduceCtorEq, false_iff, not_and]
    exact fun hnumeral _ => h hnumeral

lemma scalar_eq_some {least n : ℕ} {c : Char} (h : scalar least n = some c) : least ≤ c.toNat := by
  simp only [scalar] at h
  split at h
  · split at h
    · cases h
      assumption
    · cases h
  · cases h

lemma utf8_high {b : ℕ} {rest : List ℕ} {cs : List Char} (hb : 128 ≤ b) (h : utf8 (b :: rest) = some cs) :
    ∃ c cs', cs = c :: cs' ∧ 128 ≤ c.toNat := by
  rw [utf8.eq_def] at h
  have h₁ : ¬ b < 128 := by omega
  simp only [h₁, if_false] at h
  split at h
  · cases h
  split at h
  · split at h
    · simp only [Option.bind_eq_bind, Option.bind_eq_some_iff, Option.some.injEq] at h
      obtain ⟨x, -, c, hc, cs', -, rfl⟩ := h
      exact ⟨c, cs', rfl, scalar_eq_some hc⟩
    · split at h
      · split at h
        · simp only [Option.bind_eq_bind, Option.bind_eq_some_iff, Option.some.injEq] at h
          obtain ⟨x, -, y, -, c, hc, cs', -, rfl⟩ := h
          exact ⟨c, cs', rfl, (by norm_num : 128 ≤ 2048).trans (scalar_eq_some hc)⟩
        · split at h
          · split at h
            · simp only [Option.bind_eq_bind, Option.bind_eq_some_iff, Option.some.injEq] at h
              obtain ⟨x, -, y, -, z, -, c, hc, cs', -, rfl⟩ := h
              exact ⟨c, cs', rfl, (by norm_num : 128 ≤ 65536).trans (scalar_eq_some hc)⟩
            · cases h
          · cases h
      · cases h
  · cases h

lemma sextet_digit {c : Char} (h : c.isDigit = true) : ∃ x, sextet c = some x ∧ 52 ≤ x := by
  have hrange : c.toNat ≤ 57 := by
    simp only [Char.isDigit, Bool.and_eq_true, decide_eq_true_eq, UInt32.le_iff_toNat_le] at h
    exact h.2
  have hupper : c.isUpper = false := by
    simp only [Char.isUpper, ge_iff_le, decide_eq_false_iff_not, UInt32.le_iff_toNat_le]
    exact fun hle => absurd (hle.1.trans hrange) (by decide)
  have hlower : c.isLower = false := by
    simp only [Char.isLower, ge_iff_le, Bool.and_eq_false_iff, decide_eq_false_iff_not, UInt32.le_iff_toNat_le]
    exact .inl fun hle => absurd (hle.trans hrange) (by decide)
  refine ⟨c.toNat - '0'.toNat + 52, ?_, by omega⟩
  simp [sextet, hupper, hlower, h]

lemma b64decode_numeral {cs : List Char} {xs : List ℕ} (hdigits : ∀ c ∈ cs, c.isDigit = true) (hne : cs ≠ [])
    (h : b64decode cs = some xs) : ∃ x rest, xs = x :: rest ∧ 128 ≤ x := by
  match cs with
  | [] => exact absurd rfl hne
  | [a] | [a, b] => cases h
  | [a, b, c] =>
    have hnone : b64decode [a, b, c] = none := b64decode.eq_5 _ (by simp) (by simp) (by simp) (by simp)
    rw [hnone] at h
    cases h
  | a :: b :: c :: d :: rest =>
    obtain ⟨x, ha, hx⟩ := sextet_digit (hdigits a (by simp))
    obtain ⟨y, hb, -⟩ := sextet_digit (hdigits b (by simp))
    obtain ⟨z, hc, -⟩ := sextet_digit (hdigits c (by simp))
    obtain ⟨w, hd, -⟩ := sextet_digit (hdigits d (by simp))
    rw [b64decode_group ha hb hc hd, Option.map_eq_some_iff] at h
    obtain ⟨xs', -, rfl⟩ := h
    exact ⟨4 * x + y / 16, _, rfl, by omega⟩

theorem decodeText_ambiguous (hs : Numeral s) (h : Ambiguous py s) :
    digitText (decodeText py s) = none ∧ decodeText py s ≠ s := by
  obtain ⟨cs, hdecode, hne, hprint⟩ := h
  have hread : decodeText py s = String.ofList cs := by
    simp only [decodeText, hdecode, hprint, List.isEmpty_eq_false_iff.mpr hne, Bool.not_false, Bool.and_self, if_true]
  obtain ⟨xs, hxs, hcs⟩ := Option.bind_eq_some_iff.mp hdecode
  obtain ⟨x, rest, rfl, hx⟩ := b64decode_numeral hs.2 hs.1 hxs
  obtain ⟨c, cs', rfl, hc⟩ := utf8_high hx hcs
  -- its first character is beyond ASCII
  have hfirst : c.isDigit = false := by
    by_contra hdigit
    simp only [Bool.not_eq_false, Char.isDigit, Bool.and_eq_true, decide_eq_true_eq, UInt32.le_iff_toNat_le] at hdigit
    exact absurd (hc.trans hdigit.2) (by decide)
  constructor
  · rw [hread]
    simp [digitText, hfirst]
  · intro heq
    have hmem : c ∈ s.toList := by
      rw [← heq, hread, String.toList_ofList]
      exact List.mem_cons_self ..
    rw [hs.2 c hmem] at hfirst
    cases hfirst

lemma decodeText_of_not_ambiguous (h : ¬ Ambiguous py s) : decodeText py s = s := by
  simp only [decodeText]
  split
  · rename_i cs hdecode
    split
    · rename_i hread
      simp only [Bool.and_eq_true, Bool.not_eq_true', List.isEmpty_eq_false_iff] at hread
      exact absurd ⟨cs, hdecode, hread⟩ h
    · rfl
  · rfl

theorem decodeText_eq_self_iff (hs : Numeral s) : decodeText py s = s ↔ ¬ Ambiguous py s := by
  constructor
  · intro heq h
    exact (decodeText_ambiguous hs h).2 heq
  · exact decodeText_of_not_ambiguous

/-- A numeral is read as its number, or not at all. -/
theorem digitText_decodeText (hs : Numeral s) : digitText (decodeText py s) = some n ↔
    ¬ Ambiguous py s ∧ digitText s = some n := by
  by_cases h : Ambiguous py s
  · rw [(decodeText_ambiguous hs h).1]
    simp [h]
  · rw [decodeText_of_not_ambiguous h]
    simp [h]

end Numerals

section Events

abbrev Fields := List (String × String)

def Carries (event : Json) (fields : Fields) : Prop :=
  ∃ items, event.getD "attributes" (.arr []) = .ok (.arr items) ∧
    List.Forall₂ (fun item f => item.get "key" = .ok (.str f.1) ∧ item.get "value" = .ok (.str f.2)) items fields

def event (fields : Fields) : Json :=
  .obj [("attributes", .arr (fields.map fun f => .obj [("key", .str f.1), ("value", .str f.2)]))]

def read (py : Python) (fields : Fields) : Attrs :=
  (fields.map fun f => (decodeText py f.1, decodeText py f.2)).reverse

def lastOf (key : String) (fields : Fields) : Option String :=
  ((fields.filter fun f => f.1 = key).map Prod.snd).getLast?

variable {py : Python} {j : Json} {fields : Fields} {key : String}

lemma carries_event (fields : Fields) : Carries (event fields) fields := by
  refine ⟨_, rfl, ?_⟩
  rw [List.forall₂_map_left_iff, List.forall₂_same]
  exact fun _ _ => ⟨rfl, rfl⟩

lemma attributes_carries (h : Carries j fields) : attributes py j = .ok (read py fields) := by
  obtain ⟨items, hitems, hfields⟩ := h
  have hpairs : items.mapM (fun item => do
      let key ← item.get "key"
      let value ← item.get "value"
      (.ok (text py key, text py value) : Py (String × String))) =
        .ok (fields.map fun f => (decodeText py f.1, decodeText py f.2)) := by
    rw [mapM_eq_ok, List.forall₂_map_right_iff]
    apply hfields.imp
    rintro item f ⟨hkey, hvalue⟩
    rw [hkey, hvalue]
    rfl
  simp only [attributes, hitems, ok_bind, Json.iter, hpairs]
  rfl

lemma lastOf_append (f : String × String) : lastOf key (fields ++ [f]) =
    if f.1 = key then some f.2 else lastOf key fields := by
  by_cases h : f.1 = key
  · simp [lastOf, h]
  · simp [lastOf, h]

lemma lookup_read (hkeys : ∀ f ∈ fields, decodeText py f.1 = f.1) :
    (read py fields).lookup key = (lastOf key fields).map (decodeText py) := by
  induction fields using List.reverseRecOn with
  | nil => rfl
  | append_singleton fields f ih =>
    have hf : decodeText py f.1 = f.1 := hkeys f (by simp)
    have hread : read py (fields ++ [f]) = (f.1, decodeText py f.2) :: read py fields := by
      simp [read, hf]
    rw [hread, List.lookup_cons, lastOf_append, ih fun f hmem => hkeys f (by simp [hmem])]
    by_cases h : f.1 = key
    · simp [h]
    · have hne : (key == f.1) = false := by simpa using Ne.symm h
      simp [h, hne]

lemma decodeText_ne_empty {s : String} (h : s ≠ "") : decodeText py s ≠ "" := by
  simp only [decodeText]
  split
  · rename_i cs _
    split
    · rename_i hread
      intro heq
      have hcs : cs = [] := by rw [← String.toList_ofList (l := cs), heq]; rfl
      simp [hcs] at hread
    · exact h
  · exact h

lemma Numeral.ne_empty {s : String} (h : Numeral s) : s ≠ "" := by
  rintro rfl
  exact h.1 rfl

lemma lastOf_mem {value : String} (h : lastOf key fields = some value) : (key, value) ∈ fields := by
  have hmem := List.mem_of_getLast? h
  simp only [List.mem_map, List.mem_filter, decide_eq_true_eq] at hmem
  obtain ⟨f, ⟨hf, rfl⟩, rfl⟩ := hmem
  exact hf

lemma first_read (hkeys : ∀ f ∈ fields, decodeText py f.1 = f.1) {names : List String}
    (hvalues : ∀ value, lastOf key fields = some value → value ≠ "") : first (read py fields) (key :: names) =
    match lastOf key fields with
    | some value => decodeText py value
    | none => first (read py fields) names := by
  rw [first, lookup_read hkeys]
  cases hlast : lastOf key fields with
  | none => rfl
  | some value => simp [decodeText_ne_empty (hvalues value hlast)]

end Events

end Cl8yDexBots.Services.TextCoding
