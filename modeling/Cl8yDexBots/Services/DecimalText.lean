import Cl8yDexBots.Services.Decimals

/-! What the text of a normalised decimal says about the number it was read from. -/

namespace Cl8yDexBots.Services.DecimalText

open Foundation.Checked Foundation.Significant Values Decimals

section Normalize

variable {x y : Number} {n m : ℕ} {e e' : ℤ}

lemma fix_value (hc : 0 < x.coefficient) (hlow : etiny + prec ≤ decimalLength x.coefficient + x.exponent)
    (hhigh : decimalLength x.coefficient + x.exponent < emax) :
    ∃ y, x.fix = .ok y ∧ y.negative = x.negative ∧ 0 < y.coefficient ∧
      scaled y.coefficient y.exponent = scaled (significant prec x.coefficient) x.exponent := by
  have hpos : x.coefficient ≠ 0 := hc.ne'
  have hfits : ¬ etop < decimalLength x.coefficient + x.exponent - prec := by
    simp only [etop, prec] at hhigh ⊢
    omega
  have hgap : ¬ etop < decimalLength x.coefficient + x.exponent - prec + 1 := by
    simp only [etop, prec] at hhigh ⊢
    omega
  have hmax : max ((decimalLength x.coefficient : ℤ) + x.exponent - prec) etiny =
      decimalLength x.coefficient + x.exponent - prec := max_eq_left (by omega)
  have hsig : 0 < significant prec x.coefficient := significant_pos (by decide) hc
  simp only [Number.fix, if_neg hpos, if_neg hfits, hmax, if_neg hgap]
  by_cases hlong : x.exponent < decimalLength x.coefficient + x.exponent - prec
  · have hdrop : ((decimalLength x.coefficient : ℤ) + x.exponent - prec - x.exponent).toNat =
        decimalLength x.coefficient - prec := by omega
    have hexp : x.exponent = decimalLength x.coefficient + x.exponent - prec -
        ((decimalLength x.coefficient - prec : ℕ) : ℤ) := by omega
    have hkept := scaled_mul_pow (halfEven x.coefficient (10 ^ (decimalLength x.coefficient - prec)))
      (decimalLength x.coefficient - prec) (decimalLength x.coefficient + x.exponent - prec)
    rw [← hexp] at hkept
    have hround : 0 < halfEven x.coefficient (10 ^ (decimalLength x.coefficient - prec)) :=
      Nat.pos_of_mul_pos_right hsig
    rw [if_pos hlong, hdrop]
    by_cases hfull : 10 ^ prec ≤ halfEven x.coefficient (10 ^ (decimalLength x.coefficient - prec))
    · -- all kept digits were nines
      have hcarry : halfEven x.coefficient (10 ^ (decimalLength x.coefficient - prec)) = 10 ^ prec := by
        apply le_antisymm _ hfull
        have hle := significant_le prec x.coefficient
        have hsplit : decimalLength x.coefficient =
          prec + (decimalLength x.coefficient - prec) := by omega
        rw [significant] at hle
        nth_rewrite 3 [hsplit] at hle
        rw [pow_add] at hle
        exact Nat.le_of_mul_le_mul_right hle (by positivity)
      rw [if_pos hfull]
      refine ⟨_, rfl, rfl, ?_, ?_⟩
      · show 0 < _ / 10
        rw [hcarry]
        decide
      · rw [significant, hkept, hcarry]
        have hstep := scaled_mul_pow (10 ^ prec / 10) 1 (decimalLength x.coefficient + x.exponent - prec + 1)
        rw [← hstep]
        congr 1
        push_cast
        ring
    · rw [if_neg hfull]
      exact ⟨_, rfl, rfl, hround, hkept.symm⟩
  · have hkept : significant prec x.coefficient = x.coefficient := by
      apply significant_of_dvd
      have hzero : decimalLength x.coefficient - prec = 0 := by omega
      rw [hzero, pow_zero]
      exact one_dvd _
    rw [if_neg hlong]
    exact ⟨x, rfl, rfl, hc, by rw [hkept]⟩

lemma stripZeros_value (c : ℕ) (e : ℤ) (hc : 0 < c) :
    scaled (stripZeros c e).1 (stripZeros c e).2 = scaled c e ∧ 0 < (stripZeros c e).1 ∧
      ((stripZeros c e).1 % 10 ≠ 0 ∨ emax ≤ (stripZeros c e).2) := by
  induction c, e using stripZeros.induct with
  | case1 c e h ih =>
    rw [stripZeros, if_pos h]
    obtain ⟨hval, hpos, hend⟩ := ih (by omega)
    refine ⟨?_, hpos, hend⟩
    have hstep := scaled_mul_pow (c / 10) 1 (e + 1)
    have hten : c / 10 * 10 ^ 1 = c := by omega
    have hexp : e + 1 - ((1 : ℕ) : ℤ) = e := by omega
    rw [hten, hexp] at hstep
    rw [hval, hstep]
  | case2 c e h =>
    rw [stripZeros, if_neg h]
    refine ⟨rfl, hc, ?_⟩
    by_cases hten : c % 10 = 0
    · right
      by_contra hlt
      exact h ⟨hc.ne', hten, by omega⟩
    · exact Or.inl hten

structure Plain (x : Number) : Prop where
  positive : x.negative = false
  stripped : x.coefficient % 10 ≠ 0 ∨ (x.coefficient = 0 ∧ x.exponent = 0)

lemma Plain.value (h : Plain x) : x.value = scaled x.coefficient x.exponent := by
  simp [Number.value, h.positive]

lemma Plain.unique (hx : Plain x) (hy : Plain y) (h : x.value = y.value) : x = y := by
  rw [hx.value, hy.value] at h
  have heq : x.coefficient = y.coefficient ∧ x.exponent = y.exponent := by
    rcases hx.stripped with hxs | ⟨hxc, hxe⟩
    · rcases hy.stripped with hys | ⟨hyc, -⟩
      · exact stripped_unique h hxs hys
      · rw [hyc, scaled_eq_zero.mpr rfl, scaled_eq_zero] at h
        omega
    · rcases hy.stripped with hys | ⟨hyc, hye⟩
      · rw [hxc, scaled_eq_zero.mpr rfl, eq_comm, scaled_eq_zero] at h
        omega
      · exact ⟨hxc.trans hyc.symm, hxe.trans hye.symm⟩
  exact Number.ext (hx.positive.trans hy.positive.symm) heq.1 heq.2

lemma coefficient_of_value (h : x.value = scaled n e) :
    (n = 0 ∧ x.coefficient = 0) ∨
      (0 < n ∧ 0 < x.coefficient ∧ x.negative = false ∧ scaled x.coefficient x.exponent = scaled n e) := by
  rcases Nat.eq_zero_or_pos n with rfl | hn
  · left
    rw [scaled_eq_zero.mpr rfl, Number.value] at h
    split at h
    · exact ⟨rfl, scaled_eq_zero.mp (neg_eq_zero.mp h)⟩
    · exact ⟨rfl, scaled_eq_zero.mp h⟩
  · right
    have hpos := scaled_pos (n := n) (e := e) hn
    cases hneg : x.negative with
    | true =>
      have hle : 0 ≤ scaled x.coefficient x.exponent := scaled_nonneg
      rw [Number.value, hneg, if_pos rfl] at h
      linarith
    | false =>
      rw [Number.value, hneg, if_neg (by decide)] at h
      refine ⟨hn, ?_, rfl, h⟩
      apply Nat.pos_of_ne_zero
      intro hzero
      rw [hzero, scaled_eq_zero.mpr rfl] at h
      exact hpos.ne h

lemma normalize_value (h : x.value = scaled n e) (hn : n < 10 ^ 40) (hlow : -18 ≤ e) (hhigh : e ≤ 0) :
    ∃ y, x.normalize = .ok y ∧ Plain { y with negative := false } ∧
      Number.value { y with negative := false } = scaled (significant prec n) e ∧
      (y.negative = true → y.coefficient = 0 ∧ y.exponent = 0) := by
  rcases coefficient_of_value h with ⟨rfl, hc⟩ | ⟨hpos, hc, hneg, hval⟩
  · refine ⟨{ x with exponent := 0 }, ?_, ⟨rfl, Or.inr ⟨hc, rfl⟩⟩, ?_, fun _ => ⟨hc, rfl⟩⟩
    · simp [Number.normalize, Number.fix, hc]
    · simp [Number.value, significant_zero, hc, scaled]
  · obtain ⟨hsig, hlen⟩ := significant_scaled (p := prec) hc hpos hval
    have hshort := decimalLength_le hn (by decide)
    have hone : 1 ≤ decimalLength n := Nat.le_add_left 1 _
    obtain ⟨y, hfix, hyneg, hyc, hyval⟩ := fix_value hc
      (by simp only [etiny, prec]; omega) (by simp only [emax]; omega)
    obtain ⟨hstrip, hspos, hend⟩ := stripZeros_value y.coefficient y.exponent hyc
    have hval' : scaled (stripZeros y.coefficient y.exponent).1 (stripZeros y.coefficient y.exponent).2 =
        scaled (significant prec n) e := hstrip.trans (hyval.trans hsig)
    have hstripped : (stripZeros y.coefficient y.exponent).1 % 10 ≠ 0 := by
      rcases hend with hten | hmax
      · exact hten
      · -- such an exponent would need a number beyond every amount
        have hle : e ≤ (stripZeros y.coefficient y.exponent).2 := by
          simp only [emax] at hmax
          omega
        have hshift := shift_of_scaled_eq hval'.symm hle
        have hbound := (significant_le prec n).trans (Nat.pow_le_pow_right (by decide) hshort)
        have hbig : 10 ^ 41 ≤ 10 ^ ((stripZeros y.coefficient y.exponent).2 - e).toNat := by
          apply Nat.pow_le_pow_right (by decide)
          simp only [emax] at hmax
          omega
        have := Nat.le_mul_of_pos_left (10 ^ ((stripZeros y.coefficient y.exponent).2 - e).toNat) hspos
        omega
    refine ⟨⟨y.negative, (stripZeros y.coefficient y.exponent).1, (stripZeros y.coefficient y.exponent).2⟩,
      ?_, ⟨rfl, Or.inl hstripped⟩, ?_, ?_⟩
    · rw [Number.normalize, hfix]
      simp only [ok_bind, if_neg hyc.ne']
    · simpa [Number.value] using hval'
    · intro htrue
      rw [hyneg, hneg] at htrue
      cases htrue

end Normalize

section Reading

variable {cs whole fraction : List Char} {n : ℕ}

def Digits (cs : List Char) : Prop := ∀ c ∈ cs, c.isDigit = true

lemma digits_toDigits (n : ℕ) : Digits (Nat.toDigits 10 n) := fun _ hc =>
  Nat.isDigit_of_mem_toDigits (by decide) (by decide) hc

lemma digits_zeros (k : ℕ) : Digits (List.replicate k '0') := by
  intro c hc
  rw [List.eq_of_mem_replicate hc]
  rfl

lemma Digits.append (hw : Digits whole) (hf : Digits fraction) : Digits (whole ++ fraction) := by
  intro c hc
  rcases List.mem_append.mp hc with h | h
  · exact hw c h
  · exact hf c h

lemma strip_of_no_space (h : ∀ c ∈ cs, Json.isSpace c = false) : Json.strip cs = cs := by
  have hdrop : ∀ cs : List Char, (∀ c ∈ cs, Json.isSpace c = false) → cs.dropWhile Json.isSpace = cs := by
    intro cs h
    cases cs with
    | nil => rfl
    | cons c cs => rw [List.dropWhile_cons_of_neg (by simp [h c])]
  rw [Json.strip, hdrop cs h, hdrop _ fun c hc => h c (List.mem_reverse.mp hc), List.reverse_reverse]

def digitChars : List Char := ['0', '1', '2', '3', '4', '5', '6', '7', '8', '9']

lemma digit_cases {c : Char} (h : c.isDigit = true) : c ∈ digitChars := by
  obtain ⟨hlow, hhigh⟩ := Char.isDigit_iff_toNat.mp h
  rw [← Char.ofNat_toNat c]
  generalize c.toNat = k at hlow hhigh
  simp only [Char.reduceToNat] at hlow hhigh
  interval_cases k <;> decide

lemma digit_ne {c d : Char} (h : c.isDigit = true) (hd : d.isDigit = false) : c ≠ d := by
  rintro rfl
  rw [h] at hd
  cases hd

lemma digit_no_space {c : Char} (h : c.isDigit = true) : Json.isSpace c = false := by
  have hall : (digitChars.all fun c => Json.isSpace c = false) = true := by decide
  exact of_decide_eq_true (List.all_eq_true.mp hall c (digit_cases h))

lemma digit_toLower {c : Char} (h : c.isDigit = true) : c.toLower = c := by
  have hall : (digitChars.all fun c => c.toLower = c) = true := by decide
  exact of_decide_eq_true (List.all_eq_true.mp hall c (digit_cases h))

lemma not_special {c : Char} (hc : c.isDigit = true) (cs : List Char) : isSpecial (c :: cs) = false := by
  have hi : c ≠ 'i' := digit_ne hc rfl
  have hn : 'n' ≠ c := (digit_ne hc rfl).symm
  have hs : c ≠ 's' := digit_ne hc rfl
  simp [isSpecial, isSpecial.nan, digit_toLower hc, hi, hn, hs]

lemma span_digits {rest : List Char} (hw : Digits whole) (hrest : ∀ c cs, rest = c :: cs → c.isDigit = false) :
    (whole ++ rest).span Char.isDigit = (whole, rest) := by
  have hdrop : rest.takeWhile Char.isDigit = [] ∧ rest.dropWhile Char.isDigit = rest := by
    cases rest with
    | nil => exact ⟨rfl, rfl⟩
    | cons c cs =>
      have hc := hrest c cs rfl
      exact ⟨List.takeWhile_cons_of_neg (by simp [hc]), List.dropWhile_cons_of_neg (by simp [hc])⟩
  rw [List.span_eq_takeWhile_dropWhile, List.takeWhile_append_of_pos hw, List.dropWhile_append_of_pos hw,
    hdrop.1, hdrop.2, List.append_nil]

def numeral (whole fraction : List Char) : Number :=
  ⟨false, Nat.ofDigitChars 10 (whole ++ fraction) 0, -(fraction.length : ℤ)⟩

lemma readNumber_unsigned (hne : whole ≠ []) (hw : Digits whole) (rest : List Char)
    (hrest : ∀ c ∈ rest, c = '.' ∨ c.isDigit = true) :
    readNumber (String.ofList (whole ++ rest)) = readUnsigned false (whole ++ rest) := by
  have hclean : ∀ c ∈ whole ++ rest, Json.isSpace c = false ∧ c ≠ '_' := by
    intro c hc
    have hkind : c = '.' ∨ c.isDigit = true := by
      rcases List.mem_append.mp hc with h | h
      · exact Or.inr (hw c h)
      · exact hrest c h
    rcases hkind with rfl | hdigit
    · decide
    · exact ⟨digit_no_space hdigit, digit_ne hdigit rfl⟩
  have hstrip : Json.strip (whole ++ rest) = whole ++ rest := strip_of_no_space fun c hc => (hclean c hc).1
  have hfilter : (whole ++ rest).filter (· ≠ '_') = whole ++ rest := by
    rw [List.filter_eq_self]
    intro c hc
    simpa using (hclean c hc).2
  cases whole with
  | nil => exact absurd rfl hne
  | cons c cs =>
    have hc := hw c (List.mem_cons_self ..)
    have hminus : c ≠ '-' := digit_ne hc rfl
    have hplus : c ≠ '+' := digit_ne hc rfl
    rw [readNumber, String.toList_ofList, hstrip, hfilter]
    simp only [List.cons_append]
    split
    · next heq => exact absurd (List.cons.inj heq).1 hminus
    · next heq => exact absurd (List.cons.inj heq).1 hplus
    · rfl

lemma readUnsigned_digits (hne : whole ≠ []) (hw : Digits whole) {rest : List Char}
    (hspan : ∀ c cs, rest = c :: cs → c.isDigit = false) (hrest : readFraction rest = (fraction, []))
    (hx : (numeral whole fraction).representable = true) :
    readUnsigned false (whole ++ rest) = some (.finite (numeral whole fraction)) := by
  have hspecial : isSpecial (whole ++ rest) = false := by
    cases whole with
    | nil => exact absurd rfl hne
    | cons c cs => exact not_special (hw c (List.mem_cons_self ..)) _
  have hempty : whole.isEmpty = false := List.isEmpty_eq_false_iff.mpr hne
  rw [readUnsigned, hspecial, span_digits hw hspan]
  simp only [hrest, hempty, readExponent, Bool.false_and]
  rw [if_neg (by decide), if_neg (by decide)]
  show (if Number.representable ⟨false, _, 0 - (fraction.length : ℤ)⟩ then _ else _) = _
  rw [zero_sub]
  exact if_pos hx

lemma readNumber_point (hne : whole ≠ []) (hw : Digits whole) (hf : Digits fraction)
    (hx : (numeral whole fraction).representable = true) :
    readNumber (String.ofList (whole ++ '.' :: fraction)) = some (.finite (numeral whole fraction)) := by
  rw [readNumber_unsigned hne hw]
  · refine readUnsigned_digits hne hw ?_ ?_ hx
    · rintro c cs ⟨⟩
      rfl
    · have hspan : (fraction ++ []).span Char.isDigit = (fraction, []) := span_digits hf nofun
      rw [List.append_nil] at hspan
      exact hspan
  · intro c hc
    rcases List.mem_cons.mp hc with rfl | h
    · exact Or.inl rfl
    · exact Or.inr (hf c h)

lemma readNumber_whole (hne : whole ≠ []) (hw : Digits whole) (hx : (numeral whole []).representable = true) :
    readNumber (String.ofList whole) = some (.finite (numeral whole [])) := by
  have hread := readNumber_unsigned hne hw [] (by simp)
  rw [List.append_nil] at hread
  rw [hread]
  have hspan : ∀ c cs, ([] : List Char) = c :: cs → c.isDigit = false := by
    intro c cs h
    cases h
  have hdigits := readUnsigned_digits hne hw hspan rfl hx
  rw [List.append_nil] at hdigits
  exact hdigits

lemma numeral_value : (numeral whole fraction).value =
    scaled (Nat.ofDigitChars 10 (whole ++ fraction) 0) (-(fraction.length : ℤ)) := rfl

lemma representable_numeral (hlt : Nat.ofDigitChars 10 (whole ++ fraction) 0 < 10 ^ 100)
    (hlen : fraction.length ≤ 100) : (numeral whole fraction).representable = true := by
  have hlength := decimalLength_le hlt (by decide)
  apply decide_eq_true
  simp only [Number.adjusted, numeral]
  omega

lemma ofDigitChars_zeros (k : ℕ) (cs : List Char) :
    Nat.ofDigitChars 10 (List.replicate k '0' ++ cs) 0 = Nat.ofDigitChars 10 cs 0 := by
  rw [Nat.ofDigitChars_append, Nat.ofDigitChars_replicate_zero, mul_zero]

lemma ofDigitChars_append_zeros (cs : List Char) (k : ℕ) :
    Nat.ofDigitChars 10 (cs ++ List.replicate k '0') 0 = Nat.ofDigitChars 10 cs 0 * 10 ^ k := by
  rw [Nat.ofDigitChars_append, Nat.ofDigitChars_replicate_zero, mul_comm]

lemma readNumber_fixedPoint {digits : List Char} (hd : Digits digits) {places : ℕ} (hplaces : places ≤ 100)
    (hlt : Nat.ofDigitChars 10 digits 0 < 10 ^ 100) :
    ∃ z, readNumber (String.ofList (fixedPoint digits places)) = some (.finite z) ∧ z.negative = false ∧
      z.value = scaled (Nat.ofDigitChars 10 digits 0) (-(places : ℤ)) := by
  let padded := List.replicate (places + 1 - digits.length) '0' ++ digits
  have hpadded : Digits padded := (digits_zeros _).append hd
  have hlen : places < padded.length := by
    simp only [padded, List.length_append, List.length_replicate]
    omega
  have hsplit : padded.take (padded.length - places) ++ padded.drop (padded.length - places) = padded :=
    List.take_append_drop ..
  have hfraction : (padded.drop (padded.length - places)).length = places := by
    rw [List.length_drop]
    omega
  have hne : padded.take (padded.length - places) ≠ [] := by
    intro h
    have hzero := congrArg List.length h
    rw [List.length_take, List.length_nil] at hzero
    omega
  have hvalue : Nat.ofDigitChars 10 padded 0 = Nat.ofDigitChars 10 digits 0 := ofDigitChars_zeros ..
  refine ⟨_, readNumber_point hne ?_ ?_ ?_, rfl, ?_⟩
  · exact fun c hc => hpadded c (List.mem_of_mem_take hc)
  · exact fun c hc => hpadded c (List.mem_of_mem_drop hc)
  · apply representable_numeral
    · rw [hsplit, hvalue]
      exact hlt
    · rw [hfraction]
      exact hplaces
  · rw [numeral_value, hsplit, hvalue, hfraction]

lemma readNumber_format {x : Number} (hx : Plain x) (hlow : -100 ≤ x.exponent)
    (hlt : x.coefficient * 10 ^ x.exponent.toNat < 10 ^ 100) :
    ∃ z, readNumber (String.ofList x.format) = some (.finite z) ∧ z.negative = false ∧ z.value = x.value := by
  have hdigits : Nat.ofDigitChars 10 (Nat.toDigits 10 x.coefficient) 0 = x.coefficient :=
    Nat.ofDigitChars_ten_toDigits
  simp only [Number.format, hx.positive, hx.value, Bool.false_eq_true, if_false]
  by_cases hexp : 0 ≤ x.exponent
  · simp only [if_pos hexp]
    have hvalue : Nat.ofDigitChars 10 (Nat.toDigits 10 x.coefficient ++ List.replicate x.exponent.toNat '0') 0 =
        x.coefficient * 10 ^ x.exponent.toNat := by rw [ofDigitChars_append_zeros, hdigits]
    refine ⟨_, readNumber_whole ?_ ((digits_toDigits _).append (digits_zeros _)) ?_, rfl, ?_⟩
    · simp [Nat.toDigits_ne_nil]
    · apply representable_numeral
      · rw [List.append_nil, hvalue]
        exact hlt
      · exact Nat.zero_le _
    · have hzero : -((List.length ([] : List Char) : ℕ) : ℤ) = x.exponent - x.exponent.toNat := by
        simp only [List.length_nil]
        omega
      rw [numeral_value, List.append_nil, hvalue, hzero, scaled_mul_pow]
  · simp only [if_neg hexp]
    have hsmall : x.coefficient < 10 ^ 100 := (Nat.le_mul_of_pos_right _ (by positivity)).trans_lt hlt
    have hplaces : (-x.exponent).toNat ≤ 100 := by omega
    obtain ⟨z, hread, hneg, hval⟩ := readNumber_fixedPoint (digits_toDigits x.coefficient) hplaces (by rwa [hdigits])
    have hexp' : -(((-x.exponent).toNat : ℕ) : ℤ) = x.exponent := by omega
    rw [hdigits, hexp'] at hval
    exact ⟨z, hread, hneg, hval⟩

end Reading

end Cl8yDexBots.Services.DecimalText
