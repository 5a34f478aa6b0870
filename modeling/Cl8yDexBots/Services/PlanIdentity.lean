import Cl8yDexBots.Services.Fingerprints

/-! Which plans share an identity: those that agree once every number is cut to 28 digits. -/

namespace Cl8yDexBots.Services.PlanIdentity

open Foundation.Checked Foundation.Significant Values Decimals DecimalText JsonText Fingerprints

section Numbers

variable {n m : ℕ} {e : ℤ}

def plainNumber (n : ℕ) (e : ℤ) : Number :=
  if n = 0 then ⟨false, 0, 0⟩ else ⟨false, (stripZeros n e).1, (stripZeros n e).2⟩

def shown (n : ℕ) (e : ℤ) : String := String.ofList (plainNumber n e).format

structure Moderate (n : ℕ) (e : ℤ) : Prop where
  small : n ≤ 10 ^ 40
  low : -18 ≤ e
  high : e ≤ 0

lemma exponent_lt (h : Moderate n e) {x : Number} (hx : 0 < x.coefficient)
    (hval : scaled x.coefficient x.exponent = scaled n e) : x.exponent ≤ 40 := by
  by_contra hlt
  have hlow := h.high
  have hshift := shift_of_scaled_eq hval.symm (by omega)
  have hbig : 10 ^ 41 ≤ 10 ^ (x.exponent - e).toNat := Nat.pow_le_pow_right (by decide) (by omega)
  have hmul := Nat.le_mul_of_pos_left (10 ^ (x.exponent - e).toNat) hx
  have hsmall := h.small
  omega

lemma plainNumber_spec (h : Moderate n e) : Plain (plainNumber n e) ∧ (plainNumber n e).value = scaled n e := by
  rw [plainNumber]
  by_cases hn : n = 0
  · subst hn
    rw [if_pos rfl]
    exact ⟨⟨rfl, Or.inr ⟨rfl, rfl⟩⟩, by simp [Number.value, scaled]⟩
  · rw [if_neg hn]
    obtain ⟨hval, hpos, hend⟩ := stripZeros_value n e (Nat.pos_of_ne_zero hn)
    have hexp := @exponent_lt n e h ⟨false, (stripZeros n e).1, (stripZeros n e).2⟩ hpos hval
    refine ⟨⟨rfl, Or.inl ?_⟩, hval⟩
    rcases hend with hten | hmax
    · exact hten
    · simp only [emax] at hmax hexp
      omega

lemma plainNumber_bounds (h : Moderate n e) : -100 ≤ (plainNumber n e).exponent ∧
    (plainNumber n e).coefficient * 10 ^ (plainNumber n e).exponent.toNat < 10 ^ 100 := by
  obtain ⟨hplain, hval⟩ := plainNumber_spec h
  rw [hplain.value] at hval
  rcases hplain.stripped with hten | ⟨hc, he⟩
  · have hle := le_of_stripped hval hten
    have hshift := shift_of_scaled_eq hval.symm hle
    have hlow := h.low
    have hhigh := h.high
    have hpow : 10 ^ (plainNumber n e).exponent.toNat ≤ 10 ^ ((plainNumber n e).exponent - e).toNat :=
      Nat.pow_le_pow_right (by decide) (by omega)
    have hmul := Nat.mul_le_mul_left (plainNumber n e).coefficient hpow
    have hsmall := h.small
    exact ⟨by omega, by omega⟩
  · rw [hc, he]
    decide

lemma shown_injective (hn : Moderate n e) (hm : Moderate m e) (h : shown n e = shown m e) : n = m := by
  obtain ⟨hplain, hval⟩ := plainNumber_spec hn
  obtain ⟨hplain', hval'⟩ := plainNumber_spec hm
  obtain ⟨hlow, hlt⟩ := plainNumber_bounds hn
  obtain ⟨hlow', hlt'⟩ := plainNumber_bounds hm
  obtain ⟨z, hread, -, hz⟩ := readNumber_format hplain hlow hlt
  obtain ⟨z', hread', -, hz'⟩ := readNumber_format hplain' hlow' hlt'
  rw [shown, shown] at h
  rw [h, hread'] at hread
  cases hread
  rw [← scaled_left_inj, ← hval, ← hval', ← hz, ← hz']

end Numbers

section Texts

variable {e : ℤ}

lemma moderate_significant {n : ℕ} (hn : n < 2 ^ 128) (hlow : -18 ≤ e) (hhigh : e ≤ 0) :
    Moderate (significant prec n) e := by
  have hshort : decimalLength n ≤ 40 := decimalLength_le (hn.trans (by decide)) (by decide)
  exact ⟨(significant_le prec n).trans (Nat.pow_le_pow_right (by decide) hshort), hlow, hhigh⟩

/-- However a number is written, its canonical text is that of its 28 leading digits. -/
lemma canonicalText_number (t : NumberText e) (hlow : -18 ≤ e) (hhigh : e ≤ 0) :
    canonicalText t.text = .ok (shown (significant prec t.atomics) e) := by
  have hmoderate := moderate_significant t.bounded hlow hhigh
  obtain ⟨x, hread, hval⟩ := t.reads
  obtain ⟨y, hnormal, hplain, hyval, hzero⟩ :=
    normalize_value hval (t.bounded.trans (by decide)) hlow hhigh
  obtain ⟨hplain', hval'⟩ := plainNumber_spec hmoderate
  have hsame := hplain.unique hplain' (hyval.trans hval'.symm)
  obtain ⟨hexp, hlt⟩ := plainNumber_bounds hmoderate
  obtain ⟨z, hz, hzneg, -⟩ := readNumber_format hplain' hexp hlt
  rw [canonicalText, hread]
  simp only [hnormal, ok_bind, Except.ok.injEq, shown]
  cases hneg : y.negative with
  | true =>
    obtain ⟨hc, he⟩ := hzero hneg
    have hy : y = ⟨true, 0, 0⟩ := Number.ext hneg hc he
    rw [← hsame, hy]
    rfl
  | false =>
    have hy : y = plainNumber (significant prec t.atomics) e := by
      rw [← hsame, ← hneg]
    rw [← hy] at hz ⊢
    rw [if_neg]
    rintro (hminus | hempty)
    · rw [hminus] at hz
      have hread' : readNumber "-0" = some (.finite ⟨true, 0, 0⟩) := by decide
      rw [hread'] at hz
      cases hz
      cases hzneg
    · rw [hempty] at hz
      have hread' : readNumber "" = none := by decide
      rw [hread'] at hz
      cases hz

end Texts

section Documents

variable (p q : Plan)

def canonicalDocument (r : PlanOf ℕ ℕ) : Json :=
  .obj [("allocation_deviation_bps", .int r.allocationDeviationBps),
    ("amount", textOrNull (r.amount.map (shown · 0))),
    ("balances", .arr [.str (shown r.balances.1 0), .str (shown r.balances.2 0)]),
    ("captured_twap", .str (shown r.capturedTwap (-18))), ("max_spread", .str (shown r.maxSpread (-18))),
    ("min_return", textOrNull (r.minReturn.map (shown · 0))), ("offer_token", textOrNull r.offerToken),
    ("price_deviation_bps", .int r.priceDeviationBps), ("reference_price", .str (shown r.referencePrice (-18))),
    ("should_rebalance", .bool r.shouldRebalance)]

lemma canonicalValue_number {e : ℤ} (t : NumberText e) (hlow : -18 ≤ e) (hhigh : e ≤ 0) {key : String}
    (hkey : addressLike key = false) :
    canonicalValue key (.str t.text) = .ok (.str (shown (significant prec t.atomics) e)) := by
  simp only [canonicalValue, hkey, canonicalText_number t hlow hhigh, ok_bind]
  rfl

lemma canonicalValue_optional {e : ℤ} (t : Option (NumberText e)) (hlow : -18 ≤ e) (hhigh : e ≤ 0) {key : String}
    (hkey : addressLike key = false) : canonicalValue key (textOrNull (t.map NumberText.text)) =
      .ok (textOrNull ((t.map fun t => significant prec t.atomics).map (shown · e))) := by
  cases t with
  | none => rfl
  | some t => exact canonicalValue_number t hlow hhigh hkey

lemma canonicalValue_token (token : Option String) :
    canonicalValue "offer_token" (textOrNull token) = .ok (textOrNull (token.map cleaned)) := by
  cases token <;> rfl

lemma sorted_plan (a b c d e f g h i j : Json) :
    sorted [("should_rebalance", a), ("captured_twap", b), ("balances", c), ("price_deviation_bps", d),
      ("allocation_deviation_bps", e), ("reference_price", f), ("offer_token", g), ("amount", h), ("min_return", i),
      ("max_spread", j)] =
    [("allocation_deviation_bps", e), ("amount", h), ("balances", c), ("captured_twap", b), ("max_spread", j),
      ("min_return", i), ("offer_token", g), ("price_deviation_bps", d), ("reference_price", f),
      ("should_rebalance", a)] := by
  simp [sorted, List.orderedInsert]

lemma canonicalValue_document : canonicalValue "plan" p.document = .ok (canonicalDocument p.rounded) := by
  have hamount := canonicalValue_optional p.amount (by decide) le_rfl (show addressLike "amount" = false by decide)
  have hplain : addressLike "min_return" = false := by decide
  have hreturn := canonicalValue_optional p.minReturn (by decide) le_rfl hplain
  have htwap := canonicalValue_number p.capturedTwap le_rfl (by decide)
    (show addressLike "captured_twap" = false by decide)
  have hreference := canonicalValue_number p.referencePrice le_rfl (by decide)
    (show addressLike "reference_price" = false by decide)
  have hspread := canonicalValue_number p.maxSpread le_rfl (by decide)
    (show addressLike "max_spread" = false by decide)
  have hbalances : addressLike "balances" = false := by decide
  have hfirst := canonicalValue_number p.balances.1 (by decide) le_rfl hbalances
  have hsecond := canonicalValue_number p.balances.2 (by decide) le_rfl hbalances
  have htoken := canonicalValue_token p.offerToken
  have hint : ∀ key n, canonicalValue key (.int n) = .ok (.int n) := fun _ _ => rfl
  have hbool : ∀ key b, canonicalValue key (.bool b) = .ok (.bool b) := fun _ _ => rfl
  rw [Plan.document, Fingerprints.document]
  simp only [canonicalValue.eq_1, canonicalValue.eq_2, canonicalFields, canonicalItems, PlanOf.map, hamount, hreturn,
    htwap, hreference, hspread, hfirst, hsecond, htoken, hint, hbool, ok_bind, sorted_plan]
  simp only [canonicalDocument, Plan.rounded, Plan.values, PlanOf.map, Option.map_map]
  rfl

lemma textOrNull_injective : Function.Injective textOrNull := by
  intro a b h
  cases a <;> cases b <;> cases h <;> rfl

lemma map_shown_injective {a b : Option ℕ} (ha : ∀ n ∈ a, Moderate n 0) (hb : ∀ n ∈ b, Moderate n 0)
    (h : a.map (shown · 0) = b.map (shown · 0)) : a = b := by
  cases a with
  | none =>
    cases b with
    | none => rfl
    | some m => cases h
  | some n =>
    cases b with
    | none => cases h
    | some m => rw [shown_injective (ha n rfl) (hb m rfl) (Option.some.inj h)]

lemma Plan.rounded_moderate {t : Option (NumberText 0)} :
    ∀ n ∈ (t.map NumberText.atomics).map (significant prec), Moderate n 0 := by
  intro n hn
  cases t with
  | none => cases hn
  | some t =>
    cases hn
    exact moderate_significant t.bounded (by decide) le_rfl

variable {p q}

lemma canonicalDocument_injective (h : canonicalDocument p.rounded = canonicalDocument q.rounded) :
    p.rounded = q.rounded := by
  have hamounts : ∀ t : NumberText 0, Moderate (significant prec t.atomics) 0 :=
    fun t => moderate_significant t.bounded (by decide) le_rfl
  have hdecimals : ∀ t : NumberText (-18), Moderate (significant prec t.atomics) (-18) :=
    fun t => moderate_significant t.bounded le_rfl (by decide)
  simp only [canonicalDocument, Json.obj.injEq, List.cons.injEq, Prod.mk.injEq, Json.int.injEq, Json.str.injEq,
    Json.arr.injEq, Json.bool.injEq, true_and, and_true, Nat.cast_inj, textOrNull_injective.eq_iff] at h
  obtain ⟨hallocation, hamount, ⟨hfirst, hsecond⟩, htwap, hspread, hreturn, htoken, hprice, hreference, hshould⟩ := h
  apply PlanOf.ext
  · exact hshould
  · exact shown_injective (hdecimals _) (hdecimals _) htwap
  · exact Prod.ext (shown_injective (hamounts _) (hamounts _) hfirst)
      (shown_injective (hamounts _) (hamounts _) hsecond)
  · exact hprice
  · exact hallocation
  · exact shown_injective (hdecimals _) (hdecimals _) hreference
  · exact htoken
  · exact map_shown_injective Plan.rounded_moderate Plan.rounded_moderate hamount
  · exact map_shown_injective Plan.rounded_moderate Plan.rounded_moderate hreturn
  · exact shown_injective (hdecimals _) (hdecimals _) hspread

end Documents

section Identity

variable {floatRepr : ℚ → List Char} {p q : Plan} {name chain vault config : String} {deadline : Option ℤ}

def identityTexts (name chain config : String) : Py (String × String × String) := do
  let chain ← canonicalText (cleaned chain)
  let config ← canonicalText config
  let name ← canonicalText name
  .ok (name, chain, config)

def identityV2 (texts : String × String × String) (vault : String) (plan : Json) : Json :=
  .obj [("action", .str texts.1), ("chain_id", .str texts.2.1), ("config_version", .str texts.2.2),
    ("plan", plan), ("vault", .str (cleaned (cleaned vault))), ("version", .int 2)]

def keeperIdentity (deadline : Option ℤ) (texts : String × String × String) (vault : String) (plan : Json) : Json :=
  .obj [("action", .str texts.1), ("chain_id", .str texts.2.1), ("config_version", .str texts.2.2),
    ("deadline_seconds", seconds deadline), ("plan", plan), ("vault", .str (cleaned (cleaned vault))),
    ("version", .int 2)]

lemma sorted_identity (a b c d e f : Json) :
    sorted [("version", a), ("chain_id", b), ("vault", c), ("config_version", d), ("action", e), ("plan", f)] =
    [("action", e), ("chain_id", b), ("config_version", d), ("plan", f), ("vault", c), ("version", a)] := by
  simp [sorted, List.orderedInsert]

lemma sorted_keeperIdentity (a b c d e f g : Json) :
    sorted [("version", a), ("chain_id", b), ("vault", c), ("config_version", d), ("deadline_seconds", e),
      ("action", f), ("plan", g)] =
    [("action", f), ("chain_id", b), ("config_version", d), ("deadline_seconds", e), ("plan", g), ("vault", c),
      ("version", a)] := by
  simp [sorted, List.orderedInsert]

lemma canonicalValue_text {key : String} (hkey : addressLike key = false) (value : String) :
    canonicalValue key (.str value) = (do let value ← canonicalText value; .ok (.str value)) := by
  simp only [canonicalValue, hkey]
  rfl

lemma canonicalValue_seconds (key : String) : canonicalValue key (seconds deadline) = .ok (seconds deadline) := by
  cases deadline <;> rfl

lemma encodingV2_eq (body : Json) (rest : List (String × Json)) :
    encodingV2 floatRepr p.document (.obj ((name, body) :: rest)) vault chain config = (do
      let texts ← identityTexts name chain config
      .ok (dumps floatRepr (identityV2 texts vault (canonicalDocument p.rounded)))) := by
  have hchain := canonicalValue_text (show addressLike "chain_id" = false by decide) (cleaned chain)
  have hconfig := canonicalValue_text (show addressLike "config_version" = false by decide) config
  have hname := canonicalValue_text (show addressLike "action" = false by decide) name
  have hvault : canonicalValue "vault" (.str (cleaned vault)) = .ok (.str (cleaned (cleaned vault))) := rfl
  have hversion : canonicalValue "version" (.int 2) = .ok (.int 2) := rfl
  simp only [encodingV2, action, ok_bind, canonicalIdentity, canonicalValue.eq_1, canonicalFields, hchain, hconfig,
    hname, hvault, hversion, canonicalValue_document, identityTexts]
  cases canonicalText (cleaned chain) with
  | error _ => rfl
  | ok chain =>
    cases canonicalText config with
    | error _ => rfl
    | ok config =>
      cases canonicalText name with
      | error _ => rfl
      | ok name =>
        simp only [ok_bind, sorted_identity]
        rfl

lemma keeperEncoding_eq (body : Json) (rest : List (String × Json)) :
    keeperEncoding floatRepr p.document (.obj ((name, body) :: rest)) vault chain config deadline = (do
      let texts ← identityTexts name chain config
      .ok (dumps floatRepr (keeperIdentity deadline texts vault (canonicalDocument p.rounded)))) := by
  have hchain := canonicalValue_text (show addressLike "chain_id" = false by decide) (cleaned chain)
  have hconfig := canonicalValue_text (show addressLike "config_version" = false by decide) config
  have hname := canonicalValue_text (show addressLike "action" = false by decide) name
  have hvault : canonicalValue "vault" (.str (cleaned vault)) = .ok (.str (cleaned (cleaned vault))) := rfl
  have hversion : canonicalValue "version" (.int 2) = .ok (.int 2) := rfl
  simp only [keeperEncoding, action, ok_bind, canonicalIdentity, canonicalValue.eq_1, canonicalFields, hchain, hconfig,
    hname, hvault, hversion, canonicalValue_document, canonicalValue_seconds, identityTexts]
  cases canonicalText (cleaned chain) with
  | error _ => rfl
  | ok chain =>
    cases canonicalText config with
    | error _ => rfl
    | ok config =>
      cases canonicalText name with
      | error _ => rfl
      | ok name =>
        simp only [ok_bind, sorted_keeperIdentity]
        rfl

lemma textOrNull_plain (s : Option String) :
    sortKeys (textOrNull s) = textOrNull s ∧ noFloat (textOrNull s) = true := by
  cases s <;> exact ⟨rfl, rfl⟩

lemma seconds_plain : sortKeys (seconds deadline) = seconds deadline ∧ noFloat (seconds deadline) = true := by
  cases deadline <;> exact ⟨rfl, rfl⟩

lemma canonicalDocument_plain (r : PlanOf ℕ ℕ) :
    sortKeys (canonicalDocument r) = canonicalDocument r ∧ noFloat (canonicalDocument r) = true := by
  constructor
  · simp [canonicalDocument, sortKeys, sortFields, sortItems, textOrNull_plain, sorted]
  · simp [canonicalDocument, noFloat, noFloatFields, noFloatItems, textOrNull_plain]

lemma identityV2_plain (texts : String × String × String) (r : PlanOf ℕ ℕ) :
    sortKeys (identityV2 texts vault (canonicalDocument r)) = identityV2 texts vault (canonicalDocument r) ∧
      noFloat (identityV2 texts vault (canonicalDocument r)) = true := by
  constructor
  · simp [identityV2, sortKeys, sortFields, canonicalDocument_plain, sorted]
  · simp [identityV2, noFloat, noFloatFields, canonicalDocument_plain]

lemma keeperIdentity_plain (texts : String × String × String) (r : PlanOf ℕ ℕ) :
    sortKeys (keeperIdentity deadline texts vault (canonicalDocument r)) =
        keeperIdentity deadline texts vault (canonicalDocument r) ∧
      noFloat (keeperIdentity deadline texts vault (canonicalDocument r)) = true := by
  constructor
  · simp [keeperIdentity, sortKeys, sortFields, canonicalDocument_plain, seconds_plain, sorted]
  · simp [keeperIdentity, noFloat, noFloatFields, canonicalDocument_plain, seconds_plain]

lemma encodingV2_eq_iff {body body' : Json} {rest rest' : List (String × Json)} {texts : String × String × String}
    (h : identityTexts name chain config = .ok texts) :
    encodingV2 floatRepr p.document (.obj ((name, body) :: rest)) vault chain config =
        encodingV2 floatRepr q.document (.obj ((name, body') :: rest')) vault chain config ↔
      p.rounded = q.rounded := by
  rw [encodingV2_eq, encodingV2_eq, h, ok_bind, ok_bind, Except.ok.injEq]
  constructor
  · intro heq
    obtain ⟨hp, hpf⟩ := @identityV2_plain vault texts p.rounded
    obtain ⟨hq, hqf⟩ := @identityV2_plain vault texts q.rounded
    have hsame := dumps_injective (by rw [hp]; exact hpf) (by rw [hq]; exact hqf) heq
    rw [hp, hq] at hsame
    apply canonicalDocument_injective
    simpa [identityV2] using hsame
  · intro heq
    rw [heq]

lemma keeperEncoding_eq_iff {body body' : Json} {rest rest' : List (String × Json)} {texts : String × String × String}
    (h : identityTexts name chain config = .ok texts) :
    keeperEncoding floatRepr p.document (.obj ((name, body) :: rest)) vault chain config deadline =
        keeperEncoding floatRepr q.document (.obj ((name, body') :: rest')) vault chain config deadline ↔
      p.rounded = q.rounded := by
  rw [keeperEncoding_eq, keeperEncoding_eq, h, ok_bind, ok_bind, Except.ok.injEq]
  constructor
  · intro heq
    obtain ⟨hp, hpf⟩ := @keeperIdentity_plain vault deadline texts p.rounded
    obtain ⟨hq, hqf⟩ := @keeperIdentity_plain vault deadline texts q.rounded
    have hsame := dumps_injective (by rw [hp]; exact hpf) (by rw [hq]; exact hqf) heq
    rw [hp, hq] at hsame
    apply canonicalDocument_injective
    simpa [keeperIdentity] using hsame
  · intro heq
    rw [heq]

end Identity

end Cl8yDexBots.Services.PlanIdentity
