import Cl8yDexBots.Rebalancer.KeeperAgreement
import Cl8yDexBots.Services.PlanIdentity

/-! When the identity of a plan tells it from every plan with other amounts, balances or prices. -/

namespace Cl8yDexBots.Services.PlanFaithfulness

open Foundation.Checked Foundation.Words Foundation.Significant CosmWasm.Std Values Decimals DecimalText JsonText
  Fingerprints PlanIdentity
open Rebalancer.State (RebalancePlanResponse)

section Responses

def uintText (n : Uint128) : String := String.ofList (Nat.toDigits 10 n.val)

def fractionDigits (atomics : ℕ) : List Char :=
  let digits := Nat.toDigits 10 (atomics % 10 ^ 18)
  (List.replicate (18 - digits.length) '0' ++ digits).rdropWhile (· = '0')

def decimalText (d : Decimal) : String :=
  let whole := Nat.toDigits 10 (d.atomics.val / 10 ^ 18)
  if d.atomics.val % 10 ^ 18 = 0 then String.ofList whole
  else String.ofList (whole ++ '.' :: fractionDigits d.atomics.val)

lemma uintText_reads (n : Uint128) :
    ∃ x, readNumber (uintText n) = some (.finite x) ∧ x.value = scaled n.val 0 := by
  have hdigits : Nat.ofDigitChars 10 (Nat.toDigits 10 n.val ++ []) 0 = n.val := by
    rw [List.append_nil, Nat.ofDigitChars_ten_toDigits]
  refine ⟨_, readNumber_whole Nat.toDigits_ne_nil (digits_toDigits _) ?_, ?_⟩
  · apply representable_numeral _ (Nat.zero_le _)
    rw [hdigits]
    exact n.lt.trans (by decide)
  · rw [numeral_value, hdigits]
    rfl

lemma fractionDigits_split (atomics : ℕ) : Digits (fractionDigits atomics) ∧ ∃ k,
    (fractionDigits atomics).length + k = 18 ∧
      Nat.ofDigitChars 10 (fractionDigits atomics) 0 * 10 ^ k = atomics % 10 ^ 18 := by
  let digits := Nat.toDigits 10 (atomics % 10 ^ 18)
  let padded := List.replicate (18 - digits.length) '0' ++ digits
  have hpadded : Digits padded := (digits_zeros _).append (digits_toDigits _)
  have hshort : digits.length ≤ 18 :=
    (Nat.length_toDigits_le_iff (by decide) (by decide)).mpr (Nat.mod_lt _ (by decide))
  have hlen : padded.length = 18 := by
    simp only [padded, List.length_append, List.length_replicate]
    omega
  have hvalue : Nat.ofDigitChars 10 padded 0 = atomics % 10 ^ 18 := by
    rw [ofDigitChars_zeros, Nat.ofDigitChars_ten_toDigits]
  have hzeros : padded.rtakeWhile (· = '0') = List.replicate (padded.rtakeWhile (· = '0')).length '0' := by
    rw [List.eq_replicate_iff]
    refine ⟨rfl, fun c hc => ?_⟩
    have hzero := List.mem_rtakeWhile_imp hc
    rwa [decide_eq_true_eq] at hzero
  generalize (padded.rtakeWhile (· = '0')).length = k at hzeros
  have hsplit : padded = fractionDigits atomics ++ List.replicate k '0' := by
    rw [← hzeros]
    exact List.rdropWhile_append_rtakeWhile.symm
  refine ⟨?_, k, ?_, ?_⟩
  · intro c hc
    apply hpadded
    rw [hsplit]
    exact List.mem_append_left _ hc
  · rw [← hlen, hsplit, List.length_append, List.length_replicate]
  · rw [← hvalue, hsplit, ofDigitChars_append_zeros]

lemma decimalText_reads (d : Decimal) :
    ∃ x, readNumber (decimalText d) = some (.finite x) ∧ x.value = scaled d.atomics.val (-18) := by
  have hlt : d.atomics.val < 10 ^ 100 := d.atomics.lt.trans (by decide)
  have hsplit := Nat.div_add_mod d.atomics.val (10 ^ 18)
  simp only [decimalText]
  by_cases hwhole : d.atomics.val % 10 ^ 18 = 0
  · rw [if_pos hwhole]
    have hdigits : Nat.ofDigitChars 10 (Nat.toDigits 10 (d.atomics.val / 10 ^ 18) ++ []) 0 =
        d.atomics.val / 10 ^ 18 := by
      rw [List.append_nil, Nat.ofDigitChars_ten_toDigits]
    refine ⟨_, readNumber_whole Nat.toDigits_ne_nil (digits_toDigits _) ?_, ?_⟩
    · apply representable_numeral _ (Nat.zero_le _)
      rw [hdigits]
      exact (Nat.div_le_self ..).trans_lt hlt
    · have hshift := scaled_mul_pow (d.atomics.val / 10 ^ 18) 18 0
      have hback : d.atomics.val / 10 ^ 18 * 10 ^ 18 = d.atomics.val := by omega
      rw [hback] at hshift
      rw [numeral_value, hdigits]
      exact hshift.symm
  · rw [if_neg hwhole]
    obtain ⟨hfraction, k, hlen, hvalue⟩ := fractionDigits_split d.atomics.val
    have hjoined : Nat.ofDigitChars 10 (Nat.toDigits 10 (d.atomics.val / 10 ^ 18) ++ fractionDigits d.atomics.val) 0
        * 10 ^ k = d.atomics.val := by
      rw [Nat.ofDigitChars_append, Nat.ofDigitChars_ten_toDigits, Nat.ofDigitChars_eq_ofDigitChars_zero, add_mul,
        hvalue, mul_right_comm, ← pow_add, hlen]
      omega
    refine ⟨_, readNumber_point Nat.toDigits_ne_nil (digits_toDigits _) hfraction ?_, ?_⟩
    · apply representable_numeral _ (by omega)
      exact (Nat.le_mul_of_pos_right _ (by positivity)).trans_lt (hjoined.le.trans_lt hlt)
    · have hshift := scaled_mul_pow (Nat.ofDigitChars 10 (Nat.toDigits 10 (d.atomics.val / 10 ^ 18) ++
        fractionDigits d.atomics.val) 0) k (-((fractionDigits d.atomics.val).length : ℤ))
      have hexp : -((fractionDigits d.atomics.val).length : ℤ) - k = -18 := by omega
      rw [hjoined, hexp] at hshift
      rw [numeral_value]
      exact hshift.symm

def ofUint (n : Uint128) : NumberText 0 := ⟨uintText n, n.val, n.lt, uintText_reads n⟩

def ofDecimal (d : Decimal) : NumberText (-18) :=
  ⟨decimalText d, d.atomics.val, d.atomics.lt, decimalText_reads d⟩

def ofResponse (r : RebalancePlanResponse) : Plan where
  shouldRebalance := r.shouldRebalance
  capturedTwap := ofDecimal r.capturedTwap
  balances := (ofUint (r.balances 0), ofUint (r.balances 1))
  priceDeviationBps := r.priceDeviationBps
  allocationDeviationBps := r.allocationDeviationBps
  referencePrice := ofDecimal r.referencePrice
  offerToken := r.offerToken
  amount := r.amount.map ofUint
  minReturn := r.minReturn.map ofUint
  maxSpread := ofDecimal r.maxSpread

end Responses

section Faithfulness

/-- Two encodings that differ where a figure differs, and agree where only the writing of the numbers differs. -/
def TellsApart (p q : Plan) (first second : Py String) : Prop :=
  (p.values.figures ≠ q.values.figures → ∀ s t, first = .ok s → second = .ok t → s ≠ t) ∧
    (p.values = q.values → first = second)

def Encodable (name chain config : String) : Prop := ∃ texts, identityTexts name chain config = .ok texts

def Short (n : ℕ) : Prop := ∃ m k, m < 10 ^ prec ∧ n = m * 10 ^ k

structure ShortFigures (p : PlanOf ℕ ℕ) : Prop where
  balances : Short p.balances.1 ∧ Short p.balances.2
  amount : ∀ n ∈ p.amount, Short n
  minReturn : ∀ n ∈ p.minReturn, Short n
  capturedTwap : Short p.capturedTwap
  referencePrice : Short p.referencePrice

variable {p q : Plan} {n m : ℕ}

lemma Short.kept (h : Short n) : significant prec n = n := by
  obtain ⟨m, k, hm, rfl⟩ := h
  exact significant_of_short hm (by decide)

lemma Short.map_kept {a : Option ℕ} (h : ∀ n ∈ a, Short n) : a.map (significant prec) = a := by
  cases a with
  | none => rfl
  | some n => rw [Option.map_some, (h n rfl).kept]

lemma rounded_of_values (h : p.values = q.values) : p.rounded = q.rounded := by
  have htoken : p.values.offerToken = q.values.offerToken := congrArg PlanOf.offerToken h
  have hcleaned : p.offerToken.map cleaned = q.offerToken.map cleaned := congrArg (Option.map cleaned) htoken
  rw [Plan.rounded, Plan.rounded, h, hcleaned]

lemma rounded_figures (hp : ShortFigures p.values) : p.rounded.figures = p.values.figures := by
  have hbalances : p.rounded.balances = p.values.balances := Prod.ext hp.balances.1.kept hp.balances.2.kept
  have hamount : p.rounded.amount = p.values.amount := Short.map_kept hp.amount
  have hreturn : p.rounded.minReturn = p.values.minReturn := Short.map_kept hp.minReturn
  have htwap : p.rounded.capturedTwap = p.values.capturedTwap := hp.capturedTwap.kept
  have hreference : p.rounded.referencePrice = p.values.referencePrice := hp.referencePrice.kept
  rw [PlanOf.figures, PlanOf.figures, hbalances, hamount, hreturn, htwap, hreference]

lemma tellsApart_iff {first second : Py String} {encodable : Prop}
    (heq : encodable → (∃ s, first = .ok s) ∧ (first = second ↔ p.rounded = q.rounded))
    (hnone : ¬ encodable → first = second ∧ ∀ s, first ≠ .ok s) :
    TellsApart p q first second ↔
      p.values.figures = q.values.figures ∨ p.rounded ≠ q.rounded ∨ ¬ encodable := by
  by_cases hen : encodable
  · obtain ⟨⟨s, hs⟩, hiff⟩ := heq hen
    constructor
    · rintro ⟨htell, -⟩
      by_cases hfigures : p.values.figures = q.values.figures
      · exact Or.inl hfigures
      · right
        left
        intro hrounded
        exact htell hfigures s s hs ((hiff.mpr hrounded) ▸ hs) rfl
    · intro hcond
      refine ⟨?_, fun hvalues => hiff.mpr (rounded_of_values hvalues)⟩
      rintro hfigures a b ha hb rfl
      rcases hcond with hsame | hrounded | hnot
      · exact hfigures hsame
      · exact hrounded (hiff.mp (ha.trans hb.symm))
      · exact hnot hen
  · obtain ⟨hsame, hno⟩ := hnone hen
    constructor
    · intro _
      exact Or.inr (Or.inr hen)
    · intro _
      exact ⟨fun _ a _ ha _ => absurd ha (hno a), fun _ => hsame⟩

section Encodings

variable (p q) (floatRepr : ℚ → List Char) (name vault chain config : String) (deadline : Option ℤ)
  (body body' : Json) (rest rest' : List (String × Json))

lemma encodingV2_tells : TellsApart p q
    (encodingV2 floatRepr p.document (.obj ((name, body) :: rest)) vault chain config)
    (encodingV2 floatRepr q.document (.obj ((name, body') :: rest')) vault chain config) ↔
      p.values.figures = q.values.figures ∨ p.rounded ≠ q.rounded ∨ ¬ Encodable name chain config := by
  apply tellsApart_iff
  · rintro ⟨texts, htexts⟩
    refine ⟨?_, encodingV2_eq_iff htexts⟩
    rw [encodingV2_eq, htexts]
    exact ⟨_, rfl⟩
  · intro hnone
    rw [encodingV2_eq, encodingV2_eq]
    cases htexts : identityTexts name chain config with
    | ok texts => exact absurd ⟨texts, htexts⟩ hnone
    | error e =>
      rw [error_bind, error_bind]
      exact ⟨rfl, fun s hs => by cases hs⟩

lemma keeperEncoding_tells : TellsApart p q
    (keeperEncoding floatRepr p.document (.obj ((name, body) :: rest)) vault chain config deadline)
    (keeperEncoding floatRepr q.document (.obj ((name, body') :: rest')) vault chain config deadline) ↔
      p.values.figures = q.values.figures ∨ p.rounded ≠ q.rounded ∨ ¬ Encodable name chain config := by
  apply tellsApart_iff
  · rintro ⟨texts, htexts⟩
    refine ⟨?_, keeperEncoding_eq_iff htexts⟩
    rw [keeperEncoding_eq, htexts]
    exact ⟨_, rfl⟩
  · intro hnone
    rw [keeperEncoding_eq, keeperEncoding_eq]
    cases htexts : identityTexts name chain config with
    | ok texts => exact absurd ⟨texts, htexts⟩ hnone
    | error e =>
      rw [error_bind, error_bind]
      exact ⟨rfl, fun s hs => by cases hs⟩

/-- Plans with different figures have different encodings just in case they still differ once every number is
rounded to 28 digits, as plans do whose figures have no more digits than that. -/
theorem plan_told_apart_iff :
    (TellsApart p q (encodingV2 floatRepr p.document (.obj ((name, body) :: rest)) vault chain config)
        (encodingV2 floatRepr q.document (.obj ((name, body') :: rest')) vault chain config) ∧
      TellsApart p q (keeperEncoding floatRepr p.document (.obj ((name, body) :: rest)) vault chain config deadline)
        (keeperEncoding floatRepr q.document (.obj ((name, body') :: rest')) vault chain config deadline) ↔
      p.values.figures = q.values.figures ∨ p.rounded ≠ q.rounded ∨ ¬ Encodable name chain config) ∧
    (ShortFigures p.values → ShortFigures q.values →
      p.values.figures = q.values.figures ∨ p.rounded ≠ q.rounded) := by
  constructor
  · rw [encodingV2_tells, keeperEncoding_tells, and_self]
  · intro hp hq
    by_cases hrounded : p.rounded = q.rounded
    · left
      rw [← rounded_figures hp, ← rounded_figures hq, hrounded]
    · exact Or.inr hrounded

end Encodings

end Faithfulness

section Collision

open Rebalancer.Planning Rebalancer.Runs Rebalancer.RebalanceLiveness

def vastChain (extra : ℕ) (h : 10 ^ 28 + extra < 2 ^ 128) : Rebalancer.State.Querier :=
  fixedChain ![⟨10 ^ 28 + extra, h⟩, 0] .one deepReserves

def rebalanceMessage : Json := .obj [("rebalance", .obj [("deadline", .int 120)])]

lemma significant_vast : significant prec (10 ^ 28 + 1) = significant prec (10 ^ 28 + 0) := by
  have hlog : Nat.log 10 (10 ^ 28 + 1) = 28 := Nat.log_eq_of_pow_le_of_lt_pow (by decide) (by decide)
  have hlog' : Nat.log 10 (10 ^ 28 + 0) = 28 := Nat.log_eq_of_pow_le_of_lt_pow (by decide) (by decide)
  rw [significant, significant, decimalLength, decimalLength, hlog, hlog']
  decide

lemma encodable_local : Encodable "rebalance" "localterra" "1" := by
  obtain ⟨texts, htexts, -⟩ := okAnd_iff.mp (show okAnd (identityTexts "rebalance" "localterra" "1")
    (fun _ => true) = true by decide +kernel)
  exact ⟨texts, htexts⟩

def vastBalances (extra : ℕ) (h : 10 ^ 28 + extra < 2 ^ 128) : Fin 2 → Uint128 := ![⟨10 ^ 28 + extra, h⟩, 0]

lemma vast_plans : ∃ p : RebalancePlanResponse,
    (rebalancePlan (vastChain 0 (by decide)) "vault" unitStorage.config : Rebalancer.Vault.Result _) = .ok p ∧
    (rebalancePlan (vastChain 1 (by decide)) "vault" unitStorage.config : Rebalancer.Vault.Result _) =
      .ok { p with balances := vastBalances 1 (by decide) } ∧ p.balances = vastBalances 0 (by decide) := by
  obtain ⟨p, hp, hrest⟩ := okAnd_iff.mp (show okAnd
    (rebalancePlan (vastChain 0 (by decide)) "vault" unitStorage.config : Rebalancer.Vault.Result _)
    (fun p => okAnd (rebalancePlan (vastChain 1 (by decide)) "vault" unitStorage.config : Rebalancer.Vault.Result _)
      (fun q => decide (q = { p with balances := vastBalances 1 (by decide) } ∧
        p.balances = vastBalances 0 (by decide)))) = true by decide)
  obtain ⟨q, hq, hfacts⟩ := okAnd_iff.mp hrest
  obtain ⟨rfl, hbalances⟩ := of_decide_eq_true hfacts
  exact ⟨p, hp, hq, hbalances⟩

/-- Two plans that the query returns for balances of `10 ^ 28` and `10 ^ 28 + 1`: one fingerprint for both. -/
theorem vast_plans_collide : ∃ (p q : RebalancePlanResponse) (s : String),
    (rebalancePlan (vastChain 0 (by decide)) "vault" unitStorage.config : Rebalancer.Vault.Result _) = .ok p ∧
    (rebalancePlan (vastChain 1 (by decide)) "vault" unitStorage.config : Rebalancer.Vault.Result _) = .ok q ∧
    (ofResponse p).values.figures ≠ (ofResponse q).values.figures ∧
    encodingV2 (fun _ => []) (ofResponse p).document rebalanceMessage "vault" "localterra" "1" = .ok s ∧
    encodingV2 (fun _ => []) (ofResponse q).document rebalanceMessage "vault" "localterra" "1" = .ok s ∧
    keeperEncoding (fun _ => []) (ofResponse p).document rebalanceMessage "vault" "localterra" "1" (some 120) =
      keeperEncoding (fun _ => []) (ofResponse q).document rebalanceMessage "vault" "localterra" "1" (some 120) := by
  obtain ⟨p, hp, hq, hbalances⟩ := vast_plans
  obtain ⟨texts, htexts⟩ := encodable_local
  have hrounded : (ofResponse p).rounded =
      (ofResponse { p with balances := vastBalances 1 (by decide) }).rounded := by
    apply PlanOf.ext <;> try rfl
    show (significant prec (p.balances 0).val, significant prec (p.balances 1).val) =
      (significant prec (10 ^ 28 + 1), significant prec 0)
    rw [hbalances, significant_vast]
    rfl
  have hfigures : (ofResponse p).values.figures ≠
      (ofResponse { p with balances := vastBalances 1 (by decide) }).values.figures := by
    intro heq
    have hfirst : (p.balances 0).val = 10 ^ 28 + 1 := congrArg (fun figures => figures.1.1) heq
    rw [hbalances] at hfirst
    exact absurd hfirst (by decide)
  refine ⟨p, _, _, hp, hq, hfigures, by rw [rebalanceMessage, encodingV2_eq, htexts, ok_bind], ?_,
    (keeperEncoding_eq_iff htexts).mpr hrounded⟩
  rw [rebalanceMessage, encodingV2_eq, htexts, ok_bind, hrounded]

end Collision

end Cl8yDexBots.Services.PlanFaithfulness
