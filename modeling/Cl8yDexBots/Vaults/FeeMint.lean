import Cl8yDexBots.CosmWasm.TokenLedger
import Cl8yDexBots.Foundation.ProRata
import Cl8yDexBots.LimitGrid.Vault
import Cl8yDexBots.MarketGrid.Vault
import Cl8yDexBots.Rebalancer.Liquidity
import Cl8yDexBots.Rebalancer.Vault

/-! The fee mint of the three vaults: one formula, and never worth more than the fee when redeemed. -/

namespace Cl8yDexBots.Vaults.FeeMint

open Foundation.Checked Foundation.Words Foundation.SubMessages Foundation.ProRata
open CosmWasm.Std CosmWasm.Cw20Base SwapVault.Pricing

/-- `mint` returns `x` where it fits into 128 bits, and fails exactly where it does not. -/
def Computes {ε : Type} (mint : Except ε Uint128) (x : ℕ) : Prop :=
  ((∃ minted, mint = .ok minted) ↔ x < 2 ^ 128) ∧ ∀ minted, mint = .ok minted → minted.val = x

lemma computes_zero {ε : Type} : Computes (.ok 0 : Except ε Uint128) 0 :=
  ⟨⟨fun _ => by decide, fun _ => ⟨0, rfl⟩⟩, fun _ h => by cases h; rfl⟩

lemma computes_narrow {ε : Type} (failure : ε) (x : ℕ) : Computes (narrow failure x) x := by
  constructor
  · constructor
    · rintro ⟨minted, h⟩
      rw [← narrow_eq_ok.mp h]
      exact minted.lt
    · intro h
      exact ⟨⟨x, h⟩, narrow_of_lt h⟩
  · intro minted h
    exact narrow_eq_ok.mp h

lemma marketGrid_computes (fee assets supply : Uint128) :
    Computes (MarketGrid.Vault.feeSharesForValue fee assets supply)
      (feeShares fee.val assets.val supply.val) := by
  by_cases hz : fee.val = 0 ∨ supply.val = 0 ∨ assets.val ≤ fee.val
  · rw [feeShares, if_pos hz]
    have h : MarketGrid.Vault.feeSharesForValue fee assets supply = .ok 0 := by
      simp only [MarketGrid.Vault.feeSharesForValue, isZero_iff, le_iff]
      split
      · rfl
      · rw [if_pos (by omega)]
    rw [h]
    exact computes_zero
  · rw [feeShares, if_neg hz]
    have h : MarketGrid.Vault.feeSharesForValue fee assets supply
        = narrow (genericErr "fee share result overflow") (fee.val * supply.val / (assets.val - fee.val)) := by
      simp only [MarketGrid.Vault.feeSharesForValue, isZero_iff, le_iff]
      rw [if_neg (by omega), if_neg (by omega)]
    rw [h]
    exact computes_narrow _ _

lemma rebalancer_computes (fee assets supply : Uint128) :
    Computes (Rebalancer.Vault.feeSharesForValue fee assets supply)
      (feeShares fee.val assets.val supply.val) := by
  simp only [Rebalancer.Vault.feeSharesForValue, feeShares, isZero_iff, le_iff]
  split
  · exact computes_zero
  · exact computes_narrow _ _

lemma limitGrid_computes (fee assets supply : Uint128) :
    Computes (LimitGrid.Pricing.mintForFee fee assets supply)
      (feeShares fee.val assets.val supply.val) := by
  simp only [LimitGrid.Pricing.mintForFee, feeShares, isZero_iff, le_iff]
  split
  · exact computes_zero
  · rename_i hz
    rw [checkedSub_of_le (by omega)]
    exact computes_narrow _ _

lemma feeShareMint_shares {credited fee assets supply : Uint128} {bps : ℕ}
    (h : credited.val * bps / 10000 = fee.val) :
    (LimitGrid.Pricing.feeShareMint credited bps assets supply).map Prod.snd
      = LimitGrid.Pricing.mintForFee fee assets supply := by
  have hfee : (narrow .arithmeticOutOfRange (credited.val * bps / 10000) : LimitGrid.State.Result Uint128)
      = .ok fee := narrow_eq_ok.mpr h.symm
  simp only [LimitGrid.Pricing.feeShareMint, hfee, ok_bind]
  cases LimitGrid.Pricing.mintForFee fee assets supply <;> rfl

/-- `paid` is worth at most `fee` in the vault's own floored valuation. -/
def WorthAtMost {ε : Type} (value : (Fin 2 → Uint128) → Except ε Uint128) (paid : Fin 2 → Uint128)
    (fee : ℕ) : Prop :=
  ∃ v, value paid = .ok v ∧ v.val ≤ fee

def FloorsAt {ε : Type} (value : (Fin 2 → Uint128) → Except ε Uint128) (price : Decimal) : Prop :=
  ∀ held v, value held = .ok v ↔ price.atomics.val ≠ 0 ∧
    v.val = (held 0).val + (held 1).val * decimalFractional / price.atomics.val

lemma worthAtMost_of_slices {ε : Type} {value : (Fin 2 → Uint128) → Except ε Uint128} {price : Decimal}
    {held paid : Fin 2 → Uint128} {assets : Uint128} {fee supply : ℕ} (hvalue : FloorsAt value price)
    (hassets : value held = .ok assets) (hfee : fee < 2 ^ 128) (hsupply : supply ≠ 0)
    (hpaid : ∀ i, (paid i).val = slice (held i).val (feeShares fee assets.val supply)
      (supply + feeShares fee assets.val supply)) : WorthAtMost value paid fee := by
  obtain ⟨hp, hassets⟩ := (hvalue _ _).mp hassets
  have hcover := feeShares_mul_le fee assets.val supply
  have hle : (paid 0).val + (paid 1).val * decimalFractional / price.atomics.val ≤ fee := by
    rw [hpaid 0, hpaid 1]
    exact redeemed_fee_le (Nat.pos_of_ne_zero hsupply) (Nat.pos_of_ne_zero hp) (by rw [← hassets]; exact hcover)
  exact ⟨⟨_, hle.trans_lt hfee⟩, (hvalue _ _).mpr ⟨hp, rfl⟩, hle⟩

section MarketGrid

open MarketGrid.State MarketGrid.Planning MarketGrid.Vault

variable {q : Querier} {env : Env} {st st₁ st₂ : Storage} {info : MessageInfo} {price : Decimal}
  {held : Fin 2 → Uint128} {value assets shares : Uint128}

lemma marketGrid_charged {fee : FeeApplied} (h : chargeFee q st value assets = .ok (st₁, some fee)) :
    value.val * fee.feeBps / 10000 < 2 ^ 128 ∧
      fee.shares.val = feeShares (value.val * fee.feeBps / 10000) assets.val st.totalShares.val ∧
      st.totalShares.val ≠ 0 ∧ st₁.totalShares.val = st.totalShares.val + fee.shares.val ∧
      st₁.config = st.config := by
  have hresolve : ∀ registry, ∃ cache,
      (resolveFee q st registry).1 = { st with effectiveFeeCache := cache } := by
    intro registry
    simp only [resolveFee]
    split
    · exact ⟨_, rfl⟩
    · split <;> exact ⟨_, rfl⟩
  simp only [chargeFee] at h
  split at h
  · rename_i registry collector _ _
    obtain ⟨cache, hcache⟩ := hresolve registry
    split at h
    · cases h
    · rw [hcache] at h
      split at h
      · cases h
      · simp only [bind_eq_ok, multiplyRatio_eq_ok] at h
        obtain ⟨feeValue, ⟨-, hvalue⟩, h⟩ := h
        split at h
        · cases h
        · simp only [bind_eq_ok] at h
          obtain ⟨minted, hminted, h⟩ := h
          split at h
          · cases h
          · rename_i hnz
            simp only [mintFee, bind_eq_ok, checkedAdd_eq_ok, Except.ok.injEq, Prod.mk.injEq,
              Option.some.injEq] at h
            obtain ⟨_, ⟨held, -, total, htotal, rfl⟩, rfl, rfl⟩ := h
            have hshares := (marketGrid_computes _ _ _).2 _ hminted
            have hlt := feeValue.lt
            rw [hvalue] at hshares hlt
            refine ⟨hlt, hshares, fun hs => hnz ?_, htotal, rfl⟩
            rw [isZero_iff, hshares, feeShares, if_pos (Or.inr (Or.inl hs))]
  · cases h

lemma marketGrid_withdraws {recipient : Option String} {r : Response WasmMsg}
    (hheld : (balances q env.contract st.config : Result _) = .ok held)
    (h : executeWithdraw q env st info shares recipient = .ok (st₂, r) ∨
      sharesOf st info.sender = shares ∧ executeRedeemShares q env st info recipient = .ok (st₂, r)) :
    ∃ payee paid, r.messages = transfers st.config payee paid ∧
      ∀ i, (paid i).val = slice (held i).val shares.val st.totalShares.val := by
  rcases h with h | ⟨hshares, h⟩
  · simp only [executeWithdraw, bind_eq_ok, hheld, multiplyRatio_eq_ok, Except.ok.injEq,
      Prod.mk.injEq] at h
    obtain ⟨_, -, _, -, _, -, _, -, _, rfl, payee, -, amount0, ⟨-, h0⟩, amount1, ⟨-, h1⟩, _, -, _, -, -, rfl⟩ := h
    exact ⟨payee, _, rfl, Fin.forall_fin_two.mpr ⟨h0, h1⟩⟩
  · simp only [executeRedeemShares, bind_eq_ok, hheld, multiplyRatio_eq_ok, orError_eq_ok, ensure_eq_ok,
      exists_const, decide_eq_true_eq, Except.ok.injEq, Prod.mk.injEq] at h
    obtain ⟨_, -, collector, -, rfl, -, -, -, _, rfl, payee, -, amount0, ⟨-, h0⟩, amount1, ⟨-, h1⟩, _, -, -, rfl⟩ := h
    rw [hshares] at h0 h1
    exact ⟨payee, _, rfl, Fin.forall_fin_two.mpr ⟨h0, h1⟩⟩

lemma assetValueInToken0_floors (price : Decimal) : FloorsAt (assetValueInToken0 · price) price := by
  intro held v
  simp only [assetValueInToken0, bind_eq_ok, checkedRatio_eq_ok, checkedAdd_eq_ok,
    Decimal.one_atomics_val]
  constructor
  · rintro ⟨token1, ⟨hp, h1⟩, hv⟩
    exact ⟨hp, by rw [hv, h1]⟩
  · rintro ⟨hp, hv⟩
    have hlt := v.lt
    exact ⟨⟨_, by omega⟩, ⟨hp, rfl⟩, hv⟩

end MarketGrid

section LimitGrid

open LimitGrid.State LimitGrid.Pricing LimitGrid.Vault

variable {q : Querier} {st st₁ st₂ : Storage} {bot bot₁ : Bot} {credited : Fin 2 → Uint128}
  {assets shares : Uint128}

lemma limitGrid_charged {fee : FeeApplied} (h : chargeFee q st bot credited = .ok (st₁, bot₁, some fee)) :
    ∃ value assets, creditedValue credited bot.referencePrice = .ok value ∧
      botAssetValue st.orders bot = .ok assets ∧ value.val * fee.feeBps / 10000 < 2 ^ 128 ∧
      fee.shares.val = feeShares (value.val * fee.feeBps / 10000) assets.val bot.totalShares.val ∧
      bot.totalShares.val ≠ 0 ∧
      bot₁ = { bot with totalShares := bot₁.totalShares } ∧
      bot₁.totalShares.val = bot.totalShares.val + fee.shares.val := by
  have hresolve : ∀ registry, (resolveFee q st registry bot.owner).1.orders = st.orders := by
    intro registry
    simp only [resolveFee]
    split
    · rfl
    · split <;> rfl
  simp only [chargeFee] at h
  split at h
  · rename_i registry collector _ _
    specialize hresolve registry
    split at h
    · cases h
    · simp only [bind_eq_ok, hresolve] at h
      obtain ⟨value, hvalue, assets, hassets, ⟨economic, minted⟩, hminted, h⟩ := h
      split at h
      · cases h
      · rename_i hnz
        simp only [mintFee, bind_eq_ok, checkedAdd_eq_ok, Except.ok.injEq, Prod.mk.injEq,
          Option.some.injEq] at h
        obtain ⟨_, ⟨held, -, total, htotal, rfl⟩, rfl, rfl, rfl⟩ := h
        simp only [feeShareMint, bind_eq_ok, narrow_eq_ok, Except.ok.injEq, Prod.mk.injEq] at hminted
        obtain ⟨derived, hderived, minted', hmint, rfl, rfl⟩ := hminted
        have hshares := (limitGrid_computes _ _ _).2 _ hmint
        have hlt := derived.lt
        rw [hderived] at hshares hlt
        refine ⟨value, assets, hvalue, hassets, hlt, hshares, fun hs => hnz ?_, rfl, htotal⟩
        rw [isZero_iff, hshares, feeShares, if_pos (Or.inr (Or.inl hs))]
  · cases h

lemma limitGrid_withdraws {info : MessageInfo} {botId : ℕ} {recipient : Option String}
    {r : Response CosmosMsg} (hbot : loadBot st botId = .ok bot)
    (h : executeWithdraw q st info botId shares recipient = .ok (st₂, r) ∨
      sharesOf st info.sender = shares ∧ executeRedeemShares q st info botId recipient = .ok (st₂, r)) :
    ∃ payee paid, r.messages = transfers bot payee paid ∧
      ∀ i, (paid i).val = slice (bot.freeBalances i).val shares.val bot.totalShares.val := by
  have hredeem : ∃ holder attributes, redeem q st bot holder shares recipient attributes = .ok (st₂, r) := by
    rcases h with h | ⟨hshares, h⟩
    · simp only [executeWithdraw, bind_eq_ok, hbot, Except.ok.injEq] at h
      obtain ⟨_, -, _, -, _, rfl, _, -, _, -, _, -, _, -, h⟩ := h
      exact ⟨_, _, h⟩
    · simp only [executeRedeemShares, bind_eq_ok, hbot, Except.ok.injEq] at h
      obtain ⟨_, -, _, -, _, -, _, rfl, _, -, _, -, h⟩ := h
      rw [hshares] at h
      exact ⟨_, _, h⟩
  obtain ⟨holder, attributes, h⟩ := hredeem
  simp only [redeem, bind_eq_ok, multiplyRatio_eq_ok, Except.ok.injEq, Prod.mk.injEq] at h
  obtain ⟨amount0, ⟨-, h0⟩, amount1, ⟨-, h1⟩, payee, -, _, -, _, -, _, -, _, -, -, rfl⟩ := h
  exact ⟨payee, _, rfl, Fin.forall_fin_two.mpr ⟨h0, h1⟩⟩

lemma botAssetValue_floors (bot : Bot) :
    FloorsAt (fun held => botAssetValue ∅ { bot with freeBalances := held }) bot.referencePrice := by
  intro held v
  have hlist : (∅ : Std.ExtTreeMap ℕ GridOrder).toList = [] := by simp
  simp only [botAssetValue, hlist, foldChecked, bind_eq_ok, ensure_eq_ok, exists_const, Except.ok.injEq,
    LimitGrid.Pricing.checkedRatio, checkedRatioOr_eq_ok, checkedAdd_eq_ok, Decimal.one_atomics_val]
  constructor
  · rintro ⟨-, _, rfl, token1, ⟨hp, h1⟩, hv⟩
    exact ⟨hp, by rw [hv, h1]⟩
  · rintro ⟨hp, hv⟩
    have hlt := v.lt
    refine ⟨?_, held, rfl, ⟨_, by omega⟩, ⟨hp, rfl⟩, hv⟩
    simpa [Decimal.isZero, isZero] using hp

lemma botAssetValue_settled {orders : Std.ExtTreeMap ℕ GridOrder} {held : Fin 2 → Uint128}
    (h : botAssetValue orders bot = .ok assets)
    (hheld : foldChecked addEscrow bot.freeBalances orders.toList = .ok held) :
    botAssetValue ∅ { bot with freeBalances := held } = .ok assets := by
  have hlist : (∅ : Std.ExtTreeMap ℕ GridOrder).toList = [] := by simp
  simp only [botAssetValue, hheld, ok_bind] at h
  simpa only [botAssetValue, hlist, foldChecked, ok_bind] using h

end LimitGrid

section Rebalancer

open Rebalancer.State Rebalancer.Vault Rebalancer.Liquidity

variable {q : Querier} {st st₁ : Storage} {config : Config} {value nav₀ : Uint128} {mints : List WasmMsg}
  {L : Type} [Token L] [LawfulToken L] {shares shares₁ shares₂ : Shares L}

omit [Token L] [LawfulToken L] in
lemma rebalancer_charged {fee : FeeApplied}
    (h : Rebalancer.Vault.chargeFee q st config value nav₀ = .ok (st₁, some fee, mints)) :
    ∃ liquidity collector tokenInfo, config.liquidityContract = some liquidity ∧
      q.tokenInfo liquidity = .ok tokenInfo ∧ tokenInfo.totalSupply.val ≠ 0 ∧
      value.val * fee.feeBps / 10000 < 2 ^ 128 ∧
      fee.shares.val = feeShares (value.val * fee.feeBps / 10000) nav₀.val tokenInfo.totalSupply.val ∧
      mints = [.mintTo liquidity collector fee.shares] := by
  simp only [Rebalancer.Vault.chargeFee] at h
  split at h
  · rename_i registry collector _ _
    split at h
    · cases h
    · split at h
      · cases h
      · rename_i liquidity hliquidity
        split at h
        · cases h
        · simp only [bind_eq_ok, multiplyRatio_eq_ok] at h
          obtain ⟨feeValue, ⟨-, hvalue⟩, h⟩ := h
          split at h
          · cases h
          · simp only [bind_eq_ok, liftStd_eq_ok] at h
            obtain ⟨tokenInfo, hinfo, h⟩ := h
            split at h
            · cases h
            · rename_i hsupply
              simp only [bind_eq_ok] at h
              obtain ⟨minted, hminted, h⟩ := h
              split at h
              · cases h
              · cases h
                have hshares := (rebalancer_computes _ _ _).2 _ hminted
                have hlt := feeValue.lt
                rw [hvalue] at hshares hlt
                exact ⟨liquidity, collector, tokenInfo, hliquidity, hinfo, fun hz => hsupply (isZero_iff.mpr hz),
                  hlt, hshares, rfl⟩
  · cases h

lemma liquidity_mintTo {vq : VaultQuerier} {env : Env} {info : MessageInfo} {recipient : String}
    {amount : Uint128} {r : Response WasmMsg}
    (h : executeMintTo vq env shares info recipient amount = .ok (shares₁, r)) :
    (Token.totalSupply shares₁.token).val = (Token.totalSupply shares.token).val + amount.val ∧
      shares₁.config = shares.config := by
  simp only [executeMintTo, mintShares, bind_eq_ok, Except.ok.injEq, Prod.mk.injEq] at h
  obtain ⟨_, -, _, -, _, -, token, ⟨⟨token', answer⟩, htoken, rfl⟩, rfl, -⟩ := h
  have hexec : Token.execute env shares.token ⟨env.contract, []⟩ (.mint recipient amount)
      = .ok (token', answer) := by
    simp only [cw20Result] at htoken
    split at htoken
    · rename_i hx
      rw [hx, ← Except.ok.inj htoken]
    · cases htoken
  have hsupply := LawfulToken.supply hexec
  exact ⟨by simpa [BaseExecuteMsg.burned, BaseExecuteMsg.minted] using hsupply, rfl⟩

omit [LawfulToken L] in
lemma liquidity_withdraws {vq : VaultQuerier} {env : Env} {info : MessageInfo} {amount : Uint128}
    {recipient : Option String} {deadline : ℕ} {minAssets held : Fin 2 → Uint128} {r : Response WasmMsg}
    (hheld : vq.vaultBalances shares.config.vault = .ok held)
    (h : executeWithdraw vq env shares info amount recipient deadline (.proRata minAssets)
      = .ok (shares₂, r)) :
    ∃ (payee : Addr) (paid : Fin 2 → Uint128), (∀ i, (paid i).val
        = slice (held i).val amount.val (Token.totalSupply shares.token).val) ∧
      r.messages = (([0, 1] : List (Fin 2)).filterMap fun i => if isZero (paid i) then none
        else some (.replyOnSuccess (vaultTransfer shares.config
          ⟨shares.config.assetTokens i, paid i, payee⟩) transferReplyId)) := by
  simp only [Rebalancer.Liquidity.executeWithdraw, executeProRata, bind_eq_ok, hheld, liftStd_eq_ok,
    checkedRatio_eq_ok, Except.ok.injEq, Prod.mk.injEq] at h
  obtain ⟨_, -, _, -, _, -, _, -, _, rfl, claim0, ⟨-, h0⟩, claim1, ⟨-, h1⟩, payee, -, _, -, _, -, _, -, -,
    rfl⟩ := h
  refine ⟨payee, ![claim0, claim1], Fin.forall_fin_two.mpr ⟨h0, h1⟩, ?_⟩
  rw [List.map_filterMap]
  refine List.filterMap_congr fun i _ => ?_
  split <;> rfl

omit [Token L] [LawfulToken L] in
lemma navInToken0_floors (price : Decimal) : FloorsAt (navInToken0 · price) price := by
  intro held v
  simp only [navInToken0, bind_eq_ok, ensure_eq_ok, exists_const, narrow_eq_ok, Decimal.isZero, isZero,
    Bool.not_eq_true', beq_eq_false_iff_ne]

end Rebalancer

def MarketGridRedeemsWithinFee : Prop :=
  ∀ {q q' env info recipient price held value assets st st₁ st₂ r} {fee : MarketGrid.Vault.FeeApplied},
    MarketGrid.Vault.assetValueInToken0 held price = .ok assets →
    MarketGrid.Vault.chargeFee q st value assets = .ok (st₁, some fee) →
    (MarketGrid.Planning.balances q' env.contract st₁.config : MarketGrid.Vault.Result _) = .ok held →
    (MarketGrid.Vault.executeWithdraw q' env st₁ info fee.shares recipient = .ok (st₂, r) ∨
      MarketGrid.Vault.sharesOf st₁ info.sender = fee.shares ∧
        MarketGrid.Vault.executeRedeemShares q' env st₁ info recipient = .ok (st₂, r)) →
    ∃ payee paid, r.messages = MarketGrid.Vault.transfers st₁.config payee paid ∧
      WorthAtMost (MarketGrid.Vault.assetValueInToken0 · price) paid (value.val * fee.feeBps / 10000)

def LimitGridRedeemsWithinFee : Prop :=
  ∀ {q q' info botId recipient credited st st₁ st₂ st₃ bot bot₁ bot₂ r}
    {fee : LimitGrid.Vault.FeeApplied},
    LimitGrid.Vault.chargeFee q st bot credited = .ok (st₁, bot₁, some fee) →
    LimitGrid.State.loadBot st₂ botId = .ok bot₂ →
    bot₂.totalShares = bot₁.totalShares → bot₂.referencePrice = bot₁.referencePrice →
    foldChecked LimitGrid.Pricing.addEscrow bot.freeBalances st.orders.toList = .ok bot₂.freeBalances →
    (LimitGrid.Vault.executeWithdraw q' st₂ info botId fee.shares recipient = .ok (st₃, r) ∨
      LimitGrid.State.sharesOf st₂ info.sender = fee.shares ∧
        LimitGrid.Vault.executeRedeemShares q' st₂ info botId recipient = .ok (st₃, r)) →
    ∃ payee paid value, r.messages = LimitGrid.Vault.transfers bot₂ payee paid ∧
      LimitGrid.Pricing.creditedValue credited bot.referencePrice = .ok value ∧
      WorthAtMost (fun held => LimitGrid.Pricing.botAssetValue ∅ { bot₂ with freeBalances := held }) paid
        (value.val * fee.feeBps / 10000)

def RebalancerRedeemsWithinFee (L : Type) [Token L] : Prop :=
  ∀ {q vq vq' env env' info info' recipient deadline minAssets price held value nav₀ config st st₁ mints
      liquidity collector minted tokenInfo r r'} {shares shares₁ shares₂ : Rebalancer.Liquidity.Shares L}
    {fee : Rebalancer.Vault.FeeApplied},
    Rebalancer.Vault.navInToken0 held price = .ok nav₀ →
    Rebalancer.Vault.chargeFee q st config value nav₀ = .ok (st₁, some fee, mints) →
    mints = [.mintTo liquidity collector minted] →
    q.tokenInfo liquidity = .ok tokenInfo → tokenInfo.totalSupply = Token.totalSupply shares.token →
    Rebalancer.Liquidity.executeMintTo vq env shares info collector minted = .ok (shares₁, r) →
    vq'.vaultBalances shares₁.config.vault = .ok held →
    Rebalancer.Liquidity.executeWithdraw vq' env' shares₁ info' minted recipient deadline
      (.proRata minAssets) = .ok (shares₂, r') →
    ∃ payee paid, r'.messages = (([0, 1] : List (Fin 2)).filterMap fun i =>
        if isZero (paid i) then none
        else some (.replyOnSuccess (Rebalancer.Liquidity.vaultTransfer shares₁.config
          ⟨shares₁.config.assetTokens i, paid i, payee⟩) Rebalancer.Liquidity.transferReplyId)) ∧
      WorthAtMost (Rebalancer.Vault.navInToken0 · price) paid (value.val * fee.feeBps / 10000)

lemma marketGrid_redeems : MarketGridRedeemsWithinFee := by
  intro q q' env info recipient price held value assets st st₁ st₂ r fee hassets hcharge hheld hredeem
  obtain ⟨hlt, hshares, hsupply, htotal, -⟩ := marketGrid_charged hcharge
  obtain ⟨payee, paid, hr, hpaid⟩ := marketGrid_withdraws hheld hredeem
  rw [hshares] at hpaid htotal
  rw [htotal] at hpaid
  exact ⟨payee, paid, hr, worthAtMost_of_slices (assetValueInToken0_floors price) hassets hlt hsupply hpaid⟩

lemma limitGrid_redeems : LimitGridRedeemsWithinFee := by
  intro q q' info botId recipient credited st st₁ st₂ st₃ bot bot₁ bot₂ r fee hcharge hbot htotal₂ hprice₂
    hheld hredeem
  obtain ⟨value, assets, hvalue, hassets, hlt, hshares, hsupply, hbot₁, htotal⟩ := limitGrid_charged hcharge
  obtain ⟨payee, paid, hr, hpaid⟩ := limitGrid_withdraws hbot hredeem
  rw [htotal₂, htotal, hshares] at hpaid
  have hprice : bot₂.referencePrice = bot.referencePrice := by rw [hprice₂, hbot₁]
  have hfloors := botAssetValue_floors bot₂
  have hsettled : LimitGrid.Pricing.botAssetValue ∅ { bot₂ with freeBalances := bot₂.freeBalances }
      = .ok assets := by
    have h := (botAssetValue_floors bot _ _).mp (botAssetValue_settled hassets hheld)
    rw [← hprice] at h
    exact (hfloors _ _).mpr h
  exact ⟨payee, paid, value, hr, hvalue, worthAtMost_of_slices hfloors hsettled hlt hsupply hpaid⟩

lemma rebalancer_redeems (L : Type) [Token L] [LawfulToken L] : RebalancerRedeemsWithinFee L := by
  intro q vq vq' env env' info info' recipient deadline minAssets price held value nav₀ config st st₁ mints
    liquidity collector minted tokenInfo r r' shares shares₁ shares₂ fee hnav hcharge hmints hinfo hsame hmint
    hheld hwithdraw
  obtain ⟨liquidity', collector', tokenInfo', -, hinfo', hsupply, hlt, hshares, hmints'⟩ :=
    rebalancer_charged hcharge
  rw [hmints] at hmints'
  simp only [List.cons.injEq, Rebalancer.State.WasmMsg.mintTo.injEq, and_true] at hmints'
  obtain ⟨rfl, rfl, rfl⟩ := hmints'
  cases hinfo.symm.trans hinfo'
  obtain ⟨htotal, -⟩ := liquidity_mintTo hmint
  obtain ⟨payee, paid, hpaid, hr⟩ := liquidity_withdraws hheld hwithdraw
  rw [htotal, ← hsame, hshares] at hpaid
  exact ⟨payee, paid, hr, worthAtMost_of_slices (navInToken0_floors price) hnav hlt hsupply hpaid⟩

/-- The three vaults mint the same shares for a fee: the most that dilute the rest by no more than the
fee, none where there is nothing to dilute, and an error where they do not fit. Redeemed from the same
assets at the same price, they are worth at most the fee. -/
theorem fee_mint_agrees_and_redeems_within_fee (L : Type) [Token L] [LawfulToken L] :
    (∀ fee assets supply : Uint128,
      Computes (MarketGrid.Vault.feeSharesForValue fee assets supply)
        (feeShares fee.val assets.val supply.val) ∧
      Computes (Rebalancer.Vault.feeSharesForValue fee assets supply)
        (feeShares fee.val assets.val supply.val) ∧
      ∀ (credited : Uint128) (feeBps : ℕ), credited.val * feeBps / 10000 = fee.val →
        Computes ((LimitGrid.Pricing.feeShareMint credited feeBps assets supply).map Prod.snd)
          (feeShares fee.val assets.val supply.val)) ∧
    (∀ fee assets supply : ℕ, fee < assets →
      IsGreatest {x | x * assets ≤ fee * (supply + x)} (feeShares fee assets supply)) ∧
    (∀ fee assets supply : ℕ, fee = 0 ∨ supply = 0 ∨ assets ≤ fee → feeShares fee assets supply = 0) ∧
    MarketGridRedeemsWithinFee ∧ LimitGridRedeemsWithinFee ∧ RebalancerRedeemsWithinFee L := by
  refine ⟨fun fee assets supply => ⟨marketGrid_computes _ _ _, rebalancer_computes _ _ _, ?_⟩,
    fun _ _ _ h => isGreatest_feeShares h, fun _ _ _ h => if_pos h, marketGrid_redeems, limitGrid_redeems,
    rebalancer_redeems L⟩
  intro credited feeBps hfee
  rw [feeShareMint_shares hfee]
  exact limitGrid_computes _ _ _

theorem fee_mint_agrees_and_redeems_within_fee_ledger :
    Computes (MarketGrid.Vault.feeSharesForValue ⟨100, by decide⟩ ⟨2000, by decide⟩ ⟨1000, by decide⟩) 52 ∧
      Computes (Rebalancer.Vault.feeSharesForValue ⟨100, by decide⟩ ⟨2000, by decide⟩ ⟨1000, by decide⟩) 52 ∧
      RebalancerRedeemsWithinFee CosmWasm.TokenLedger.Ledger := by
  obtain ⟨hmint, -, -, -, -, hredeem⟩ :=
    fee_mint_agrees_and_redeems_within_fee CosmWasm.TokenLedger.Ledger
  have h := hmint ⟨100, by decide⟩ ⟨2000, by decide⟩ ⟨1000, by decide⟩
  exact ⟨h.1, h.2.1, hredeem⟩

end Cl8yDexBots.Vaults.FeeMint
