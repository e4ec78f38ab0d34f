import Kona.Executor.Execute

/-!
# The base fee of a block follows EIP-1559

`prepare_block_env` sets the block's base fee to the parent header's
`next_block_base_fee` under the base-fee parameters in force (Canyon's once
Canyon is active), `0` for a parent without a base fee, and `execute_payload`
writes the same value into the header it returns. The value is `alloy`'s
`calc_next_block_base_fee` on `u128` (`calcNextBlockBaseFee`), whose products
wrap in a release build.

`BaseFeeFollows` is EIP-1559's rule for a next base fee: unchanged when the
parent used exactly its gas target, strictly higher when it used more, and lower
by at most `1 / denominator` of the parent's base fee when it used less.
`calcNextBlockBaseFee_follows` shows the formula obeys it whenever no `u128`
product or sum in it wraps, and `executePayload_baseFee` carries that to every
header `execute_payload` returns, from every executor state. The no-wrap bounds
are real preconditions: past them the `u128` arithmetic of the formula wraps.
-/

namespace Kona.Executor

/-! ## EIP-1559's rule -/

/-- A base fee `b'` follows a block with base fee `b` that used `gasUsed` of its
`gasTarget` as EIP-1559 asks, with change denominator `denominator`. -/
def BaseFeeFollows (b gasUsed gasTarget denominator b' : Nat) : Prop :=
  (gasUsed = gasTarget → b' = b) ∧ (gasTarget < gasUsed → b < b') ∧
    (gasUsed < gasTarget → b - b / denominator ≤ b' ∧ b' ≤ b)

/-- Rust's `/` returns exactly on a non-zero divisor, with the quotient. -/
theorem checkedDiv_eq_ok {a b q : Nat} : checkedDiv a b = .ok q ↔ b ≠ 0 ∧ q = a / b := by
  unfold checkedDiv
  split <;> simp_all [eq_comm]

/-- `alloy`'s formula follows EIP-1559 when neither `b * gasUsed`, `b * gasLimit`
nor `denominator * gasLimit` reaches `u128`'s bound. One case per branch of the
formula's `match` on the comparison with the gas target. -/
theorem calcNextBlockBaseFee_follows {gasUsed gasLimit b b' : Nat} {p : BaseFeeParams}
    (h : calcNextBlockBaseFee gasUsed gasLimit b p = .ok b')
    (hwb : b * (gasUsed + gasLimit) < 2 ^ 127)
    (hwd : p.maxChangeDenominator * gasLimit < 2 ^ 128) :
    BaseFeeFollows b gasUsed (gasLimit / p.elasticityMultiplier) p.maxChangeDenominator b' := by
  unfold calcNextBlockBaseFee at h
  obtain ⟨t, ht, h⟩ := except_bind_eq_ok.mp h
  obtain ⟨-, rfl⟩ := checkedDiv_eq_ok.mp ht
  have htL : gasLimit / p.elasticityMultiplier ≤ gasLimit := Nat.div_le_self _ _
  generalize gasLimit / p.elasticityMultiplier = t at h htL ⊢
  have hdt : p.maxChangeDenominator * t < 2 ^ 128 :=
    lt_of_le_of_lt (Nat.mul_le_mul_left _ htL) hwd
  have hbt : b * t ≤ b * (gasUsed + gasLimit) := Nat.mul_le_mul_left _ (by omega)
  have hbu : b * gasUsed ≤ b * (gasUsed + gasLimit) := Nat.mul_le_mul_left _ (by omega)
  split at h
  · next hc =>
    -- on target: the base fee is kept
    cases h
    have := Nat.compare_eq_eq.mp hc
    exact ⟨fun _ => rfl, fun _ => by omega, fun _ => by omega⟩
  · next hc =>
    -- above target: `b + max 1 d`, which does not wrap
    have hgt := Nat.compare_eq_gt.mp hc
    obtain ⟨q, hq, h⟩ := except_bind_eq_ok.mp h
    obtain ⟨-, rfl⟩ := checkedDiv_eq_ok.mp hq
    cases h
    have hX : b * (gasUsed - t) ≤ b * gasUsed := Nat.mul_le_mul_left _ (Nat.sub_le _ _)
    have hbY : b ≤ b * gasUsed := Nat.le_mul_of_pos_right _ (by omega)
    rw [Nat.mod_eq_of_lt (show b * (gasUsed - t) < 2 ^ 128 by omega), Nat.mod_eq_of_lt hdt]
    have hq := Nat.div_le_self (b * (gasUsed - t)) (p.maxChangeDenominator * t)
    rw [Nat.mod_eq_of_lt (by omega)]
    exact ⟨fun _ => by omega, fun _ => by omega, fun _ => by omega⟩
  · next hc =>
    -- below target: `b - d` with `d ≤ b * t / (denominator * t) = b / denominator`
    have hlt := Nat.compare_eq_lt.mp hc
    obtain ⟨q, hq, h⟩ := except_bind_eq_ok.mp h
    obtain ⟨-, rfl⟩ := checkedDiv_eq_ok.mp hq
    cases h
    have hX : b * (t - gasUsed) ≤ b * t := Nat.mul_le_mul_left _ (Nat.sub_le _ _)
    rw [Nat.mod_eq_of_lt (show b * (t - gasUsed) < 2 ^ 128 by omega), Nat.mod_eq_of_lt hdt]
    have hq : b * (t - gasUsed) / (p.maxChangeDenominator * t) ≤ b / p.maxChangeDenominator :=
      calc _ ≤ b * t / (p.maxChangeDenominator * t) := Nat.div_le_div_right hX
        _ = b / p.maxChangeDenominator := Nat.mul_div_mul_right _ _ (by omega)
    generalize b * (t - gasUsed) / (p.maxChangeDenominator * t) = q at hq ⊢
    exact ⟨fun _ => by omega, fun _ => by omega, fun _ => ⟨by omega, by omega⟩⟩

/-! ## The block environment and the header -/

/-- The base fee `prepare_block_env` sets is the parent's next base fee under the
parameters in force, `0` when the parent has none. -/
theorem prepareBlockEnv_basefee {specId : SpecId} {config : RollupConfig} {parentHeader : Header}
    {payloadAttrs : L2PayloadAttributes} {env : BlockEnv}
    (h : prepareBlockEnv specId config parentHeader payloadAttrs = .ok env) :
    ∃ p fee, baseFeeParams config payloadAttrs.timestamp = .ok p ∧
      parentHeader.nextBlockBaseFee p = .ok fee ∧ env.basefee = fee.getD 0 := by
  obtain ⟨p, hp, h⟩ := except_bind_eq_ok.mp h
  obtain ⟨fee, hfee, h⟩ := except_bind_eq_ok.mp h
  obtain ⟨g, -, h⟩ := except_bind_eq_ok.mp h
  cases h
  exact ⟨p, fee, hp, hfee, rfl⟩

section Header

variable {σ β : Type} (codec : Codec) (evm : Evm σ β)

/-- **The header's base fee follows EIP-1559.** For every executor and payload:
when `execute_payload` returns a header after a parent with base fee `b`, and
neither `b` times the parent's gas used and gas limit nor the change denominator
times its gas limit reaches `u128`'s bound, the header's base fee follows the
parent's as EIP-1559 asks, for the gas target `gas_limit / elasticity` and the
denominator of the parameters in force at the payload's timestamp. -/
theorem executePayload_baseFee {payload : L2PayloadAttributes}
    {ex ex' : StatelessL2BlockExecutor σ} {H : Header}
    (h : executePayload codec evm payload ex = .ok H ex') {p : BaseFeeParams}
    (hp : baseFeeParams ex.config payload.timestamp = .ok p) {b : Nat}
    (hb : ex.parent.header.baseFeePerGas = some b)
    (hwb : b * (ex.parent.header.gasUsed + ex.parent.header.gasLimit) < 2 ^ 127)
    (hwd : p.maxChangeDenominator * ex.parent.header.gasLimit < 2 ^ 128) :
    ∃ b', H.baseFeePerGas = some b' ∧
      BaseFeeFollows b ex.parent.header.gasUsed
        (ex.parent.header.gasLimit / p.elasticityMultiplier) p.maxChangeDenominator b' := by
  obtain ⟨db, hbuild, -⟩ := executePayload_eq_ok.1 h
  obtain ⟨env, -, -, -, -, -, -, henv, -, -, -, -, rfl⟩ := buildHeader_eq_ok hbuild
  obtain ⟨p', fee, hp', hfee, hbase⟩ := prepareBlockEnv_basefee henv
  obtain rfl : p' = p := Except.ok.inj (hp'.symm.trans hp)
  rw [Header.nextBlockBaseFee, hb] at hfee
  obtain ⟨b', hc, rfl⟩ := except_map_eq_ok.mp hfee
  exact ⟨b', congrArg some hbase, calcNextBlockBaseFee_follows hc hwb hwd⟩

end Header

theorem executePayload_baseFee_samplePayload :
    ∃ H ex', executePayload sampleCodec sampleEvm (samplePayload (some 1000)) sampleExecutor =
        .ok H ex' ∧ ∃ b', H.baseFeePerGas = some b' ∧
      BaseFeeFollows 1 sampleParent.header.gasUsed (sampleParent.header.gasLimit / 6) 250 b' := by
  obtain ⟨H, ex', h⟩ : ∃ H ex',
      executePayload sampleCodec sampleEvm (samplePayload (some 1000)) sampleExecutor = .ok H ex' :=
    ⟨_, _, rfl⟩
  exact ⟨H, ex', h, executePayload_baseFee sampleCodec sampleEvm h rfl rfl (by decide) (by decide)⟩

end Kona.Executor
