import PageRisk.Proofs.Magnitude

set_option autoImplicit false

/-! # How much rounding adds

One rounding to 53 bits adds half a unit in the last place at most, so that a product is at most the exact
one times `slack`. `Within q u` says that the number `u` is at least one and at most `q`, as an exact fraction;
it is kept by packing as long as `q` is below `2 ^ 1024` (`unpack_pack`). -/

namespace PageRisk.Rounding

open Float.Model (UnpackedFloat Format totalExponent)
open Float.Model.UnpackedFloat
open Magnitude

/-- The most that one rounding multiplies a number by. -/
def slack : ℚ := 1 + 1 / 2 ^ 53

theorem slack_eq : slack = (2 ^ 53 + 1) / 2 ^ 53 := by norm_num [slack]

theorem slack_pos : 0 < slack := by norm_num [slack]

theorem one_le_slack : 1 ≤ slack := by norm_num [slack]

/-- A number of at least one and at most `q`, with all 53 bits of its mantissa. -/
def Within (q : ℚ) : UnpackedFloat → Prop
  | .finite _ m e _ => 2 ^ 52 ≤ m ∧ m < 2 ^ 53 ∧ -52 ≤ e ∧ (m : ℚ) * 2 ^ e ≤ q
  | _ => False

theorem Within.mono {q r : ℚ} (hqr : q ≤ r) {u : UnpackedFloat} (h : Within q u) : Within r u := by
  cases u with
  | finite s m e hm => exact ⟨h.1, h.2.1, h.2.2.1, h.2.2.2.trans hqr⟩
  | _ => exact h

/-! ## Rounding a mantissa -/

theorem roundBit_shiftRight (em : ExtendedMantissa) (s : Nat) :
    (em >>> (s + 1)).roundBit = (em.mantissa / 2 ^ s % 2 != 0) := by
  change ((em >>> s).mantissa % 2 != 0) = _
  rw [mantissa_shiftRight]

theorem mantissa_le_rounded (em : ExtendedMantissa) : em.mantissa ≤ em.roundedMantissa := by
  obtain ⟨m, r, s⟩ := em
  cases r <;> cases s <;>
    simp [ExtendedMantissa.roundedMantissa, ExtendedMantissa.accuracy, Accuracy.roundToNearestEven]

/-- `roundedMantissa` rounds up only where the first bit that is cut off is set. -/
theorem rounded_of_not_roundBit {em : ExtendedMantissa} (h : em.roundBit = false) :
    em.roundedMantissa = em.mantissa := by
  obtain ⟨m, r, s⟩ := em
  obtain rfl : r = false := h
  cases s <;> rfl

/-- Cutting bits off adds at most half of what the last bit left is worth. -/
theorem rounded_shift_le {em : ExtendedMantissa} (h : em.roundBit = false) (s : Nat) :
    2 * ((em >>> s).roundedMantissa * 2 ^ s) ≤ 2 * em.mantissa + 2 ^ s := by
  cases s with
  | zero =>
    change 2 * (em.roundedMantissa * 2 ^ 0) ≤ _
    rw [rounded_of_not_roundBit h]
    omega
  | succ s =>
    have hmantissa := mantissa_shiftRight em (s + 1)
    have hbit := roundBit_shiftRight em s
    generalize em >>> (s + 1) = shifted at hmantissa hbit ⊢
    have hhalf : em.mantissa / 2 ^ (s + 1) = em.mantissa / 2 ^ s / 2 := by
      rw [Nat.pow_succ, Nat.div_div_eq_div_mul]
    have hdiv := Nat.div_mul_le_self em.mantissa (2 ^ s)
    cases hset : shifted.roundBit with
    | false =>
      rw [rounded_of_not_roundBit hset, hmantissa]
      exact (Nat.mul_le_mul_left 2 (Nat.div_mul_le_self _ _)).trans (Nat.le_add_right _ _)
    | true =>
      -- The quotient before the last cut is odd, so half a unit of the last place is there already.
      rw [hset] at hbit
      have hodd : em.mantissa / 2 ^ s % 2 ≠ 0 := by simpa using hbit.symm
      have hle := roundedMantissa_le shifted
      rw [hmantissa, hhalf] at hle
      have hup : shifted.roundedMantissa * 2 ≤ em.mantissa / 2 ^ s + 1 := by omega
      calc 2 * (shifted.roundedMantissa * 2 ^ (s + 1))
          = 2 * (shifted.roundedMantissa * 2 * 2 ^ s) := by ring
        _ ≤ 2 * ((em.mantissa / 2 ^ s + 1) * 2 ^ s) := by gcongr
        _ = 2 * (em.mantissa / 2 ^ s * 2 ^ s) + 2 ^ (s + 1) := by ring
        _ ≤ 2 * em.mantissa + 2 ^ (s + 1) := by omega

/-! ## Rounding a number -/

/-- For numbers from one on, `shiftToTargetExponent` leaves 53 bits. -/
theorem shiftToTargetExponent_eq {m : Nat} {e : Int} (hm : 52 ≤ m.log2)
    (he : 0 ≤ (m.log2 : Int) + e) :
    shiftToTargetExponent Format.binary64 m e .exact
      = (ExtendedMantissa.mk m false false >>> (m.log2 - 52), (m.log2 : Int) + e - 52) := by
  have htarget : Format.binary64.targetExponent (totalExponent m e) = (m.log2 : Int) + e - 52 := by
    simp only [Format.targetExponent, totalExponent, Format.mantissaBits, Format.minExponent]
    norm_num
    omega
  have hshift : ((m.log2 : Int) + e - 52 - e).toNat = m.log2 - 52 := by omega
  have hexponent : e + ((m.log2 - 52 : Nat) : Int) = (m.log2 : Int) + e - 52 := by omega
  simp only [shiftToTargetExponent, shiftToExponent, htarget, hshift, hexponent]
  rfl

/-- `roundWithAccuracy` ends with the rounded mantissa, shifted once more where it got one bit more. -/
theorem exists_roundWithAccuracy {m : Nat} {e : Int} (hm : 2 ^ 52 ≤ m)
    (he : 0 ≤ (m.log2 : Int) + e) (sign : Sign) :
    ∃ m' e' hm', roundWithAccuracy Format.binary64 sign m e .exact = .finite sign m' e' hm'
      ∧ 2 ^ 52 ≤ m' ∧ m' < 2 ^ 53 ∧ -52 ≤ e'
      ∧ (m' : ℚ) * 2 ^ e' = (ExtendedMantissa.mk m false false >>> (m.log2 - 52)).roundedMantissa
        * 2 ^ ((m.log2 : Int) + e - 52) := by
  have hne : m ≠ 0 := by omega
  have hlog : 52 ≤ m.log2 := (Nat.le_log2 hne).2 hm
  have hmantissa := mantissa_shiftRight (.mk m false false) (m.log2 - 52)
  have hlow := mantissa_le_rounded (ExtendedMantissa.mk m false false >>> (m.log2 - 52))
  have hhigh := roundedMantissa_le (ExtendedMantissa.mk m false false >>> (m.log2 - 52))
  unfold roundWithAccuracy
  rw [shiftToTargetExponent_eq hlog he]
  generalize ExtendedMantissa.mk m false false >>> (m.log2 - 52) = em at hmantissa hlow hhigh ⊢
  -- The quotient has 53 bits, so the rounded one has as many or is the next power of two.
  have hleast : 2 ^ 52 ≤ m / 2 ^ (m.log2 - 52) := by
    rw [Nat.le_div_iff_mul_le (by positivity), ← Nat.pow_add, Nat.add_sub_cancel' hlog]
    exact Nat.log2_self_le hne
  have hgreatest : m / 2 ^ (m.log2 - 52) < 2 ^ 53 := by
    rw [Nat.div_lt_iff_lt_mul (by positivity), ← Nat.pow_add, show 53 + (m.log2 - 52) = m.log2 + 1 by omega]
    exact Nat.lt_log2_self
  simp only at hmantissa
  rw [hmantissa] at hlow hhigh
  simp only
  by_cases hpower : em.roundedMantissa = 2 ^ 53
  · have hlog' : (2 ^ 53 : Nat).log2 = 53 := by decide
    have hfinal : (ExtendedMantissa.mk (2 ^ 53) false false >>> (53 - 52)).mantissa = 2 ^ 52 := by
      decide
    rw [hpower, shiftToTargetExponent_eq (by omega) (by omega), hlog']
    refine ⟨2 ^ 52, (m.log2 : Int) + e - 52 + 1, by omega, ?_, by omega, by omega, by omega, ?_⟩
    · simp only [hfinal]
      rw [dif_neg (by omega)]
      congr 1
      omega
    · rw [zpow_add₀ (by norm_num)]
      push_cast
      ring
  · have hlog' : em.roundedMantissa.log2 = 52 := by
      rw [Nat.log2_eq_iff (by omega)]
      omega
    have hfinal : (ExtendedMantissa.mk em.roundedMantissa false false >>> (52 - 52)).mantissa
        = em.roundedMantissa := rfl
    rw [shiftToTargetExponent_eq (by omega) (by omega), hlog']
    refine ⟨em.roundedMantissa, (m.log2 : Int) + e - 52, by omega, ?_, by omega, by omega, by omega, rfl⟩
    simp only [hfinal]
    rw [dif_neg (by omega)]
    congr 1
    omega

/-- The unit of the last place that is left, by how many places are cut off. -/
theorem zpow_exponent_eq {m : Nat} (hlog : 52 ≤ m.log2) (e : Int) :
    (2 : ℚ) ^ ((m.log2 : Int) + e - 52) = 2 ^ (m.log2 - 52) * 2 ^ e := by
  rw [← zpow_natCast, ← zpow_add₀ (by norm_num)]
  congr 1
  omega

/-- `roundWithAccuracy` gives at most half a unit of the last place more than the exact number. -/
theorem roundWithAccuracy_within {m : Nat} {e : Int} (hm : 2 ^ 52 ≤ m)
    (he : 0 ≤ (m.log2 : Int) + e) (sign : Sign) :
    Within (m * 2 ^ e + 2 ^ ((m.log2 : Int) + e - 53)) (roundWithAccuracy Format.binary64 sign m e .exact) := by
  obtain ⟨m', e', hm', heq, hlow, hhigh, hexponent, hvalue⟩ := exists_roundWithAccuracy hm he sign
  rw [heq]
  refine ⟨hlow, hhigh, hexponent, ?_⟩
  have hlog : 52 ≤ m.log2 := (Nat.le_log2 (by omega)).2 hm
  have hexact : (ExtendedMantissa.mk m false false).roundBit = false := rfl
  have hround := rounded_shift_le hexact (m.log2 - 52)
  generalize ExtendedMantissa.mk m false false >>> (m.log2 - 52) = em at hround hvalue
  have hround' : 2 * ((em.roundedMantissa : ℚ) * 2 ^ (m.log2 - 52)) ≤ 2 * m + 2 ^ (m.log2 - 52) := by
    exact_mod_cast hround
  have hsplit := zpow_exponent_eq hlog e
  have hhalf : (2 : ℚ) ^ ((m.log2 : Int) + e - 53) = 2 ^ (m.log2 - 52) * 2 ^ e / 2 := by
    have hnext : (m.log2 : Int) + e - 52 = (m.log2 : Int) + e - 53 + 1 := by omega
    rw [← hsplit, hnext, zpow_add_one₀ (by norm_num)]
    ring
  rw [hvalue, hsplit, hhalf]
  have hpos : (0 : ℚ) < 2 ^ e := by positivity
  nlinarith [mul_le_mul_of_nonneg_right hround' hpos.le]

/-- `roundWithAccuracy` multiplies a number by `slack` at most. -/
theorem roundWithAccuracy_slack {m : Nat} {e : Int} (hm : 2 ^ 52 ≤ m)
    (he : 0 ≤ (m.log2 : Int) + e) (sign : Sign) :
    Within (m * 2 ^ e * slack) (roundWithAccuracy Format.binary64 sign m e .exact) := by
  refine (roundWithAccuracy_within hm he sign).mono ?_
  have hlog : ((2 ^ m.log2 : Nat) : ℚ) ≤ m := by exact_mod_cast Nat.log2_self_le (by omega)
  have hsplit : (2 : ℚ) ^ ((m.log2 : Int) + e - 53) = 2 ^ m.log2 * 2 ^ e / 2 ^ 53 := by
    rw [zpow_sub₀ (by norm_num), zpow_add₀ (by norm_num), zpow_natCast]
    norm_num
  have hpos : (0 : ℚ) < 2 ^ e := by positivity
  rw [hsplit, slack]
  push_cast at hlog
  have := mul_le_mul_of_nonneg_right hlog hpos.le
  field_simp
  nlinarith

/-! ## Products -/

/-- Before it is rounded, the product by `mul` is at most that of the bounds. -/
theorem exists_mul {q r : ℚ} {u v : UnpackedFloat} (hu : Within q u) (hv : Within r v) :
    ∃ (s : Sign) (m : Nat) (e : Int),
      mul Format.binary64 u v = roundWithAccuracy Format.binary64 s m e .exact
      ∧ 2 ^ 52 ≤ m ∧ 0 ≤ (m.log2 : Int) + e ∧ (m : ℚ) * 2 ^ e ≤ q * r := by
  match u, v, hu, hv with
  | .finite s₁ m₁ e₁ hm₁, .finite s₂ m₂ e₂ hm₂, ⟨hlow₁, _, he₁, hle₁⟩, ⟨hlow₂, _, he₂, hle₂⟩ =>
    have hlow : 2 ^ 104 ≤ m₁ * m₂ :=
      (by norm_num : 2 ^ 104 = 2 ^ 52 * 2 ^ 52) ▸ Nat.mul_le_mul hlow₁ hlow₂
    have hlog : 104 ≤ (m₁ * m₂).log2 := (Nat.le_log2 (by omega)).2 hlow
    refine ⟨s₁ * s₂, m₁ * m₂, e₁ + e₂, rfl, by omega, by omega, ?_⟩
    calc ((m₁ * m₂ : Nat) : ℚ) * 2 ^ (e₁ + e₂) = (m₁ * 2 ^ e₁) * (m₂ * 2 ^ e₂) := by
          rw [zpow_add₀ (by norm_num)]
          push_cast
          ring
      _ ≤ q * r := mul_le_mul hle₁ hle₂ (by positivity) (hle₁.trans' (by positivity))

theorem mul_within {q r : ℚ} {u v : UnpackedFloat} (hu : Within q u) (hv : Within r v) :
    Within (q * r * slack) (mul Format.binary64 u v) := by
  obtain ⟨s, m, e, heq, hm, he, hle⟩ := exists_mul hu hv
  rw [heq]
  exact (roundWithAccuracy_slack hm he s).mono (mul_le_mul_of_nonneg_right hle slack_pos.le)

/-- `mul` of numbers whose product is below the midpoint between the greatest number and `2 ^ 1024` does not
    overflow. -/
theorem mul_fits {q r : ℚ} {u v : UnpackedFloat} (hu : Within q u) (hv : Within r v)
    (hqr : q * r < 2 ^ 1024 - 2 ^ 970) :
    ∃ bound < 2 ^ 1024, Within bound (mul Format.binary64 u v) := by
  obtain ⟨s, m, e, heq, hm, he, hle⟩ := exists_mul hu hv
  rw [heq]
  refine ⟨_, ?_, roundWithAccuracy_within hm he s⟩
  have hlog : ((2 ^ m.log2 : Nat) : ℚ) ≤ m := by exact_mod_cast Nat.log2_self_le (by omega)
  have hpower : (2 : ℚ) ^ ((m.log2 : Int) + e) < 2 ^ (1024 : Int) := by
    calc (2 : ℚ) ^ ((m.log2 : Int) + e) = ((2 ^ m.log2 : Nat) : ℚ) * 2 ^ e := by
          rw [zpow_add₀ (by norm_num), zpow_natCast]
          push_cast
          rfl
      _ ≤ m * 2 ^ e := by gcongr
      _ ≤ q * r := hle
      _ < 2 ^ (1024 : Int) := hqr.trans (by norm_num)
  have hexponent : (m.log2 : Int) + e < 1024 := (zpow_lt_zpow_iff_right₀ (by norm_num)).1 hpower
  have hhalf : (2 : ℚ) ^ ((m.log2 : Int) + e - 53) ≤ 2 ^ (970 : Int) :=
    zpow_le_zpow_right₀ (by norm_num) (by omega)
  calc (m : ℚ) * 2 ^ e + 2 ^ ((m.log2 : Int) + e - 53) ≤ q * r + 2 ^ (970 : Nat) :=
        add_le_add hle (hhalf.trans_eq (zpow_natCast 2 970))
    _ < 2 ^ 1024 - 2 ^ 970 + 2 ^ (970 : Nat) := add_lt_add_left hqr _
    _ = 2 ^ 1024 := sub_add_cancel _ _

/-! ## Packing -/

/-- A number below `2 ^ 1024` with all bits of its mantissa (`Within`) is packed as it is. -/
theorem unpack_pack {q : ℚ} (hq : q < 2 ^ 1024) {u : UnpackedFloat} (h : Within q u) :
    unpack Format.binary64 (pack Format.binary64 u) = u := by
  match u, h with
  | .finite s m e hm, ⟨hlow, hhigh, he, hle⟩ =>
    have hlog : m.log2 = 52 := (Nat.log2_eq_iff (by omega)).2 ⟨hlow, hhigh⟩
    have hexponent : e ≤ 971 := by
      have hpower : (2 : ℚ) ^ (52 + e) < 2 ^ (1024 : Int) :=
        calc (2 : ℚ) ^ (52 + e) = ((2 ^ 52 : Nat) : ℚ) * 2 ^ e := by
              rw [zpow_add₀ (by norm_num)]
              norm_num
          _ ≤ m * 2 ^ e := by gcongr
          _ ≤ q := hle
          _ < 2 ^ (1024 : Int) := hq
      have := (zpow_lt_zpow_iff_right₀ (by norm_num : (1 : ℚ) < 2)).1 hpower
      omega
    have hbias : e + Format.binary64.exponentBias + (52 : Nat) = e + 1075 := by
      simp only [Format.exponentBias]
      norm_num
      omega
    have hfits : ¬ 2 ^ Format.binary64.exponentBits ≤ (e + 1075).toNat + 1 := by
      norm_num
      omega
    have htoNat : (BitVec.ofNat 11 (e + 1075).toNat).toNat = (e + 1075).toNat := by
      rw [BitVec.toNat_ofNat, Nat.mod_eq_of_lt (by omega)]
    have hinfinite : BitVec.ofNat 11 (e + 1075).toNat ≠ -1#11 := by
      intro heq
      have := htoNat.symm.trans (congrArg BitVec.toNat heq)
      simp at this
      omega
    have hzero : BitVec.ofNat 11 (e + 1075).toNat ≠ 0#11 := by
      intro heq
      have := htoNat.symm.trans (congrArg BitVec.toNat heq)
      simp at this
      omega
    have hmantissa : (1#1 ++ BitVec.ofNat 52 m).toNat = m := by
      rw [BitVec.toNat_append, ← Nat.shiftLeft_add_eq_or_of_lt (BitVec.isLt _), BitVec.toNat_ofNat]
      simp
      omega
    unfold pack
    simp only [hbias]
    rw [if_neg hfits, if_pos (by rw [hlog]; rfl)]
    unfold unpack
    simp only [unpackMantissa_packComponents, unpackExponent_packComponents, unpackSign_packComponents]
    rw [if_neg hinfinite, if_neg hzero]
    have hsign : Sign.ofBitVec s.toBitVec = s := by cases s <;> rfl
    rw [UnpackedFloat.finite.injEq]
    refine ⟨hsign, hmantissa, ?_⟩
    rw [htoNat]
    omega

theorem Within.unpack_pack {q : ℚ} (hq : q < 2 ^ 1024) {u : UnpackedFloat} (h : Within q u) :
    Within q (unpack Format.binary64 (pack Format.binary64 u)) :=
  (Rounding.unpack_pack hq h).symm ▸ h

/-! ## Natural numbers and powers of ten -/

/-- `UnpackedFloat.ofScientific` of a natural number and a power of ten is rounded once. -/
theorem ofScientific_within {m : Nat} (hm : m ≠ 0) {e : Nat} (he : e ≤ 308) :
    Within (m * 10 ^ e * slack) (UnpackedFloat.ofScientific Format.binary64 m e) := by
  have hlarge : ¬ ((e : Int) > 2 ^ Format.binary64.exponentBits) := by
    norm_num
    omega
  have hsmall : ¬ ((e : Int) < -(2 ^ Format.binary64.exponentBits + (m.log2 : Int))) := by
    norm_num
    omega
  unfold UnpackedFloat.ofScientific
  rw [dif_neg hm, if_neg hlarge, if_neg hsmall, if_pos (Int.natCast_nonneg e)]
  have hpos : 1 ≤ m * 10 ^ e := Nat.mul_pos (by omega) (by positivity)
  have hproduct : m <<< 53 * 10 ^ e = 2 ^ 53 * (m * 10 ^ e) := by
    rw [Nat.shiftLeft_eq]
    ring
  have hlow : 2 ^ 53 ≤ m <<< 53 * 10 ^ e := by
    rw [hproduct]
    exact Nat.le_mul_of_pos_right _ hpos
  have hlog : 53 ≤ (m <<< 53 * 10 ^ e).log2 := (Nat.le_log2 (by omega)).2 hlow
  refine (roundWithAccuracy_slack (m := m <<< 53 * 10 ^ e) (e := -53 + 0) (by omega) (by omega)
    (.positive * .positive)).mono (le_of_eq ?_)
  have hcancel : (2 : ℚ) ^ 53 * 2 ^ (-53 + 0 : Int) = 1 := by norm_num [zpow_neg]
  rw [hproduct]
  push_cast
  linear_combination (m * 10 ^ e * slack) * hcancel

/-- `Float.ofScientific` of a power of ten is rounded once. -/
theorem tenPower_within {e : Nat} (he : e ≤ 308) :
    Within (10 ^ e * slack) (Float.ofScientific 1 false e).toModel.unpack := by
  -- Small powers are taken from a table, which has what would be computed.
  have htable : ∀ e < 23, (Float.ofScientific 1 false e).toModel.toBits.toBitVec
      = pack Format.binary64 (UnpackedFloat.ofScientific Format.binary64 1 e) := by
    decide +kernel
  have hunpack : (Float.ofScientific 1 false e).toModel.unpack
      = unpack Format.binary64 (pack Format.binary64 (UnpackedFloat.ofScientific Format.binary64 1 e)) := by
    by_cases hsmall : e < 23
    · exact congrArg (unpack Format.binary64) (htable e hsmall)
    · rw [Float.ofScientific, dif_neg (by omega)]
      rfl
  have hwithin := ofScientific_within one_ne_zero he
  rw [Nat.cast_one, one_mul] at hwithin
  rw [hunpack]
  refine hwithin.unpack_pack ?_
  calc (10 : ℚ) ^ e * slack ≤ 10 ^ 308 * slack :=
        mul_le_mul_of_nonneg_right (pow_le_pow_right₀ (by norm_num) he) slack_pos.le
    _ < 2 ^ 1024 := by
      have hnat : 10 ^ 308 * (2 ^ 53 + 1) < 2 ^ 1024 * 2 ^ 53 := by decide +kernel
      rw [slack_eq, ← mul_div_assoc, div_lt_iff₀ (by positivity)]
      exact_mod_cast hnat

/-- `normalize` brings a natural number to 53 bits at least before it is rounded. -/
theorem exists_normalize {n : Nat} (hn : n ≠ 0) :
    ∃ m e, UnpackedFloat.normalize Format.binary64 n 0 .positive
        = roundWithAccuracy Format.binary64 .positive m e .exact
      ∧ 2 ^ 52 ≤ m ∧ 0 ≤ (m.log2 : Int) + e ∧ (m : ℚ) * 2 ^ e = n ∧ (n < 2 ^ 53 → m < 2 ^ 53) := by
  have htarget : Format.binary64.targetExponent (totalExponent n 0) = (n.log2 : Int) - 52 := by
    simp only [Format.targetExponent, totalExponent, Format.mantissaBits, Format.minExponent]
    norm_num
    omega
  have hround : UnpackedFloat.normalize Format.binary64 n 0 .positive
      = roundWithAccuracy Format.binary64 .positive (n <<< (52 - n.log2))
        (0 - ((52 - n.log2 : Nat) : Int)) .exact := by
    have hgt : compare (n : Int) 0 = .gt := compare_gt_iff_gt.2 (by omega)
    have hshift : (0 - ((n.log2 : Int) - 52)).toNat = 52 - n.log2 := by omega
    unfold UnpackedFloat.normalize
    simp only [hgt, UnpackedFloat.round, decreaseExponent, Int.toNat_natCast, htarget, hshift]
  have hlow := Nat.log2_self_le hn
  have hbits : 2 ^ 52 ≤ n * 2 ^ (52 - n.log2) :=
    calc 2 ^ 52 ≤ 2 ^ (n.log2 + (52 - n.log2)) := Nat.pow_le_pow_right (by omega) (by omega)
      _ = 2 ^ n.log2 * 2 ^ (52 - n.log2) := Nat.pow_add _ _ _
      _ ≤ n * 2 ^ (52 - n.log2) := Nat.mul_le_mul_right _ hlow
  have hlog : 52 - n.log2 ≤ (n * 2 ^ (52 - n.log2)).log2 := by
    have := (Nat.le_log2 (by omega)).2 hbits
    omega
  have hvalue : ((n * 2 ^ (52 - n.log2) : Nat) : ℚ) * 2 ^ (0 - ((52 - n.log2 : Nat) : Int)) = n := by
    have hcancel : (2 : ℚ) ^ (52 - n.log2) * 2 ^ (0 - ((52 - n.log2 : Nat) : Int)) = 1 := by
      rw [zero_sub, zpow_neg, zpow_natCast]
      exact mul_inv_cancel₀ (by positivity)
    push_cast
    linear_combination (n : ℚ) * hcancel
  have hfits : n < 2 ^ 53 → n * 2 ^ (52 - n.log2) < 2 ^ 53 := fun hsmall => by
    have hbound : n.log2 < 53 := (Nat.log2_lt hn).2 hsmall
    calc n * 2 ^ (52 - n.log2) < 2 ^ (n.log2 + 1) * 2 ^ (52 - n.log2) := by
          gcongr
          exact Nat.lt_log2_self
      _ = 2 ^ 53 := by rw [← Nat.pow_add, show n.log2 + 1 + (52 - n.log2) = 53 by omega]
  rw [Nat.shiftLeft_eq] at hround
  exact ⟨_, _, hround, hbits, by omega, hvalue, hfits⟩

theorem normalize_within {n : Nat} (hn : n ≠ 0) :
    Within (n * slack) (UnpackedFloat.normalize Format.binary64 n 0 .positive) := by
  obtain ⟨m, e, hround, hbits, hlog, hvalue, -⟩ := exists_normalize hn
  rw [hround, ← hvalue]
  exact roundWithAccuracy_slack hbits hlog .positive

/-- `Float.ofNat` converts a natural number below `2 ^ 53` and then multiplies it by one. -/
theorem ofNat_eq_toFloat_mul {n : Nat} (hsmall : n < 2 ^ 53) :
    Float.ofNat n = n.toUInt64.toFloat * 1.0 := by
  rw [Float.ofNat]
  change Float.ofScientific n false 0 = _
  rw [Float.ofScientific, dif_pos ⟨hsmall, by omega⟩]
  rfl

theorem toFloat_unpack {n : Nat} (hsmall : n < 2 ^ 53) :
    n.toUInt64.toFloat.toModel.unpack
      = unpack Format.binary64 (pack Format.binary64 (UnpackedFloat.normalize Format.binary64 n 0 .positive)) := by
  have htoNat : n.toUInt64.toNat = n := by
    simp
    omega
  change unpack _ (pack _ (UnpackedFloat.normalize Format.binary64 n.toUInt64.toNat 0 .positive)) = _
  rw [htoNat]

/-- `Float.ofNat` of a natural number of at most 64 bits is rounded twice. -/
theorem ofNat_within {n : Nat} (hn : n ≠ 0) (hmax : n < 2 ^ 64) :
    Within (n * slack ^ 2) (Float.ofNat n).toModel.unpack := by
  have hbound : (n : ℚ) * slack ^ 2 < 2 ^ 1024 := by
    have hcast : (n : ℚ) < 2 ^ 64 := by exact_mod_cast hmax
    calc (n : ℚ) * slack ^ 2 ≤ 2 ^ 64 * 2 ^ 2 := by
          gcongr
          · exact slack_pos.le
          · norm_num [slack]
      _ < 2 ^ 1024 := by
          rw [← pow_add]
          exact pow_lt_pow_right₀ (by norm_num) (by norm_num)
  have hle : (n : ℚ) * slack ≤ n * slack ^ 2 := by
    rw [pow_two, ← mul_assoc]
    exact le_mul_of_one_le_right (by have := slack_pos; positivity) one_le_slack
  by_cases hsmall : n < 2 ^ 53
  · have hfloat : Within (n * slack) n.toUInt64.toFloat.toModel.unpack := by
      rw [toFloat_unpack hsmall]
      exact (normalize_within hn).unpack_pack (hle.trans_lt hbound)
    have hone : Within 1 (1.0 : Float).toModel.unpack := by
      change Within 1 (.finite .positive (2 ^ 52) (-52) (by decide))
      refine ⟨by norm_num, by norm_num, by norm_num, by norm_num [zpow_neg]⟩
    have hproduct := mul_within hfloat hone
    rw [mul_one, mul_assoc, ← pow_two] at hproduct
    rw [ofNat_eq_toFloat_mul hsmall]
    exact hproduct.unpack_pack hbound
  · have hlarge : Float.ofNat n = ⟨.ofScientific n 0⟩ := by
      rw [Float.ofNat]
      change Float.ofScientific n false 0 = _
      rw [Float.ofScientific, dif_neg (by omega)]
      rfl
    have hwithin := ofScientific_within hn (e := 0) (by omega)
    rw [pow_zero, mul_one] at hwithin
    rw [hlarge]
    exact (hwithin.mono hle).unpack_pack hbound

/-! ## A natural number times a power of ten -/

/-- The product of a natural number and a power of ten that is well below `2 ^ 1024` is a finite number. -/
theorem not_isInf_mul_tenPower {n e : Nat} (hn : n ≠ 0) (hmax : n < 2 ^ 64) (he : e ≤ 308)
    (h : (n : ℚ) * 10 ^ e * slack ^ 3 < 2 ^ 1024 - 2 ^ 970) :
    (Float.ofNat n * Float.ofScientific 1 false e).isInf = false := by
  obtain ⟨bound, hbound, hwithin⟩ := mul_fits (ofNat_within hn hmax) (tenPower_within he)
    (h.trans_le' (le_of_eq (by ring)))
  change (unpack Format.binary64 (pack Format.binary64 _)).isInf = false
  rw [unpack_pack hbound hwithin]
  generalize mul Format.binary64 _ _ = u at hwithin
  cases u with
  | finite s m e hm => rfl
  | _ => exact hwithin.elim

end PageRisk.Rounding
