import Mathlib
import PageRisk.Config
import PageRisk.Csp.Analysis

set_option autoImplicit false

/-! # How large scores can be

A score is finite because every number that goes into it is below a small power of two. `IsBelow k x`
says that the floating-point number `x` is finite and its magnitude is below `2 ^ k`; each operation
raises the bound by a constant, one of which is for the rounding. The bounds are wide: all that is needed
of them is that they stay far below `2 ^ 972`. -/

namespace PageRisk.Magnitude

open Float.Model (UnpackedFloat Format totalExponent)
open Float.Model.UnpackedFloat

/-! ## Bounds on mantissa and exponent -/

/-- A number `± m · 2 ^ e` with `m < 2 ^ (k - e)`, or zero. -/
def Below (k : Int) : UnpackedFloat → Prop
  | .zero _ => True
  | .finite _ m e _ => m < 2 ^ (k - e).toNat
  | _ => False

theorem Below.isFinite {k : Int} {u : UnpackedFloat} (h : Below k u) : u.isFinite = true := by
  cases u <;> first | rfl | exact h.elim

theorem Below.mono {k l : Int} (hkl : k ≤ l) {u : UnpackedFloat} (h : Below k u) : Below l u := by
  cases u with
  | finite s m e hm => exact h.trans_le (Nat.pow_le_pow_right (by omega) (by omega))
  | zero s => trivial
  | infinity s => exact h
  | notANumber => exact h

/-- A positive mantissa leaves room only for exponents below the bound. -/
theorem exponent_lt {k e : Int} {m : Nat} (hm : 0 < m) (h : m < 2 ^ (k - e).toNat) : e < k := by
  by_contra hle
  have hzero : (k - e).toNat = 0 := by omega
  rw [hzero] at h
  omega

/-! ## Rounding -/

theorem mantissa_shiftRight (em : ExtendedMantissa) (s : Nat) :
    (em >>> s).mantissa = em.mantissa / 2 ^ s := by
  induction s generalizing em with
  | zero => simp [HShiftRight.hShiftRight, Nat.repeat]
  | succ s ih =>
    change (em >>> s).mantissa / 2 = _
    rw [ih, Nat.div_div_eq_div_mul, Nat.pow_succ]

theorem mantissa_ofMantissaAndAccuracy (m : Nat) (accuracy : Accuracy) :
    (ExtendedMantissa.ofMantissaAndAccuracy m accuracy).mantissa = m := by
  rcases accuracy with _ | ⟨_ | _ | _⟩ <;> rfl

theorem roundedMantissa_le (em : ExtendedMantissa) : em.roundedMantissa ≤ em.mantissa + 1 := by
  obtain ⟨m, r, s⟩ := em
  cases r <;> cases s <;>
    simp [ExtendedMantissa.roundedMantissa, ExtendedMantissa.accuracy, Accuracy.roundToNearestEven]
  omega

theorem div_lt_of_shift {k e : Int} {m : Nat} (s : Nat) (h : m < 2 ^ (k - e).toNat) :
    m / 2 ^ s < 2 ^ (k - (e + s)).toNat := by
  refine Nat.div_lt_of_lt_mul (h.trans_le ?_)
  rw [← Nat.pow_add]
  exact Nat.pow_le_pow_right (by omega) (by omega)

theorem totalExponent_le {k e : Int} {m : Nat} (hm : 0 < m) (h : m < 2 ^ (k - e).toNat) :
    totalExponent m e ≤ k := by
  have hlog : m.log2 < (k - e).toNat := (Nat.log2_lt (by omega)).2 h
  unfold totalExponent
  omega

/-- `shiftToTargetExponent` keeps the bound, and the exponent stays below it too. -/
theorem shiftToTargetExponent_bound {k e : Int} {m : Nat} (hk : 0 ≤ k) (hm : 0 < m)
    (h : m < 2 ^ (k - e).toNat) (accuracy : Accuracy) :
    let shifted := shiftToTargetExponent Format.binary64 m e accuracy
    shifted.1.mantissa < 2 ^ (k - shifted.2).toNat ∧ shifted.2 ≤ k := by
  have htotal := totalExponent_le hm h
  have he := exponent_lt hm h
  have htarget : Format.binary64.targetExponent (totalExponent m e) ≤ k := by
    simp only [Format.targetExponent, Format.mantissaBits, Format.minExponent]
    norm_num
    omega
  simp only [shiftToTargetExponent, shiftToExponent, mantissa_shiftRight,
    mantissa_ofMantissaAndAccuracy]
  exact ⟨div_lt_of_shift _ h, by omega⟩

theorem roundWithAccuracy_below {k e : Int} {m : Nat} (hk : 0 ≤ k) (hm : 0 < m)
    (h : m < 2 ^ (k - e).toNat) (sign : Sign) (accuracy : Accuracy) :
    Below (k + 1) (roundWithAccuracy Format.binary64 sign m e accuracy) := by
  obtain ⟨hmantissa, hexponent⟩ := shiftToTargetExponent_bound hk hm h accuracy
  generalize hshift : shiftToTargetExponent Format.binary64 m e accuracy = shifted
    at hmantissa hexponent
  obtain ⟨em, e'⟩ := shifted
  -- Rounding adds at most one, which may take one more bit.
  have hrounded : em.roundedMantissa < 2 ^ (k + 1 - e').toNat := by
    have hle := roundedMantissa_le em
    have hpow : (2 : Nat) ^ (k + 1 - e').toNat = 2 * 2 ^ (k - e').toNat := by
      rw [← Nat.pow_succ']
      congr 1
      simp only at hexponent
      omega
    have hpos : 0 < (2 : Nat) ^ (k - e').toNat := Nat.pow_pos (by omega)
    simp only at hmantissa
    omega
  unfold roundWithAccuracy
  rw [hshift]
  simp only [shiftToTargetExponent, shiftToExponent, mantissa_shiftRight,
    mantissa_ofMantissaAndAccuracy]
  split
  · trivial
  · exact div_lt_of_shift _ hrounded

theorem round_below {k e : Int} {m : Nat} (hk : 0 ≤ k) (hm : 0 < m) (h : m < 2 ^ (k - e).toNat)
    (sign : Sign) : Below (k + 1) (UnpackedFloat.round Format.binary64 sign m e) := by
  have he := exponent_lt hm h
  unfold UnpackedFloat.round decreaseExponent
  refine roundWithAccuracy_below hk ?_ ?_ sign .exact
  · rw [Nat.shiftLeft_eq]
    positivity
  · rw [Nat.shiftLeft_eq]
    refine (Nat.mul_lt_mul_of_pos_right h (Nat.pow_pos (by omega))).trans_le ?_
    rw [← Nat.pow_add]
    exact Nat.pow_le_pow_right (by omega) (by omega)

theorem normalize_below {k e : Int} {m : Int} (hk : 0 ≤ k) (h : m.natAbs < 2 ^ (k - e).toNat)
    (zeroSign : Sign) : Below (k + 1) (UnpackedFloat.normalize Format.binary64 m e zeroSign) := by
  unfold UnpackedFloat.normalize
  split
  · next hlt =>
    have hneg : m < 0 := compare_lt_iff_lt.1 hlt
    have habs : (-m).toNat = m.natAbs := by omega
    exact round_below hk (by omega) (habs ▸ h) _
  · trivial
  · next hgt =>
    have hpos : 0 < m := compare_gt_iff_gt.1 hgt
    have habs : m.toNat = m.natAbs := by omega
    exact round_below hk (by omega) (habs ▸ h) _

/-! ## Arithmetic before packing -/

theorem mul_below {k l : Int} (hk : 0 ≤ k) (hl : 0 ≤ l) {u v : UnpackedFloat} (hu : Below k u)
    (hv : Below l v) : Below (k + l + 1) (mul Format.binary64 u v) := by
  match u, v, hu, hv with
  | .zero _, .zero _, _, _ => trivial
  | .zero _, .finite .., _, _ => trivial
  | .finite .., .zero _, _, _ => trivial
  | .finite s₁ m₁ e₁ hm₁, .finite s₂ m₂ e₂ hm₂, hu, hv =>
    have he₁ := exponent_lt hm₁ hu
    have he₂ := exponent_lt hm₂ hv
    refine roundWithAccuracy_below (by omega) (Nat.mul_pos hm₁ hm₂) ?_ _ .exact
    have hsum : (k + l - (e₁ + e₂)).toNat = (k - e₁).toNat + (l - e₂).toNat := by omega
    rw [hsum, Nat.pow_add]
    exact Nat.mul_lt_mul_of_lt_of_lt hu hv

/-- `decreaseExponent` keeps the bound, as the mantissa grows by what the exponent goes down. -/
theorem decreaseExponent_bound {k e f : Int} {m : Nat} (hm : 0 < m) (h : m < 2 ^ (k - e).toNat)
    (hf : f ≤ e) : (decreaseExponent m e f).1 < 2 ^ (k - f).toNat := by
  have he := exponent_lt hm h
  simp only [decreaseExponent, Nat.shiftLeft_eq]
  refine (Nat.mul_lt_mul_of_pos_right h (Nat.pow_pos (by omega))).trans_le ?_
  rw [← Nat.pow_add]
  exact Nat.pow_le_pow_right (by omega) (by omega)

theorem natAbs_apply (s : Sign) (m : Nat) : (s.apply m).natAbs = m := by
  cases s <;> simp [Sign.apply]

/-- Two aligned mantissas are added or subtracted into at most one bit more. -/
theorem normalize_sum_below {k e₁ e₂ : Int} {m₁ m₂ : Nat} (hk : 0 ≤ k) (hm₁ : 0 < m₁)
    (hm₂ : 0 < m₂) (h₁ : m₁ < 2 ^ (k - e₁).toNat) (h₂ : m₂ < 2 ^ (k - e₂).toNat) {m : Int}
    (hm : m.natAbs ≤ (decreaseExponent m₁ e₁ (min e₁ e₂)).1 + (decreaseExponent m₂ e₂ (min e₁ e₂)).1) :
    Below (k + 2) (UnpackedFloat.normalize Format.binary64 m (min e₁ e₂) .positive) := by
  have b₁ := decreaseExponent_bound hm₁ h₁ (min_le_left e₁ e₂)
  have b₂ := decreaseExponent_bound hm₂ h₂ (min_le_right e₁ e₂)
  have he₁ := exponent_lt hm₁ h₁
  have hpow : (2 : Nat) ^ (k + 1 - min e₁ e₂).toNat = 2 * 2 ^ (k - min e₁ e₂).toNat := by
    rw [← Nat.pow_succ']
    congr 1
    omega
  have hbound : m.natAbs < 2 ^ (k + 1 - min e₁ e₂).toNat := by omega
  exact (normalize_below (by omega) hbound .positive).mono (by omega)

theorem add_below {k : Int} (hk : 0 ≤ k) {u v : UnpackedFloat} (hu : Below k u) (hv : Below k v) :
    Below (k + 2) (add Format.binary64 u v) := by
  match u, v, hu, hv with
  | .zero s₁, .zero s₂, _, _ => rw [add]; split <;> trivial
  | .zero _, .finite .., _, hv => exact hv.mono (by omega)
  | .finite .., .zero _, hu, _ => exact hu.mono (by omega)
  | .finite s₁ m₁ e₁ hm₁, .finite s₂ m₂ e₂ hm₂, hu, hv =>
    refine normalize_sum_below hk hm₁ hm₂ hu hv ((Int.natAbs_add_le _ _).trans ?_)
    rw [natAbs_apply, natAbs_apply]
    rfl

theorem sub_below {k : Int} (hk : 0 ≤ k) {u v : UnpackedFloat} (hu : Below k u) (hv : Below k v) :
    Below (k + 2) (sub Format.binary64 u v) := by
  match u, v, hu, hv with
  | .zero s₁, .zero s₂, _, _ => rw [sub]; split <;> trivial
  | .zero _, .finite .., _, hv => exact hv.mono (by omega)
  | .finite .., .zero _, hu, _ => exact hu.mono (by omega)
  | .finite s₁ m₁ e₁ hm₁, .finite s₂ m₂ e₂ hm₂, hu, hv =>
    refine normalize_sum_below hk hm₁ hm₂ hu hv ((Int.natAbs_sub_le _ _).trans ?_)
    rw [natAbs_apply, natAbs_apply]
    rfl

/-! ## Packing -/

theorem unpack_packComponents_zero (s : Sign) (m : BitVec 52) {k : Int} (hk : 0 ≤ k) :
    Below k (unpack Format.binary64 (packComponents Format.binary64 s 0#_ m)) := by
  unfold unpack
  simp only [unpackMantissa_packComponents, unpackExponent_packComponents]
  have hexponent : ¬ (0#11 = -1#11) := by decide
  rw [if_neg hexponent, if_true]
  split
  · trivial
  · have hlt : m.toNat < 2 ^ 52 := m.isLt
    refine hlt.trans_le (Nat.pow_le_pow_right (by omega) ?_)
    simp only [Format.exponentBias, BitVec.toNat_zero]
    norm_num
    omega

theorem unpack_packComponents_of_ne (s : Sign) {e : BitVec 11} (m : BitVec 52) (hinf : e ≠ -1#11)
    (hzero : e ≠ 0#11) {k : Int} (h : 2 ^ 52 + m.toNat < 2 ^ (k - (e.toNat - 1075)).toNat) :
    Below k (unpack Format.binary64 (packComponents Format.binary64 s e m)) := by
  unfold unpack
  simp only [unpackMantissa_packComponents, unpackExponent_packComponents]
  rw [if_neg hinf, if_neg hzero]
  have hmantissa : (1#1 ++ m).toNat = 2 ^ 52 + m.toNat := by
    rw [BitVec.toNat_append]
    exact (Nat.shiftLeft_add_eq_or_of_lt m.isLt _).symm
  change (1#1 ++ m).toNat < _
  rw [hmantissa]
  exact h

/-- A number `Below 972` is packed without overflow, and is as small when it is unpacked. -/
theorem unpack_pack_below {k : Int} (hk : 0 ≤ k) (hmax : k ≤ 972) {u : UnpackedFloat}
    (h : Below k u) : Below k (unpack Format.binary64 (pack Format.binary64 u)) := by
  match u, h with
  | .zero s, _ => exact unpack_packComponents_zero s 0 hk
  | .finite s m e hm, h =>
    have hbound : m < 2 ^ (k - e).toNat := h
    have he := exponent_lt hm hbound
    unfold pack
    have hbias : e + Format.binary64.exponentBias + (52 : Nat) = e + 1075 := by
      simp only [Format.exponentBias]
      norm_num
      omega
    simp only [hbias]
    -- The exponent is small enough for the number not to become infinite.
    have hfits : ¬ 2 ^ Format.binary64.exponentBits ≤ (e + 1075).toNat + 1 := by
      norm_num
      omega
    rw [if_neg hfits]
    split
    · next hlog =>
      have hlog52 : m.log2 = 52 := by simpa [Format.mantissaBits, Nat.add_comm] using hlog
      by_cases hzero : (e + 1075).toNat = 0
      · rw [hzero]
        exact unpack_packComponents_zero s _ hk
      · have hlow : 2 ^ 52 ≤ m := hlog52 ▸ Nat.log2_self_le (by omega)
        have hhigh : m < 2 ^ 53 := (Nat.log2_lt (by omega)).1 (by omega)
        have htoNat : (BitVec.ofNat 11 (e + 1075).toNat).toNat = (e + 1075).toNat := by
          rw [BitVec.toNat_ofNat, Nat.mod_eq_of_lt]
          omega
        refine unpack_packComponents_of_ne s _ ?_ ?_ ?_
        · intro heq
          have := congrArg BitVec.toNat heq
          rw [htoNat] at this
          simp at this
          omega
        · intro heq
          have := congrArg BitVec.toNat heq
          rw [htoNat] at this
          simp at this
          omega
        · rw [htoNat, BitVec.toNat_ofNat]
          have hexp : ((e + 1075).toNat : Int) - 1075 = e := by omega
          rw [hexp]
          omega
    · exact unpack_packComponents_zero s _ hk

/-! ## Floating-point numbers -/

/-- Whether a number is finite and its magnitude is below `2 ^ k`. -/
def IsBelow (k : Int) (x : Float) : Prop :=
  Below k x.toModel.unpack

theorem IsBelow.isFinite {k : Int} {x : Float} (h : IsBelow k x) : x.isFinite = true :=
  Below.isFinite h

theorem IsBelow.mono {k l : Int} (hkl : k ≤ l) {x : Float} (h : IsBelow k x) : IsBelow l x :=
  Below.mono hkl h

theorem IsBelow.mul {k l : Int} {x y : Float} (hk : 0 ≤ k) (hl : 0 ≤ l) (hmax : k + l < 972)
    (hx : IsBelow k x) (hy : IsBelow l y) : IsBelow (k + l + 1) (x * y) :=
  unpack_pack_below (by omega) (by omega) (mul_below hk hl hx hy)

theorem IsBelow.add {k : Int} {x y : Float} (hk : 0 ≤ k) (hmax : k ≤ 970) (hx : IsBelow k x)
    (hy : IsBelow k y) : IsBelow (k + 2) (x + y) :=
  unpack_pack_below (by omega) (by omega) (add_below hk hx hy)

theorem IsBelow.sub {k : Int} {x y : Float} (hk : 0 ≤ k) (hmax : k ≤ 970) (hx : IsBelow k x)
    (hy : IsBelow k y) : IsBelow (k + 2) (x - y) :=
  unpack_pack_below (by omega) (by omega) (sub_below hk hx hy)

/-- Finite numbers can be compared, either way round. -/
theorem compare_swap {u v : UnpackedFloat} (hu : u.isFinite = true) (hv : v.isFinite = true) :
    ∃ order : Ordering, u.compare v = some order ∧ v.compare u = some order.swap := by
  cases u with
  | infinity | notANumber => exact absurd hu (by simp [UnpackedFloat.isFinite])
  | zero s =>
    cases v with
    | infinity | notANumber => exact absurd hv (by simp [UnpackedFloat.isFinite])
    | zero s' => exact ⟨.eq, rfl, rfl⟩
    | finite s' m e hm => cases s' <;> exact ⟨_, rfl, rfl⟩
  | finite s m e hm =>
    cases v with
    | infinity | notANumber => exact absurd hv (by simp [UnpackedFloat.isFinite])
    | zero s' => cases s <;> exact ⟨_, rfl, rfl⟩
    | finite s' m' e' hm' =>
      cases s <;> cases s' <;> refine ⟨_, rfl, ?_⟩ <;>
        simp [UnpackedFloat.compare, Ordering.swap_then, ← Int.compare_swap e e',
          ← Nat.compare_swap m m']

/-- Of two finite numbers the one that is not less is at least as great, which is where numbers that are
    none would differ. -/
theorem not_lt_iff_le {x y : Float} (hx : x.isFinite = true) (hy : y.isFinite = true) :
    ¬ x < y ↔ y ≤ x := by
  obtain ⟨order, hxy, hyx⟩ := compare_swap (u := x.toModel.unpack) (v := y.toModel.unpack) hx hy
  have hlt : x < y ↔ (x.toModel.unpack.compare y.toModel.unpack == some .lt) = true :=
    decide_eq_true_iff
  have hle : y ≤ x ↔ (y.toModel.unpack.compare x.toModel.unpack).any (·.isLE) = true :=
    decide_eq_true_iff
  rw [hlt, hle, hxy, hyx]
  cases order <;> decide

instance (k : Int) (u : UnpackedFloat) : Decidable (Below k u) :=
  match u with
  | .zero _ => isTrue trivial
  | .finite _ m e _ => inferInstanceAs (Decidable (m < 2 ^ (k - e).toNat))
  | .infinity _ => isFalse id
  | .notANumber => isFalse id

instance (k : Int) (x : Float) : Decidable (IsBelow k x) :=
  inferInstanceAs (Decidable (Below k x.toModel.unpack))

theorem ofNat_isBelow {n : Nat} (h : n < 2 ^ 32) : IsBelow 35 (Float.ofNat n) := by
  have hsmall : n < 2 ^ 53 ∧ (0 : Nat) ≤ 22 := ⟨by omega, by omega⟩
  have hmul : Float.ofNat n = n.toUInt64.toFloat * 1.0 := by
    rw [Float.ofNat]
    change Float.ofScientific n false 0 = _
    rw [Float.ofScientific, dif_pos hsmall]
    rfl
  have htoNat : n.toUInt64.toNat = n := by
    simp
    omega
  have hfloat : IsBelow 33 n.toUInt64.toFloat := by
    refine unpack_pack_below (by omega) (by omega) ?_
    refine normalize_below (k := 32) (by omega) ?_ .positive
    rw [htoNat]
    simpa using h
  rw [hmul]
  exact hfloat.mul (l := 1) (by omega) (by omega) (by omega) (by decide)

/-! ## Weights and scores -/

/-- The mantissa that `unpack` gives has at most 53 bits. -/
theorem unpack_mantissa_lt (b : BitVec Format.binary64.numBits) {s : Sign} {m : Nat}
    {e : Int} {hm : 0 < m} (h : unpack Format.binary64 b = .finite s m e hm) : m < 2 ^ 53 := by
  unfold unpack at h
  simp only at h
  split at h
  · split at h <;> simp at h
  · split at h
    · split at h
      · simp at h
      · simp only [UnpackedFloat.finite.injEq] at h
        obtain ⟨-, rfl, -⟩ := h
        exact (unpackMantissa b).isLt.trans (by norm_num)
    · simp only [UnpackedFloat.finite.injEq] at h
      obtain ⟨-, rfl, -⟩ := h
      exact (1#1 ++ unpackMantissa b).isLt

/-- What is neither negative nor above one nor undefined has `IsBelow 1`. -/
theorem isBelow_of_unit {w : Float} (hnan : w.isNaN = false) (hlow : ¬ w < 0.0)
    (hhigh : ¬ 1.0 < w) : IsBelow 1 w := by
  -- Both comparisons are read as comparisons of what the numbers stand for.
  have hlow' : w.toModel.unpack.lt (.zero .positive) ≠ true := fun h =>
    hlow (decide_eq_true (p := w.toModel < (0.0 : Float).toModel) h)
  have hhigh' : (UnpackedFloat.finite .positive 4503599627370496 (-52) (by decide)).lt
      w.toModel.unpack ≠ true := fun h =>
    hhigh (decide_eq_true (p := (1.0 : Float).toModel < w.toModel) h)
  have hnan' : w.toModel.unpack.isNaN = false := hnan
  unfold IsBelow
  have hbits : w.toModel.unpack = unpack Format.binary64 w.toModel.toBits.toBitVec := rfl
  cases hu : w.toModel.unpack with
  | zero s => trivial
  | notANumber => simp [hu, UnpackedFloat.isNaN] at hnan'
  | infinity s =>
    rw [hu] at hlow' hhigh'
    cases s with
    | negative => exact absurd rfl hlow'
    | positive => exact absurd rfl hhigh'
  | finite s m e hm =>
    have hlt := unpack_mantissa_lt _ (hbits ▸ hu)
    rw [hu] at hlow' hhigh'
    cases s with
    | negative => exact absurd rfl hlow'
    | positive =>
      have he : e ≤ -52 := by
        by_contra hgt
        apply hhigh'
        have hcompare : compare (-52) e = .lt := compare_lt_iff_lt.2 (by omega)
        simp [UnpackedFloat.lt, UnpackedFloat.compare, hcompare]
      exact hlt.trans_le (Nat.pow_le_pow_right (by omega) (by omega))

theorem normalizeWeight_isBelow (w : Float) : IsBelow 1 (normalizeWeight w) := by
  unfold normalizeWeight
  split
  · decide
  · next hnan =>
    split
    · decide
    · next hlow =>
      split
      · decide
      · next hhigh => exact isBelow_of_unit (by simpa using hnan) hlow hhigh

theorem totalWeight_le_of_sublist {found all : List Csp.Finding} (h : found.Sublist all) :
    Csp.totalWeight found ≤ Csp.totalWeight all := by
  induction h with
  | slnil => exact Nat.le_refl _
  | cons f h ih =>
    simp only [Csp.totalWeight, List.foldr_cons] at ih ⊢
    omega
  | cons_cons f h ih =>
    simp only [Csp.totalWeight, List.foldr_cons] at ih ⊢
    omega

theorem findings_sublist (csp : Option String) : (Csp.findings csp).Sublist Csp.allFindings := by
  have hnone : [Csp.noPolicy].Sublist Csp.allFindings :=
    List.Sublist.cons_cons _ (List.nil_sublist _)
  unfold Csp.findings
  split
  · exact hnone
  · simp only
    split
    · exact hnone
    · exact (List.filter_sublist.map _).cons _

theorem analyze_isBelow (csp : Option String) : IsBelow 35 (Csp.analyze csp).score := by
  have hle := totalWeight_le_of_sublist (findings_sublist csp)
  have hall : Csp.totalWeight Csp.allFindings = 165 := by decide
  exact ofNat_isBelow (by omega)

theorem combine_isBelow {blend : Blend} {w : Float} (hblend : blend = .ofWeight w) {base : Assessment}
    (hbase : IsBelow 35 base.score) {score : Float} (hscore : IsBelow 35 score)
    (threats : List String) :
    IsBelow 41 (blend.combine base (.assessed score threats)).score := by
  have hweight : IsBelow 1 blend.weight := hblend ▸ normalizeWeight_isBelow w
  have hrest : IsBelow 3 (1.0 - blend.weight) :=
    IsBelow.sub (by omega) (by omega) (by decide) hweight
  have hremote : IsBelow 35 (atLeastZero score) := by
    unfold atLeastZero
    split
    · exact hscore
    · decide
  have hlocal : IsBelow 39 (base.score * (1.0 - blend.weight)) :=
    hbase.mul (by omega) (by omega) (by omega) hrest
  have hshare : IsBelow 39 (atLeastZero score * blend.weight) :=
    (hremote.mul (by omega) (by omega) (by omega) hweight).mono (by omega)
  exact hlocal.add (by omega) (by omega) hshare

/-- `Blend.combine` is finite for every answer that `scoreBody` reads from a body, with any weight. -/
theorem combine_scoreBody_isFinite (config : ScoringConfig) (csp : Option String) (body : String) :
    (config.blend.combine (Csp.analyze csp) (Reputation.scoreBody body)).score.isFinite = true := by
  unfold Reputation.scoreBody
  split
  · exact (analyze_isBelow csp).isFinite
  · next threats _ =>
    exact (combine_isBelow (w := config.effectiveWeight) rfl (analyze_isBelow csp)
      (ofNat_isBelow (Reputation.threatScore threats).toNat_lt) threats).isFinite

end PageRisk.Magnitude
