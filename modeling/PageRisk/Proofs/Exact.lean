import PageRisk.Proofs.Rounding

set_option autoImplicit false

/-! # Numbers that floating-point numbers stand for

A finite floating-point number stands for one rational number (`exactValue?`). Rounding changes nothing where
no bit that is set is cut off (`Stands.of_round`), so that a natural number below `2 ^ 53` is converted to a
floating-point number that stands for it (`exactValue?_ofNat`), and two of them are compared as the numbers
they stand for (`ofNat_lt_iff`). -/

namespace PageRisk.Rounding

open Float.Model (UnpackedFloat Format totalExponent)
open Float.Model.UnpackedFloat
open Magnitude

/-! ## Exact values -/

/-- The rational number that an `UnpackedFloat` means, if it is finite. -/
def meant? : UnpackedFloat → Option ℚ
  | .finite s m e _ => some (s.apply m * 2 ^ e)
  | .zero _ => some 0
  | _ => none

/-- The rational number that a `Float` stands for, if it is finite. -/
def exactValue? (x : Float) : Option ℚ :=
  meant? x.toModel.unpack

/-- Whether an `UnpackedFloat` is positive, has all 53 bits of its mantissa, and means `q`. -/
def Stands (q : ℚ) : UnpackedFloat → Prop
  | .finite s m e _ => s = .positive ∧ 2 ^ 52 ≤ m ∧ m < 2 ^ 53 ∧ -52 ≤ e ∧ (m : ℚ) * 2 ^ e = q
  | _ => False

theorem Stands.within {q : ℚ} {u : UnpackedFloat} (h : Stands q u) : Within q u := by
  cases u with
  | finite s m e hm =>
    obtain ⟨-, hlow, hhigh, he, hvalue⟩ := h
    exact ⟨hlow, hhigh, he, hvalue.le⟩
  | _ => exact h

theorem Stands.meant?_eq {q : ℚ} {u : UnpackedFloat} (h : Stands q u) : meant? u = some q := by
  cases u with
  | finite s m e hm =>
    obtain ⟨rfl, -, -, -, rfl⟩ := h
    rfl
  | _ => exact h.elim

theorem Stands.unpack_pack {q : ℚ} (hq : q < 2 ^ 1024) {u : UnpackedFloat} (h : Stands q u) :
    Stands q (unpack Format.binary64 (pack Format.binary64 u)) :=
  (Rounding.unpack_pack hq h.within).symm ▸ h

/-! ## Rounding without loss -/

/-- Bits that `>>>` cuts off do not matter where they are not set. -/
theorem rounded_shift_eq {m s : Nat} (h : 2 ^ s ∣ m) :
    (ExtendedMantissa.mk m false false >>> s).roundedMantissa * 2 ^ s = m := by
  have hmantissa := mantissa_shiftRight (.mk m false false) s
  have hbit : (ExtendedMantissa.mk m false false >>> s).roundBit = false := by
    cases s with
    | zero => rfl
    | succ s =>
      rw [roundBit_shiftRight]
      obtain ⟨k, rfl⟩ := h
      have heven : 2 ^ (s + 1) * k / 2 ^ s = 2 * k := by
        rw [Nat.pow_succ, Nat.mul_assoc, Nat.mul_div_cancel_left _ (by positivity)]
      simp [heven]
  rw [rounded_of_not_roundBit hbit, hmantissa]
  exact Nat.div_mul_cancel h

theorem Stands.of_round {m : Nat} {e : Int} (hm : 2 ^ 52 ≤ m) (he : 0 ≤ (m.log2 : Int) + e)
    (hdvd : 2 ^ (m.log2 - 52) ∣ m) :
    Stands (m * 2 ^ e) (roundWithAccuracy Format.binary64 .positive m e .exact) := by
  obtain ⟨m', e', hm', heq, hlow, hhigh, hexponent, hvalue⟩ := exists_roundWithAccuracy hm he .positive
  rw [heq]
  refine ⟨rfl, hlow, hhigh, hexponent, ?_⟩
  have hlog : 52 ≤ m.log2 := (Nat.le_log2 (by omega)).2 hm
  have hround : ((ExtendedMantissa.mk m false false >>> (m.log2 - 52)).roundedMantissa : ℚ)
      * 2 ^ (m.log2 - 52) = m := by exact_mod_cast rounded_shift_eq hdvd
  rw [hvalue, zpow_exponent_eq hlog, ← mul_assoc, hround]

/-- Multiplying by one keeps what `Stands`. -/
theorem Stands.mul_one {q : ℚ} {u : UnpackedFloat} (h : Stands q u) (hone : 0 < 2 ^ 52) :
    Stands q (mul Format.binary64 u (.finite .positive (2 ^ 52) (-52) hone)) := by
  cases u with
  | finite s m e hm =>
    obtain ⟨rfl, hlow, hhigh, he, rfl⟩ := h
    have hlog : (m * 2 ^ 52).log2 = 104 := (Nat.log2_eq_iff (by omega)).2 ⟨by omega, by omega⟩
    have hround : Stands ((m * 2 ^ 52 : Nat) * 2 ^ (e + -52))
        (roundWithAccuracy Format.binary64 .positive (m * 2 ^ 52) (e + -52) .exact) := by
      refine .of_round (by omega) (by omega) ?_
      rw [hlog]
      exact Nat.dvd_mul_left _ m
    have hvalue : ((m * 2 ^ 52 : Nat) : ℚ) * 2 ^ (e + -52) = m * 2 ^ e := by
      rw [zpow_add₀ (by norm_num), zpow_neg]
      push_cast
      field_simp
    rw [hvalue] at hround
    exact hround
  | _ => exact h.elim

/-! ## Natural numbers -/

theorem stands_ofNat {n : Nat} (hzero : n ≠ 0) (hn : n < 2 ^ 53) :
    Stands n (Float.ofNat n).toModel.unpack := by
  have hbound : (n : ℚ) < 2 ^ 1024 := by
    have hcast : (n : ℚ) < 2 ^ 53 := by exact_mod_cast hn
    exact hcast.trans (pow_lt_pow_right₀ (by norm_num) (by norm_num))
  obtain ⟨m, e, hround, hlow, hlog, hvalue, hfits⟩ := exists_normalize hzero
  have hlog' : m.log2 = 52 := (Nat.log2_eq_iff (by omega)).2 ⟨hlow, hfits hn⟩
  have hnormal : Stands n (UnpackedFloat.normalize Format.binary64 n 0 .positive) := by
    rw [hround, ← hvalue]
    refine .of_round hlow hlog ?_
    rw [hlog']
    exact one_dvd m
  have hfloat : Stands n n.toUInt64.toFloat.toModel.unpack := by
    rw [toFloat_unpack hn]
    exact hnormal.unpack_pack hbound
  rw [ofNat_eq_toFloat_mul hn]
  exact (hfloat.mul_one (by decide)).unpack_pack hbound

theorem exactValue?_ofNat {n : Nat} (hn : n < 2 ^ 53) : exactValue? (Float.ofNat n) = some (n : ℚ) := by
  by_cases hzero : n = 0
  · subst hzero
    rfl
  · exact (stands_ofNat hzero hn).meant?_eq

theorem ofNat_inj {m n : Nat} (hm : m < 2 ^ 53) (hn : n < 2 ^ 53) :
    Float.ofNat m = Float.ofNat n ↔ m = n := by
  constructor
  · intro h
    have hvalue := congrArg exactValue? h
    rw [exactValue?_ofNat hm, exactValue?_ofNat hn] at hvalue
    exact_mod_cast Option.some.inj hvalue
  · exact congrArg Float.ofNat

/-! ## Comparison -/

/-- Of two numbers with all their bits, the one with the smaller exponent is smaller. -/
theorem mul_zpow_lt {m n : Nat} {e f : Int} (hm : m < 2 ^ 53) (hn : 2 ^ 52 ≤ n) (h : e < f) :
    (m : ℚ) * 2 ^ e < n * 2 ^ f := by
  calc (m : ℚ) * 2 ^ e < 2 ^ 53 * 2 ^ e := by
        gcongr
        exact_mod_cast hm
    _ = 2 ^ 52 * 2 ^ (e + 1) := by
        rw [zpow_add_one₀ (by norm_num)]
        ring
    _ ≤ n * 2 ^ f := by
        gcongr
        · exact_mod_cast hn
        · norm_num
        · exact h

/-- `compare` looks at exponents first and at mantissas then, which is right as no mantissa lacks a bit. -/
theorem Stands.compare_eq_lt_iff {q r : ℚ} {u v : UnpackedFloat} (hu : Stands q u) (hv : Stands r v) :
    u.compare v = some .lt ↔ q < r := by
  cases u with
  | finite s m e hm =>
    cases v with
    | finite s' n f hn =>
      obtain ⟨rfl, hmlow, hmhigh, -, rfl⟩ := hu
      obtain ⟨rfl, hnlow, hnhigh, -, rfl⟩ := hv
      have hcompare : (UnpackedFloat.finite .positive m e hm).compare (.finite .positive n f hn)
          = some ((compare e f).then (compare m n)) := rfl
      rw [hcompare, Option.some.injEq]
      rcases lt_trichotomy e f with h | rfl | h
      · simp [compare_lt_iff_lt.2 h, mul_zpow_lt hmhigh hnlow h]
      · have hpos : (0 : ℚ) < 2 ^ e := by positivity
        simp [compare_lt_iff_lt, mul_lt_mul_iff_left₀ hpos]
      · simp [compare_gt_iff_gt.2 h, (mul_zpow_lt hnhigh hmlow h).le]
    | _ => exact hv.elim
  | _ => exact hu.elim

theorem Stands.compare_zero {q : ℚ} {u : UnpackedFloat} (h : Stands q u) :
    u.compare (.zero .positive) = some .gt ∧ (UnpackedFloat.zero .positive).compare u = some .lt := by
  cases u with
  | finite s m e hm =>
    obtain ⟨rfl, -⟩ := h
    exact ⟨rfl, rfl⟩
  | _ => exact h.elim

theorem ofNat_lt_iff {m n : Nat} (hm : m < 2 ^ 53) (hn : n < 2 ^ 53) :
    Float.ofNat m < Float.ofNat n ↔ m < n := by
  have hlt : Float.ofNat m < Float.ofNat n
      ↔ (Float.ofNat m).toModel.unpack.compare (Float.ofNat n).toModel.unpack = some .lt := by
    rw [← beq_iff_eq]
    exact decide_eq_true_iff
  have hzero : (Float.ofNat 0).toModel.unpack = .zero .positive := rfl
  rw [hlt]
  -- Zero has no mantissa and is compared by itself.
  rcases Nat.eq_zero_or_pos m with rfl | hmpos <;> rcases Nat.eq_zero_or_pos n with rfl | hnpos
  · simp [hzero, UnpackedFloat.compare]
  · have hstands := stands_ofNat hnpos.ne' hn
    simp [hzero, hstands.compare_zero.2, hnpos]
  · have hstands := stands_ofNat hmpos.ne' hm
    simp [hzero, hstands.compare_zero.1]
  · rw [(stands_ofNat hmpos.ne' hm).compare_eq_lt_iff (stands_ofNat hnpos.ne' hn)]
    exact Nat.cast_lt

end PageRisk.Rounding
