import Mathlib
import PageRisk.Decimal.Shortest

set_option autoImplicit false

/-! # What the shortest decimal is worth

The shortest decimal that reads back lies between the midpoints to the neighbouring numbers, has no more than
seventeen digits and is not zero (`shortest_spec`): one of the candidates with seventeen digits always reads
back, as the grid of these is finer than that of the numbers. -/

namespace PageRisk.Decimal

/-! ## Fractions -/

namespace Ratio

/-- A `Ratio` as a rational number. -/
def value (r : Ratio) : ℚ := r.num / r.den

theorem den_scaled_pos {base : Nat} (hbase : 0 < base) (n : Nat) (e : Int) :
    0 < (scaled n base e).den := by
  cases e with
  | ofNat k => exact Nat.one_pos
  | negSucc k => exact Nat.pow_pos hbase

theorem value_scaled {base : Nat} (hbase : 0 < base) (n : Nat) (e : Int) :
    (scaled n base e).value = n * (base : ℚ) ^ e := by
  have hne : (base : ℚ) ≠ 0 := by exact_mod_cast hbase.ne'
  cases e with
  | ofNat k =>
    simp [value, scaled]
  | negSucc k =>
    simp only [value, scaled, zpow_negSucc, Nat.pow_eq]
    push_cast
    field_simp

theorem den_shift_pos {r : Ratio} (h : 0 < r.den) (e : Int) : 0 < (r.shift e).den := by
  cases e with
  | ofNat k => exact h
  | negSucc k => exact Nat.mul_pos h (Nat.pow_pos (by omega))

theorem value_shift {r : Ratio} (h : 0 < r.den) (e : Int) :
    (r.shift e).value = r.value * 10 ^ e := by
  have hne : (r.den : ℚ) ≠ 0 := by exact_mod_cast h.ne'
  cases e with
  | ofNat k =>
    simp only [value, shift, Int.ofNat_eq_natCast, zpow_natCast, Nat.pow_eq]
    push_cast
    ring
  | negSucc k =>
    simp only [value, shift, zpow_negSucc, Nat.pow_eq]
    push_cast
    field_simp

theorem round_eq_or (r : Ratio) :
    (r.round = r.floor ∧ 2 * (r.num % r.den) ≤ r.den)
      ∨ (r.round = r.floor + 1 ∧ r.den ≤ 2 * (r.num % r.den)) := by
  unfold round floor
  simp only
  split_ifs <;> omega

section Compare

variable {r : Ratio} (h : 0 < r.den) (n : Nat)

include h

theorem le_value_iff : n * r.den ≤ r.num ↔ (n : ℚ) ≤ r.value := by
  rw [value, le_div_iff₀ (by exact_mod_cast h)]
  exact_mod_cast Iff.rfl

theorem lt_value_iff : n * r.den < r.num ↔ (n : ℚ) < r.value := by
  rw [value, lt_div_iff₀ (by exact_mod_cast h)]
  exact_mod_cast Iff.rfl

theorem value_lt_iff : r.num < n * r.den ↔ r.value < n := by
  rw [value, div_lt_iff₀ (by exact_mod_cast h)]
  exact_mod_cast Iff.rfl

theorem floor_le_value : (r.floor : ℚ) ≤ r.value :=
  (le_value_iff h _).1 (Nat.div_mul_le_self _ _)

/-- `Ratio.round` is half a unit away at most. -/
theorem abs_round_sub_value : |(r.round : ℚ) - r.value| ≤ 1 / 2 := by
  have hden : (0 : ℚ) < r.den := by exact_mod_cast h
  have hvalue : r.value = r.floor + (r.num % r.den : Nat) / (r.den : ℚ) := by
    rw [value, div_eq_iff hden.ne', add_mul, div_mul_cancel₀ _ hden.ne']
    exact_mod_cast (Nat.div_add_mod' r.num r.den).symm
  have hnonneg : (0 : ℚ) ≤ (r.num % r.den : Nat) / (r.den : ℚ) := by positivity
  have hless : (r.num % r.den : Nat) / (r.den : ℚ) < 1 := by
    rw [div_lt_one hden]
    exact_mod_cast Nat.mod_lt _ h
  rw [hvalue, abs_le]
  rcases r.round_eq_or with ⟨heq, hle⟩ | ⟨heq, hle⟩
  · have hhalf : (r.num % r.den : Nat) / (r.den : ℚ) ≤ 1 / 2 := by
      rw [div_le_div_iff₀ hden (by norm_num)]
      exact_mod_cast (by omega : r.num % r.den * 2 ≤ 1 * r.den)
    rw [heq]
    constructor <;> linarith
  · have hhalf : 1 / 2 ≤ (r.num % r.den : Nat) / (r.den : ℚ) := by
      rw [div_le_div_iff₀ (by norm_num) hden]
      exact_mod_cast (by omega : 1 * r.den ≤ r.num % r.den * 2)
    rw [heq]
    push_cast
    constructor <;> linarith

end Compare

end Ratio

/-! ## The place of the point -/

theorem exists_least {p : Nat → Bool} {n : Nat} (h : ∃ k < n, p k = true) :
    ∃ k, (List.range n).find? p = some k ∧ p k = true ∧ ∀ j < k, p j = false := by
  obtain ⟨k, hk, hp⟩ := h
  cases hfind : (List.range n).find? p with
  | none => exact absurd hp (by simpa using List.find?_eq_none.1 hfind k (List.mem_range.2 hk))
  | some k =>
    obtain ⟨hp, -, hleast⟩ := List.find?_range_eq_some.1 hfind
    exact ⟨k, rfl, hp, fun j hj => by simpa using hleast j hj⟩

theorem lt_pow_iff {r : Ratio} (h : 0 < r.den) (k : Nat) :
    r.num < r.den * Nat.pow 10 k ↔ r.value < 10 ^ (k : Int) := by
  have hiff := Ratio.value_lt_iff h (10 ^ k)
  rw [Nat.mul_comm] at hiff
  rw [Nat.pow_eq, hiff, zpow_natCast]
  norm_cast

theorem pow_le_iff {r : Ratio} (h : 0 < r.den) (k : Nat) :
    r.den ≤ r.num * Nat.pow 10 (k + 1) ↔ (10 : ℚ) ^ (-(k : Int) - 1) ≤ r.value := by
  have hden : (0 : ℚ) < r.den := by exact_mod_cast h
  have hpow : (10 : ℚ) ^ (-(k : Int) - 1) = ((10 : ℚ) ^ (k + 1))⁻¹ := by
    rw [← zpow_natCast, ← zpow_neg]
    congr 1
    push_cast
    ring
  rw [hpow, inv_le_iff_one_le_mul₀ (by positivity), Ratio.value, div_mul_eq_mul_div, one_le_div hden,
    Nat.pow_eq]
  norm_cast

/-- For a number that is neither too great nor too small for the search, `pointPlace` is right before its
    first digit. -/
theorem pointPlace_spec {r : Ratio} (h : 0 < r.den) (hlow : (10 : ℚ) ^ (-399 : Int) ≤ r.value)
    (hhigh : r.value < 10 ^ (399 : Int)) :
    (10 : ℚ) ^ (pointPlace r - 1) ≤ r.value ∧ r.value < 10 ^ pointPlace r := by
  have hone : r.den ≤ r.num ↔ (1 : ℚ) ≤ r.value := by
    simpa using Ratio.le_value_iff h 1
  unfold pointPlace
  split_ifs with hle
  · obtain ⟨k, hfind, hk, hleast⟩ := exists_least (n := 400)
      (p := fun k => decide (r.num < r.den * Nat.pow 10 k))
      ⟨399, by omega, decide_eq_true ((lt_pow_iff h 399).2 hhigh)⟩
    have hlt := (lt_pow_iff h k).1 (of_decide_eq_true hk)
    rw [hfind]
    refine ⟨?_, hlt⟩
    cases k with
    | zero => exact absurd ((hone.1 hle).trans_lt hlt) (by simp)
    | succ k =>
      have hnot := of_decide_eq_false (hleast k (Nat.lt_succ_self k))
      rw [lt_pow_iff h, not_lt] at hnot
      simpa using hnot
  · obtain ⟨k, hfind, hk, hleast⟩ := exists_least (n := 400)
      (p := fun k => decide (r.den ≤ r.num * Nat.pow 10 (k + 1)))
      ⟨398, by omega, decide_eq_true ((pow_le_iff h 398).2 hlow)⟩
    rw [hfind]
    refine ⟨(pow_le_iff h k).1 (of_decide_eq_true hk), ?_⟩
    cases k with
    | zero => simpa using mt hone.2 hle
    | succ k =>
      have hnot := of_decide_eq_false (hleast k (Nat.lt_succ_self k))
      rw [pow_le_iff h, not_le] at hnot
      have hplace : -Int.ofNat (k + 1) = -(k : Int) - 1 := by
        rw [Int.ofNat_eq_natCast]
        omega
      simpa only [hplace] using hnot

/-! ## Candidates -/

/-- What `Digits` are worth. -/
def Digits.value (d : Digits) : ℚ := d.significand * 10 ^ d.exponent

/-- A number of quarters on the grid `10 ^ grid`. -/
def onGrid (n : Nat) (e grid : Int) : Ratio :=
  (Ratio.scaled n 2 (e - 2)).shift (-grid)

/-- Whether `d` units of the grid are in an interval. -/
def Interval.isInside (i : Interval) (e grid : Int) (d : Nat) : Bool :=
  let low := onGrid i.low e grid
  let high := onGrid i.high e grid
  if i.closed then low.num ≤ d * low.den && d * high.den ≤ high.num
  else low.num < d * low.den && d * high.den < high.num

/-- The other one of the two points of the grid next to `r`. -/
def otherPoint (r : Ratio) : Nat :=
  if r.round == r.floor then r.floor + 1 else r.floor

theorem candidate?_eq (i : Interval) (e grid : Int) :
    candidate? i e grid
      = if 0 < (onGrid i.value e grid).round && i.isInside e grid (onGrid i.value e grid).round then
          some ⟨(onGrid i.value e grid).round, grid⟩
        else if 0 < otherPoint (onGrid i.value e grid)
            && i.isInside e grid (otherPoint (onGrid i.value e grid)) then
          some ⟨otherPoint (onGrid i.value e grid), grid⟩
        else none := rfl

theorem den_onGrid_pos (n : Nat) (e grid : Int) : 0 < (onGrid n e grid).den :=
  Ratio.den_shift_pos (Ratio.den_scaled_pos (by omega) _ _) _

theorem value_onGrid (n : Nat) (e grid : Int) :
    (onGrid n e grid).value = n * 2 ^ (e - 2) / 10 ^ grid := by
  rw [onGrid, Ratio.value_shift (Ratio.den_scaled_pos (by omega) _ _), Ratio.value_scaled (by omega),
    zpow_neg, div_eq_mul_inv]
  norm_cast

theorem isInside_of_lt {i : Interval} {e grid : Int} {d : Nat} (hlow : (onGrid i.low e grid).value < d)
    (hhigh : (d : ℚ) < (onGrid i.high e grid).value) : i.isInside e grid d = true := by
  have hlow' := (Ratio.value_lt_iff (den_onGrid_pos i.low e grid) d).2 hlow
  have hhigh' := (Ratio.lt_value_iff (den_onGrid_pos i.high e grid) d).2 hhigh
  unfold Interval.isInside
  split_ifs <;> simp [hlow', hhigh', hlow'.le, hhigh'.le]

theorem le_of_isInside {i : Interval} {e grid : Int} {d : Nat} (h : i.isInside e grid d = true) :
    (d : ℚ) ≤ (onGrid i.high e grid).value := by
  rw [← Ratio.le_value_iff (den_onGrid_pos i.high e grid)]
  unfold Interval.isInside at h
  split_ifs at h
  · simp only [Bool.and_eq_true, decide_eq_true_eq] at h
    exact h.2
  · simp only [Bool.and_eq_true, decide_eq_true_eq] at h
    exact h.2.le

section Candidate

variable {m : Nat} {e grid : Int}

/-- What `candidate?` gives is a positive number of units of the grid, not beyond the upper midpoint and not
    more than one unit above the number. -/
theorem candidate?_spec {i : Interval} {d : Digits} (h : candidate? i e grid = some d) :
    d.exponent = grid ∧ 0 < d.significand
      ∧ d.significand ≤ (onGrid i.value e grid).floor + 1
      ∧ (d.significand : ℚ) ≤ (onGrid i.high e grid).value := by
  have hround := (onGrid i.value e grid).round_eq_or
  rw [candidate?_eq] at h
  split_ifs at h with hnearest hother
  · obtain rfl := Option.some.inj h
    rw [Bool.and_eq_true, decide_eq_true_eq] at hnearest
    exact ⟨rfl, hnearest.1, by simp only; omega, le_of_isInside hnearest.2⟩
  · obtain rfl := Option.some.inj h
    rw [Bool.and_eq_true, decide_eq_true_eq] at hother
    refine ⟨rfl, hother.1, ?_, le_of_isInside hother.2⟩
    simp only [otherPoint]
    split_ifs <;> omega

/-- Where the grid is fine enough for seventeen digits, the nearest of its points is inside and `candidate?`
    gives one: numbers are more than one unit of the grid apart, and more than two where the lower midpoint
    is nearer. -/
theorem candidate?_isSome (hm : 0 < m) (hmax : m < 2 ^ 53)
    (h : (10 : ℚ) ^ grid * 10 ^ 16 ≤ m * 2 ^ e) : (candidate? (.around m e) e grid).isSome = true := by
  have hgrid : (0 : ℚ) < 10 ^ grid := by positivity
  obtain ⟨unit, hunit⟩ : ∃ unit : ℚ, unit = 2 ^ e / 10 ^ grid := ⟨_, rfl⟩
  have hquarter : ∀ n : Nat, (onGrid n e grid).value = n * unit / 4 := by
    intro n
    rw [value_onGrid, hunit, zpow_sub₀ (by norm_num)]
    norm_num
    ring
  have hlarge : 10 ^ 16 ≤ m * unit := by
    rw [hunit, ← mul_div_assoc, le_div_iff₀ hgrid]
    linarith
  have hpos : 0 < unit := by rw [hunit]; positivity
  have hmax' : (m : ℚ) < 2 ^ 53 := by exact_mod_cast hmax
  have hone : 1 < unit := by nlinarith
  have hround := Ratio.abs_round_sub_value (den_onGrid_pos (4 * m) e grid)
  rw [hquarter, abs_le] at hround
  have hnearest : 0 < (onGrid (4 * m) e grid).round := by
    have : (0 : ℚ) < (onGrid (4 * m) e grid).round := by
      push_cast at hround
      linarith
    exact_mod_cast this
  have hinside : (Interval.around m e).isInside e grid (onGrid (4 * m) e grid).round = true := by
    have hhigh := hquarter (4 * m + 2)
    push_cast at hhigh hround
    refine isInside_of_lt ?_ ?_
    · unfold Interval.around
      simp only
      split_ifs with hnarrow
      · -- The mantissa is the least one of its length.
        have hleast : m = 2 ^ 52 := by
          rw [Bool.and_eq_true, beq_iff_eq] at hnarrow
          exact hnarrow.1
        have hcast : ((4 * m - 1 : Nat) : ℚ) = 4 * m - 1 := by
          rw [Nat.cast_sub (by omega)]
          push_cast
          ring
        rw [hquarter, hcast]
        have hm' : (m : ℚ) = 2 ^ 52 := by rw [hleast]; norm_num
        rw [hm'] at hlarge hround ⊢
        linarith
      · have hcast : ((4 * m - 2 : Nat) : ℚ) = 4 * m - 2 := by
          rw [Nat.cast_sub (by omega)]
          push_cast
          ring
        rw [hquarter, hcast]
        linarith
    · change _ < (onGrid (4 * m + 2) e grid).value
      rw [hhigh]
      linarith
  have hvalue : (Interval.around m e).value = 4 * m := rfl
  have hchoice : (0 < (onGrid (4 * m) e grid).round
      && (Interval.around m e).isInside e grid (onGrid (4 * m) e grid).round) = true := by
    rw [hinside, Bool.and_true, decide_eq_true_eq]
    exact hnearest
  rw [candidate?_eq, hvalue, if_pos hchoice]
  rfl

end Candidate

/-! ## The shortest one -/

theorem strip_spec (fuel : Nat) (d : Digits) (hd : 0 < d.significand) :
    (d.strip fuel).value = d.value ∧ 0 < (d.strip fuel).significand
      ∧ (d.strip fuel).significand ≤ d.significand
      ∧ d.exponent ≤ (d.strip fuel).exponent ∧ (d.strip fuel).exponent ≤ d.exponent + fuel := by
  induction fuel generalizing d with
  | zero => exact ⟨rfl, hd, le_rfl, le_rfl, by simp [Digits.strip]⟩
  | succ fuel ih =>
    rw [Digits.strip]
    split_ifs with hzero
    · rw [Bool.and_eq_true, beq_iff_eq] at hzero
      obtain ⟨hvalue, hpos, hle, hlow, hhigh⟩ := ih ⟨d.significand / 10, d.exponent + 1⟩
        (by simp only; omega)
      simp only at hle hlow hhigh
      refine ⟨hvalue.trans ?_, hpos, by omega, by omega, by push_cast; omega⟩
      have hten : (d.significand : ℚ) = (d.significand / 10 : Nat) * 10 := by
        exact_mod_cast (by omega : d.significand = d.significand / 10 * 10)
      rw [Digits.value, Digits.value, hten, zpow_add₀ (by norm_num)]
      ring
    · exact ⟨rfl, hd, le_rfl, le_rfl, by push_cast; omega⟩

/-- The finite numbers are in the range in which `pointPlace` searches. -/
theorem value_bounds {m : Nat} {e : Int} (hm : 0 < m) (hmax : m < 2 ^ 53) (hlow : -1074 ≤ e)
    (hhigh : e ≤ 971) :
    (10 : ℚ) ^ (-399 : Int) ≤ m * 2 ^ e ∧ (m : ℚ) * 2 ^ e < 10 ^ (399 : Int) := by
  have hone : (1 : ℚ) ≤ m := by exact_mod_cast hm
  have hbits : (m : ℚ) < 2 ^ 53 := by exact_mod_cast hmax
  have hleast : (10 : ℚ) ^ (-399 : Int) ≤ 2 ^ (-1074 : Int) := by
    rw [zpow_neg, zpow_neg]
    refine inv_anti₀ (by positivity) ?_
    exact_mod_cast (by decide +kernel : 2 ^ 1074 ≤ 10 ^ 399)
  have hgreatest : (2 : ℚ) ^ 53 * 2 ^ (971 : Int) < 10 ^ (399 : Int) := by
    exact_mod_cast (by decide +kernel : 2 ^ 53 * 2 ^ 971 < 10 ^ 399)
  have hstep := zpow_le_zpow_right₀ (by norm_num : (1 : ℚ) ≤ 2) hlow
  have hstep' := zpow_le_zpow_right₀ (by norm_num : (1 : ℚ) ≤ 2) hhigh
  have hpos : (0 : ℚ) < 2 ^ e := by positivity
  constructor
  · calc (10 : ℚ) ^ (-399 : Int) ≤ 2 ^ e := hleast.trans hstep
      _ ≤ m * 2 ^ e := le_mul_of_one_le_left hpos.le hone
  · calc (m : ℚ) * 2 ^ e ≤ 2 ^ 53 * 2 ^ (971 : Int) := by gcongr
      _ < 10 ^ (399 : Int) := hgreatest

/-- `shortest` is not zero, has at most seventeen digits and is not beyond the midpoint to the next
    number. -/
theorem shortest_spec {m : Nat} {e : Int} (hm : 0 < m) (hmax : m < 2 ^ 53) (hlow : -1074 ≤ e)
    (hhigh : e ≤ 971) :
    0 < (shortest m e).significand ∧ (shortest m e).significand ≤ 10 ^ 17
      ∧ -500 ≤ (shortest m e).exponent ∧ (shortest m e).exponent ≤ 500
      ∧ (shortest m e).value ≤ (m + 1 / 2) * 2 ^ e := by
  have hten : (1 : ℚ) < 10 := by norm_num
  obtain ⟨hleast, hgreatest⟩ := value_bounds hm hmax hlow hhigh
  have hvalue : (Ratio.scaled m 2 e).value = m * 2 ^ e := Ratio.value_scaled (by omega) m e
  obtain ⟨hplace, hplace'⟩ := pointPlace_spec (Ratio.den_scaled_pos (by omega) m e)
    (hvalue ▸ hleast) (hvalue ▸ hgreatest)
  rw [hvalue] at hplace hplace'
  obtain ⟨place, hdef⟩ : ∃ place, place = pointPlace (Ratio.scaled m 2 e) := ⟨_, rfl⟩
  rw [← hdef] at hplace hplace'
  have hfar := (zpow_lt_zpow_iff_right₀ hten).1 (hplace.trans_lt hgreatest)
  have hnear := (zpow_lt_zpow_iff_right₀ hten).1 (hleast.trans_lt hplace')
  -- With seventeen digits there is a candidate.
  have hsome : ((List.range 17).findSome? fun n =>
      candidate? (.around m e) e (place - Int.ofNat (n + 1))).isSome = true := by
    rw [List.findSome?_isSome_iff]
    refine ⟨16, by simp, candidate?_isSome hm hmax ?_⟩
    have hgrid : (10 : ℚ) ^ (place - Int.ofNat (16 + 1)) * 10 ^ 16 = 10 ^ (place - 1) := by
      rw [← zpow_natCast, ← zpow_add₀ (by norm_num)]
      congr 1
      simp
      ring
    rw [hgrid]
    exact hplace
  obtain ⟨d, hd⟩ := Option.isSome_iff_exists.1 hsome
  obtain ⟨n, hn, hcandidate⟩ := List.exists_of_findSome?_eq_some hd
  have hn' : n < 17 := List.mem_range.1 hn
  obtain ⟨hexponent, hpos, hfloor, hmidpoint⟩ := candidate?_spec hcandidate
  have hshortest : shortest m e = d.strip 20 := by
    unfold shortest
    simp only [← hdef, hd, Option.getD_some]
  obtain ⟨hstrip, hpos', hle, hlow', hhigh'⟩ := strip_spec 20 d hpos
  rw [Int.ofNat_eq_natCast] at hexponent
  rw [hshortest]
  rw [value_onGrid] at hmidpoint
  have hgrid : (0 : ℚ) < 10 ^ (place - Int.ofNat (n + 1)) := by positivity
  have hquarter : (2 : ℚ) ^ (e - 2) = 2 ^ e / 4 := by
    rw [zpow_sub₀ (by norm_num)]
    norm_num
  refine ⟨hpos', hle.trans ?_, by omega, by omega, ?_⟩
  · have hvalue4 : (onGrid (4 * m) e (place - Int.ofNat (n + 1))).value < 10 ^ 17 := by
      rw [value_onGrid, div_lt_iff₀ hgrid, hquarter]
      calc ((4 * m : Nat) : ℚ) * (2 ^ e / 4) = m * 2 ^ e := by
            push_cast
            ring
        _ < 10 ^ place := hplace'
        _ ≤ 10 ^ (17 + (place - Int.ofNat (n + 1))) :=
          zpow_le_zpow_right₀ hten.le (by rw [Int.ofNat_eq_natCast]; omega)
        _ = 10 ^ 17 * 10 ^ (place - Int.ofNat (n + 1)) := by
          rw [zpow_add₀ (by norm_num)]
          norm_num
    have hless : (onGrid (4 * m) e (place - Int.ofNat (n + 1))).floor < 10 ^ 17 := by
      exact_mod_cast (Ratio.floor_le_value (den_onGrid_pos _ _ _)).trans_lt hvalue4
    exact hfloor.trans hless
  · rw [hstrip, Digits.value, hexponent, ← Int.ofNat_eq_natCast]
    rw [le_div_iff₀ hgrid, hquarter] at hmidpoint
    have hmid : (((Interval.around m e).high : Nat) : ℚ) = 4 * m + 2 := by
      change ((4 * m + 2 : Nat) : ℚ) = _
      push_cast
      ring
    rw [hmid] at hmidpoint
    linarith

end PageRisk.Decimal
