import PageRisk.Decimal.Layout
import PageRisk.Proofs.Decimal
import PageRisk.Proofs.Json.Scalar
import PageRisk.Proofs.Rounding

set_option autoImplicit false

/-! # Floating-point numbers read back

The text of a finite floating-point number is always read as a number again (`exists_readNumber`), though
not always as the same one, as reading multiplies and rounds. The greatest numbers are the ones for which this is
in doubt: their shortest texts may stand for more than they are worth, and the product for their text is
rounded three times. -/

namespace PageRisk.Json

open Decimal

/-! ## Digits -/

theorem le_ofDigitChars (cs : List Char) (n : Nat) : n ≤ Nat.ofDigitChars 10 cs n := by
  rw [Nat.ofDigitChars_eq_ofDigitChars_zero]
  have : n ≤ 10 ^ cs.length * n := Nat.le_mul_of_pos_left n (by positivity)
  omega

theorem ofDigitChars_cons (c : Char) (cs : List Char) (n : Nat) :
    Nat.ofDigitChars 10 (c :: cs) n = Nat.ofDigitChars 10 cs (n * 10 + digitValue c) := by
  rw [Nat.ofDigitChars_cons, Nat.mul_comm]
  rfl

theorem ofDigitChars_lt_mul {cs : List Char} (hcs : ∀ c ∈ cs, c.isDigit = true) (n : Nat) :
    Nat.ofDigitChars 10 cs n < (n + 1) * 10 ^ cs.length := by
  induction cs generalizing n with
  | nil => simp
  | cons c cs ih =>
    obtain ⟨hc, hrest⟩ := List.forall_mem_cons.1 hcs
    have hdigit : digitValue c ≤ 9 := by
      have hrange := (Bool.and_eq_true _ _).mp hc
      have hupper : c.toNat ≤ '9'.toNat := of_decide_eq_true hrange.2
      exact Nat.sub_le_sub_right hupper _
    rw [ofDigitChars_cons, List.length_cons, Nat.pow_succ']
    calc Nat.ofDigitChars 10 cs (n * 10 + digitValue c)
        < (n * 10 + digitValue c + 1) * 10 ^ cs.length := ih hrest _
      _ ≤ (n + 1) * 10 * 10 ^ cs.length := Nat.mul_le_mul_right _ (by omega)
      _ = (n + 1) * (10 * 10 ^ cs.length) := by rw [Nat.mul_assoc]

/-- Digits stand for less than the power of ten with as many zeros. -/
theorem ofDigitChars_lt {cs : List Char} (hcs : ∀ c ∈ cs, c.isDigit = true) :
    Nat.ofDigitChars 10 cs 0 < 10 ^ cs.length := by
  have hlt := ofDigitChars_lt_mul hcs 0
  rwa [Nat.zero_add, Nat.one_mul] at hlt

/-- Digits whose value fits are gathered into the significand by `integralDigits`, and none is left to the
    exponent. -/
theorem integralDigits_eq {cs : List Char} (h : Nat.ofDigitChars 10 cs 0 ≤ significandMax) :
    integralDigits cs = ⟨Nat.ofDigitChars 10 cs 0, 0⟩ := by
  suffices hfold : ∀ n, Nat.ofDigitChars 10 cs n ≤ significandMax →
      cs.foldl (fun (s : Scaled) c =>
        let next := s.significand * 10 + digitValue c
        if s.exponent == 0 && next ≤ significandMax then ⟨next, 0⟩
        else ⟨s.significand, s.exponent + 1⟩) ⟨n, 0⟩ = ⟨Nat.ofDigitChars 10 cs n, 0⟩ from hfold 0 h
  clear h
  induction cs with
  | nil => exact fun n _ => rfl
  | cons c cs ih =>
    intro n hn
    rw [ofDigitChars_cons] at hn
    have hnext : n * 10 + digitValue c ≤ significandMax := (le_ofDigitChars cs _).trans hn
    rw [ofDigitChars_cons, List.foldl_cons]
    simp only [beq_self_eq_true, hnext, decide_true, Bool.and_self, if_true]
    exact ih _ hn

/-- Digits of a fraction whose value fits are all gathered by `fractionDigits`. -/
theorem fractionDigits_eq {cs : List Char} {n : Nat} (e : Int)
    (h : Nat.ofDigitChars 10 cs n ≤ significandMax) :
    fractionDigits ⟨n, e⟩ cs = ⟨Nat.ofDigitChars 10 cs n, e - cs.length⟩ := by
  induction cs generalizing n e with
  | nil => simp [fractionDigits]
  | cons c cs ih =>
    rw [ofDigitChars_cons] at h
    have hnext : n * 10 + digitValue c ≤ significandMax := (le_ofDigitChars cs _).trans h
    rw [ofDigitChars_cons, fractionDigits]
    simp only [hnext, if_true]
    rw [ih _ h, List.length_cons]
    congr 1
    push_cast
    ring

theorem ofDigitChars_natText (n : Nat) : Nat.ofDigitChars 10 (natText n) 0 = n :=
  Nat.ofDigitChars_ten_toDigits

/-! ## Texts of numbers -/

/-- Whether digits end where the text begins. -/
def DigitsEnd (rest : List Char) : Prop :=
  ∀ c ∈ rest.head?, c.isDigit = false

theorem digitsEnd_cons {c : Char} (h : c.isDigit = false) (rest : List Char) : DigitsEnd (c :: rest) := by
  intro d hd
  obtain rfl := Option.some.inj hd
  exact h

theorem takeWhile_digits {ds rest : List Char} (hds : ∀ c ∈ ds, c.isDigit = true)
    (hrest : DigitsEnd rest) :
    (ds ++ rest).takeWhile Char.isDigit = ds ∧ (ds ++ rest).dropWhile Char.isDigit = rest := by
  rw [List.takeWhile_append_of_pos hds, List.dropWhile_append_of_pos hds]
  cases rest with
  | nil => simp
  | cons c rest =>
    have hc : c.isDigit = false := hrest c rfl
    simp [hc]

/-- After an integral part and a point `readUnsigned` reads a fraction. -/
theorem readUnsigned_point {negative : Bool} {c : Char} {ds fs rest : List Char}
    (hc : c.isDigit = true) (hds : ∀ d ∈ ds, d.isDigit = true) (hzero : c = '0' → ds = [])
    (hfs : ∀ d ∈ fs, d.isDigit = true) (hne : fs ≠ []) (hrest : DigitsEnd rest) :
    readUnsigned negative (c :: ds ++ '.' :: (fs ++ rest))
      = readExponent? negative (fractionDigits (integralDigits (c :: ds)) fs) rest := by
  have hall : ∀ d ∈ c :: ds, d.isDigit = true := List.forall_mem_cons.2 ⟨hc, hds⟩
  have hwhole := takeWhile_digits hall (digitsEnd_cons (c := '.') rfl (fs ++ rest))
  have hfraction := takeWhile_digits hfs hrest
  have hlead : (c == '0' && ((ds ++ '.' :: (fs ++ rest)).headD ' ').isDigit) = false := by
    by_cases h0 : c = '0'
    · rw [hzero h0]
      simp
    · simp [h0]
  rw [List.cons_append] at hwhole ⊢
  simp only [readUnsigned, hc, hlead, hwhole.1, hwhole.2, Bool.not_true, Bool.false_eq_true, if_false,
    readFraction, hfraction.1, hfraction.2, List.isEmpty_eq_false_iff.2 hne]

/-- After a single digit `readUnsigned` reads an exponent. -/
theorem readUnsigned_exponent {negative : Bool} {c : Char} (hc : c.isDigit = true) (rest : List Char) :
    readUnsigned negative (c :: 'e' :: rest) = readExponent negative (integralDigits [c]) rest := by
  have hall : ∀ d ∈ [c], d.isDigit = true := by simpa using hc
  have hwhole := takeWhile_digits hall (digitsEnd_cons (c := 'e') rfl rest)
  rw [List.cons_append, List.nil_append] at hwhole
  have he : ('e' : Char).isDigit = false := rfl
  simp only [readUnsigned, hc, hwhole.1, hwhole.2, Bool.not_true, Bool.false_eq_true, if_false,
    List.headD_cons, he, Bool.and_false]

theorem exponentDigits_eq {ds rest : List Char} {n : Nat} (hds : ∀ c ∈ ds, c.isDigit = true)
    (hrest : DigitsEnd rest) (h : Nat.ofDigitChars 10 ds n ≤ exponentMax) :
    exponentDigits n (ds ++ rest) = (some (Nat.ofDigitChars 10 ds n), rest) := by
  induction ds generalizing n with
  | nil =>
    cases rest with
    | nil => rfl
    | cons c rest =>
      have hc : c.isDigit = false := hrest c rfl
      simp [exponentDigits, hc, Nat.ofDigitChars]
  | cons c ds ih =>
    rw [ofDigitChars_cons] at h
    have hnext : n * 10 + digitValue c ≤ exponentMax := (le_ofDigitChars ds _).trans h
    rw [List.cons_append, exponentDigits, if_pos (hds c List.mem_cons_self),
      ofDigitChars_cons]
    simp only [hnext, if_true]
    exact ih (fun d hd => hds d (List.mem_cons_of_mem _ hd)) h

theorem clampExponent_eq {e : Int} (hlow : -2147483648 ≤ e) (hhigh : e ≤ 2147483647) :
    clampExponent e = e := by
  unfold clampExponent
  split_ifs <;> omega

/-- `exponentDigits` reads the digits of an exponent, whose sign and first digit were read. -/
theorem exponentDigits_natText {n : Nat} (hn : n ≤ exponentMax) {rest : List Char}
    (hrest : DigitsEnd rest) :
    ∃ c more, natText n = c :: more ∧ c.isDigit = true
      ∧ exponentDigits (digitValue c) (more ++ rest) = (some n, rest) := by
  obtain ⟨c, more, htext⟩ := exists_cons_natText n
  have hdigits : ∀ d ∈ c :: more, d.isDigit = true := fun d hd =>
    isDigit_of_mem_natText (n := n) (htext ▸ hd)
  have hvalue : Nat.ofDigitChars 10 more (digitValue c) = n := by
    rw [← ofDigitChars_natText n, htext, ofDigitChars_cons, Nat.zero_mul, Nat.zero_add]
  refine ⟨c, more, htext, hdigits c List.mem_cons_self, ?_⟩
  rw [exponentDigits_eq (fun d hd => hdigits d (List.mem_cons_of_mem _ hd)) hrest (by omega), hvalue]

/-- `readExponent` adds a small exponent to that of the significand. -/
theorem readExponent_text (negative : Bool) {s : Scaled} {k : Int} (hs : s.exponent.natAbs ≤ 1000)
    (hk : k.natAbs ≤ 1000) {rest : List Char} (hrest : DigitsEnd rest) :
    readExponent negative s ((if 0 ≤ k then ['+'] else []) ++ intText k ++ rest)
      = finishReal negative ⟨s.significand, s.exponent + k⟩ rest := by
  obtain ⟨c, more, htext, hdigit, hread⟩ :=
    exponentDigits_natText (n := k.natAbs) (by rw [exponentMax]; omega) hrest
  by_cases hneg : 0 ≤ k
  · have hsum : clampExponent (s.exponent + Int.ofNat k.natAbs) = s.exponent + k := by
      rw [Int.ofNat_eq_natCast, clampExponent_eq] <;> omega
    rw [if_pos hneg, intText, if_neg (by omega), htext]
    simp only [List.cons_append, List.nil_append, readExponent, hdigit, hread, hsum, Bool.not_true,
      Bool.false_eq_true, if_false]
  · have hsum : clampExponent (s.exponent - Int.ofNat k.natAbs) = s.exponent + k := by
      rw [Int.ofNat_eq_natCast, clampExponent_eq] <;> omega
    rw [if_neg hneg, intText, if_pos (by omega), htext]
    simp only [List.cons_append, List.nil_append, readExponent, hdigit, hread, hsum, Bool.not_true,
      Bool.false_eq_true, if_false, if_true]

/-! ## The layouts -/

theorem toFloat?_isSome_of_neg {s : Scaled} (h : s.exponent < 0) : s.toFloat?.isSome = true := by
  obtain ⟨n, e⟩ := s
  cases e with
  | ofNat k => exact absurd h (by simp)
  | negSucc k => rfl

/-- Whether `readUnsigned` reads a text as a floating-point number, with either sign, wherever a number
    would end. -/
def ReadsReal (text : List Char) : Prop :=
  ∃ y : Float, ∀ negative rest, NumberEnds rest →
    readUnsigned negative (text ++ rest) = .ok (.real (if negative then -y else y), rest)

theorem readsReal_of_finish {text : List Char} {s : Scaled} (hs : s.toFloat?.isSome = true)
    (h : ∀ negative rest, NumberEnds rest →
      readUnsigned negative (text ++ rest) = finishReal negative s rest) : ReadsReal text := by
  obtain ⟨y, hy⟩ := Option.isSome_iff_exists.1 hs
  refine ⟨y, fun negative rest hrest => ?_⟩
  rw [h negative rest hrest, finishReal, hy]

theorem NumberEnds.digitsEnd {rest : List Char} (h : NumberEnds rest) : DigitsEnd rest := fun c hc =>
  (h c hc).1

theorem readExponent?_of_ends (negative : Bool) (s : Scaled) {rest : List Char} (h : NumberEnds rest) :
    readExponent? negative s rest = finishReal negative s rest := by
  cases rest with
  | nil => rfl
  | cons c rest =>
    obtain ⟨-, -, hlower, hupper⟩ := h c rfl
    unfold readExponent?
    split
    · next heq => exact absurd (List.cons.inj heq).1 hlower
    · next heq => exact absurd (List.cons.inj heq).1 hupper
    · rfl

/-- Digits with a point among them have `ReadsReal`. -/
theorem readsReal_point {c : Char} {ds fs : List Char} (hc : c.isDigit = true)
    (hds : ∀ d ∈ ds, d.isDigit = true) (hzero : c = '0' → ds = [])
    (hfs : ∀ d ∈ fs, d.isDigit = true) (hne : fs ≠ [])
    (hvalue : Nat.ofDigitChars 10 (c :: ds ++ fs) 0 ≤ significandMax) :
    ReadsReal (c :: ds ++ '.' :: fs) := by
  rw [Nat.ofDigitChars_append] at hvalue
  have hwhole := (le_ofDigitChars fs _).trans hvalue
  have hlength : 0 < fs.length := List.length_pos_of_ne_nil hne
  refine readsReal_of_finish
    (s := ⟨Nat.ofDigitChars 10 fs (Nat.ofDigitChars 10 (c :: ds) 0), 0 - fs.length⟩)
    (toFloat?_isSome_of_neg (by simp only; omega)) fun negative rest hrest => ?_
  have htext : c :: ds ++ '.' :: fs ++ rest = c :: ds ++ '.' :: (fs ++ rest) := by simp
  rw [htext, readUnsigned_point hc hds hzero hfs hne hrest.digitsEnd, readExponent?_of_ends _ _ hrest,
    integralDigits_eq hwhole, fractionDigits_eq 0 hvalue]

/-- The exponent of a number after its first digit. -/
def exponentText (k : Int) : List Char :=
  'e' :: ((if 0 ≤ k then ['+'] else []) ++ intText k)

/-- Digits with a point after the first one, if there are more, and an exponent have `ReadsReal` where the
    number that they stand for is finite. -/
theorem readsReal_exponent {c : Char} {ds : List Char} {k : Int} (hc : c.isDigit = true)
    (hds : ∀ d ∈ ds, d.isDigit = true) (hlength : ds.length ≤ 1000) (hk : k.natAbs ≤ 1000)
    (hvalue : Nat.ofDigitChars 10 (c :: ds) 0 ≤ significandMax)
    (hfits : (Scaled.mk (Nat.ofDigitChars 10 (c :: ds) 0) (k - ds.length)).toFloat?.isSome = true) :
    ReadsReal ((if ds = [] then [c] else c :: '.' :: ds) ++ exponentText k) := by
  refine readsReal_of_finish hfits fun negative rest hrest => ?_
  have hsum : (0 : Int) - ds.length + k = k - ds.length := by omega
  split_ifs with hnil
  · subst hnil
    have htext : [c] ++ exponentText k ++ rest
        = c :: 'e' :: ((if 0 ≤ k then ['+'] else []) ++ intText k ++ rest) := by simp [exponentText]
    rw [htext, readUnsigned_exponent hc, integralDigits_eq hvalue,
      readExponent_text negative (by simp) hk hrest.digitsEnd]
    simp
  · have htext : c :: '.' :: ds ++ exponentText k ++ rest
        = c :: [] ++ '.' :: (ds ++ 'e' :: ((if 0 ≤ k then ['+'] else []) ++ intText k ++ rest)) := by
      simp [exponentText]
    have hvalue' : Nat.ofDigitChars 10 ds (Nat.ofDigitChars 10 [c] 0) ≤ significandMax := by
      rw [← Nat.ofDigitChars_append]
      exact hvalue
    rw [htext, readUnsigned_point hc (by simp) (fun _ => rfl) hds hnil (digitsEnd_cons (c := 'e') rfl _),
      integralDigits_eq ((le_ofDigitChars ds _).trans hvalue'), fractionDigits_eq 0 hvalue', readExponent?,
      readExponent_text negative (by simp only; omega) hk hrest.digitsEnd, ← Nat.ofDigitChars_append, hsum]
    rfl

/-- Digits after a zero and a point have `ReadsReal`. -/
theorem readsReal_fraction {fs : List Char} (hfs : ∀ d ∈ fs, d.isDigit = true) (hne : fs ≠ [])
    (hvalue : Nat.ofDigitChars 10 fs 0 ≤ significandMax) : ReadsReal ('0' :: '.' :: fs) := by
  have hnone : ∀ d ∈ ([] : List Char), d.isDigit = true := by simp
  exact readsReal_point (c := '0') rfl hnone (fun _ => rfl) hfs hne hvalue

/-- Digits with zeros after them, up to the point, have `ReadsReal`. -/
theorem readsReal_whole {c : Char} {ds : List Char} {zeros : Nat}
    (hdigits : ∀ d ∈ c :: ds, d.isDigit = true) (hne : c ≠ '0') (hlength : ds.length + 1 + zeros ≤ 16) :
    ReadsReal (c :: ds ++ List.replicate zeros '0' ++ ['.', '0']) := by
  have hzeros : ∀ d ∈ List.replicate zeros '0', d.isDigit = true := fun d hd => by
    rw [List.eq_of_mem_replicate hd]
    rfl
  obtain ⟨hc, hds⟩ := List.forall_mem_cons.1 hdigits
  have hmore : ∀ d ∈ ds ++ List.replicate zeros '0', d.isDigit = true :=
    List.forall_mem_append.2 ⟨hds, hzeros⟩
  have hlast : ∀ d ∈ ['0'], d.isDigit = true := by simp
  have hall : ∀ d ∈ c :: (ds ++ List.replicate zeros '0') ++ ['0'], d.isDigit = true :=
    List.forall_mem_append.2 ⟨List.forall_mem_cons.2 ⟨hc, hmore⟩, hlast⟩
  have hcount : (c :: (ds ++ List.replicate zeros '0') ++ ['0']).length ≤ 17 := by
    simp only [List.length_append, List.length_cons, List.length_replicate, List.length_nil]
    omega
  have hvalue := (ofDigitChars_lt hall).trans_le (Nat.pow_le_pow_right (by decide) hcount)
  have hread := readsReal_point hc hmore (fun hzero => absurd hzero hne) hlast (List.cons_ne_nil _ _)
    (hvalue.le.trans (by rw [significandMax]; omega))
  simpa using hread

/-- The text of a decimal in the `wireLayout` has `ReadsReal` where the number that it stands for is finite,
    which is only in doubt where it has an exponent. -/
theorem readsReal_text {d : Digits} (hpos : 0 < d.significand) (hmax : d.significand ≤ 10 ^ 17)
    (hlow : -500 ≤ d.exponent) (hhigh : d.exponent ≤ 500)
    (hfits : (Scaled.mk d.significand d.exponent).toFloat?.isSome = true) :
    ReadsReal (wireLayout.text d) := by
  obtain ⟨c, more, htext, hne⟩ := natText_head hpos.ne'
  have hdigits : ∀ x ∈ c :: more, x.isDigit = true := fun x hx =>
    isDigit_of_mem_natText (n := d.significand) (htext ▸ hx)
  obtain ⟨hc, hmore⟩ := List.forall_mem_cons.1 hdigits
  have hvalue : Nat.ofDigitChars 10 (c :: more) 0 = d.significand := by
    rw [← htext, ofDigitChars_natText]
  have hshort : (c :: more).length ≤ 18 := by
    rw [← htext]
    exact (Nat.length_toDigits_le_iff (by decide) (by decide)).2 (by omega)
  rw [List.length_cons] at hshort
  have hfit : Nat.ofDigitChars 10 (c :: more) 0 ≤ significandMax := by
    rw [hvalue, significandMax]
    omega
  unfold Layout.text
  simp only [htext, wireLayout, List.length_cons, Int.ofNat_eq_natCast]
  obtain ⟨place, hplace⟩ : ∃ place : Int, place = (more.length + 1 : Nat) + d.exponent := ⟨_, rfl⟩
  rw [← hplace]
  by_cases hfar : (decide (place < -4) || decide (16 < place)) = true
  · rw [if_pos hfar]
    have hexponent : place - 1 - more.length = d.exponent := by omega
    have hread := readsReal_exponent (k := place - 1) hc hmore (by omega) (by omega) hfit
      (by rw [hvalue, hexponent]; exact hfits)
    cases more with
    | nil => simpa [exponentText] using hread
    | cons x more => simpa [exponentText] using hread
  · rw [if_neg hfar]
    rw [Bool.or_eq_true, decide_eq_true_eq, decide_eq_true_eq, not_or] at hfar
    by_cases hsmall : place ≤ 0
    · rw [if_pos hsmall]
      -- Zeros before the digits add nothing.
      refine readsReal_fraction (List.forall_mem_append.2 ⟨fun x hx => ?_, hdigits⟩) (by simp) ?_
      · rw [List.eq_of_mem_replicate hx]
        rfl
      · rw [Nat.ofDigitChars_append, Nat.ofDigitChars_replicate_zero]
        exact hfit
    · rw [if_neg hsmall]
      by_cases hwhole : ((more.length + 1 : Nat) : Int) ≤ place
      · rw [if_pos hwhole]
        exact readsReal_whole hdigits hne (by omega)
      · rw [if_neg hwhole]
        obtain ⟨p, hp⟩ : ∃ p, place.toNat = p + 1 := ⟨place.toNat - 1, by omega⟩
        rw [hp, List.take_succ_cons, List.drop_succ_cons]
        refine readsReal_point hc (fun x hx => hmore x (List.mem_of_mem_take hx)) (fun h => absurd h hne)
          (fun x hx => hmore x (List.mem_of_mem_drop hx)) ?_ ?_
        · rw [Ne, List.drop_eq_nil_iff]
          omega
        · rw [List.cons_append, List.take_append_drop]
          exact hfit

/-! ## Finite numbers -/

/-- The mantissa and the exponent that `Parts.ofFloat` gives for a finite number. -/
theorem ofFloat_spec {x : Float} {negative : Bool} {m : Nat} {e : Int}
    (h : Parts.ofFloat x = .finite negative m e) : m < 2 ^ 53 ∧ -1074 ≤ e ∧ e ≤ 971 := by
  unfold Parts.ofFloat at h
  simp only at h
  have hbiased : x.toBits.toNat / 0x10000000000000 % 0x800 < 0x800 := Nat.mod_lt _ (by omega)
  have hfraction : x.toBits.toNat % 0x10000000000000 < 0x10000000000000 := Nat.mod_lt _ (by omega)
  generalize x.toBits.toNat / 0x10000000000000 % 0x800 = biased at h hbiased
  generalize x.toBits.toNat % 0x10000000000000 = fraction at h hfraction
  split_ifs at h with hinf hzero hbiased0
  · obtain ⟨-, rfl, rfl⟩ := Parts.finite.inj h
    omega
  · obtain ⟨-, rfl, rfl⟩ := Parts.finite.inj h
    simp only [beq_iff_eq] at hinf hbiased0
    rw [Int.ofNat_eq_natCast]
    omega

open Rounding (slack slack_pos) in
/-- What the shortest text of a number stands for is far enough below `2 ^ 1024` for the product of its parts,
    if the number is none of the three greatest ones. -/
theorem midpoint_lt {m : Nat} {e : Int} (hmax : m < 2 ^ 53) (hhigh : e ≤ 971)
    (htop : e = 971 → m + 4 ≤ 2 ^ 53) :
    ((m : ℚ) + 1 / 2) * 2 ^ e * slack ^ 3 < 2 ^ 1024 - 2 ^ 970 := by
  have hunit : (0 : ℚ) < 2 ^ 970 := by positivity
  have hbound : (2 : ℚ) ^ 1024 - 2 ^ 970 = (2 ^ 54 - 1) * 2 ^ 970 := by
    rw [sub_mul, ← pow_add, one_mul]
  have hpos := pow_pos slack_pos 3
  rw [hbound]
  by_cases he : e = 971
  · have hm : (m : ℚ) + 4 ≤ 2 ^ 53 := by exact_mod_cast htop he
    have hpower : (2 : ℚ) ^ e = 2 * 2 ^ 970 := by
      have hnext : (971 : Int) = (970 : Nat) + 1 := rfl
      have htwo : (2 : ℚ) ≠ 0 := by norm_num
      rw [he, hnext, zpow_add_one₀ htwo, zpow_natCast, mul_comm]
    have hmove : ∀ a s u : ℚ, (a + 1 / 2) * (2 * u) * s = (2 * a + 1) * s * u := fun a s u => by ring
    rw [hpower]
    calc ((m : ℚ) + 1 / 2) * (2 * 2 ^ 970) * slack ^ 3 = (2 * m + 1) * slack ^ 3 * 2 ^ 970 := hmove _ _ _
      _ ≤ (2 * (2 ^ 53 - 4) + 1) * slack ^ 3 * 2 ^ 970 := by gcongr; linarith
      _ < (2 ^ 54 - 1) * 2 ^ 970 := mul_lt_mul_of_pos_right (by norm_num [slack]) hunit
  · have hm : (m : ℚ) + 1 ≤ 2 ^ 53 := by exact_mod_cast hmax
    have hpower : (2 : ℚ) ^ e ≤ 2 ^ 970 := by
      rw [← zpow_natCast]
      exact zpow_le_zpow_right₀ (by norm_num) (by push_cast; omega)
    calc ((m : ℚ) + 1 / 2) * 2 ^ e * slack ^ 3 ≤ 2 ^ 53 * 2 ^ 970 * slack ^ 3 := by
          gcongr
          linarith
      _ = 2 ^ 53 * slack ^ 3 * 2 ^ 970 := mul_right_comm _ _ _
      _ < (2 ^ 54 - 1) * 2 ^ 970 := mul_lt_mul_of_pos_right (by norm_num [slack]) hunit

/-- The number that the `shortest` digits of a number stand for is finite. -/
theorem toFloat?_shortest {m : Nat} {e : Int} (hm : 0 < m) (hmax : m < 2 ^ 53) (hlow : -1074 ≤ e)
    (hhigh : e ≤ 971) :
    (Scaled.mk (shortest m e).significand (shortest m e).exponent).toFloat?.isSome = true := by
  -- The three greatest numbers are tried out.
  have hgreatest : ∀ k < 3, (Scaled.mk (shortest (2 ^ 53 - 1 - k) 971).significand
      (shortest (2 ^ 53 - 1 - k) 971).exponent).toFloat?.isSome = true := by decide +kernel
  by_cases htop : e = 971 ∧ 2 ^ 53 < m + 4
  · obtain ⟨rfl, hm'⟩ := htop
    have heq : 2 ^ 53 - 1 - (2 ^ 53 - 1 - m) = m := by omega
    have htried := hgreatest (2 ^ 53 - 1 - m) (by omega)
    rwa [heq] at htried
  · obtain ⟨hpos, hdigits, -, -, hvalue⟩ := shortest_spec hm hmax hlow hhigh
    rw [Digits.value] at hvalue
    generalize shortest m e = d at hpos hdigits hvalue ⊢
    obtain ⟨n, exponent⟩ := d
    simp only at hpos hdigits hvalue ⊢
    cases exponent with
    | negSucc k => rfl
    | ofNat g =>
      rw [Int.ofNat_eq_natCast, zpow_natCast] at hvalue
      have hlt := midpoint_lt hmax hhigh (fun he => by omega)
      have hslack : (1 : ℚ) ≤ Rounding.slack ^ 3 := one_le_pow₀ Rounding.one_le_slack
      have hproduct : (n : ℚ) * 10 ^ g * Rounding.slack ^ 3 < 2 ^ 1024 - 2 ^ 970 :=
        (mul_le_mul_of_nonneg_right hvalue (by linarith)).trans_lt hlt
      have hone : (1 : ℚ) ≤ n := by exact_mod_cast hpos
      have hg : g ≤ 308 := by
        have hpower : (10 : ℚ) ^ g < 10 ^ 309 :=
          calc (10 : ℚ) ^ g ≤ n * 10 ^ g := le_mul_of_one_le_left (by positivity) hone
            _ ≤ n * 10 ^ g * Rounding.slack ^ 3 := le_mul_of_one_le_right (by positivity) hslack
            _ < 2 ^ 1024 - 2 ^ 970 := hproduct
            _ ≤ 2 ^ 1024 := sub_le_self _ (by positivity)
            _ ≤ 10 ^ 309 := by exact_mod_cast (by decide +kernel : 2 ^ 1024 ≤ 10 ^ 309)
        have := (pow_lt_pow_iff_right₀ (by norm_num : (1 : ℚ) < 10)).1 hpower
        omega
      have hfinite := Rounding.not_isInf_mul_tenPower (n := n) (by omega) (by omega) hg hproduct
      rw [Scaled.toFloat?]
      simp only [hg, if_true, hfinite, Bool.false_eq_true, if_false]
      rfl

/-- What `readUnsigned` reads does not begin with a sign. -/
theorem readNumber_of_readUnsigned {cs : List Char} {found : Number × List Char}
    (h : readUnsigned false cs = .ok found) : readNumber cs = .ok found := by
  unfold readNumber
  split
  · next rest =>
    have hsign : ('-' : Char).isDigit = false := rfl
    simp [readUnsigned, hsign] at h
  · exact h

/-- The `shortestText?` of a number is read as a floating-point number, wherever a number would end. It need
    not be the same one. -/
theorem exists_readNumber {x : Float} {text : List Char} (h : shortestText? x = some text) :
    ∃ y : Float, ∀ rest, NumberEnds rest → readNumber (text ++ rest) = .ok (.real y, rest) := by
  unfold shortestText? at h
  split at h
  · next negative m e hparts =>
    obtain ⟨hmax, hlow, hhigh⟩ := ofFloat_spec hparts
    obtain ⟨body, hbody⟩ : ∃ body, body = (if m == 0 then ['0', '.', '0']
      else wireLayout.text (shortest m e)) := ⟨_, rfl⟩
    have hread : ReadsReal body := by
      rw [hbody]
      split_ifs with hzero
      · have hdigit : ∀ d ∈ ['0'], d.isDigit = true := by simp
        exact readsReal_fraction hdigit (List.cons_ne_nil _ _) (Nat.zero_le _)
      · have hm : 0 < m := Nat.pos_of_ne_zero (by simpa using hzero)
        obtain ⟨hpos, hdigits, hleast, hgreatest, -⟩ := shortest_spec hm hmax hlow hhigh
        exact readsReal_text hpos hdigits hleast hgreatest (toFloat?_shortest hm hmax hlow hhigh)
    obtain ⟨y, hy⟩ := hread
    have htext : (if negative then '-' :: body else body) = text := by
      rw [hbody]
      exact Option.some.inj h
    cases negative with
    | true =>
      rw [if_pos rfl] at htext
      refine ⟨-y, fun rest hrest => ?_⟩
      rw [← htext, List.cons_append, readNumber, hy true rest hrest, if_pos rfl]
    | false =>
      rw [if_neg Bool.false_ne_true] at htext
      refine ⟨y, fun rest hrest => ?_⟩
      rw [← htext]
      refine readNumber_of_readUnsigned ?_
      rw [hy false rest hrest, if_neg Bool.false_ne_true]
  · exact absurd h (by simp)

end PageRisk.Json
