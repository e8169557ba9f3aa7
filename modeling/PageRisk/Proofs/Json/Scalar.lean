import Mathlib.Tactic.Common
import PageRisk.Json.Printer
import PageRisk.Json.Scalar

set_option autoImplicit false

/-! # Words, integers and strings read back

What the printer writes for a scalar is read back as that scalar, whatever comes after it
(`readString_body`), or whatever comes after it that cannot go on a number
(`readNumber_intText`). Floating-point numbers are left out: they are read by a multiplication that
rounds. -/

namespace PageRisk.Json

/-! ## White space and words -/

theorem skipSpace_append {ws : List Char} (hws : ∀ c ∈ ws, isSpace c = true) (cs : List Char) :
    skipSpace (ws ++ cs) = skipSpace cs :=
  List.dropWhile_append_of_pos hws

theorem skipSpace_of_bare {c : Char} (h : isSpace c = false) (rest : List Char) :
    skipSpace (c :: rest) = c :: rest := by
  rw [skipSpace, List.dropWhile_cons_of_neg (by simp [h])]

theorem word_eq_ok_iff {cs text rest : List Char} :
    word cs text = .ok ((), rest) ↔ text = cs ++ rest := by
  induction cs generalizing text with
  | nil => simp [word]
  | cons c cs ih =>
    cases text with
    | nil => simp [word]
    | cons d text =>
      rw [word]
      by_cases hcd : c = d
      · simp [hcd, ih]
      · simp [hcd, Ne.symm hcd]

theorem word_append (cs rest : List Char) : word cs (cs ++ rest) = .ok ((), rest) :=
  word_eq_ok_iff.2 rfl

/-! ## Integers -/

/-- Whether a number ends where the text begins. -/
def NumberEnds (rest : List Char) : Prop :=
  ∀ c ∈ rest.head?, c.isDigit = false ∧ c ≠ '.' ∧ c ≠ 'e' ∧ c ≠ 'E'

theorem digitValue_digitChar : ∀ d < 10, digitValue (Nat.digitChar d) = d := by decide

theorem isDigit_of_mem_natText {n : Nat} {c : Char} (h : c ∈ Decimal.natText n) :
    c.isDigit = true :=
  Nat.isDigit_of_mem_toDigits (by decide) (by decide) h

theorem exists_cons_natText (n : Nat) : ∃ c rest, Decimal.natText n = c :: rest :=
  List.exists_cons_of_ne_nil Nat.toDigits_ne_nil

/-- The digits of a number that fits are gathered by `integralDigits`, and no digit is left to the
    exponent. -/
theorem integralDigits_natText {n : Nat} (h : n ≤ significandMax) :
    integralDigits (Decimal.natText n) = ⟨n, 0⟩ := by
  induction n using Nat.strongRecOn with
  | ind n ih =>
    rw [Decimal.natText, Nat.toDigits_eq_if (by decide)]
    split
    · next hlt => simp [integralDigits, digitValue_digitChar n hlt, h]
    · next hge =>
      have hhead := ih (n / 10) (by omega) (by omega)
      have hsum : n / 10 * 10 + digitValue (Nat.digitChar (n % 10)) = n := by
        rw [digitValue_digitChar _ (by omega)]
        omega
      rw [Decimal.natText] at hhead
      rw [integralDigits, List.foldl_append, ← integralDigits, hhead]
      simp [hsum, h]

theorem digitChar_ne_zero : ∀ d < 10, d ≠ 0 → Nat.digitChar d ≠ '0' := by decide

/-- Of all numbers only zero has a `natText` that starts with the digit zero. -/
theorem natText_head {n : Nat} (h : n ≠ 0) :
    ∃ c rest, Decimal.natText n = c :: rest ∧ c ≠ '0' := by
  induction n using Nat.strongRecOn with
  | ind n ih =>
    rw [Decimal.natText, Nat.toDigits_eq_if (by decide)]
    split
    · next hlt => exact ⟨_, [], rfl, digitChar_ne_zero n hlt h⟩
    · next hge =>
      obtain ⟨c, rest, htext, hne⟩ := ih (n / 10) (by omega) (by omega)
      rw [Decimal.natText] at htext
      exact ⟨c, rest ++ [Nat.digitChar (n % 10)], by rw [htext]; rfl, hne⟩

theorem takeWhile_natText {n : Nat} {rest : List Char} (h : NumberEnds rest) :
    (Decimal.natText n ++ rest).takeWhile Char.isDigit = Decimal.natText n
      ∧ (Decimal.natText n ++ rest).dropWhile Char.isDigit = rest := by
  have hdigits : ∀ c ∈ Decimal.natText n, c.isDigit = true := fun c hc =>
    isDigit_of_mem_natText hc
  rw [List.takeWhile_append_of_pos hdigits, List.dropWhile_append_of_pos hdigits]
  cases rest with
  | nil => simp
  | cons c rest =>
    have hc : c.isDigit = false := (h c rfl).1
    simp [hc]

/-- Digits that end where a number ends (`NumberEnds`) are read as an integral part alone. -/
theorem readUnsigned_natText {n : Nat} (hn : n ≤ significandMax) (negative : Bool)
    {rest : List Char} (h : NumberEnds rest) :
    readUnsigned negative (Decimal.natText n ++ rest) = finishInteger negative ⟨n, 0⟩ rest := by
  -- No digits go before others with a zero: only the number zero starts with one.
  obtain ⟨c, more, htext, hzero⟩ : ∃ c more, Decimal.natText n = c :: more
      ∧ (c == '0' && ((more ++ rest).headD ' ').isDigit) = false := by
    by_cases hn0 : n = 0
    · subst hn0
      refine ⟨'0', [], Nat.toDigits_zero 10, ?_⟩
      cases rest with
      | nil => rfl
      | cons d rest => simpa using (h d rfl).1
    · obtain ⟨c, more, htext, hne⟩ := natText_head hn0
      exact ⟨c, more, htext, by simp [hne]⟩
  have hdigit : c.isDigit = true := isDigit_of_mem_natText (htext ▸ List.mem_cons_self)
  have hwhile := takeWhile_natText (n := n) h
  have hvalue := integralDigits_natText hn
  rw [htext] at hwhile hvalue ⊢
  rw [List.cons_append] at hwhile ⊢
  simp only [readUnsigned, hdigit, hzero, hwhile.1, hwhile.2, hvalue, Bool.not_true,
    Bool.false_eq_true, if_false]
  -- What follows is neither a point nor the letter of an exponent.
  cases rest with
  | nil => rfl
  | cons d rest =>
    obtain ⟨-, hpoint, hlower, hupper⟩ := h d rfl
    split
    · next heq => exact absurd (List.cons.inj heq).1 hpoint
    · next heq => exact absurd (List.cons.inj heq).1 hlower
    · next heq => exact absurd (List.cons.inj heq).1 hupper
    · rfl

theorem ofInt?_value (n : WireInt) : WireInt.ofInt? n.value = some n := by
  rw [WireInt.ofInt?, dif_pos ⟨n.lower, n.upper⟩]

/-- `finishInteger` makes of a significand that fits, and is not minus zero, that integer. -/
theorem finishInteger_of_fits {n : WireInt} {negative : Bool} {m : Nat}
    (hvalue : (if negative = true then -Int.ofNat m else Int.ofNat m) = n.value)
    (hzero : (negative && m == 0) = false) (rest : List Char) :
    finishInteger negative ⟨m, 0⟩ rest = .ok (.integer n, rest) := by
  simp only [finishInteger, hvalue, hzero, beq_self_eq_true, Bool.not_false, Bool.and_self, if_true,
    ofInt?_value]

/-- `intText` is read back as the integer it was written for. -/
theorem readNumber_intText (n : WireInt) {rest : List Char} (h : NumberEnds rest) :
    readNumber (Decimal.intText n.value ++ rest) = .ok (.integer n, rest) := by
  have hlower := n.lower
  have hupper := n.upper
  have hfits : n.value.natAbs ≤ significandMax := by
    rw [significandMax]
    omega
  by_cases hneg : n.value < 0
  · rw [Decimal.intText, if_pos hneg, List.cons_append, readNumber, readUnsigned_natText hfits _ h]
    refine finishInteger_of_fits ?_ ?_ rest
    · rw [if_pos rfl, Int.ofNat_eq_natCast]
      omega
    · have hne : n.value.natAbs ≠ 0 := by omega
      simpa using hne
  · have hread : readNumber (Decimal.natText n.value.natAbs ++ rest)
        = readUnsigned false (Decimal.natText n.value.natAbs ++ rest) := by
      rw [readNumber]
      intro cs hminus
      obtain ⟨c, more, htext⟩ := exists_cons_natText n.value.natAbs
      have hdigit : c.isDigit = true := isDigit_of_mem_natText (htext ▸ List.mem_cons_self)
      rw [htext] at hminus
      rw [(List.cons.inj hminus).1] at hdigit
      exact absurd hdigit (by decide)
    rw [Decimal.intText, if_neg hneg, hread, readUnsigned_natText hfits _ h]
    refine finishInteger_of_fits ?_ rfl rest
    rw [if_neg Bool.false_ne_true, Int.ofNat_eq_natCast]
    omega

/-! ## Strings -/

theorem readStringFrom_plain {c : Char} (hquote : c ≠ '"') (hslash : c ≠ '\\') (hplain : ¬ c < ' ')
    (read rest : List Char) :
    readStringFrom read (c :: rest) = readStringFrom (c :: read) rest := by
  rw [readStringFrom, if_neg hplain]
  · exact hquote
  all_goals
    intros
    exact hslash (by assumption)

theorem readStringFrom_simple {e c : Char} (h : simpleEscape? e = some c) (read rest : List Char) :
    readStringFrom read ('\\' :: e :: rest) = readStringFrom (c :: read) rest := by
  have hne : e ≠ 'u' := by
    rintro rfl
    simp [simpleEscape?] at h
  rw [readStringFrom]
  · rw [h]
  all_goals
    intros
    exact hne (by assumption)

/-- A string ends at its closing quote. -/
theorem readStringFrom_quote (read rest : List Char) :
    readStringFrom read ('"' :: rest) = .ok (read.reverse, rest) := rfl

/-- A code unit that is no surrogate stands for a character by itself. -/
theorem readStringFrom_unicode {a b c d : Char} {n : Nat} (hhex : hex4? a b c d = some n)
    (hhigh : ¬ (0xD800 ≤ n ∧ n ≤ 0xDBFF)) (hlow : ¬ (0xDC00 ≤ n ∧ n ≤ 0xDFFF))
    (read rest : List Char) :
    readStringFrom read ('\\' :: 'u' :: a :: b :: c :: d :: rest)
      = readStringFrom (Char.ofNat n :: read) rest := by
  rw [readStringFrom, hhex]
  simp only
  rw [if_neg (by simpa using hlow), if_neg (by simpa using hhigh)]

theorem hex4?_control : ∀ n < 32, hex4? '0' '0' (hexLetter (n / 16)) (hexLetter (n % 16)) = some n := by
  decide

/-- A control without a letter of its own is read back from its code point, in two `hexLetter`s. -/
theorem readStringFrom_control {c : Char} (h : c < ' ') (read rest : List Char) :
    readStringFrom read
        ('\\' :: 'u' :: '0' :: '0' :: hexLetter (c.toNat / 16) :: hexLetter (c.toNat % 16) :: rest)
      = readStringFrom (c :: read) rest := by
  have hlt : c.toNat < 32 := h
  rw [readStringFrom_unicode (hex4?_control _ hlt) (by omega) (by omega), Char.ofNat_toNat]

/-- One character is read back from its `escaped` form. -/
theorem readStringFrom_escaped (c : Char) (read rest : List Char) :
    readStringFrom read (escaped c ++ rest) = readStringFrom (c :: read) rest := by
  unfold escaped
  simp only [beq_iff_eq]
  split_ifs with hquote hslash hback htab hline hfeed hreturn hcontrol
  · rw [hquote]
    exact readStringFrom_simple rfl read rest
  · rw [hslash]
    exact readStringFrom_simple rfl read rest
  · rw [hback]
    exact readStringFrom_simple rfl read rest
  · rw [htab]
    exact readStringFrom_simple rfl read rest
  · rw [hline]
    exact readStringFrom_simple rfl read rest
  · rw [hfeed]
    exact readStringFrom_simple rfl read rest
  · rw [hreturn]
    exact readStringFrom_simple rfl read rest
  · exact readStringFrom_control hcontrol read rest
  · exact readStringFrom_plain hquote hslash hcontrol read rest

theorem readStringFrom_flatMap (cs read rest : List Char) :
    readStringFrom read (cs.flatMap escaped ++ '"' :: rest) = .ok (read.reverse ++ cs, rest) := by
  induction cs generalizing read with
  | nil => rw [List.flatMap_nil, List.nil_append, readStringFrom_quote, List.append_nil]
  | cons c cs ih =>
    rw [List.flatMap_cons, List.append_assoc, readStringFrom_escaped, ih, List.reverse_cons,
      List.append_assoc, List.singleton_append]

/-- A string is read back from its `escaped` characters, and what stands after the closing quote is left. -/
theorem readString_body (s : String) (rest : List Char) :
    readString (s.toList.flatMap escaped ++ '"' :: rest) = .ok (s, rest) := by
  rw [readString, readStringFrom_flatMap]
  simp [Except.map, String.ofList_toList]

end PageRisk.Json
