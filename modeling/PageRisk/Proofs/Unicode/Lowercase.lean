import Mathlib.Data.List.Basic
import Mathlib.Data.List.Chain
import Mathlib.Data.List.TakeWhile
import Mathlib.Tactic.Common
import PageRisk.Unicode.Lowercase

set_option autoImplicit false

/-! # Lower case twice

What lower case makes of a character it leaves as it is (`isLower_of_mem_lowercaseChar`), so that a text in
lower case is its own lower case, and so is every part of it (`lowercase_eq_self`). It makes letters only:
any other character of ASCII in a text in lower case stood in the text before (`mem_of_mem_lowercase`). -/

namespace PageRisk.Unicode

/-- Whether `lowercaseChar` leaves the character as it is and it is no capital sigma, so that it is its own
    lower case wherever it stands. -/
def IsLower (c : Char) : Prop :=
  c ≠ 'Σ' ∧ lowercaseChar c = [c]

instance (c : Char) : Decidable (IsLower c) :=
  inferInstanceAs (Decidable (_ ∧ _))

/-! ## Runs -/

/-- Whether it is plain from the ends and the steps of two runs that the second maps no image of the
    first. -/
def CaseRun.avoids (run other : CaseRun) : Bool :=
  Nat.blt (run.image + (run.last - run.first)) other.first || Nat.blt other.last run.image
    || (run.step == 2 || run.first == run.last) && other.step == 2
      && (run.image + other.first) % 2 == 1

/-- No image of a `CaseRun` is mapped by a run that it `avoids`. -/
theorem CaseRun.covers_image {run other : CaseRun} (h : run.avoids other = true) {n : Nat}
    (hn : run.covers n = true) : other.covers (run.image + (n - run.first)) = false := by
  simp only [CaseRun.avoids, Bool.or_eq_true, Bool.and_eq_true, Nat.blt_eq, beq_iff_eq] at h
  simp only [CaseRun.covers, Bool.and_eq_true, decide_eq_true_eq, beq_iff_eq] at hn
  obtain ⟨⟨hfirst, hlast⟩, hstep⟩ := hn
  rw [← Bool.not_eq_true]
  simp only [CaseRun.covers, Bool.and_eq_true, decide_eq_true_eq, beq_iff_eq]
  rintro ⟨⟨hfirst', hlast'⟩, hstep'⟩
  rcases h with (hbelow | habove) | ⟨⟨hparity, hother⟩, hodd⟩
  · omega
  · omega
  · -- Both runs go in steps of two, on numbers of different parity.
    rw [hother] at hstep'
    rcases hparity with htwo | hsingle
    · rw [htwo] at hstep
      omega
    · omega

/-- The one character whose lower case is longer, as a run. -/
def dottedRun : CaseRun :=
  ⟨0x130, 0x130, 1, 0x69⟩

/-- The runs whose ranges reach into the range of images of a run. -/
def CaseRun.near (run : CaseRun) : List CaseRun :=
  (lowercaseRuns.dropWhile fun other => Nat.blt other.last run.image).takeWhile
    fun other => Nat.ble other.first (run.image + (run.last - run.first))

set_option maxRecDepth 4000 in
theorem lowercaseRuns_ascend : lowercaseRuns.Pairwise fun run next => run.first < next.first := by
  have hchain : lowercaseRuns.IsChain fun run next => run.first < next.first := by decide
  exact List.isChain_iff_pairwise.1 hchain

/-- In ascending order, the runs that begin above a code point stand behind those that do not. -/
theorem mem_takeWhile_or_lt {runs : List CaseRun} (h : runs.Pairwise fun run next => run.first < next.first)
    (high : Nat) {other : CaseRun} (hother : other ∈ runs) :
    other ∈ runs.takeWhile (fun run => Nat.ble run.first high) ∨ high < other.first := by
  induction runs with
  | nil => exact absurd hother List.not_mem_nil
  | cons run runs ih =>
    obtain ⟨hfirst, hrest⟩ := List.pairwise_cons.1 h
    by_cases hrun : run.first ≤ high
    · rw [List.takeWhile_cons_of_pos (by simpa using hrun)]
      rcases List.mem_cons.1 hother with rfl | hother
      · exact .inl List.mem_cons_self
      · exact (ih hrest hother).imp_left (List.mem_cons_of_mem run)
    · rcases List.mem_cons.1 hother with rfl | hother
      · exact .inr (Nat.lt_of_not_le hrun)
      · exact .inr (Nat.lt_trans (Nat.lt_of_not_le hrun) (hfirst other hother))

theorem avoids_of_not_mem_near {run other : CaseRun} (hother : other ∈ lowercaseRuns) (h : other ∉ run.near) :
    run.avoids other = true := by
  rw [CaseRun.avoids, Bool.or_eq_true, Bool.or_eq_true]
  left
  rw [← List.takeWhile_append_dropWhile (p := fun other => Nat.blt other.last run.image) (l := lowercaseRuns),
    List.mem_append] at hother
  rcases hother with hbelow | hother
  · right
    simpa using List.mem_takeWhile_imp hbelow
  · have hsorted := lowercaseRuns_ascend.sublist
      (List.dropWhile_suffix fun other => Nat.blt other.last run.image).sublist
    rcases mem_takeWhile_or_lt hsorted (run.image + (run.last - run.first)) hother with hnear | habove
    · exact absurd hnear h
    · exact .inl (by rwa [Nat.blt_eq])

set_option maxRecDepth 4000 in
theorem lowercaseRuns_avoid : ∀ run ∈ lowercaseRuns, ∀ other ∈ dottedRun :: lowercaseRuns,
    run.avoids other = true := by
  -- Runs that are not near are avoided anyway, so only a few are looked at for each run.
  have hall : (lowercaseRuns.all fun run => run.avoids dottedRun && run.near.all run.avoids) = true := by
    decide
  intro run hrun other hother
  obtain ⟨hdotted, hnear⟩ := (Bool.and_eq_true _ _).mp (List.all_eq_true.1 hall run hrun)
  rcases List.mem_cons.1 hother with rfl | hother
  · exact hdotted
  · by_cases hmem : other ∈ run.near
    · exact List.all_eq_true.1 hnear other hmem
    · exact avoids_of_not_mem_near hother hmem

set_option maxRecDepth 4000 in
/-- All images of `lowercaseRuns` are characters, and beyond the capitals of ASCII. -/
theorem lowercaseRuns_images : ∀ run ∈ lowercaseRuns, 0x5A < run.image
    ∧ (run.image + (run.last - run.first) < 0xD800
      ∨ 0xDFFF < run.image ∧ run.image + (run.last - run.first) < 0x110000) := by
  decide

theorem covers_of_find? {n : Nat} {run : CaseRun} (h : lowercaseRuns.find? (·.covers n) = some run) :
    run ∈ lowercaseRuns ∧ run.covers n = true := by
  have hcovers := List.find?_some h
  exact ⟨List.mem_of_find?_eq_some h, hcovers⟩

theorem toNat_image {run : CaseRun} (hrun : run ∈ lowercaseRuns) {n : Nat} (hn : run.covers n = true) :
    (Char.ofNat (run.image + (n - run.first))).toNat = run.image + (n - run.first) := by
  obtain ⟨-, hvalid⟩ := lowercaseRuns_images run hrun
  simp only [CaseRun.covers, Bool.and_eq_true, decide_eq_true_eq] at hn
  have hchar : (run.image + (n - run.first)).isValidChar := by
    unfold Nat.isValidChar
    omega
  rw [Char.ofNat, dif_pos hchar]
  rfl

/-! ## Single characters -/

/-- What holds of the characters of ASCII one by one. -/
theorem forall_ascii {motive : Char → Prop} (h : ∀ n < 128, motive (Char.ofNat n)) {c : Char}
    (hc : c.toNat < 128) : motive c := by
  have hn := h c.toNat hc
  rwa [Char.ofNat_toNat] at hn

theorem ascii_of_isDigit {c : Char} (h : c.isDigit = true) : c.toNat < 128 := by
  have hupper : c.toNat ≤ '9'.toNat := of_decide_eq_true ((Bool.and_eq_true _ _).mp h).2
  exact Nat.lt_of_le_of_lt hupper (by decide)

theorem isUpper_iff {c : Char} : c.isUpper = true ↔ 0x41 ≤ c.toNat ∧ c.toNat ≤ 0x5A :=
  decide_eq_true_iff

theorem toLower_of_not_upper {c : Char} (h : ¬ c.isUpper = true) : c.toLower = c := by
  rw [isUpper_iff] at h
  exact dif_neg h

theorem toNat_toLower {c : Char} (h : c.isUpper = true) : c.toLower.toNat = c.toNat + 32 := by
  rw [isUpper_iff] at h
  have himage : c.toLower.val = c.val + 32 :=
    congrArg Char.val (dif_pos h)
  have hsum : (c.val + 32).toNat = c.val.toNat + 32 := by
    rw [UInt32.toNat_add]
    exact Nat.mod_eq_of_lt (Nat.lt_of_le_of_lt (Nat.add_le_add_right h.2 32) (by decide))
  rw [Char.toNat, himage, hsum, Char.toNat]

theorem isUpper_toLower (c : Char) : c.toLower.isUpper = false := by
  rw [← Bool.not_eq_true]
  by_cases h : c.isUpper = true
  · rw [isUpper_iff, toNat_toLower h]
    rw [isUpper_iff] at h
    omega
  · rwa [toLower_of_not_upper h]

theorem toLower_of_not_ascii {c : Char} (h : ¬ c.toNat < 128) : c.toLower = c := by
  apply toLower_of_not_upper
  rw [isUpper_iff]
  omega

theorem toLower_ascii {c : Char} (h : c.toNat < 128) : c.toLower.toNat < 128 := by
  by_cases hupper : c.isUpper = true
  · rw [toNat_toLower hupper]
    rw [isUpper_iff] at hupper
    omega
  · rwa [toLower_of_not_upper hupper]

theorem isLower_toLower {c : Char} (h : c.toNat < 128) : IsLower c.toLower := by
  have hascii := toLower_ascii h
  refine ⟨?_, ?_⟩
  · intro hsigma
    rw [hsigma] at hascii
    exact absurd hascii (by decide)
  · rw [lowercaseChar, if_pos hascii, toLower_of_not_upper (ne_true_of_eq_false (isUpper_toLower c))]

theorem lowercaseChar_sigma : lowercaseChar 'Σ' = ['σ'] :=
  rfl

/-- A character is its own lower case (`IsLower`) if no run maps it and it is no capital of ASCII. -/
theorem isLower_of_not_covered {c : Char} (hbeyond : 0x5A < c.toNat)
    (h : ∀ run ∈ dottedRun :: lowercaseRuns, run.covers c.toNat = false) : IsLower c := by
  have hself : lowercaseChar c = [c] := by
    unfold lowercaseChar
    split_ifs with hascii hdotted
    · have hupper : ¬ c.isUpper = true := by
        rw [isUpper_iff]
        omega
      rw [toLower_of_not_upper hupper]
    · rw [beq_iff_eq] at hdotted
      subst hdotted
      exact absurd (h dottedRun List.mem_cons_self) (by decide)
    · have hnone : lowercaseRuns.find? (·.covers c.toNat) = none := by
        rw [List.find?_eq_none]
        intro run hrun
        rw [h run (List.mem_cons_of_mem _ hrun)]
        exact Bool.false_ne_true
      rw [hnone]
  refine ⟨?_, hself⟩
  rintro rfl
  rw [lowercaseChar_sigma] at hself
  exact absurd hself (by decide)

/-- What `lowercaseChar` gives is its own lower case. -/
theorem isLower_of_mem_lowercaseChar {c d : Char} (h : d ∈ lowercaseChar c) : IsLower d := by
  unfold lowercaseChar at h
  split_ifs at h with hascii hdotted
  · obtain rfl := List.mem_singleton.1 h
    exact isLower_toLower hascii
  · have hmem : d = 'i' ∨ d = '\u0307' := by simpa using h
    rcases hmem with rfl | rfl
    · exact ⟨by decide, rfl⟩
    · exact ⟨by decide, rfl⟩
  · split at h
    · next run hfind =>
      obtain ⟨hrun, hcovers⟩ := covers_of_find? hfind
      have himage := toNat_image hrun hcovers
      obtain rfl := List.mem_singleton.1 h
      apply isLower_of_not_covered
      · have := (lowercaseRuns_images run hrun).1
        omega
      · intro other hother
        rw [himage]
        exact CaseRun.covers_image (lowercaseRuns_avoid run hrun other hother) hcovers
    · next hfind =>
      obtain rfl := List.mem_singleton.1 h
      have hruns := List.find?_eq_none.1 hfind
      apply isLower_of_not_covered (by omega)
      intro run hrun
      rcases List.mem_cons.1 hrun with rfl | hrun
      · -- The run of the dotted letter covers nothing else.
        rw [← Bool.not_eq_true]
        intro hcovers
        have heq : d.toNat = 0x130 := by
          simp only [CaseRun.covers, Bool.and_eq_true, decide_eq_true_eq] at hcovers
          obtain ⟨⟨hfirst, hlast⟩, -⟩ := hcovers
          exact Nat.le_antisymm hlast hfirst
        apply hdotted
        rw [beq_iff_eq, ← Char.ofNat_toNat d, heq]
      · simpa using hruns run hrun

/-- `lowercaseChar` gives no character of ASCII but letters, unless it is given one. -/
theorem eq_of_mem_lowercaseChar {c d : Char} (hd : d.toNat ≤ 0x40) (h : d ∈ lowercaseChar c) : d = c := by
  unfold lowercaseChar at h
  split_ifs at h with hascii hdotted
  · obtain rfl := List.mem_singleton.1 h
    apply toLower_of_not_upper
    intro hupper
    rw [toNat_toLower hupper] at hd
    rw [isUpper_iff] at hupper
    omega
  · have hmem : d = 'i' ∨ d = '\u0307' := by simpa using h
    rcases hmem with rfl | rfl <;> exact absurd hd (by decide)
  · split at h
    · next run hfind =>
      obtain ⟨hrun, hcovers⟩ := covers_of_find? hfind
      obtain rfl := List.mem_singleton.1 h
      rw [toNat_image hrun hcovers] at hd
      have := (lowercaseRuns_images run hrun).1
      omega
    · exact List.mem_singleton.1 h

theorem lowercaseChar_ne_nil (c : Char) : lowercaseChar c ≠ [] := by
  unfold lowercaseChar
  split_ifs
  · simp
  · simp
  · split <;> simp

/-- Where `lowercaseChar` is in ASCII it is one character. -/
theorem exists_lowercaseChar_eq {c : Char} (h : ∀ d ∈ lowercaseChar c, d.toNat < 128) :
    ∃ d, lowercaseChar c = [d] ∧ d.toNat < 128 := by
  suffices hone : ∃ d, lowercaseChar c = [d] by
    obtain ⟨d, hd⟩ := hone
    exact ⟨d, hd, h d (by rw [hd]; exact List.mem_cons_self)⟩
  unfold lowercaseChar at h ⊢
  split_ifs with hascii hdotted
  · exact ⟨_, rfl⟩
  · rw [if_neg hascii, if_pos hdotted] at h
    exact absurd (h '\u0307' (by simp)) (by decide)
  · split
    · exact ⟨_, rfl⟩
    · exact ⟨_, rfl⟩

/-! ## Texts -/

/-- `lowercaseFrom` of a text begins with that of its first character. -/
theorem exists_lowercaseFrom_cons (cased : Bool) (c : Char) (cs : List Char) :
    ∃ image cased', lowercaseFrom cased (c :: cs) = image ++ lowercaseFrom cased' cs
      ∧ (image = lowercaseChar c ∨ c = 'Σ' ∧ (image = ['ς'] ∨ image = ['σ'])) := by
  refine ⟨_, _, rfl, ?_⟩
  split_ifs with hsigma hlast
  · exact .inr ⟨beq_iff_eq.1 hsigma, .inl rfl⟩
  · exact .inr ⟨beq_iff_eq.1 hsigma, .inr rfl⟩
  · exact .inl rfl

theorem isLower_of_mem_lowercaseFrom {cs : List Char} {cased : Bool} {d : Char}
    (h : d ∈ lowercaseFrom cased cs) : IsLower d := by
  induction cs generalizing cased with
  | nil => exact absurd h List.not_mem_nil
  | cons c cs ih =>
    obtain ⟨image, cased', heq, himage⟩ := exists_lowercaseFrom_cons cased c cs
    rw [heq, List.mem_append] at h
    rcases h with h | h
    · rcases himage with rfl | ⟨-, rfl | rfl⟩
      · exact isLower_of_mem_lowercaseChar h
      · obtain rfl := List.mem_singleton.1 h
        exact ⟨by decide, rfl⟩
      · obtain rfl := List.mem_singleton.1 h
        exact ⟨by decide, rfl⟩
    · exact ih h

/-- What `lowercase` gives is `IsLower` everywhere. -/
theorem isLower_of_mem_lowercase {cs : List Char} {d : Char} (h : d ∈ lowercase cs) : IsLower d :=
  isLower_of_mem_lowercaseFrom h

theorem lowercaseFrom_eq_self {cs : List Char} (h : ∀ c ∈ cs, IsLower c) (cased : Bool) :
    lowercaseFrom cased cs = cs := by
  induction cs generalizing cased with
  | nil => rfl
  | cons c cs ih =>
    obtain ⟨⟨hsigma, hself⟩, hcs⟩ := List.forall_mem_cons.1 h
    obtain ⟨image, cased', heq, himage⟩ := exists_lowercaseFrom_cons cased c cs
    rcases himage with rfl | ⟨rfl, -⟩
    · rw [heq, hself, ih hcs, List.singleton_append]
    · exact absurd rfl hsigma

/-- A text that is `IsLower` everywhere is its own `lowercase`. -/
theorem lowercase_eq_self {cs : List Char} (h : ∀ c ∈ cs, IsLower c) : lowercase cs = cs :=
  lowercaseFrom_eq_self h false

/-- In ASCII `lowercaseFrom` is `Char.toLower` of each letter. -/
theorem lowercaseFrom_of_ascii {cs : List Char} (h : ∀ c ∈ cs, c.toNat < 128) (cased : Bool) :
    lowercaseFrom cased cs = cs.map Char.toLower := by
  induction cs generalizing cased with
  | nil => rfl
  | cons c cs ih =>
    obtain ⟨hc, hcs⟩ := List.forall_mem_cons.1 h
    obtain ⟨image, cased', heq, himage⟩ := exists_lowercaseFrom_cons cased c cs
    rcases himage with rfl | ⟨rfl, -⟩
    · rw [heq, ih hcs, lowercaseChar, if_pos hc, List.singleton_append, List.map_cons]
    · exact absurd hc (by decide)

theorem lowercase_of_ascii {cs : List Char} (h : ∀ c ∈ cs, c.toNat < 128) :
    lowercase cs = cs.map Char.toLower :=
  lowercaseFrom_of_ascii h false

theorem ascii_of_mem_lowercase {cs : List Char} (h : ∀ c ∈ cs, c.toNat < 128) {d : Char}
    (hd : d ∈ lowercase cs) : d.toNat < 128 := by
  rw [lowercase_of_ascii h] at hd
  obtain ⟨c, hc, rfl⟩ := List.mem_map.1 hd
  exact toLower_ascii (h c hc)

/-- Where `lowercaseFrom` is in ASCII it is `lowercaseChar` of each character by itself. -/
theorem lowercaseFrom_of_ascii_image {cs : List Char} {cased : Bool}
    (h : ∀ d ∈ lowercaseFrom cased cs, d.toNat < 128) :
    lowercaseFrom cased cs = cs.flatMap lowercaseChar := by
  induction cs generalizing cased with
  | nil => rfl
  | cons c cs ih =>
    obtain ⟨image, cased', heq, himage⟩ := exists_lowercaseFrom_cons cased c cs
    rw [heq, List.forall_mem_append] at h
    rcases himage with rfl | ⟨-, rfl | rfl⟩
    · rw [heq, ih h.2, List.flatMap_cons]
    · exact absurd (h.1 'ς' List.mem_cons_self) (by decide)
    · exact absurd (h.1 'σ' List.mem_cons_self) (by decide)

theorem lowercase_eq_flatMap {cs : List Char} (h : ∀ d ∈ lowercase cs, d.toNat < 128) :
    lowercase cs = cs.flatMap lowercaseChar :=
  lowercaseFrom_of_ascii_image h

/-- `lowercaseFrom` of a text is in ASCII just if `lowercaseChar` of each character is, as that of capital
    sigma is beyond ASCII wherever it stands. -/
theorem lowercaseFrom_ascii_iff {cs : List Char} {cased : Bool} :
    (∀ d ∈ lowercaseFrom cased cs, d.toNat < 128) ↔ ∀ c ∈ cs, ∀ d ∈ lowercaseChar c, d.toNat < 128 := by
  induction cs generalizing cased with
  | nil => exact iff_of_true (by simp [lowercaseFrom]) (by simp)
  | cons c cs ih =>
    obtain ⟨image, cased', heq, himage⟩ := exists_lowercaseFrom_cons cased c cs
    rw [heq, List.forall_mem_append, ih, List.forall_mem_cons]
    refine and_congr_left' ?_
    rcases himage with rfl | ⟨rfl, himage⟩
    · exact Iff.rfl
    · rw [lowercaseChar_sigma]
      refine iff_of_false (fun h => ?_) fun h => absurd (h 'σ' List.mem_cons_self) (by decide)
      rcases himage with rfl | rfl
      · exact absurd (h 'ς' List.mem_cons_self) (by decide)
      · exact absurd (h 'σ' List.mem_cons_self) (by decide)

theorem lowercase_ascii_iff {cs : List Char} :
    (∀ d ∈ lowercase cs, d.toNat < 128) ↔ ∀ c ∈ cs, ∀ d ∈ lowercaseChar c, d.toNat < 128 :=
  lowercaseFrom_ascii_iff

/-- A character of ASCII that is no letter stands in a text if it stands in `lowercaseFrom` of it. -/
theorem mem_of_mem_lowercaseFrom {cs : List Char} {cased : Bool} {d : Char} (hd : d.toNat ≤ 0x40)
    (h : d ∈ lowercaseFrom cased cs) : d ∈ cs := by
  induction cs generalizing cased with
  | nil => exact h
  | cons c cs ih =>
    obtain ⟨image, cased', heq, himage⟩ := exists_lowercaseFrom_cons cased c cs
    rw [heq, List.mem_append] at h
    rcases h with h | h
    · rcases himage with rfl | ⟨-, rfl | rfl⟩
      · rw [eq_of_mem_lowercaseChar hd h]
        exact List.mem_cons_self
      · obtain rfl := List.mem_singleton.1 h
        exact absurd hd (by decide)
      · obtain rfl := List.mem_singleton.1 h
        exact absurd hd (by decide)
    · exact List.mem_cons_of_mem _ (ih h)

theorem mem_of_mem_lowercase {cs : List Char} {d : Char} (hd : d.toNat ≤ 0x40) (h : d ∈ lowercase cs) :
    d ∈ cs :=
  mem_of_mem_lowercaseFrom hd h

theorem lowercaseFrom_eq_nil_iff {cs : List Char} {cased : Bool} : lowercaseFrom cased cs = [] ↔ cs = [] := by
  cases cs with
  | nil => exact iff_of_true rfl rfl
  | cons c cs =>
    refine iff_of_false ?_ (List.cons_ne_nil _ _)
    obtain ⟨image, cased', heq, himage⟩ := exists_lowercaseFrom_cons cased c cs
    rw [heq]
    rcases himage with rfl | ⟨-, rfl | rfl⟩
    · simp [lowercaseChar_ne_nil]
    · simp
    · simp

/-- A text ends with a character of ASCII that is no letter if `lowercaseFrom` of it does. -/
theorem getLast?_of_lowercaseFrom {cs : List Char} {cased : Bool} {d : Char} (hd : d.toNat ≤ 0x40)
    (h : (lowercaseFrom cased cs).getLast? = some d) : cs.getLast? = some d := by
  induction cs generalizing cased with
  | nil => exact absurd h (by simp [lowercaseFrom])
  | cons c cs ih =>
    cases cs with
    | nil =>
      obtain rfl := List.mem_singleton.1 (mem_of_mem_lowercaseFrom hd (List.mem_of_getLast? h))
      rfl
    | cons e cs =>
      obtain ⟨image, cased', heq, -⟩ := exists_lowercaseFrom_cons cased c (e :: cs)
      have hrest : lowercaseFrom cased' (e :: cs) ≠ [] := by
        rw [Ne, lowercaseFrom_eq_nil_iff]
        exact List.cons_ne_nil _ _
      rw [heq, List.getLast?_append_of_ne_nil image hrest] at h
      rw [List.getLast?_cons_cons]
      exact ih h

end PageRisk.Unicode
