import PageRisk.Proofs.Text.Words
import PageRisk.Proofs.Unicode.Lowercase

set_option autoImplicit false

/-! # Lower case without surroundings

The lower case of a character hangs on its surroundings for capital sigma alone, and for it only in which of
the two small sigmas it becomes. Written with one small sigma, the lower case of a text is that of its
characters (`map_plainSigma_lowercase`), and so is that of each of its words (`words_lowercase`), since no
white space comes or goes. A word in ASCII is found in it just if it is found letter by letter, unless its
letters come from others in lower case (`isInfix_lowercase_iff_map`). -/

namespace PageRisk.Unicode

open Text (isBlank words)

/-! ## White space -/

/-- The ranges of code points with `isBlank`. -/
def blankRanges : List (Nat × Nat) :=
  [(9, 13), (0x20, 0x20), (0x85, 0x85), (0xA0, 0xA0), (0x1680, 0x1680), (0x2000, 0x200A),
    (0x2028, 0x2029), (0x202F, 0x202F), (0x205F, 0x205F), (0x3000, 0x3000)]

theorem exists_blankRange {c : Char} (h : isBlank c = true) :
    ∃ range ∈ blankRanges, range.1 ≤ c.toNat ∧ c.toNat ≤ range.2 := by
  simp only [isBlank, Bool.or_eq_true, Bool.and_eq_true, decide_eq_true_eq, beq_iff_eq] at h
  simp only [blankRanges, List.mem_cons, List.not_mem_nil, or_false, exists_eq_or_imp, exists_eq_left]
  omega

set_option maxRecDepth 4000 in
/-- `lowercaseRuns` map no white space, and to none. -/
theorem lowercaseRuns_not_blank : ∀ run ∈ lowercaseRuns, ∀ range ∈ blankRanges,
    (run.last < range.1 ∨ range.2 < run.first)
      ∧ (run.image + (run.last - run.first) < range.1 ∨ range.2 < run.image) := by
  decide

theorem isBlank_of_covers {run : CaseRun} (hrun : run ∈ lowercaseRuns) {c : Char}
    (h : run.covers c.toNat = true) :
    isBlank c = false ∧ isBlank (Char.ofNat (run.image + (c.toNat - run.first))) = false := by
  have himage := toNat_image hrun h
  simp only [CaseRun.covers, Bool.and_eq_true, decide_eq_true_eq] at h
  obtain ⟨⟨hfirst, hlast⟩, -⟩ := h
  constructor
  · rw [← Bool.not_eq_true]
    intro hblank
    obtain ⟨range, hrange, hlow, hhigh⟩ := exists_blankRange hblank
    have hapart := (lowercaseRuns_not_blank run hrun range hrange).1
    omega
  · rw [← Bool.not_eq_true]
    intro hblank
    obtain ⟨range, hrange, hlow, hhigh⟩ := exists_blankRange hblank
    have hapart := (lowercaseRuns_not_blank run hrun range hrange).2
    omega

theorem lowercaseChar_of_ascii {c : Char} (h : c.toNat < 128) : lowercaseChar c = [c.toLower] := by
  rw [lowercaseChar, if_pos h]

theorem isBlank_toLower {c : Char} (h : c.toNat < 128) :
    isBlank c.toLower = isBlank c ∧ (isBlank c = true → c.toLower = c) := by
  exact forall_ascii (motive := fun c => isBlank c.toLower = isBlank c
    ∧ (isBlank c = true → c.toLower = c)) (by decide) h

/-- `lowercaseChar` leaves white space as it is. -/
theorem lowercaseChar_of_isBlank {c : Char} (h : isBlank c = true) : lowercaseChar c = [c] := by
  by_cases hascii : c.toNat < 128
  · rw [lowercaseChar_of_ascii hascii, (isBlank_toLower hascii).2 h]
  · rw [lowercaseChar, if_neg hascii, if_neg]
    · split
      · next run hfind =>
        obtain ⟨hrun, hcovers⟩ := covers_of_find? hfind
        rw [(isBlank_of_covers hrun hcovers).1] at h
        exact Bool.noConfusion h
      · rfl
    · intro hdotted
      rw [beq_iff_eq.1 hdotted] at h
      exact absurd h (by decide)

/-- `lowercaseChar` makes no white space. -/
theorem isBlank_of_mem_lowercaseChar {c d : Char} (hc : isBlank c = false) (h : d ∈ lowercaseChar c) :
    isBlank d = false := by
  by_cases hascii : c.toNat < 128
  · rw [lowercaseChar_of_ascii hascii] at h
    rw [List.mem_singleton.1 h, (isBlank_toLower hascii).1, hc]
  · rw [lowercaseChar, if_neg hascii] at h
    split_ifs at h
    · have hmem : d = 'i' ∨ d = '\u0307' := by simpa using h
      rcases hmem with rfl | rfl <;> decide
    · split at h
      · next run hfind =>
        obtain ⟨hrun, hcovers⟩ := covers_of_find? hfind
        rw [List.mem_singleton.1 h]
        exact (isBlank_of_covers hrun hcovers).2
      · rw [List.mem_singleton.1 h, hc]

/-- What `lowercase` makes of a text starts with white space only if the text does. -/
theorem isBlank_head?_lowercase {cs : List Char} (h : ∀ c, cs.head? = some c → isBlank c = false) {d : Char}
    (hd : (lowercase cs).head? = some d) : isBlank d = false := by
  rcases cs with - | ⟨c, cs⟩
  · exact absurd hd nofun
  · obtain ⟨image, cased, heq, himage⟩ := exists_lowercaseFrom_cons false c cs
    have hmem : image ≠ [] ∧ ∀ e ∈ image, isBlank e = false := by
      rcases himage with rfl | ⟨-, rfl | rfl⟩
      · exact ⟨lowercaseChar_ne_nil c, fun e he => isBlank_of_mem_lowercaseChar (h c rfl) he⟩
      · exact ⟨List.cons_ne_nil _ _, List.forall_mem_singleton.2 (by decide)⟩
      · exact ⟨List.cons_ne_nil _ _, List.forall_mem_singleton.2 (by decide)⟩
    rw [lowercase, heq, List.head?_append_of_ne_nil image hmem.1] at hd
    exact hmem.2 d (List.mem_of_mem_head? hd)

/-! ## One small sigma -/

/-- The character, with the small sigma of word ends written as any other. -/
def plainSigma (c : Char) : Char :=
  if c == 'ς' then 'σ' else c

/-- The lower case of a character wherever it stands, with one small sigma. -/
def foldChar (c : Char) : List Char :=
  (lowercaseChar c).map plainSigma

theorem plainSigma_of_ne {c : Char} (h : c ≠ 'ς') : plainSigma c = c := by
  rw [plainSigma, if_neg (by simpa using h)]

/-- A character other than the small sigmas comes from itself alone. -/
theorem plainSigma_eq_iff {c d : Char} (hd : d.toNat < 128) : plainSigma c = d ↔ c = d := by
  by_cases hc : c = 'ς'
  · subst hc
    constructor
    · rintro rfl
      exact absurd hd (by decide)
    · rintro rfl
      exact absurd hd (by decide)
  · rw [plainSigma_of_ne hc]

theorem isBlank_plainSigma (c : Char) : isBlank (plainSigma c) = isBlank c := by
  by_cases hc : c = 'ς'
  · subst hc
    decide
  · rw [plainSigma_of_ne hc]

theorem foldChar_sigma : foldChar 'Σ' = ['σ'] := by
  rw [foldChar, lowercaseChar_sigma]
  rfl

theorem foldChar_of_isBlank {c : Char} (h : isBlank c = true) : foldChar c = [c] := by
  have hne : c ≠ 'ς' := by
    rintro rfl
    exact absurd h (by decide)
  rw [foldChar, lowercaseChar_of_isBlank h, List.map_singleton, plainSigma_of_ne hne]

theorem foldChar_of_not_isBlank {c : Char} (h : isBlank c = false) :
    foldChar c ≠ [] ∧ ∀ d ∈ foldChar c, isBlank d = false := by
  constructor
  · simp [foldChar, lowercaseChar_ne_nil]
  · intro d hd
    obtain ⟨e, he, rfl⟩ := List.mem_map.1 hd
    rw [isBlank_plainSigma, isBlank_of_mem_lowercaseChar h he]

theorem foldChar_of_ascii {c : Char} (h : c.toNat < 128) : foldChar c = [c.toLower] := by
  have hne : c.toLower ≠ 'ς' := by
    intro hsigma
    have hascii := toLower_ascii h
    rw [hsigma] at hascii
    exact absurd hascii (by decide)
  rw [foldChar, lowercaseChar_of_ascii h, List.map_singleton, plainSigma_of_ne hne]

/-- `foldChar` gives the same for a letter of ASCII and its lower case. -/
theorem foldChar_toLower (c : Char) : foldChar c.toLower = foldChar c := by
  by_cases hascii : c.toNat < 128
  · rw [foldChar, foldChar, lowercaseChar_of_ascii hascii, (isLower_toLower hascii).2]
  · rw [toLower_of_not_ascii hascii]

/-! ## Texts -/

theorem map_plainSigma_lowercaseFrom (cased : Bool) (cs : List Char) :
    (lowercaseFrom cased cs).map plainSigma = cs.flatMap foldChar := by
  induction cs generalizing cased with
  | nil => rfl
  | cons c cs ih =>
    obtain ⟨image, cased', heq, himage⟩ := exists_lowercaseFrom_cons cased c cs
    have hfold : image.map plainSigma = foldChar c := by
      rcases himage with rfl | ⟨rfl, rfl | rfl⟩
      · rfl
      · rw [foldChar_sigma]
        rfl
      · rw [foldChar_sigma]
        rfl
    rw [heq, List.map_append, hfold, ih, List.flatMap_cons]

theorem map_plainSigma_lowercase (cs : List Char) :
    (lowercase cs).map plainSigma = cs.flatMap foldChar :=
  map_plainSigma_lowercaseFrom false cs

/-- What `lowercase` makes of a text ends with white space only if the text does. -/
theorem isBlank_getLast?_lowercase {cs : List Char} (h : ∀ c, cs.getLast? = some c → isBlank c = false)
    {d : Char} (hd : (lowercase cs).getLast? = some d) : isBlank d = false := by
  rcases List.eq_nil_or_concat cs with rfl | ⟨before, c, rfl⟩
  · exact absurd hd nofun
  · rw [List.concat_eq_append] at h hd
    obtain ⟨hne, himage⟩ := foldChar_of_not_isBlank (h c List.getLast?_concat)
    -- Small sigma apart, the last character comes from the last one of the text.
    have hlast : (foldChar c).getLast? = some (plainSigma d) := by
      rw [← List.getLast?_append_of_ne_nil (before.flatMap foldChar) hne, ← List.flatMap_singleton foldChar c,
        ← List.flatMap_append, ← map_plainSigma_lowercase, List.getLast?_map, hd, Option.map_some]
    rw [← isBlank_plainSigma]
    exact himage _ (List.mem_of_getLast? hlast)

/-- The `words` of a text in lower case are its words in lower case, but for the form of small sigma. -/
theorem words_lowercase (cs : List Char) :
    (words (lowercase cs)).map (List.map plainSigma) = (words cs).map fun word => word.flatMap foldChar := by
  have hblank : ∀ c, isBlank c = true → plainSigma c = c := by
    intro c hc
    apply plainSigma_of_ne
    rintro rfl
    exact absurd hc (by decide)
  have hword : ∀ c, isBlank c = false → isBlank (plainSigma c) = false := by
    intro c hc
    rw [isBlank_plainSigma, hc]
  calc (words (lowercase cs)).map (List.map plainSigma)
      = words ((lowercase cs).map plainSigma) := (Text.words_map hword hblank _).symm
    _ = words (cs.flatMap foldChar) := by rw [map_plainSigma_lowercase]
    _ = (words cs).map fun word => word.flatMap foldChar :=
        Text.words_flatMap (fun _ => foldChar_of_not_isBlank) (fun _ => foldChar_of_isBlank) cs

/-! ## Words in ASCII -/

/-- Whether the letters of a word in ASCII come from no others in lower case: the Kelvin sign becomes `k`,
    and capital I with dot becomes `i` with a dot after it. -/
structure IsPlain (word : List Char) : Prop where
  ascii : ∀ c ∈ word, c.toNat < 128
  k_not_mem : 'k' ∉ word
  getLast?_ne : word.getLast? ≠ some 'i'

theorem IsPlain.tail {c : Char} {word : List Char} (h : IsPlain (c :: word)) : IsPlain word where
  ascii d hd := h.ascii d (List.mem_cons_of_mem c hd)
  k_not_mem hk := h.k_not_mem (List.mem_cons_of_mem c hk)
  getLast?_ne := by
    rcases word with - | ⟨d, word⟩
    · exact nofun
    · have hlast := h.getLast?_ne
      rwa [List.getLast?_cons_cons] at hlast

set_option maxRecDepth 4000 in
/-- The images of `lowercaseRuns` are beyond ASCII, but for that of the Kelvin sign. -/
theorem lowercaseRuns_ascii : ∀ run ∈ lowercaseRuns,
    128 ≤ run.image ∨ run.first = run.last ∧ run.image = 'k'.toNat := by
  decide

/-- What `foldChar` makes of a character beyond ASCII. -/
theorem foldChar_of_not_ascii {c : Char} (h : ¬ c.toNat < 128) :
    foldChar c = ['k'] ∨ foldChar c = ['i', '\u0307'] ∨ ∃ d, foldChar c = [d] ∧ ¬ d.toNat < 128 := by
  have hplain : ∀ d : Char, ¬ d.toNat < 128 → ¬ (plainSigma d).toNat < 128 := by
    intro d hd
    by_cases hsigma : d = 'ς'
    · subst hsigma
      decide
    · rwa [plainSigma_of_ne hsigma]
  unfold foldChar lowercaseChar
  rw [if_neg h]
  split_ifs with hdotted
  · exact .inr (.inl rfl)
  · split
    · next run hfind =>
      obtain ⟨hrun, hcovers⟩ := covers_of_find? hfind
      have himage := toNat_image hrun hcovers
      rcases lowercaseRuns_ascii run hrun with hbeyond | ⟨hsingle, hkelvin⟩
      · exact .inr (.inr ⟨_, rfl, hplain _ (by omega)⟩)
      · simp only [CaseRun.covers, Bool.and_eq_true, decide_eq_true_eq] at hcovers
        have hk : Char.ofNat (run.image + (c.toNat - run.first)) = 'k' := by
          rw [show c.toNat - run.first = 0 by omega, hkelvin]
          rfl
        rw [hk]
        exact .inl rfl
    · exact .inr (.inr ⟨_, rfl, hplain _ h⟩)

/-- A word in ASCII does not start with a character beyond ASCII. -/
theorem not_isPrefix_of_not_ascii {word cs : List Char} {d : Char} (hword : IsPlain word) (hne : word ≠ [])
    (hd : ¬ d.toNat < 128) : ¬ word <+: d :: cs := by
  obtain ⟨n, word, rfl⟩ := List.exists_cons_of_ne_nil hne
  intro hprefix
  obtain ⟨rfl, -⟩ := List.cons_prefix_cons.1 hprefix
  exact hd (hword.ascii n List.mem_cons_self)

/-- An `IsPlain` word starts at no character beyond ASCII, nor in what becomes of it. -/
theorem isInfix_foldChar_append {word : List Char} (hword : IsPlain word) (hne : word ≠ []) {c : Char}
    (hc : ¬ c.toNat < 128) (cs : List Char) :
    ¬ word <+: foldChar c ++ cs ∧ (word <:+: foldChar c ++ cs ↔ word <:+: cs) := by
  rcases foldChar_of_not_ascii hc with heq | heq | ⟨d, heq, hd⟩
  · have hstart : ¬ word <+: 'k' :: cs := by
      obtain ⟨n, word, rfl⟩ := List.exists_cons_of_ne_nil hne
      intro hprefix
      obtain ⟨rfl, -⟩ := List.cons_prefix_cons.1 hprefix
      exact hword.k_not_mem List.mem_cons_self
    rw [heq, List.singleton_append, List.infix_cons_iff, or_iff_right hstart]
    exact ⟨hstart, Iff.rfl⟩
  · have hdot : ∀ {word : List Char}, IsPlain word → word ≠ [] → ¬ word <+: '\u0307' :: cs := by
      intro word hword hne
      exact not_isPrefix_of_not_ascii hword hne (by decide)
    have hstart : ¬ word <+: 'i' :: '\u0307' :: cs := by
      obtain ⟨n, word, rfl⟩ := List.exists_cons_of_ne_nil hne
      intro hprefix
      obtain ⟨rfl, hrest⟩ := List.cons_prefix_cons.1 hprefix
      -- The word does not end with this letter, and so goes on with the dot.
      have hrest_ne : word ≠ [] := by
        rintro rfl
        exact hword.getLast?_ne rfl
      exact hdot hword.tail hrest_ne hrest
    rw [heq, List.cons_append, List.singleton_append, List.infix_cons_iff, or_iff_right hstart,
      List.infix_cons_iff, or_iff_right (hdot hword hne)]
    exact ⟨hstart, Iff.rfl⟩
  · have hstart := @not_isPrefix_of_not_ascii word cs d hword hne hd
    rw [heq, List.singleton_append, List.infix_cons_iff, or_iff_right hstart]
    exact ⟨hstart, Iff.rfl⟩

theorem isPrefix_flatMap_foldChar_iff {word : List Char} (hword : IsPlain word) (cs : List Char) :
    word <+: cs.flatMap foldChar ↔ word <+: cs.map Char.toLower := by
  induction cs generalizing word with
  | nil => rfl
  | cons c cs ih =>
    rcases word with - | ⟨n, word⟩
    · exact iff_of_true List.nil_prefix List.nil_prefix
    · rw [List.flatMap_cons, List.map_cons]
      by_cases hc : c.toNat < 128
      · rw [foldChar_of_ascii hc, List.singleton_append, List.cons_prefix_cons, List.cons_prefix_cons,
          ih hword.tail]
      · have hne : n :: word ≠ [] := List.cons_ne_nil n word
        rw [toLower_of_not_ascii hc]
        exact iff_of_false (isInfix_foldChar_append hword hne hc _).1
          (not_isPrefix_of_not_ascii hword hne hc)

theorem isInfix_flatMap_foldChar_iff {word : List Char} (hword : IsPlain word) (hne : word ≠ [])
    (cs : List Char) : word <:+: cs.flatMap foldChar ↔ word <:+: cs.map Char.toLower := by
  induction cs with
  | nil => rfl
  | cons c cs ih =>
    rw [List.flatMap_cons, List.map_cons]
    by_cases hc : c.toNat < 128
    · have hstart := isPrefix_flatMap_foldChar_iff hword (c :: cs)
      rw [List.flatMap_cons, List.map_cons, foldChar_of_ascii hc, List.singleton_append] at hstart
      rw [foldChar_of_ascii hc, List.singleton_append, List.infix_cons_iff, List.infix_cons_iff, hstart, ih]
    · rw [(isInfix_foldChar_append hword hne hc _).2, ih, List.infix_cons_iff, toLower_of_not_ascii hc,
        or_iff_right (not_isPrefix_of_not_ascii hword hne hc)]

/-- What is in ASCII stands in `lowercase` of a text whichever small sigma is written. -/
theorem isInfix_lowercase_iff {needle : List Char} (h : ∀ c ∈ needle, c.toNat < 128) (cs : List Char) :
    needle <:+: lowercase cs ↔ needle <:+: cs.flatMap foldChar := by
  have hsigma : ∀ n ∈ needle, ∀ c, plainSigma c = n ↔ c = n := fun n hn _ => plainSigma_eq_iff (h n hn)
  rw [← map_plainSigma_lowercase, ← Text.occursIn_iff_isInfix, ← Text.occursIn_iff_isInfix,
    Text.occursIn_map hsigma]

/-- An `IsPlain` word stands in `lowercase` of a text just if it stands there once the letters of ASCII are
    in lower case. -/
theorem isInfix_lowercase_iff_map {word : List Char} (hword : IsPlain word) (hne : word ≠ [])
    (cs : List Char) : word <:+: lowercase cs ↔ word <:+: cs.map Char.toLower := by
  rw [isInfix_lowercase_iff hword.ascii, isInfix_flatMap_foldChar_iff hword hne]

end PageRisk.Unicode
