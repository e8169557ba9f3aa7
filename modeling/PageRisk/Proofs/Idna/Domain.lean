import PageRisk.Idna.Domain
import PageRisk.Proofs.Idna.Punycode
import PageRisk.Proofs.Text.Words

set_option autoImplicit false

/-! # Host names that are lower case in ASCII

The lookup form of a host name whose lower case is in ASCII is that lower case (`toAscii_eq_lowercase`): no
character of ASCII is mapped but to its lower case, nothing is composed, and an encoded label is opened and
closed again. -/

namespace PageRisk.Unicode

/-! ## Normalization -/

theorem orderMarks_eq_self {cs : List Char} (h : ∀ c ∈ cs, c.toNat < 0xC0) : orderMarks [] cs = cs := by
  induction cs with
  | nil => rfl
  | cons c cs ih =>
    obtain ⟨hc, hcs⟩ := List.forall_mem_cons.1 h
    have hclass : combiningClass c = 0 := by
      rw [combiningClass, if_pos (by omega)]
    rw [orderMarks, hclass, beq_self_eq_true, if_pos rfl, List.nil_append, ih hcs]

theorem composeFrom_eq_cons {cs : List Char} (h : ∀ c ∈ cs, c.toNat < 0xC0) (letter : Char) :
    composeFrom letter [] cs = letter :: cs := by
  induction cs generalizing letter with
  | nil => rfl
  | cons c cs ih =>
    obtain ⟨hc, hcs⟩ := List.forall_mem_cons.1 h
    have hpair : composePair? letter c = none := by
      rw [composePair?]
      exact if_pos (by omega)
    have hclass : combiningClass c = 0 := by
      rw [combiningClass, if_pos (by omega)]
    rw [composeFrom]
    simp only [Bool.false_eq_true, if_false, hpair, hclass, beq_self_eq_true, if_true]
    rw [ih hcs, List.reverse_nil, List.nil_append]

/-- Below the letters that are decomposed, `normalize` does nothing. -/
theorem normalize_eq_self {cs : List Char} (h : ∀ c ∈ cs, c.toNat < 0xC0) : normalize cs = cs := by
  have hdecompose : cs.flatMap decomposeChar = cs := by
    have hsingle : ∀ c ∈ cs, decomposeChar c = [c] := by
      intro c hc
      rw [decomposeChar]
      exact if_pos (h c hc)
    rw [List.flatMap_congr hsingle]
    simp
  rw [normalize, hdecompose, orderMarks_eq_self h]
  cases cs with
  | nil => rfl
  | cons c cs =>
    obtain ⟨hc, hcs⟩ := List.forall_mem_cons.1 h
    have hclass : combiningClass c = 0 := by
      rw [combiningClass, if_pos (by omega)]
    rw [compose, hclass, beq_self_eq_true, if_pos rfl, composeFrom_eq_cons hcs]

end PageRisk.Unicode

namespace PageRisk.Idna

open Unicode (lowercase lowercaseChar IsLower)

/-! ## Characters -/

theorem isAscii_iff {cs : List Char} : isAscii cs = true ↔ ∀ c ∈ cs, c.toNat < 128 := by
  simp [isAscii]

theorem mapChars_eq_flatMap {cs : List Char} (h : ∀ d ∈ cs.flatMap lowercaseChar, d.toNat < 128) :
    mapChars cs = some (cs.flatMap lowercaseChar) := by
  induction cs with
  | nil => rfl
  | cons c cs ih =>
    rw [List.flatMap_cons, List.forall_mem_append] at h
    obtain ⟨d, hd, hascii⟩ := Unicode.exists_lowercaseChar_eq h.1
    have hmapping : mapping c = if d == c then .kept else .replaced [d] := by
      rw [mapping, hd]
      exact if_neg (by omega)
    rw [mapChars, hmapping, ih h.2, List.flatMap_cons, hd]
    split_ifs with heq
    · rw [beq_iff_eq.1 heq]
      rfl
    · rfl

theorem isUpper_eq_false {c : Char} (hascii : c.toNat < 128) (h : IsLower c) : c.isUpper = false := by
  have hself : c.toLower = c := by
    have himage := h.2
    rw [lowercaseChar, if_pos hascii] at himage
    exact List.singleton_inj.1 himage
  rw [← hself]
  exact Unicode.isUpper_toLower c

/-! ## Labels -/

/-- `closeLabel` after `openLabel` gives the label that it was. -/
theorem closeLabel_openLabel {label opened closed : List Char}
    (h : Punycode.LowerAscii label) (hopen : openLabel label = some opened)
    (hclose : closeLabel opened = some closed) : closed = label := by
  rw [openLabel] at hopen
  split_ifs at hopen with hmark
  · obtain ⟨digits, rfl⟩ := List.isPrefixOf_iff_prefix.1 hmark
    rw [List.drop_left] at hopen
    dsimp only at hopen
    rw [ite_eq_iff] at hopen
    obtain ⟨-, hnone⟩ | ⟨-, hopen⟩ := hopen
    · exact absurd hnone nofun
    split at hopen
    · exact absurd hopen nofun
    · next decoded hdecode =>
      split_ifs at hopen with hrefused
      obtain rfl := Option.some.inj hopen
      have hbeyond : isAscii decoded = false := by
        simp only [Bool.or_eq_true, not_or] at hrefused
        simpa using hrefused.1.1.1
      have hencode := Punycode.encode_decode (fun c hc => h c (List.mem_append_right mark hc)) hdecode
      rw [closeLabel, hbeyond, if_neg Bool.false_ne_true] at hclose
      split_ifs at hclose
      rw [← Option.some.inj hclose, hencode]
  · obtain rfl := Option.some.inj hopen
    have hascii : isAscii label = true := isAscii_iff.2 fun c hc => (h c hc).1
    rw [closeLabel, if_pos hascii] at hclose
    exact (Option.some.inj hclose).symm

theorem mapM_closeLabel_openLabel {labels opened closed : List (List Char)}
    (h : ∀ label ∈ labels, Punycode.LowerAscii label)
    (hopen : labels.mapM openLabel = some opened) (hclose : opened.mapM closeLabel = some closed) :
    closed = labels := by
  induction labels generalizing opened closed with
  | nil =>
    obtain rfl := Option.some.inj hopen
    exact (Option.some.inj hclose).symm
  | cons label labels ih =>
    obtain ⟨hlabel, hlabels⟩ := List.forall_mem_cons.1 h
    simp only [List.mapM_cons, Option.bind_eq_bind, Option.bind_eq_some_iff, Option.pure_def,
      Option.some.injEq] at hopen
    obtain ⟨first, hfirst, rest, hrest, rfl⟩ := hopen
    simp only [List.mapM_cons, Option.bind_eq_bind, Option.bind_eq_some_iff, Option.pure_def,
      Option.some.injEq] at hclose
    obtain ⟨first', hfirst', rest', hrest', rfl⟩ := hclose
    rw [closeLabel_openLabel hlabel hfirst hfirst', ih hlabels hrest hrest']

/-! ## Names -/

/-- The `lookupForm` of a host name whose lower case is in ASCII is that lower case, also where it is looked
    up label by label. -/
theorem lookupForm_eq_lowercase {name result : List Char} (hascii : ∀ d ∈ lowercase name, d.toNat < 128)
    (h : lookupForm name = some result) : result = lowercase name := by
  have hchars : mapChars name = some (lowercase name) := by
    have himage : lowercase name = name.flatMap lowercaseChar := Unicode.lowercase_eq_flatMap hascii
    rw [himage] at hascii ⊢
    exact mapChars_eq_flatMap hascii
  have hnormal : Unicode.normalize (lowercase name) = lowercase name := by
    apply Unicode.normalize_eq_self
    intro c hc
    have := hascii c hc
    omega
  rw [lookupForm, hchars] at h
  dsimp only at h
  rw [hnormal] at h
  split at h
  · exact absurd h nofun
  · next opened hopen =>
    split_ifs at h
    obtain ⟨closed, hclose, rfl⟩ := Option.map_eq_some_iff.1 h
    have hlabels : closed = Text.pieces (· == '.') (lowercase name) := by
      apply mapM_closeLabel_openLabel _ hopen hclose
      intro label hlabel c hc
      have hmem : c ∈ lowercase name := (Text.isInfix_of_mem_pieces hlabel).subset hc
      exact ⟨hascii c hmem, isUpper_eq_false (hascii c hmem) (Unicode.isLower_of_mem_lowercase hmem)⟩
    rw [hlabels, Text.intercalate_pieces]

/-- `toAscii` of a host name whose lower case is in ASCII is that lower case. -/
theorem toAscii_eq_lowercase {name result : List Char} (hascii : ∀ d ∈ lowercase name, d.toNat < 128)
    (h : toAscii name = some result) : result = lowercase name := by
  rw [toAscii] at h
  split at h
  · exact absurd h nofun
  · next found hfound =>
    split_ifs at h
    obtain rfl := Option.some.inj h
    split_ifs at hfound with hplain
    · rw [Bool.and_eq_true] at hplain
      rw [← Option.some.inj hfound, Unicode.lowercase_of_ascii (isAscii_iff.1 hplain.1)]
    · exact lookupForm_eq_lowercase hascii hfound

end PageRisk.Idna
