import Mathlib.Data.Bool.AllAny
import PageRisk.Proofs.Text

set_option autoImplicit false

/-! # Words of texts

A text is followed from one separator to the next (`pieces_induction`). White space around and between
words means nothing to them (`words_append_cons`, `words_trim`), and a needle without white space is found
in a text just if it is found in one of its words (`isInfix_iff_words`). What changes letters and leaves
white space alone changes each word by itself (`words_flatMap`). -/

namespace PageRisk.Text

variable {p : Char → Bool}

/-! ## Pieces -/

/-- What holds of all texts without separators, and of a text whenever it holds of what stands behind its
    first separator, holds of every text. -/
theorem pieces_induction {motive : List Char → Prop}
    (whole : ∀ cs, (∀ c ∈ cs, p c = false) → motive cs)
    (split : ∀ before separator after, (∀ c ∈ before, p c = false) → p separator = true →
      motive after → motive (before ++ separator :: after))
    (cs : List Char) : motive cs := by
  -- The characters before the first separator are collected on the way to it.
  suffices h : ∀ before, (∀ c ∈ before, p c = false) → motive (before ++ cs) from h [] (by simp)
  induction cs with
  | nil =>
    intro before hbefore
    rw [List.append_nil]
    exact whole before hbefore
  | cons c cs ih =>
    intro before hbefore
    cases hc : p c with
    | true => exact split before c cs hbefore hc (ih [] (by simp))
    | false =>
      have hlonger : ∀ d ∈ before ++ [c], p d = false := by
        intro d hd
        rcases List.mem_append.1 hd with hd | hd
        · exact hbefore d hd
        · rw [List.mem_singleton.1 hd, hc]
      simpa using ih (before ++ [c]) hlonger

/-! ## Needles -/

theorem occursIn_iff_isInfix {needle cs : List Char} : occursIn needle cs = true ↔ needle <:+: cs := by
  induction cs with
  | nil => simp [occursIn]
  | cons c cs ih =>
    rw [occursIn, Bool.or_eq_true, ih, List.isPrefixOf_iff_prefix, List.infix_cons_iff]

/-- `cutAt?` cuts a text just where a mark stands in it. -/
theorem cutAt?_eq_none_of_not_isInfix {mark cs : List Char} (h : ¬ mark <:+: cs) : cutAt? mark cs = none := by
  induction cs with
  | nil =>
    have hne : mark ≠ [] := by
      rintro rfl
      exact h List.nil_infix
    rw [cutAt?, if_neg (by simpa using hne)]
  | cons c cs ih =>
    rw [List.infix_cons_iff, not_or] at h
    rw [cutAt?, if_neg (by simpa [List.isPrefixOf_iff_prefix] using h.1), ih h.2]
    rfl

/-- A needle does not reach over a character that it does not have. -/
theorem isPrefix_append_cons_iff {needle before after : List Char} {c : Char} (h : c ∉ needle) :
    needle <+: before ++ c :: after ↔ needle <+: before := by
  constructor
  · intro hstart
    rcases List.prefix_or_prefix_of_prefix hstart (List.prefix_append before (c :: after)) with hshort | hlong
    · exact hshort
    · obtain ⟨rest, rfl⟩ := hlong
      rw [List.prefix_append_right_inj] at hstart
      cases rest with
      | nil => simp
      | cons d rest =>
        obtain ⟨rfl, -⟩ := List.cons_prefix_cons.1 hstart
        simp at h
  · intro hstart
    exact hstart.trans (List.prefix_append before _)

theorem isInfix_append_cons_iff {needle before after : List Char} {c : Char} (h : c ∉ needle) :
    needle <:+: before ++ c :: after ↔ needle <:+: before ∨ needle <:+: after := by
  induction before with
  | nil =>
    have hstart : needle <+: c :: after ↔ needle <+: [] := @isPrefix_append_cons_iff needle [] after c h
    rw [List.nil_append, List.infix_cons_iff, hstart, List.prefix_nil, List.infix_nil]
  | cons d before ih =>
    have hstart : needle <+: d :: (before ++ c :: after) ↔ needle <+: d :: before :=
      @isPrefix_append_cons_iff needle (d :: before) after c h
    rw [List.cons_append, List.infix_cons_iff, hstart, ih, List.infix_cons_iff, or_assoc]

/-- Where separators are left alone and other characters replaced, a needle without separators is found in
    what becomes of one of the pieces. -/
theorem isInfix_flatMap_iff_pieces {f : Char → List Char} (hf : ∀ c, p c = true → f c = [c])
    {needle : List Char} (h : ∀ c ∈ needle, p c = false) (cs : List Char) :
    needle <:+: cs.flatMap f ↔ ∃ piece ∈ pieces p cs, needle <:+: piece.flatMap f := by
  induction cs using pieces_induction (p := p) with
  | whole cs hcs => simp [pieces_of_forall hcs]
  | split before separator after hbefore hseparator ih =>
    have hmem : separator ∉ needle := by
      intro hmem
      rw [h separator hmem] at hseparator
      exact Bool.noConfusion hseparator
    have hflat : (before ++ separator :: after).flatMap f = before.flatMap f ++ separator :: after.flatMap f := by
      rw [List.flatMap_append, List.flatMap_cons, hf separator hseparator, List.singleton_append]
    rw [hflat, isInfix_append_cons_iff hmem, ih, pieces_append_cons hseparator, pieces_of_forall hbefore]
    simp

theorem isInfix_iff_pieces {needle : List Char} (h : ∀ c ∈ needle, p c = false) (cs : List Char) :
    needle <:+: cs ↔ ∃ piece ∈ pieces p cs, needle <:+: piece := by
  simpa using isInfix_flatMap_iff_pieces (f := fun c => [c]) (fun _ _ => rfl) h cs

/-- A piece is an infix of the text. -/
theorem isInfix_of_mem_pieces {cs piece : List Char} (h : piece ∈ pieces p cs) : piece <:+: cs := by
  induction cs using pieces_induction (p := p) with
  | whole cs hcs =>
    rw [pieces_of_forall hcs, List.mem_singleton] at h
    exact h ▸ List.infix_rfl
  | split before separator after hbefore hseparator ih =>
    rw [pieces_append_cons hseparator, pieces_of_forall hbefore, List.singleton_append,
      List.mem_cons] at h
    rcases h with rfl | h
    · exact (List.prefix_append piece _).isInfix
    · exact (ih h).trans ((List.suffix_cons separator after).trans (List.suffix_append before _)).isInfix

/-- `pieces` are without separators. -/
theorem eq_false_of_mem_pieces {cs piece : List Char} (h : piece ∈ pieces p cs) {c : Char} (hc : c ∈ piece) :
    p c = false := by
  induction cs using pieces_induction (p := p) with
  | whole cs hcs =>
    rw [pieces_of_forall hcs, List.mem_singleton] at h
    exact hcs c (h ▸ hc)
  | split before separator after hbefore hseparator ih =>
    rw [pieces_append_cons hseparator, pieces_of_forall hbefore, List.singleton_append, List.mem_cons] at h
    rcases h with rfl | h
    · exact hbefore c hc
    · exact ih h

/-- `intercalate` undoes `pieces`. -/
theorem intercalate_pieces (separator : Char) (cs : List Char) :
    List.intercalate [separator] (pieces (· == separator) cs) = cs := by
  induction cs using pieces_induction (p := (· == separator)) with
  | whole cs hcs => rw [pieces_of_forall hcs, List.intercalate_singleton]
  | split before mark after hbefore hmark ih =>
    obtain rfl := beq_iff_eq.1 hmark
    obtain ⟨piece, rest, hpieces⟩ := List.exists_cons_of_ne_nil (pieces_ne_nil (· == mark) after)
    rw [hpieces] at ih
    rw [pieces_append_cons (p := (· == mark)) hmark, pieces_of_forall hbefore, hpieces, List.singleton_append,
      List.intercalate_cons_cons, ih, List.append_assoc, List.singleton_append]

/-- `pieces` undoes `intercalate` of texts without separators. -/
theorem pieces_intercalate {separator : Char} {parts : List (List Char)} (hne : parts ≠ [])
    (h : ∀ part ∈ parts, ∀ c ∈ part, (c == separator) = false) :
    pieces (· == separator) (List.intercalate [separator] parts) = parts := by
  induction parts with
  | nil => exact absurd rfl hne
  | cons first parts ih =>
    obtain ⟨hfirst, hparts⟩ := List.forall_mem_cons.1 h
    cases parts with
    | nil => rw [List.intercalate_singleton, pieces_of_forall hfirst]
    | cons second parts =>
      rw [List.intercalate_cons_cons, List.append_assoc, List.singleton_append,
        pieces_append_cons (p := (· == separator)) (beq_self_eq_true _), pieces_of_forall hfirst,
        ih (List.cons_ne_nil _ _) hparts, List.singleton_append]

/-! ## Words -/

@[simp] theorem words_nil : words [] = [] := rfl

theorem words_append_cons {blank : Char} (h : isBlank blank = true) (before after : List Char) :
    words (before ++ blank :: after) = words before ++ words after := by
  rw [words, pieces_append_cons h, List.filter_append, words, words]

theorem words_cons {blank : Char} (h : isBlank blank = true) (cs : List Char) :
    words (blank :: cs) = words cs :=
  words_append_cons h [] cs

theorem words_of_forall {cs : List Char} (h : ∀ c ∈ cs, isBlank c = false) (hne : cs ≠ []) :
    words cs = [cs] := by
  rw [words, pieces_of_forall h]
  simp [hne]

theorem words_blank_append {blanks : List Char} (h : ∀ c ∈ blanks, isBlank c = true) (cs : List Char) :
    words (blanks ++ cs) = words cs := by
  induction blanks with
  | nil => rfl
  | cons b blanks ih =>
    rw [List.cons_append, words_cons (h b List.mem_cons_self)]
    exact ih fun c hc => h c (List.mem_cons_of_mem _ hc)

theorem words_of_blank {blanks : List Char} (h : ∀ c ∈ blanks, isBlank c = true) : words blanks = [] := by
  simpa using words_blank_append h []

theorem words_append_blank {blanks : List Char} (h : ∀ c ∈ blanks, isBlank c = true) (cs : List Char) :
    words (cs ++ blanks) = words cs := by
  cases blanks with
  | nil => rw [List.append_nil]
  | cons b blanks =>
    rw [words_append_cons (h b List.mem_cons_self),
      words_of_blank fun c hc => h c (List.mem_cons_of_mem _ hc), List.append_nil]

/-- A text has no `words` just if it is white space throughout. -/
theorem words_eq_nil_iff {cs : List Char} : words cs = [] ↔ allBlank cs = true := by
  rw [allBlank, List.all_eq_true]
  constructor
  · intro h c hc
    by_contra hblank
    rw [Bool.not_eq_true] at hblank
    -- A text of this one character has a word, and it is part of the text.
    have hneedle : ∀ d ∈ [c], isBlank d = false := by simpa using hblank
    have hpart : [c] <:+: cs := by
      obtain ⟨before, after, rfl⟩ := List.append_of_mem hc
      exact ⟨before, after, by simp⟩
    obtain ⟨piece, hpiece, hin⟩ := (isInfix_iff_pieces hneedle cs).1 hpart
    have hword : piece ∈ words cs := by
      rw [words, List.mem_filter]
      refine ⟨hpiece, ?_⟩
      rcases piece with - | ⟨d, piece⟩
      · simp at hin
      · rfl
    rw [h] at hword
    exact absurd hword List.not_mem_nil
  · exact words_of_blank

theorem isInfix_iff_words {needle : List Char} (h : ∀ c ∈ needle, isBlank c = false) (hne : needle ≠ [])
    (cs : List Char) : needle <:+: cs ↔ ∃ word ∈ words cs, needle <:+: word := by
  rw [isInfix_iff_pieces h]
  constructor
  · rintro ⟨piece, hpiece, hin⟩
    refine ⟨piece, List.mem_filter.2 ⟨hpiece, ?_⟩, hin⟩
    rcases piece with - | ⟨d, piece⟩
    · simp at hin
      exact absurd hin hne
    · rfl
  · rintro ⟨word, hword, hin⟩
    exact ⟨word, (List.mem_filter.1 hword).1, hin⟩

/-! ## The first word -/

/-- A text that does not start with white space starts with its first word, and what else it starts with
    reaches beyond that word only over white space. -/
theorem isPrefix_iff_first_word {cs first : List Char} {rest : List (List Char)}
    (hhead : ∀ c, cs.head? = some c → isBlank c = false) (hwords : words cs = first :: rest)
    {needle : List Char} (h : ∀ c ∈ needle, isBlank c = false) : needle <+: cs ↔ needle <+: first := by
  induction cs using pieces_induction (p := isBlank) with
  | whole cs hcs =>
    have hne : cs ≠ [] := by
      rintro rfl
      simp at hwords
    rw [words_of_forall hcs hne] at hwords
    rw [(List.cons.inj hwords).1]
  | split before blank after hbefore hblank _ =>
    have hne : before ≠ [] := by
      rintro rfl
      rw [hhead blank rfl] at hblank
      exact Bool.noConfusion hblank
    have hmem : blank ∉ needle := by
      intro hmem
      rw [h blank hmem] at hblank
      exact Bool.noConfusion hblank
    rw [words_append_cons hblank, words_of_forall hbefore hne, List.singleton_append] at hwords
    rw [isPrefix_append_cons_iff hmem, (List.cons.inj hwords).1]

/-! ## Trimming -/

theorem exists_dropLastWhile {α : Type} (q : α → Bool) (cs : List α) :
    ∃ after, cs = dropLastWhile q cs ++ after ∧ ∀ a ∈ after, q a = true := by
  refine ⟨(cs.reverse.takeWhile q).reverse, ?_, ?_⟩
  · rw [dropLastWhile, ← List.reverse_append, List.takeWhile_append_dropWhile, List.reverse_reverse]
  · intro a ha
    exact List.mem_takeWhile_imp (List.mem_reverse.1 ha)

theorem dropLastWhile_append {α : Type} {q : α → Bool} {after : List α} (h : ∀ a ∈ after, q a = true)
    (as : List α) : dropLastWhile q (as ++ after) = dropLastWhile q as := by
  have hreverse : ∀ a ∈ after.reverse, q a = true := by simpa using h
  rw [dropLastWhile, List.reverse_append, List.dropWhile_append_of_pos hreverse, dropLastWhile]

/-- `trim` takes off nothing but white space. -/
theorem exists_trim (cs : List Char) :
    ∃ before after, cs = before ++ (trim cs ++ after) ∧ (∀ c ∈ before, isBlank c = true)
      ∧ ∀ c ∈ after, isBlank c = true := by
  obtain ⟨after, heq, hafter⟩ := exists_dropLastWhile isBlank (cs.dropWhile isBlank)
  refine ⟨cs.takeWhile isBlank, after, ?_, ?_, hafter⟩
  · rw [trim, ← heq, List.takeWhile_append_dropWhile]
  · intro c hc
    exact List.mem_takeWhile_imp hc

theorem trim_blank_append {blanks : List Char} (h : ∀ c ∈ blanks, isBlank c = true) (cs : List Char) :
    trim (blanks ++ cs) = trim cs := by
  rw [trim, List.dropWhile_append_of_pos h, trim]

theorem trim_append_blank {blanks : List Char} (h : ∀ c ∈ blanks, isBlank c = true) (cs : List Char) :
    trim (cs ++ blanks) = trim cs := by
  rw [trim, List.dropWhile_append, trim]
  split_ifs with hempty
  · rw [List.isEmpty_iff.1 hempty, List.dropWhile_eq_nil_iff.2 h]
  · exact dropLastWhile_append h _

/-- What stands between characters that are no white space is not reached by `trim`. -/
theorem trim_around {cs : List Char} (hne : cs ≠ [])
    (hends : ∀ c, cs.head? = some c ∨ cs.getLast? = some c → isBlank c = false) (before after : List Char) :
    trim (before ++ (cs ++ after))
      = before.dropWhile isBlank ++ (cs ++ dropLastWhile isBlank after) := by
  have hstart : ∀ ds, (cs ++ ds).dropWhile isBlank = cs ++ ds := by
    intro ds
    rcases cs with - | ⟨c, cs⟩
    · exact absurd rfl hne
    · rw [List.cons_append, List.dropWhile_cons_of_neg (by simp [hends c (.inl rfl)])]
  have hstop : ∀ ds, dropLastWhile isBlank (ds ++ (cs ++ after))
      = ds ++ (cs ++ dropLastWhile isBlank after) := by
    intro ds
    rcases List.eq_nil_or_concat cs with rfl | ⟨cs, c, rfl⟩
    · exact absurd rfl hne
    · have hc : isBlank c = false := hends c (.inr (by simp))
      have hback : (ds ++ ((cs.concat c) ++ after)).reverse
          = after.reverse ++ c :: (ds ++ cs).reverse := by simp
      rw [dropLastWhile, hback, List.dropWhile_append, dropLastWhile]
      split_ifs with hempty
      · rw [List.isEmpty_iff.1 hempty, List.dropWhile_cons_of_neg (by simp [hc])]
        simp
      · simp
  rw [trim, List.dropWhile_append, hstart]
  split_ifs with hempty
  · rw [List.isEmpty_iff.1 hempty, ← hstop []]
    rfl
  · exact hstop _

/-- `trim` leaves nothing of a text just if it is white space throughout. -/
theorem trim_eq_nil_iff {cs : List Char} : trim cs = [] ↔ allBlank cs = true := by
  rw [allBlank, List.all_eq_true]
  constructor
  · intro h c hc
    obtain ⟨before, after, heq, hbefore, hafter⟩ := exists_trim cs
    rw [heq, h, List.nil_append] at hc
    rcases List.mem_append.1 hc with hc | hc
    · exact hbefore c hc
    · exact hafter c hc
  · intro h
    have htrim := trim_append_blank h []
    rwa [List.nil_append] at htrim

theorem words_trim (cs : List Char) : words (trim cs) = words cs := by
  obtain ⟨before, after, heq, hbefore, hafter⟩ := exists_trim cs
  conv_rhs => rw [heq, words_blank_append hbefore, words_append_blank hafter]

/-- What `trim` leaves does not start with white space. -/
theorem isBlank_head?_trim {cs : List Char} {c : Char} (h : (trim cs).head? = some c) :
    isBlank c = false := by
  have hstart : trim cs <+: cs.dropWhile isBlank := dropLastWhile_isPrefix isBlank _
  obtain ⟨after, heq⟩ := hstart
  have hhead : (cs.dropWhile isBlank).head? = some c := by
    rw [← heq, List.head?_append, h, Option.some_or]
  have hfirst := List.head?_dropWhile_not isBlank cs
  rw [hhead] at hfirst
  exact hfirst

/-- What `trim` leaves has no white space at either end. -/
theorem isBlank_ends_trim {cs : List Char} {c : Char}
    (h : (trim cs).head? = some c ∨ (trim cs).getLast? = some c) : isBlank c = false := by
  rcases h with h | h
  · exact isBlank_head?_trim h
  · exact getLast?_dropLastWhile h

section Needle

variable {needle blanks : List Char} (hne : needle ≠ [])
  (hends : ∀ c, needle.head? = some c ∨ needle.getLast? = some c → isBlank c = false)
  (h : ∀ c ∈ blanks, isBlank c = true)

include hne hends h

/-- A needle without white space at its ends does not reach into white space around a text. -/
theorem isInfix_blank_append (cs : List Char) : needle <:+: blanks ++ cs ↔ needle <:+: cs := by
  induction blanks with
  | nil => rfl
  | cons b blanks ih =>
    obtain ⟨hb, hblanks⟩ := List.forall_mem_cons.1 h
    have hstart : ¬ needle <+: b :: (blanks ++ cs) := by
      obtain ⟨n, needle, rfl⟩ := List.exists_cons_of_ne_nil hne
      intro hprefix
      obtain ⟨rfl, -⟩ := List.cons_prefix_cons.1 hprefix
      rw [hends n (.inl rfl)] at hb
      exact Bool.noConfusion hb
    rw [List.cons_append, List.infix_cons_iff, or_iff_right hstart, ih hblanks]

theorem isInfix_append_blank (cs : List Char) : needle <:+: cs ++ blanks ↔ needle <:+: cs := by
  have hreverse := @isInfix_blank_append needle.reverse blanks.reverse (by simpa using hne)
    (fun c hc => hends c (by simpa [or_comm] using hc)) (by simpa using h) cs.reverse
  rwa [← List.reverse_append, List.reverse_infix, List.reverse_infix] at hreverse

end Needle

/-! ## Texts changed letter by letter -/

section Unmapped

variable {f : Char → Char} {needle : List Char} (h : ∀ n ∈ needle, ∀ c, f c = n ↔ c = n)

include h

/-- A needle whose characters come from themselves alone is found where it was before. -/
theorem isPrefixOf_map (cs : List Char) : needle.isPrefixOf (cs.map f) = needle.isPrefixOf cs := by
  induction needle generalizing cs with
  | nil => simp
  | cons n needle ih =>
    cases cs with
    | nil => rfl
    | cons c cs =>
      have hfirst : (n == f c) = (n == c) := by
        rw [Bool.eq_iff_iff, beq_iff_eq, beq_iff_eq, eq_comm, h n List.mem_cons_self c, eq_comm]
      have hrest := ih (fun m hm => h m (List.mem_cons_of_mem _ hm)) cs
      rw [List.map_cons, List.isPrefixOf_cons_cons, List.isPrefixOf_cons_cons, hfirst, hrest]

theorem occursIn_map (cs : List Char) : occursIn needle (cs.map f) = occursIn needle cs := by
  induction cs with
  | nil => rfl
  | cons c cs ih =>
    have hstart := isPrefixOf_map h (c :: cs)
    rw [List.map_cons] at hstart
    rw [List.map_cons, occursIn, occursIn, ih, hstart]

theorem map_eq_iff (cs : List Char) : cs.map f = needle ↔ cs = needle := by
  induction needle generalizing cs with
  | nil => simp
  | cons n needle ih =>
    cases cs with
    | nil => simp
    | cons c cs =>
      rw [List.map_cons, List.cons.injEq, List.cons.injEq, h n List.mem_cons_self c,
        ih (fun m hm => h m (List.mem_cons_of_mem _ hm)) cs]

end Unmapped

/-- Where each character is replaced by others that are no white space, and white space is left alone, the
    `words` are changed one by one. -/
theorem words_flatMap {f : Char → List Char}
    (hword : ∀ c, isBlank c = false → f c ≠ [] ∧ ∀ d ∈ f c, isBlank d = false)
    (hblank : ∀ c, isBlank c = true → f c = [c]) (cs : List Char) :
    words (cs.flatMap f) = (words cs).map fun word => word.flatMap f := by
  have hwhole : ∀ cs, (∀ c ∈ cs, isBlank c = false) →
      words (cs.flatMap f) = (words cs).map fun word => word.flatMap f := by
    intro cs hcs
    rcases cs with - | ⟨c, cs⟩
    · rfl
    · have himage : ∀ d ∈ (c :: cs).flatMap f, isBlank d = false := by
        intro d hd
        obtain ⟨e, he, hmem⟩ := List.mem_flatMap.1 hd
        exact (hword e (hcs e he)).2 d hmem
      have hne : (c :: cs).flatMap f ≠ [] := by
        simp [(hword c (hcs c List.mem_cons_self)).1]
      rw [words_of_forall himage hne, words_of_forall hcs (List.cons_ne_nil c cs), List.map_singleton]
  induction cs using pieces_induction (p := isBlank) with
  | whole cs hcs => exact hwhole cs hcs
  | split before blank after hbefore hisBlank ih =>
    rw [List.flatMap_append, List.flatMap_cons, hblank blank hisBlank, List.singleton_append,
      words_append_cons hisBlank, words_append_cons hisBlank, List.map_append, ih, hwhole before hbefore]

theorem words_map {f : Char → Char} (hword : ∀ c, isBlank c = false → isBlank (f c) = false)
    (hblank : ∀ c, isBlank c = true → f c = c) (cs : List Char) :
    words (cs.map f) = (words cs).map (List.map f) := by
  have hsingle : ∀ ds : List Char, (ds.flatMap fun c => [f c]) = ds.map f := by
    intro ds
    exact List.map_eq_flatMap.symm
  have hflat := words_flatMap (f := fun c => [f c]) (by simpa using hword) (by simpa using hblank) cs
  simpa only [hsingle] using hflat

end PageRisk.Text
