import PageRisk.Proofs.Csp.Analysis

set_option autoImplicit false

/-! # Policies written as they are read

The text of a directive that was read is trimmed, in lower case and without semicolon, and its name and
sources are its words (`isCanonical_of_ofSegment?`). Nothing of it is lost or changed when it is read
again, so that the policies that texts declare are just those of such directives
(`exists_parse_eq_iff`), and a policy written with semicolons between its directives is read as the same
policy (`parse_canonical`). -/

namespace PageRisk.Csp

open Text (allBlank isBlank pieces trim words)
open Unicode (lowercase)

/-- What `ofSegment?` leaves of a directive: a text that it would read as it stands. -/
structure Directive.IsCanonical (d : Directive) : Prop where
  text_ne : d.text ≠ ""
  semicolon_not_mem : ';' ∉ d.text.toList
  ends_not_blank : ∀ c, d.text.toList.head? = some c ∨ d.text.toList.getLast? = some c → isBlank c = false
  lowercase_eq : lowercase d.text.toList = d.text.toList
  words_eq : words d.text.toList = d.name.toList :: d.sources.map String.toList

/-- The policy as a text, with a semicolon between its directives. -/
def Policy.text (p : Policy) : String :=
  String.intercalate ";" (p.directives.map Directive.text)

/-! ## Directives -/

theorem isCanonical_of_ofSegment? {segment : List Char} {d : Directive} (hmark : ';' ∉ segment)
    (h : Directive.ofSegment? segment = some d) : d.IsCanonical := by
  obtain ⟨htext, hwords⟩ := ofSegment?_eq_some_iff.1 h
  refine ⟨?_, ?_, ?_, ?_, hwords⟩
  · intro hempty
    rw [hempty] at hwords
    exact absurd hwords nofun
  · rw [htext]
    intro hmem
    exact hmark ((Text.trim_isInfix segment).subset (Unicode.mem_of_mem_lowercase (by decide) hmem))
  · rw [htext]
    rintro c (hc | hc)
    · exact Unicode.isBlank_head?_lowercase (fun _ h => Text.isBlank_ends_trim (.inl h)) hc
    · exact Unicode.isBlank_getLast?_lowercase (fun _ h => Text.isBlank_ends_trim (.inr h)) hc
  · rw [htext]
    exact Unicode.lowercase_eq_self fun _ => Unicode.isLower_of_mem_lowercase

/-- A directive that `IsCanonical` is what its text is read as. -/
theorem Directive.IsCanonical.ofSegment?_text {d : Directive} (h : d.IsCanonical) :
    Directive.ofSegment? d.text.toList = some d := by
  rw [ofSegment?_eq_some_iff, (Text.trim_eq_self_iff _).2 h.ends_not_blank, h.lowercase_eq]
  exact ⟨rfl, h.words_eq⟩

/-! ## Policies -/

theorem isCanonical_of_mem_parse {text : String} {d : Directive} (h : d ∈ (Policy.parse text).directives) :
    d.IsCanonical := by
  obtain ⟨segment, hsegment, hof⟩ := List.mem_filterMap.1 h
  have hmark : ';' ∉ segment := by
    intro hmem
    exact absurd (Text.eq_false_of_mem_pieces hsegment hmem) (by decide)
  exact isCanonical_of_ofSegment? hmark hof

/-- A policy of canonical directives is what `Policy.parse` reads its `Policy.text` as. -/
theorem parse_text {p : Policy} (h : ∀ d ∈ p.directives, d.IsCanonical) : Policy.parse p.text = p := by
  obtain ⟨directives⟩ := p
  have hread : (directives.map fun d => d.text.toList).filterMap Directive.ofSegment? = directives := by
    rw [List.filterMap_map]
    exact (List.filterMap_congr fun d hd => (h d hd).ofSegment?_text).trans List.filterMap_some
  unfold Policy.parse Policy.text
  rw [Policy.mk.injEq, String.toList_intercalate, List.map_map]
  rcases List.eq_nil_or_concat directives with rfl | hne
  · -- Without directives the text is empty, and its one segment is blank.
    rfl
  · have hparts : ∀ part ∈ directives.map fun d => d.text.toList, ∀ c ∈ part, (c == ';') = false := by
      intro part hpart c hc
      obtain ⟨d, hd, rfl⟩ := List.mem_map.1 hpart
      rw [beq_eq_false_iff_ne]
      rintro rfl
      exact (h d hd).semicolon_not_mem hc
    have hmap : directives.map (fun d => d.text.toList) ≠ [] := by
      obtain ⟨before, d, rfl⟩ := hne
      simp
    have hpieces := Text.pieces_intercalate hmap hparts
    exact (congrArg _ hpieces).trans hread

/-- The policies that `Policy.parse` gives are those of canonical directives. -/
theorem exists_parse_eq_iff (p : Policy) :
    (∃ text, Policy.parse text = p) ↔ ∀ d ∈ p.directives, d.IsCanonical := by
  constructor
  · rintro ⟨text, rfl⟩ d hd
    exact isCanonical_of_mem_parse hd
  · intro h
    exact ⟨p.text, parse_text h⟩

/-- The directives of a text are its segments but for the blank ones, trimmed and in lower case. -/
theorem map_text_parse (text : String) :
    (Policy.parse text).directives.map Directive.text
      = ((pieces (· == ';') text.toList).filter fun segment => !allBlank segment).map
          fun segment => String.ofList (lowercase (trim segment)) := by
  rw [directives_parse, List.map_filterMap]
  induction pieces (· == ';') text.toList with
  | nil => rfl
  | cons segment segments ih =>
    cases hof : Directive.ofSegment? segment with
    | none =>
      have hblank := ofSegment?_eq_none_iff.1 hof
      rw [List.filterMap_cons_none (by rw [hof]; rfl), List.filter_cons_of_neg (by simp [hblank]), ih]
    | some d =>
      have hblank : allBlank segment = false := by
        rw [← Bool.not_eq_true, ← ofSegment?_eq_none_iff, hof]
        exact nofun
      have htext : d.text = String.ofList (lowercase (trim segment)) := by
        rw [← (ofSegment?_eq_some_iff.1 hof).1, String.ofList_toList]
      rw [List.filterMap_cons_some (by rw [hof]; rfl), List.filter_cons_of_pos (by simp [hblank]), List.map_cons,
        ih, htext]

/-- Every directive of a policy that was read `IsCanonical`. The directives are those of the segments that
    are not white space throughout, in their order, and their `Policy.text` is read again as the same
    policy. -/
theorem parse_canonical (text : String) :
    (∀ d ∈ (Policy.parse text).directives, d.IsCanonical)
      ∧ (∀ segment ∈ pieces (· == ';') text.toList,
        Directive.ofSegment? segment = none ↔ allBlank segment = true)
      ∧ (Policy.parse text).directives.map Directive.text
        = ((pieces (· == ';') text.toList).filter fun segment => !allBlank segment).map
            (fun segment => String.ofList (lowercase (trim segment)))
      ∧ Policy.parse (Policy.parse text).text = Policy.parse text := by
  have hcanonical : ∀ d ∈ (Policy.parse text).directives, d.IsCanonical := fun _ => isCanonical_of_mem_parse
  exact ⟨hcanonical, fun _ _ => ofSegment?_eq_none_iff, map_text_parse text, parse_text hcanonical⟩

/-- A directive with capitals, between empty segments. -/
theorem capitalDirective_canonical :
    ⟨"frame-ancestors 'none'", "frame-ancestors", ["'none'"]⟩
        ∈ (Policy.parse "; Frame-Ancestors 'NONE';").directives
      ∧ Directive.IsCanonical ⟨"frame-ancestors 'none'", "frame-ancestors", ["'none'"]⟩
      ∧ Policy.parse (Policy.parse "; Frame-Ancestors 'NONE';").text
        = Policy.parse "; Frame-Ancestors 'NONE';" := by
  have hmem : ⟨"frame-ancestors 'none'", "frame-ancestors", ["'none'"]⟩
      ∈ (Policy.parse "; Frame-Ancestors 'NONE';").directives := by decide +kernel
  obtain ⟨hcanonical, -, -, hagain⟩ := parse_canonical "; Frame-Ancestors 'NONE';"
  exact ⟨hmem, hcanonical _ hmem, hagain⟩

end PageRisk.Csp
