import PageRisk.Proofs.Csp.Analysis

set_option autoImplicit false

/-! # Keywords in whole texts

A policy is read segment by segment, trimmed and in lower case. A keyword neither crosses a semicolon nor
begins or ends with white space, so it stands in a directive just if it stands in the lower case of the
whole text (`mentions_parse_iff`), although the lower case of a segment need not be a part of that of the
text: capital sigma becomes one small sigma or the other by what surrounds it. -/

namespace PageRisk.Csp

open Text (isBlank pieces trim)
open Unicode (IsPlain foldChar lowercase)

/-- What `Policy.mentions` is used for: a text in ASCII without semicolon and without white space at its
    ends. -/
structure IsKeyword (needle : List Char) : Prop where
  ne_nil : needle ≠ []
  ascii : ∀ c ∈ needle, c.toNat < 128
  semicolon_not_mem : ';' ∉ needle
  ends_not_blank : ∀ c, needle.head? = some c ∨ needle.getLast? = some c → isBlank c = false

theorem isKeyword_of_trim {needle : List Char} (hne : needle ≠ []) (hascii : ∀ c ∈ needle, c.toNat < 128)
    (hmark : ';' ∉ needle) (htrim : trim needle = needle) : IsKeyword needle :=
  ⟨hne, hascii, hmark, (Text.trim_eq_self_iff needle).1 htrim⟩

/-! ## Segments -/

/-- `trim` takes nothing of a keyword. -/
theorem IsKeyword.isInfix_lowercase_trim_iff {needle : List Char} (h : IsKeyword needle)
    (segment : List Char) : needle <:+: lowercase (trim segment) ↔ needle <:+: segment.flatMap foldChar := by
  obtain ⟨before, after, heq, hbefore, hafter⟩ := Text.exists_trim segment
  have hblank : ∀ {blanks : List Char}, (∀ c ∈ blanks, isBlank c = true) → blanks.flatMap foldChar = blanks := by
    intro blanks hblanks
    rw [List.flatMap_congr fun c hc => Unicode.foldChar_of_isBlank (hblanks c hc)]
    exact List.flatMap_singleton' blanks
  have hfold : segment.flatMap foldChar = before ++ ((trim segment).flatMap foldChar ++ after) := by
    conv_lhs => rw [heq]
    rw [List.flatMap_append, List.flatMap_append, hblank hbefore, hblank hafter]
  rw [Unicode.isInfix_lowercase_iff h.ascii, hfold, Text.isInfix_blank_append h.ne_nil h.ends_not_blank hbefore,
    Text.isInfix_append_blank h.ne_nil h.ends_not_blank hafter]

/-- A keyword is found in the directive of a segment, and in no segment without one. -/
theorem IsKeyword.exists_ofSegment?_iff {needle : String} (h : IsKeyword needle.toList)
    (segment : List Char) :
    (∃ d, Directive.ofSegment? segment = some d ∧ d.mentions needle = true)
      ↔ needle.toList <:+: segment.flatMap foldChar := by
  simp only [Directive.mentions, Text.occursIn_iff_isInfix]
  rw [← h.isInfix_lowercase_trim_iff]
  constructor
  · rintro ⟨d, hof, hin⟩
    rwa [← (ofSegment?_eq_some_iff.1 hof).1]
  · intro hin
    cases hof : Directive.ofSegment? segment with
    | none =>
      rw [Text.trim_eq_nil_iff.2 (ofSegment?_eq_none_iff.1 hof)] at hin
      exact absurd (List.infix_nil.1 hin) h.ne_nil
    | some d =>
      refine ⟨d, rfl, ?_⟩
      rwa [(ofSegment?_eq_some_iff.1 hof).1]

/-! ## Texts -/

/-- `Policy.mentions` finds a keyword just if it stands in the lower case of the whole text. -/
theorem mentions_parse_iff {needle : String} (h : IsKeyword needle.toList) (text : String) :
    (Policy.parse text).mentions needle = true ↔ needle.toList <:+: lowercase text.toList := by
  have hmark : ∀ c, (c == ';') = true → foldChar c = [c] := by
    intro c hc
    rw [beq_iff_eq.1 hc]
    decide
  have hneedle : ∀ c ∈ needle.toList, (c == ';') = false := by
    intro c hc
    rw [beq_eq_false_iff_ne]
    rintro rfl
    exact h.semicolon_not_mem hc
  rw [Unicode.isInfix_lowercase_iff h.ascii, Text.isInfix_flatMap_iff_pieces hmark hneedle, Policy.mentions,
    List.any_eq_true, directives_parse]
  simp only [← h.exists_ofSegment?_iff, List.mem_filterMap]
  constructor
  · rintro ⟨d, ⟨segment, hsegment, hof⟩, hmentions⟩
    exact ⟨segment, hsegment, d, hof, hmentions⟩
  · rintro ⟨segment, hsegment, d, hof, hmentions⟩
    exact ⟨d, ⟨segment, hsegment, hof⟩, hmentions⟩

/-- `Policy.mentions` finds a keyword that `IsPlain` just if it stands in the text in whatever letter
    case. -/
theorem mentions_parse_iff_map {needle : String} (h : IsKeyword needle.toList) (hplain : IsPlain needle.toList)
    (text : String) :
    (Policy.parse text).mentions needle = true ↔ needle.toList <:+: text.toList.map Char.toLower := by
  rw [mentions_parse_iff h, Unicode.isInfix_lowercase_iff_map hplain h.ne_nil]

theorem isKeyword_unsafeInline : IsKeyword "unsafe-inline".toList :=
  isKeyword_of_trim (by decide) (by simp) (by decide) (by decide)

theorem isKeyword_unsafeEval : IsKeyword "unsafe-eval".toList :=
  isKeyword_of_trim (by decide) (by simp) (by decide) (by decide)

/-- Reading a text directive by directive neither hides a keyword (`IsKeyword`) from `Policy.mentions` nor
    makes up one. So the rules `unsafeInline` and `unsafeEval` find something just where the text has the
    keyword of the rule in whatever letter case. -/
theorem keywords_of_text (text : String) :
    (∀ needle : String, IsKeyword needle.toList →
      ((Policy.parse text).mentions needle = true ↔ needle.toList <:+: lowercase text.toList))
      ∧ (Rule.unsafeInline.isFoundIn (Policy.parse text) = true
        ↔ "unsafe-inline".toList <:+: text.toList.map Char.toLower)
      ∧ (Rule.unsafeEval.isFoundIn (Policy.parse text) = true
        ↔ "unsafe-eval".toList <:+: text.toList.map Char.toLower) := by
  refine ⟨fun needle hneedle => mentions_parse_iff hneedle text, ?_, ?_⟩
  · exact mentions_parse_iff_map isKeyword_unsafeInline ⟨by simp, by decide, by decide⟩ text
  · exact mentions_parse_iff_map isKeyword_unsafeEval ⟨by simp, by decide, by decide⟩ text

/-- `keywords_of_text` for a keyword with white space in it, and one in capitals, behind a letter whose
    lower case is longer. -/
theorem dottedPolicy_keywords :
    IsKeyword "src 'unsafe".toList
      ∧ (Policy.parse "; İ Script-SRC 'UNSAFE-Inline';").mentions "src 'unsafe" = true
      ∧ Rule.unsafeInline.isFoundIn (Policy.parse "; İ Script-SRC 'UNSAFE-Inline';") = true
      ∧ Rule.unsafeEval.isFoundIn (Policy.parse "; İ Script-SRC 'UNSAFE-Inline';") = false := by
  have hneedle : IsKeyword "src 'unsafe".toList :=
    isKeyword_of_trim (by decide) (by simp) (by decide) (by decide)
  obtain ⟨hmentions, hinline, heval⟩ := keywords_of_text "; İ Script-SRC 'UNSAFE-Inline';"
  refine ⟨hneedle, (hmentions _ hneedle).2 ?_, hinline.2 ?_, ?_⟩
  · rw [← Text.occursIn_iff_isInfix]
    decide +kernel
  · rw [← Text.occursIn_iff_isInfix]
    decide +kernel
  · rw [← Bool.not_eq_true, heval, ← Text.occursIn_iff_isInfix]
    decide +kernel

end PageRisk.Csp
