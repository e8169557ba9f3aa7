import PageRisk.Proofs.Csp.Join
import PageRisk.Proofs.Csp.Spelling

set_option autoImplicit false

/-! # Protection against framing

A page protects itself against framing by a directive `frame-ancestors` with `'none'` among its sources. The
rule that looks for the lack of it takes a directive by the start of its name, so a directive of a longer
name clears the finding as well (`isFoundIn_eq_false_iff`). A report is as it should be just if no such
directive stands in for the protection (`tag_not_mem_iff`). -/

namespace PageRisk.Csp

open Text (allBlank)

/-- Whether the directive forbids all framing of the page. -/
def Directive.ForbidsFraming (d : Directive) : Prop :=
  d.name = "frame-ancestors" ∧ "'none'" ∈ d.sources

/-- Whether the rule takes the directive for one that forbids framing, although it has a longer name. -/
def Directive.SeemsToForbidFraming (d : Directive) : Prop :=
  d.name ≠ "frame-ancestors" ∧ "frame-ancestors".toList <+: d.name.toList ∧ "'none'" ∈ d.sources

instance (d : Directive) : Decidable d.ForbidsFraming :=
  inferInstanceAs (Decidable (_ ∧ _))

/-- `missingAntiClickjacking` takes for protection what `ForbidsFraming`, or has a longer name and seems
    to. -/
theorem concerns_missingAntiClickjacking_iff {segment : List Char} {d : Directive}
    (h : Directive.ofSegment? segment = some d) :
    Rule.missingAntiClickjacking.concerns d = true ↔ d.ForbidsFraming ∨ d.SeemsToForbidFraming := by
  have hwords := (ofSegment?_eq_some_iff.1 h).2
  have hsource : "'none'".toList ∈ d.sources.map String.toList ↔ "'none'" ∈ d.sources :=
    List.mem_map_of_injective fun _ _ => String.toList_inj.1
  rw [concerns_eq_fits h, Rule.fits, hwords, Bool.and_eq_true, List.isPrefixOf_iff_prefix,
    List.contains_iff_mem, List.headD_cons, List.tail_cons, hsource]
  constructor
  · rintro ⟨hstart, hnone⟩
    by_cases hname : d.name = "frame-ancestors"
    · exact .inl ⟨hname, hnone⟩
    · exact .inr ⟨hname, hstart, hnone⟩
  · rintro (⟨hname, hnone⟩ | ⟨-, hstart, hnone⟩)
    · rw [hname]
      exact ⟨List.prefix_rfl, hnone⟩
    · exact ⟨hstart, hnone⟩

/-- `missingAntiClickjacking` finds nothing in a policy just if it has a directive that is taken for
    protection. -/
theorem isFoundIn_eq_false_iff (text : String) :
    Rule.missingAntiClickjacking.isFoundIn (Policy.parse text) = false
      ↔ ∃ d ∈ (Policy.parse text).directives, d.ForbidsFraming ∨ d.SeemsToForbidFraming := by
  rw [isFoundIn_eq, if_pos rfl, Bool.not_eq_false', List.any_eq_true]
  refine exists_congr fun d => and_congr_right fun hd => ?_
  obtain ⟨segment, -, hof⟩ := List.mem_filterMap.1 hd
  exact concerns_missingAntiClickjacking_iff hof

/-- The tag is not reported of a text just if a directive `ForbidsFraming` or `SeemsToForbidFraming`. So it
    is reported of just the texts without protection, unless a directive of a longer name stands in for
    it. -/
theorem tag_not_mem_iff {text : String} (h : allBlank text.toList = false) :
    ("missing-anti-clickjacking" ∉ (analyze (some text)).tags
        ↔ ∃ d ∈ (Policy.parse text).directives, d.ForbidsFraming ∨ d.SeemsToForbidFraming)
      ∧ (("missing-anti-clickjacking" ∉ (analyze (some text)).tags
          ↔ ∃ d ∈ (Policy.parse text).directives, d.ForbidsFraming)
        ↔ (∃ d ∈ (Policy.parse text).directives, d.SeemsToForbidFraming) →
          ∃ d ∈ (Policy.parse text).directives, d.ForbidsFraming) := by
  have hreport : "missing-anti-clickjacking" ∉ (analyze (some text)).tags
      ↔ ∃ d ∈ (Policy.parse text).directives, d.ForbidsFraming ∨ d.SeemsToForbidFraming := by
    have htag : Rule.missingAntiClickjacking.finding.tag = "missing-anti-clickjacking" := rfl
    rw [analyze, findings_some, h, if_neg Bool.false_ne_true, ← htag, tag_mem_iff, Bool.not_eq_true,
      isFoundIn_eq_false_iff]
  refine ⟨hreport, ?_⟩
  rw [hreport]
  constructor
  · rintro hiff ⟨d, hd, hseems⟩
    exact hiff.1 ⟨d, hd, .inr hseems⟩
  · intro hstands
    constructor
    · rintro ⟨d, hd, hforbids | hseems⟩
      · exact ⟨d, hd, hforbids⟩
      · exact hstands ⟨d, hd, hseems⟩
    · rintro ⟨d, hd, hforbids⟩
      exact ⟨d, hd, .inl hforbids⟩

/-- `tag_not_mem_iff` for the protection in capitals, behind another directive. -/
theorem capitalProtection_cleared :
    allBlank "img-src *; Frame-Ancestors 'NONE'".toList = false
      ∧ "missing-anti-clickjacking" ∉ (analyze (some "img-src *; Frame-Ancestors 'NONE'")).tags := by
  have hblank : allBlank "img-src *; Frame-Ancestors 'NONE'".toList = false := by decide +kernel
  have hforbids : ∃ d ∈ (Policy.parse "img-src *; Frame-Ancestors 'NONE'").directives, d.ForbidsFraming := by
    decide +kernel
  obtain ⟨d, hd, hd'⟩ := hforbids
  exact ⟨hblank, (tag_not_mem_iff hblank).1.2 ⟨d, hd, .inl hd'⟩⟩

/-- A directive of another name clears the finding, although nothing forbids framing. -/
theorem longerName_cleared :
    allBlank "frame-ancestors-x 'none'".toList = false
      ∧ ¬ ("missing-anti-clickjacking" ∉ (analyze (some "frame-ancestors-x 'none'")).tags
        ↔ ∃ d ∈ (Policy.parse "frame-ancestors-x 'none'").directives, d.ForbidsFraming) := by
  decide +kernel

end PageRisk.Csp
