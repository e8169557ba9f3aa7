import Mathlib.Data.Finset.Basic
import Mathlib.Data.Finset.Dedup
import PageRisk.Proofs.Csp.Analysis

set_option autoImplicit false

/-! # Policies written differently

What a policy says are its statements: the words of each segment, in lower case, in whatever order and
however often. All that the rules look at can be told from the words of a directive (`concerns_eq_fits`), so
texts that say the same are analyzed the same (`analyze_eq_of_statements`), however they are written. -/

namespace PageRisk.Csp

open Text (allBlank isBlank occursIn pieces trim words)
open Unicode (foldChar plainSigma)

/-- What a text says, segment by segment: the words of each segment that is not blank, with the letters of
    ASCII in lower case. -/
def statements (text : String) : List (List (List Char)) :=
  ((pieces (· == ';') text.toList).filter fun segment => !allBlank segment).map fun segment =>
    (words segment).map (List.map Char.toLower)

/-! ## Rules on words -/

/-- Whether `r` looks for directives of these words, the first of which is the name. -/
def Rule.fits (r : Rule) (words : List (List Char)) : Bool :=
  match r with
  | .unsafeInline => words.any (occursIn "unsafe-inline".toList)
  | .unsafeEval => words.any (occursIn "unsafe-eval".toList)
  | .wildcardScriptSrc =>
    (words.headD [] == "script-src".toList || words.headD [] == "default-src".toList)
      && words.tail.any fun source => source.contains '*'
  | .trackerConnections =>
    words.headD [] == "connect-src".toList
      && trackerHosts.any fun tracker => words.any (occursIn tracker.toList)
  | .missingAntiClickjacking =>
    "frame-ancestors".toList.isPrefixOf (words.headD []) && words.tail.contains "'none'".toList

/-- `Directive.mentions` finds a needle without white space just if it stands in one of the words. -/
theorem mentions_eq_any_words (d : Directive) {needle : String}
    (hneedle : (needle.toList.all fun c => !isBlank c) = true) (hne : needle.toList ≠ []) :
    d.mentions needle = (words d.text.toList).any (occursIn needle.toList) := by
  have hblank : ∀ c ∈ needle.toList, isBlank c = false := by
    intro c hc
    simpa using List.all_eq_true.1 hneedle c hc
  rw [Bool.eq_iff_iff, Directive.mentions, Text.occursIn_iff_isInfix, Text.isInfix_iff_words hblank hne,
    List.any_eq_true]
  simp only [Text.occursIn_iff_isInfix]

theorem isNamed_eq (d : Directive) (name : String) : d.isNamed name = (d.name.toList == name.toList) := by
  rw [Bool.eq_iff_iff, Directive.isNamed, beq_iff_eq, beq_iff_eq, String.toList_inj]

theorem hasSource_eq (d : Directive) (source : String) :
    d.hasSource source = (d.sources.map String.toList).contains source.toList := by
  rw [Bool.eq_iff_iff, Directive.hasSource, List.contains_iff_mem, List.contains_iff_mem]
  exact (List.mem_map_of_injective fun _ _ => String.toList_inj.1).symm

/-- What is looked for in host names, `trackerHosts`, is in ASCII and without white space. -/
theorem trackerHosts_plain : ∀ tracker ∈ trackerHosts,
    (tracker.toList.all fun c => c.toNat < 128) = true
      ∧ (tracker.toList.all fun c => !isBlank c) = true ∧ tracker.toList ≠ [] := by
  decide

/-- `Rule.concerns` depends on the words of a directive only. -/
theorem concerns_eq_fits {segment : List Char} {d : Directive} (h : Directive.ofSegment? segment = some d)
    (r : Rule) : r.concerns d = r.fits (words d.text.toList) := by
  obtain ⟨htext, hwords⟩ := ofSegment?_eq_some_iff.1 h
  have hhead : (words d.text.toList).headD [] = d.name.toList := by rw [hwords]; rfl
  have htail : (words d.text.toList).tail = d.sources.map String.toList := by rw [hwords]; rfl
  cases r with
  | unsafeInline => exact mentions_eq_any_words d (by decide) (by decide)
  | unsafeEval => exact mentions_eq_any_words d (by decide) (by decide)
  | wildcardScriptSrc =>
    simp only [Rule.concerns, Rule.fits, hhead, htail, isNamed_eq, List.any_map, Function.comp_def]
  | trackerConnections =>
    have htrackers : trackerHosts.any d.mentions
        = trackerHosts.any fun tracker => (words d.text.toList).any (occursIn tracker.toList) := by
      rw [Bool.eq_iff_iff, List.any_eq_true, List.any_eq_true]
      refine exists_congr fun tracker => and_congr_right fun htracker => ?_
      obtain ⟨-, hneedle, hne⟩ := trackerHosts_plain tracker htracker
      rw [mentions_eq_any_words d hneedle hne]
    simp only [Rule.concerns, Rule.fits, hhead, isNamed_eq, htrackers]
  | missingAntiClickjacking =>
    have hblank : ∀ c, d.text.toList.head? = some c → isBlank c = false := by
      intro c hc
      rw [htext] at hc
      exact Unicode.isBlank_head?_lowercase (fun _ => Text.isBlank_head?_trim) hc
    have hstart : "frame-ancestors".toList.isPrefixOf d.text.toList
        = "frame-ancestors".toList.isPrefixOf d.name.toList := by
      rw [Bool.eq_iff_iff, List.isPrefixOf_iff_prefix, List.isPrefixOf_iff_prefix]
      exact Text.isPrefix_iff_first_word hblank hwords (List.all_iff_forall_prop.1 (by decide))
    simp only [Rule.concerns, Rule.fits, hhead, htail, hstart, hasSource_eq]

/-! ## Small sigmas -/

theorem plainSigma_eq_iff_of_mem {needle : List Char} (h : (needle.all fun c => c.toNat < 128) = true) :
    ∀ n ∈ needle, ∀ c, plainSigma c = n ↔ c = n := by
  intro n hn c
  exact Unicode.plainSigma_eq_iff (by simpa using List.all_eq_true.1 h n hn)

theorem any_occursIn_plainSigma {needle : List Char} (h : (needle.all fun c => c.toNat < 128) = true)
    (words : List (List Char)) :
    (words.map (List.map plainSigma)).any (occursIn needle) = words.any (occursIn needle) := by
  rw [List.any_map]
  congr 1
  funext word
  exact Text.occursIn_map (plainSigma_eq_iff_of_mem h) word

theorem beq_plainSigma {needle : List Char} (h : (needle.all fun c => c.toNat < 128) = true)
    (word : List Char) : (word.map plainSigma == needle) = (word == needle) := by
  rw [Bool.eq_iff_iff, beq_iff_eq, beq_iff_eq, Text.map_eq_iff (plainSigma_eq_iff_of_mem h)]

/-- `Rule.fits` does not depend on which small sigma is written. -/
theorem fits_plainSigma (r : Rule) (words : List (List Char)) :
    r.fits (words.map (List.map plainSigma)) = r.fits words := by
  have hhead : (words.map (List.map plainSigma)).headD [] = (words.headD []).map plainSigma := by
    cases words <;> rfl
  have htail : (words.map (List.map plainSigma)).tail = words.tail.map (List.map plainSigma) := by
    cases words <;> rfl
  cases r with
  | unsafeInline => exact any_occursIn_plainSigma (by decide) words
  | unsafeEval => exact any_occursIn_plainSigma (by decide) words
  | wildcardScriptSrc =>
    have hstar : ∀ source : List Char, (source.map plainSigma).contains '*' = source.contains '*' := by
      intro source
      have hchar : ∀ c, plainSigma c = '*' ↔ c = '*' := fun c => Unicode.plainSigma_eq_iff (by decide)
      rw [Bool.eq_iff_iff, List.contains_iff_mem, List.contains_iff_mem, List.mem_map]
      simp [hchar]
    simp only [Rule.fits, hhead, htail, List.any_map, Function.comp_def, hstar]
    rw [beq_plainSigma (by decide), beq_plainSigma (by decide)]
  | trackerConnections =>
    have htrackers : trackerHosts.any (fun tracker =>
          (words.map (List.map plainSigma)).any (occursIn tracker.toList))
        = trackerHosts.any fun tracker => words.any (occursIn tracker.toList) := by
      rw [Bool.eq_iff_iff, List.any_eq_true, List.any_eq_true]
      refine exists_congr fun tracker => and_congr_right fun htracker => ?_
      rw [any_occursIn_plainSigma (trackerHosts_plain tracker htracker).1]
    simp only [Rule.fits, hhead, htrackers]
    rw [beq_plainSigma (by decide)]
  | missingAntiClickjacking =>
    have hneedle := @plainSigma_eq_iff_of_mem "'none'".toList (by decide)
    have hnone : (words.tail.map (List.map plainSigma)).contains "'none'".toList
        = words.tail.contains "'none'".toList := by
      rw [Bool.eq_iff_iff, List.contains_iff_mem, List.contains_iff_mem, List.mem_map]
      simp only [Text.map_eq_iff hneedle, exists_eq_right]
    simp only [Rule.fits, hhead, htail, hnone]
    rw [Text.isPrefixOf_map (plainSigma_eq_iff_of_mem (by decide))]

/-! ## Policies -/

/-- The words of a directive are those of its segment in lower case, up to `plainSigma`. -/
theorem words_directive {segment : List Char} {d : Directive} (h : Directive.ofSegment? segment = some d) :
    (words d.text.toList).map (List.map plainSigma)
      = ((words segment).map (List.map Char.toLower)).map fun word => word.flatMap foldChar := by
  have hfold : ∀ word : List Char, (word.map Char.toLower).flatMap foldChar = word.flatMap foldChar := by
    intro word
    rw [List.flatMap_map]
    simp only [Unicode.foldChar_toLower]
  rw [(ofSegment?_eq_some_iff.1 h).1, Unicode.words_lowercase, Text.words_trim, List.map_map]
  simp only [Function.comp_def, hfold]

/-- Whether `r` looks for directives that say this. -/
def Rule.concernsStatement (r : Rule) (statement : List (List Char)) : Bool :=
  r.fits (statement.map fun word => word.flatMap foldChar)

theorem concerns_eq_concernsStatement {segment : List Char} {d : Directive}
    (h : Directive.ofSegment? segment = some d) (r : Rule) :
    r.concerns d = r.concernsStatement ((words segment).map (List.map Char.toLower)) := by
  rw [concerns_eq_fits h, ← fits_plainSigma, words_directive h, Rule.concernsStatement]

/-- Whether `r` concerns a directive of a text depends on its `statements` only. -/
theorem any_concerns_parse (r : Rule) (text : String) :
    (Policy.parse text).directives.any r.concerns = (statements text).any r.concernsStatement := by
  rw [Bool.eq_iff_iff, List.any_eq_true, List.any_eq_true, directives_parse, statements]
  constructor
  · rintro ⟨d, hd, hconcerns⟩
    obtain ⟨segment, hsegment, hof⟩ := List.mem_filterMap.1 hd
    have hblank : allBlank segment = false := by
      rw [← Bool.not_eq_true, ← ofSegment?_eq_none_iff, hof]
      exact nofun
    refine ⟨_, List.mem_map.2 ⟨segment, List.mem_filter.2 ⟨hsegment, by simp [hblank]⟩, rfl⟩, ?_⟩
    rwa [← concerns_eq_concernsStatement hof]
  · rintro ⟨statement, hstatement, hconcerns⟩
    obtain ⟨segment, hmem, rfl⟩ := List.mem_map.1 hstatement
    obtain ⟨hsegment, hblank⟩ := List.mem_filter.1 hmem
    have hsome : Directive.ofSegment? segment ≠ none := by
      rw [Ne, ofSegment?_eq_none_iff]
      simpa using hblank
    obtain ⟨d, hof⟩ := Option.ne_none_iff_exists'.1 hsome
    refine ⟨d, List.mem_filterMap.2 ⟨segment, hsegment, hof⟩, ?_⟩
    rwa [concerns_eq_concernsStatement hof]

/-- A blank text has no `statements`. -/
theorem statements_of_blank {text : String} (h : allBlank text.toList = true) : statements text = [] := by
  rw [statements, List.map_eq_nil_iff, List.filter_eq_nil_iff]
  intro segment hsegment
  have hall : allBlank segment = true := by
    rw [allBlank, List.all_eq_true] at h ⊢
    intro c hc
    exact h c ((Text.isInfix_of_mem_pieces hsegment).subset hc)
  simp [hall]

/-- Texts with the same set of `statements` are analyzed the same, unless they have none. -/
theorem analyze_eq_of_statements {s t : String} (h : (statements s).toFinset = (statements t).toFinset)
    (hne : (statements s).toFinset.Nonempty) : analyze (some s) = analyze (some t) := by
  have hmem : ∀ statement, statement ∈ statements s ↔ statement ∈ statements t := by
    intro statement
    rw [← List.mem_toFinset, h, List.mem_toFinset]
  have hfound : ∀ r : Rule, r.isFoundIn (Policy.parse s) = r.isFoundIn (Policy.parse t) := by
    intro r
    have hany : (statements s).any r.concernsStatement = (statements t).any r.concernsStatement := by
      rw [Bool.eq_iff_iff, List.any_eq_true, List.any_eq_true]
      exact exists_congr fun statement => and_congr_left' (hmem statement)
    rw [isFoundIn_eq, isFoundIn_eq, any_concerns_parse, any_concerns_parse, hany]
  have hblank : ∀ text, (statements text).toFinset.Nonempty → allBlank text.toList = false := by
    intro text hsays
    rw [← Bool.not_eq_true]
    intro hall
    rw [statements_of_blank hall] at hsays
    exact Finset.not_nonempty_empty hsays
  have hfindings : findings (some s) = findings (some t) := by
    rw [findings_some, findings_some, hblank s hne, hblank t (h ▸ hne)]
    simp only [Policy.findings, hfound]
  rw [analyze, analyze, hfindings]

/-- `analyze_eq_of_statements` for a policy written with capitals, other white space, empty segments, and in
    another order with a repetition. -/
theorem spacedPolicy_analyzed :
    (statements "SCRIPT-SRC	*;; frame-ancestors 'None' ").toFinset
        = (statements "frame-ancestors 'none'; script-src *; script-src *").toFinset
      ∧ (statements "SCRIPT-SRC	*;; frame-ancestors 'None' ").toFinset.Nonempty
      ∧ analyze (some "SCRIPT-SRC	*;; frame-ancestors 'None' ")
        = analyze (some "frame-ancestors 'none'; script-src *; script-src *") := by
  have hsame : (statements "SCRIPT-SRC	*;; frame-ancestors 'None' ").toFinset
      = (statements "frame-ancestors 'none'; script-src *; script-src *").toFinset := by
    decide +kernel
  have hsays : (statements "SCRIPT-SRC	*;; frame-ancestors 'None' ").toFinset.Nonempty := by
    decide +kernel
  exact ⟨hsame, hsays, analyze_eq_of_statements hsame hsays⟩

end PageRisk.Csp
