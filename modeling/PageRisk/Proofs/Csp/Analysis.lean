import PageRisk.Csp.Analysis
import PageRisk.Proofs.Unicode.Folding

set_option autoImplicit false

/-! # Policies directive by directive

A policy is read segment by segment, and white space around segments means nothing, so that the parts of a
text are read as they would be alone (`directives_parse_append`), and white space around a text is not read
at all (`parse_trim`). Each rule looks for directives of one kind (`isFoundIn_eq`), and an analysis reports
what the rules find, unless the text is blank (`findings_some`). -/

namespace PageRisk.Csp

open Text (isBlank allBlank trim words pieces)

/-! ## Segments -/

/-- White space around a segment means nothing to `ofSegment?`. -/
theorem ofSegment?_pad {before after : List Char} (hbefore : ∀ c ∈ before, isBlank c = true)
    (hafter : ∀ c ∈ after, isBlank c = true) (segment : List Char) :
    Directive.ofSegment? (before ++ (segment ++ after)) = Directive.ofSegment? segment := by
  unfold Directive.ofSegment?
  rw [Text.trim_blank_append hbefore, Text.trim_append_blank hafter]

/-- `ofSegment?` reads the `words` of a segment: the first is the name, the others are the sources. -/
theorem ofSegment?_eq_some_iff {segment : List Char} {d : Directive} :
    Directive.ofSegment? segment = some d
      ↔ d.text.toList = Unicode.lowercase (trim segment)
        ∧ words d.text.toList = d.name.toList :: d.sources.map String.toList := by
  unfold Directive.ofSegment?
  constructor
  · intro h
    dsimp only at h
    split at h
    · exact absurd h nofun
    · next name sources hwords =>
      obtain rfl := Option.some.inj h
      simp [hwords, Function.comp_def]
  · rintro ⟨htext, hwords⟩
    rw [htext] at hwords
    obtain ⟨text, name, sources⟩ := d
    have hof : String.ofList (Unicode.lowercase (trim segment)) = text := by
      rw [← htext, String.ofList_toList]
    simp [hwords, hof, Function.comp_def]

/-- A segment holds no directive just if it is blank. -/
theorem ofSegment?_eq_none_iff {segment : List Char} :
    Directive.ofSegment? segment = none ↔ allBlank segment = true := by
  have hwords : words (Unicode.lowercase (trim segment)) = [] ↔ words segment = [] := by
    rw [← List.map_eq_nil_iff (f := List.map Unicode.plainSigma), Unicode.words_lowercase,
      List.map_eq_nil_iff, Text.words_trim]
  rw [← Text.words_eq_nil_iff, ← hwords]
  unfold Directive.ofSegment?
  dsimp only
  split
  · next hnil => simp [hnil]
  · next name sources hcons => simp [hcons]

/-! ## Policies -/

/-- The directives of a text are those of its segments. -/
theorem directives_parse (text : String) :
    (Policy.parse text).directives = (pieces (· == ';') text.toList).filterMap Directive.ofSegment? :=
  rfl

/-- Two texts with a semicolon between them have the directives of the one and then those of the other. -/
theorem directives_parse_append (a b : String) :
    (Policy.parse (a ++ ";" ++ b)).directives
      = (Policy.parse a).directives ++ (Policy.parse b).directives := by
  have hjoin : (a ++ ";" ++ b).toList = a.toList ++ ';' :: b.toList := by simp
  rw [directives_parse, hjoin, Text.pieces_append_cons (by rfl), List.filterMap_append]
  rfl

/-- White space before and after a text falls to its first and its last segment, and means nothing there. -/
theorem filterMap_pieces_pad {before after : List Char} (hbefore : ∀ c ∈ before, isBlank c = true)
    (hafter : ∀ c ∈ after, isBlank c = true) (cs : List Char) :
    (pieces (· == ';') (before ++ (cs ++ after))).filterMap Directive.ofSegment?
      = (pieces (· == ';') cs).filterMap Directive.ofSegment? := by
  have hmark : ∀ c, isBlank c = true → (c == ';') = false := by
    intro c hc
    rw [beq_eq_false_iff_ne]
    rintro rfl
    exact absurd hc (by decide)
  have hsegment : ∀ segment : List Char, (∀ c ∈ segment, (c == ';') = false) →
      ∀ c ∈ before ++ (segment ++ after), (c == ';') = false := by
    intro segment hsegment c hc
    rcases List.mem_append.1 hc with hc | hc
    · exact hmark c (hbefore c hc)
    · rcases List.mem_append.1 hc with hc | hc
      · exact hsegment c hc
      · exact hmark c (hafter c hc)
  induction cs using Text.pieces_induction (p := (· == ';')) generalizing before with
  | whole cs hcs =>
    rw [Text.pieces_of_forall (hsegment cs hcs), Text.pieces_of_forall hcs, List.filterMap_cons,
      List.filterMap_cons, ofSegment?_pad hbefore hafter]
  | split first separator rest hfirst hseparator ih =>
    -- The white space before goes with the first segment, and none is left for the rest.
    have hfirst' : ∀ c ∈ before ++ first, (c == ';') = false := by
      intro c hc
      rcases List.mem_append.1 hc with hc | hc
      · exact hmark c (hbefore c hc)
      · exact hfirst c hc
    have hpad : Directive.ofSegment? (before ++ first) = Directive.ofSegment? first := by
      simpa using ofSegment?_pad hbefore (List.forall_mem_nil _) first
    have hrest := @ih [] (List.forall_mem_nil _) fun segment hs c hc =>
      hsegment segment hs c (List.mem_append_right before hc)
    rw [List.nil_append] at hrest
    have hshape : before ++ (first ++ separator :: rest ++ after)
        = (before ++ first) ++ separator :: (rest ++ after) := by simp
    have hpieces := @Text.pieces_append_cons (· == ';') separator hseparator
    rw [hshape, hpieces, hpieces, Text.pieces_of_forall hfirst', Text.pieces_of_forall hfirst,
      List.filterMap_append, List.filterMap_append, hrest, List.filterMap_cons, List.filterMap_cons, hpad]

/-- `Policy.parse` does not read the white space around a text. -/
theorem parse_trim (text : String) : Policy.parse (String.ofList (trim text.toList)) = Policy.parse text := by
  obtain ⟨before, after, heq, hbefore, hafter⟩ := Text.exists_trim text.toList
  have hpad := filterMap_pieces_pad hbefore hafter (trim text.toList)
  rw [← heq] at hpad
  unfold Policy.parse
  rw [String.toList_ofList, hpad]

/-! ## Rules -/

/-- Whether a directive is of the kind that the rule looks for. -/
def Rule.concerns (r : Rule) (d : Directive) : Bool :=
  match r with
  | .unsafeInline => d.mentions "unsafe-inline"
  | .unsafeEval => d.mentions "unsafe-eval"
  | .wildcardScriptSrc =>
    (d.isNamed "script-src" || d.isNamed "default-src") && d.sources.any fun s => s.toList.contains '*'
  | .trackerConnections => d.isNamed "connect-src" && trackerHosts.any d.mentions
  | .missingAntiClickjacking =>
    "frame-ancestors".toList.isPrefixOf d.text.toList && d.hasSource "'none'"

/-- `missingAntiClickjacking` finds that no directive concerns it, the other rules that one does. -/
theorem isFoundIn_eq (r : Rule) (p : Policy) :
    r.isFoundIn p
      = if r = .missingAntiClickjacking then !p.directives.any r.concerns
        else p.directives.any r.concerns := by
  cases r with
  | unsafeInline => rfl
  | unsafeEval => rfl
  | wildcardScriptSrc => exact List.any_filter
  | trackerConnections => exact List.any_filter
  | missingAntiClickjacking => exact congrArg (! ·) List.any_filter

/-- What the rules find in a policy, in the order of `Rule.all`. -/
def Policy.findings (p : Policy) : List Finding :=
  (Rule.all.filter (·.isFoundIn p)).map Rule.finding

/-- A blank text has the finding `noPolicy`, any other the `Policy.findings`. -/
theorem findings_some (text : String) :
    findings (some text)
      = if allBlank text.toList then [noPolicy] else (Policy.parse text).findings := by
  unfold findings
  simp only [List.isEmpty_iff, Text.trim_eq_nil_iff, parse_trim]
  rfl

end PageRisk.Csp
