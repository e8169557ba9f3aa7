import PageRisk.Proofs.Csp.Tags

set_option autoImplicit false

/-! # Policies with more directives

Two texts with a semicolon between them declare the directives of both, so a rule that looks for a directive
finds it in either, and the one that looks for the lack of one finds it only where both lack it
(`isFoundIn_join`). More directives can therefore lower a score in one way alone: by bringing the protection
that was missing (`analyze_join`). -/

namespace PageRisk.Csp

open Text (allBlank trim)

/-! ## Rules on two policies -/

/-- Whether `r` finds something in the directives of two policies together: a protection must be missing in
    both, any other weakness be in one of them. -/
def Rule.isFoundInJoin (r : Rule) (p q : Policy) : Bool :=
  match r with
  | .missingAntiClickjacking => r.isFoundIn p && r.isFoundIn q
  | _ => r.isFoundIn p || r.isFoundIn q

theorem isFoundIn_join {joined p q : Policy} (h : joined.directives = p.directives ++ q.directives)
    (r : Rule) : r.isFoundIn joined = r.isFoundInJoin p q := by
  have hany : joined.directives.any r.concerns
      = (p.directives.any r.concerns || q.directives.any r.concerns) := by
    rw [h, List.any_append]
  cases r with
  | missingAntiClickjacking =>
    simp only [Rule.isFoundInJoin, isFoundIn_eq, if_true, hany, Bool.not_or]
  | _ => simp only [Rule.isFoundInJoin, isFoundIn_eq, reduceCtorEq, if_false, hany]

/-- The findings of two policies together, in the order of `Rule.all`. -/
def jointFindings (p q : Policy) : List Finding :=
  (Rule.all.filter fun r => r.isFoundInJoin p q).map Rule.finding

theorem findings_join {joined p q : Policy} (h : joined.directives = p.directives ++ q.directives) :
    joined.findings = jointFindings p q := by
  unfold Policy.findings jointFindings
  simp only [isFoundIn_join h]

/-- The findings of two texts with a semicolon between them are the `jointFindings`. With a semicolon in it,
    a text is not blank. -/
theorem findings_append (a b : String) :
    findings (some (a ++ ";" ++ b)) = jointFindings (Policy.parse a) (Policy.parse b) := by
  have hblank : ¬ allBlank (a ++ ";" ++ b).toList = true := by
    have hmark : Text.isBlank ';' = false := by decide
    simp [allBlank, hmark]
  rw [findings_some, if_neg hblank, findings_join (directives_parse_append a b)]

/-! ## Tags -/

theorem tag_injective {r s : Rule} (h : r.finding.tag = s.finding.tag) : r = s := by
  revert h
  cases r <;> cases s <;> decide

theorem mem_all (r : Rule) : r ∈ Rule.all := by
  cases r <;> decide

/-- The tag of `r` is reported just if `r` finds something. -/
theorem tag_mem_iff (r : Rule) (p : Policy) :
    r.finding.tag ∈ p.findings.map Finding.tag ↔ r.isFoundIn p = true := by
  unfold Policy.findings
  simp only [List.map_map, List.mem_map, List.mem_filter, Function.comp_apply]
  constructor
  · rintro ⟨s, ⟨-, hfound⟩, htag⟩
    rwa [← tag_injective htag]
  · intro hfound
    exact ⟨r, ⟨mem_all r, hfound⟩, rfl⟩

/-! ## Scores -/

/-- Rules that find more have a greater `totalWeight`. -/
theorem totalWeight_findings_le {p q : Policy}
    (h : ∀ r : Rule, r.isFoundIn p = true → r.isFoundIn q = true) :
    totalWeight p.findings ≤ totalWeight q.findings := by
  apply Magnitude.totalWeight_le_of_sublist
  exact (List.monotone_filter_right Rule.all h).map Rule.finding

/-- Where `p` has the greater `totalWeight` and no directive that `q` has not, `q` has a protection that `p`
    is missing. -/
theorem missing_of_totalWeight_lt {p q : Policy} (hsub : ∀ d ∈ p.directives, d ∈ q.directives)
    (hlt : totalWeight q.findings < totalWeight p.findings) :
    Rule.missingAntiClickjacking.isFoundIn p = true
      ∧ Rule.missingAntiClickjacking.isFoundIn q = false := by
  -- Otherwise all that is found in the one is found in the other.
  by_contra hnot
  refine absurd hlt (Nat.not_lt.2 (totalWeight_findings_le ?_))
  intro r hr
  by_cases hmissing : r = .missingAntiClickjacking
  · subst hmissing
    by_contra hq
    exact hnot ⟨hr, by simpa using hq⟩
  · rw [isFoundIn_eq, if_neg hmissing, List.any_eq_true] at hr ⊢
    obtain ⟨d, hd, hconcerns⟩ := hr
    exact ⟨d, hsub d hd, hconcerns⟩

/-- Scores are in the order of the `totalWeight`s that they come from. -/
theorem totalWeight_lt_of_score_lt {p q : Policy}
    (h : Float.ofNat (totalWeight p.findings) < Float.ofNat (totalWeight q.findings)) :
    totalWeight p.findings < totalWeight q.findings := by
  have hfits : ∀ p : Policy, totalWeight p.findings < 2 ^ 53 := by
    intro p
    exact (totalWeight_findings_le_all p).trans_lt (by decide)
  exact (Rounding.ofNat_lt_iff (hfits p) (hfits q)).1 h

/-! ## Analyses -/

/-- Two texts with a semicolon between them have the directives of the one and then those of the other, and
    white space around a text is not read. What is found in them is found in one of the two, but for the
    missing protection, which must be missing in both (`jointFindings`). So a text added to a policy lowers
    its score only if it brings the protection that the policy is missing. -/
theorem analyze_join (a b : String) :
    (Policy.parse (a ++ ";" ++ b)).directives
        = (Policy.parse a).directives ++ (Policy.parse b).directives
      ∧ Policy.parse (String.ofList (trim a.toList)) = Policy.parse a
      ∧ (analyze (some (a ++ ";" ++ b))).tags
        = (jointFindings (Policy.parse a) (Policy.parse b)).map Finding.tag
      ∧ (analyze (some (a ++ ";" ++ b))).score
        = Float.ofNat (totalWeight (jointFindings (Policy.parse a) (Policy.parse b)))
      ∧ ∀ text ∈ [a, b],
        (totalWeight (Policy.parse (a ++ ";" ++ b)).findings < totalWeight (Policy.parse text).findings →
          Rule.missingAntiClickjacking.isFoundIn (Policy.parse text) = true
            ∧ Rule.missingAntiClickjacking.isFoundIn (Policy.parse (a ++ ";" ++ b)) = false)
        ∧ (allBlank text.toList = false →
          (analyze (some (a ++ ";" ++ b))).score < (analyze (some text)).score →
          "missing-anti-clickjacking" ∈ (analyze (some text)).tags
            ∧ "missing-anti-clickjacking" ∉ (analyze (some (a ++ ";" ++ b))).tags) := by
  have hdirectives := directives_parse_append a b
  have hfindings : findings (some (a ++ ";" ++ b)) = (Policy.parse (a ++ ";" ++ b)).findings := by
    rw [findings_append, findings_join hdirectives]
  refine ⟨hdirectives, parse_trim a, ?_, ?_, ?_⟩
  · rw [analyze, findings_append]
  · rw [analyze, findings_append]
  · intro text htext
    have hsub : ∀ d ∈ (Policy.parse text).directives, d ∈ (Policy.parse (a ++ ";" ++ b)).directives := by
      intro d hd
      rw [hdirectives, List.mem_append]
      rcases List.mem_pair.1 htext with rfl | rfl
      · exact .inl hd
      · exact .inr hd
    refine ⟨missing_of_totalWeight_lt hsub, ?_⟩
    intro hblank hlt
    have hown : findings (some text) = (Policy.parse text).findings := by
      rw [findings_some, hblank, if_neg Bool.false_ne_true]
    simp only [analyze, hown, hfindings] at hlt ⊢
    obtain ⟨hmissing, hpresent⟩ := missing_of_totalWeight_lt hsub (totalWeight_lt_of_score_lt hlt)
    have htag : Rule.missingAntiClickjacking.finding.tag = "missing-anti-clickjacking" := rfl
    rw [← htag, tag_mem_iff, tag_mem_iff, hpresent]
    exact ⟨hmissing, Bool.false_ne_true⟩

/-- `analyze_join` for a wildcard policy, which scores less with the protection added to it. -/
theorem wildcardPolicy_protected :
    (analyze (some ("script-src *" ++ ";" ++ "frame-ancestors 'none'"))).score
        < (analyze (some "script-src *")).score
      ∧ "missing-anti-clickjacking" ∈ (analyze (some "script-src *")).tags
      ∧ "missing-anti-clickjacking"
        ∉ (analyze (some ("script-src *" ++ ";" ++ "frame-ancestors 'none'"))).tags := by
  have hlower : (analyze (some ("script-src *" ++ ";" ++ "frame-ancestors 'none'"))).score
      < (analyze (some "script-src *")).score := by decide +kernel
  obtain ⟨-, -, -, -, hparts⟩ := analyze_join "script-src *" "frame-ancestors 'none'"
  exact ⟨hlower, (hparts "script-src *" List.mem_cons_self).2 (by decide +kernel) hlower⟩

end PageRisk.Csp
