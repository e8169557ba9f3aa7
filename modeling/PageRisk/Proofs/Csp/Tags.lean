import PageRisk.Gate
import PageRisk.Proofs.Csp.Analysis
import PageRisk.Proofs.Exact

set_option autoImplicit false

/-! # Scores by tags

The score of a page and its tags are counted side by side, rule after rule, in a number of 32 bits
(`tally?_eq`). They tell the same as the list of all findings: the tags are some of its tags in its order,
and the score is the sum of the weights that it gives for them (`analyze_score_by_tags`). -/

namespace PageRisk.Csp

open Text (allBlank)

/-! ## Weights by tag -/

/-- The weight of a tag in `allFindings`; a tag that is not there has none. -/
def listedWeight (tag : String) : Nat :=
  ((allFindings.find? (·.tag == tag)).map Finding.weight).getD 0

/-- The sum of the `listedWeight`s of some tags. -/
def tagWeight (tags : List String) : Nat :=
  (tags.map listedWeight).sum

theorem totalWeight_cons (f : Finding) (rest : List Finding) :
    totalWeight (f :: rest) = f.weight + totalWeight rest := rfl

theorem listedWeight_tag {f : Finding} (h : f ∈ allFindings) : listedWeight f.tag = f.weight := by
  have hall : ∀ f ∈ allFindings, listedWeight f.tag = f.weight := List.all_iff_forall_prop.1 (by decide)
  exact hall f h

/-- No two of `allFindings` have the same tag, so that the tags of some findings tell their
    `totalWeight`. -/
theorem tagWeight_map_tag {found : List Finding} (h : found ⊆ allFindings) :
    tagWeight (found.map Finding.tag) = totalWeight found := by
  induction found with
  | nil => rfl
  | cons f rest ih =>
    obtain ⟨hf, hrest⟩ := List.cons_subset.1 h
    rw [totalWeight_cons, ← ih hrest, ← listedWeight_tag hf]
    exact List.sum_cons

theorem allFindings_tags_nodup : (allFindings.map Finding.tag).Nodup := by
  decide

/-! ## Counting in 32 bits -/

/-- A score and tags that are being counted. -/
structure Tally where
  score : UInt32
  tags : List String

namespace Tally

/-- The tally with `f` counted, if the score still fits 32 bits with its weight. -/
def add? (t : Tally) (f : Finding) : Option Tally :=
  if t.score.toNat + f.weight < UInt32.size then
    some ⟨t.score + UInt32.ofNat f.weight, t.tags ++ [f.tag]⟩
  else none

/-- The tally with `r` checked: its finding is counted if it finds something. -/
def check? (p : Policy) (t : Tally) (r : Rule) : Option Tally :=
  if r.isFoundIn p then t.add? r.finding else some t

theorem add?_eq_some {t : Tally} {f : Finding} (h : t.score.toNat + f.weight < UInt32.size) :
    ∃ t', t.add? f = some t' ∧ t'.score.toNat = t.score.toNat + f.weight ∧ t'.tags = t.tags ++ [f.tag] := by
  refine ⟨_, if_pos h, ?_, rfl⟩
  have hweight : (UInt32.ofNat f.weight).toNat = f.weight := UInt32.toNat_ofNat_of_lt' (by omega)
  rw [UInt32.toNat_add, hweight, Nat.mod_eq_of_lt h]

/-- Where the weights of all `rules` still fit, `check?` after `check?` counts those that find something. -/
theorem foldlM_check? (p : Policy) (rules : List Rule) (t : Tally)
    (h : t.score.toNat + totalWeight (rules.map Rule.finding) < UInt32.size) :
    ∃ t', rules.foldlM (check? p) t = some t'
      ∧ t'.score.toNat
        = t.score.toNat + totalWeight ((rules.filter (·.isFoundIn p)).map Rule.finding)
      ∧ t'.tags = t.tags ++ ((rules.filter (·.isFoundIn p)).map Rule.finding).map Finding.tag := by
  induction rules generalizing t with
  | nil => exact ⟨t, rfl, rfl, (List.append_nil _).symm⟩
  | cons r rest ih =>
    rw [List.map_cons, totalWeight_cons] at h
    by_cases hfound : r.isFoundIn p = true
    · have hfilter : (r :: rest).filter (·.isFoundIn p) = r :: rest.filter (·.isFoundIn p) :=
        List.filter_cons_of_pos hfound
      obtain ⟨t₁, hadd, hscore₁, htags₁⟩ := add?_eq_some (t := t) (f := r.finding) (by omega)
      obtain ⟨t₂, hrun, hscore₂, htags₂⟩ := ih t₁ (by omega)
      rw [hfilter, List.map_cons, totalWeight_cons, List.map_cons]
      refine ⟨t₂, ?_, ?_, ?_⟩
      · rw [List.foldlM_cons, check?, if_pos hfound, hadd]
        exact hrun
      · rw [hscore₂, hscore₁, Nat.add_assoc]
      · rw [htags₂, htags₁, List.append_assoc, List.singleton_append]
    · have hfilter : (r :: rest).filter (·.isFoundIn p) = rest.filter (·.isFoundIn p) :=
        List.filter_cons_of_neg hfound
      rw [List.foldlM_cons, check?, if_neg hfound, hfilter]
      exact ih t (by omega)

end Tally

/-- The tally of `Rule.all`; `none` where the score would not fit 32 bits at some rule. -/
def tally? (p : Policy) : Option Tally :=
  Rule.all.foldlM (Tally.check? p) ⟨0, []⟩

theorem tally?_eq (p : Policy) :
    ∃ t, tally? p = some t ∧ t.score.toNat = totalWeight p.findings
      ∧ t.tags = p.findings.map Finding.tag := by
  obtain ⟨t, hrun, hscore, htags⟩ := Tally.foldlM_check? p Rule.all ⟨0, []⟩ (by decide)
  refine ⟨t, hrun, ?_, htags⟩
  rw [hscore]
  exact Nat.zero_add _

/-! ## Findings -/

theorem findings_cases (csp : Option String) :
    (findings csp = [noPolicy] ∧ ∀ text ∈ csp, allBlank text.toList = true)
      ∨ ∃ text, csp = some text ∧ allBlank text.toList = false
        ∧ findings csp = (Policy.parse text).findings := by
  cases csp with
  | none => exact .inl ⟨rfl, nofun⟩
  | some text =>
    rw [findings_some]
    by_cases hblank : allBlank text.toList = true
    · rw [if_pos hblank]
      refine .inl ⟨rfl, ?_⟩
      rintro _ ⟨⟩
      exact hblank
    · rw [if_neg hblank]
      exact .inr ⟨text, rfl, Bool.eq_false_iff.2 hblank, rfl⟩

theorem policyFindings_sublist (p : Policy) : p.findings.Sublist (Rule.all.map Rule.finding) :=
  List.filter_sublist.map Rule.finding

/-- Every one of `allFindings` has a weight, so that only no finding at all weighs nothing. -/
theorem totalWeight_eq_zero_iff {found : List Finding} (h : found ⊆ allFindings) :
    totalWeight found = 0 ↔ found = [] := by
  cases found with
  | nil => exact iff_of_true rfl rfl
  | cons f rest =>
    have hpos : ∀ f ∈ allFindings, 0 < f.weight := List.all_iff_forall_prop.1 (by decide)
    have hf := hpos f (h List.mem_cons_self)
    refine iff_of_false ?_ (List.cons_ne_nil f rest)
    rw [totalWeight_cons]
    omega

theorem totalWeight_findings_le_all (p : Policy) : totalWeight p.findings ≤ 115 :=
  Magnitude.totalWeight_le_of_sublist (policyFindings_sublist p)

/-- The `totalWeight` of any findings is 115 at most; `noPolicy`, which comes alone, weighs less than
    that. -/
theorem totalWeight_findings_le_max (csp : Option String) : totalWeight (findings csp) ≤ 115 := by
  obtain ⟨hnone, -⟩ | ⟨text, -, -, hpolicy⟩ := findings_cases csp
  · rw [hnone]
    decide
  · rw [hpolicy]
    exact totalWeight_findings_le_all (Policy.parse text)

theorem noPolicy_tag_mem_iff (csp : Option String) :
    noPolicy.tag ∈ (findings csp).map Finding.tag ↔ findings csp = [noPolicy] := by
  constructor
  · obtain ⟨hnone, -⟩ | ⟨text, -, -, hpolicy⟩ := findings_cases csp
    · exact fun _ => hnone
    · -- No rule has the tag of no policy.
      intro hmem
      have hrules : noPolicy.tag ∉ (Rule.all.map Rule.finding).map Finding.tag := by decide
      rw [hpolicy] at hmem
      exact absurd (((policyFindings_sublist _).map Finding.tag).subset hmem) hrules
  · intro h
    rw [h]
    exact List.mem_singleton_self noPolicy.tag

theorem findings_eq_noPolicy_iff (csp : Option String) :
    findings csp = [noPolicy] ↔ ∀ text ∈ csp, allBlank text.toList = true := by
  constructor
  · intro h text hcsp
    rw [hcsp, findings_some] at h
    by_contra hblank
    rw [if_neg hblank] at h
    have hrules : noPolicy ∉ Rule.all.map Rule.finding := by decide
    refine hrules ((policyFindings_sublist (Policy.parse text)).subset ?_)
    rw [h]
    exact List.mem_singleton_self noPolicy
  · intro hblank
    obtain ⟨hnone, -⟩ | ⟨text, rfl, hnot, -⟩ := findings_cases csp
    · exact hnone
    · rw [hblank text rfl] at hnot
      exact Bool.noConfusion hnot

/-! ## Scores and tags -/

/-- What the score and the tags of a page have to do with each other and with `allFindings`. -/
structure ScoredByTags (csp : Option String) (a : Assessment) : Prop where
  nodup : a.tags.Nodup
  /-- The tags are some of those of `allFindings`, in their order. -/
  listed : a.tags.Sublist (allFindings.map Finding.tag)
  noPolicy_iff : "no-csp" ∈ a.tags ↔ ∀ text ∈ csp, allBlank text.toList = true
  noPolicy_alone : "no-csp" ∈ a.tags → a.tags = ["no-csp"]
  /-- For a policy, score and tags are those of `tally?`, without a sum beyond 32 bits. -/
  counted : ∀ text ∈ csp, allBlank text.toList = false →
    ∃ t, tally? (Policy.parse text) = some t ∧ a = ⟨Float.ofNat t.score.toNat, t.tags⟩
  /-- The score is the `tagWeight`, exactly. -/
  score_eq : a.score = Float.ofNat (tagWeight a.tags)
  score_exact : Rounding.exactValue? a.score = some (tagWeight a.tags : ℚ)
  weight_le : tagWeight a.tags ≤ 115
  score_eq_zero_iff : a.score = 0 ↔ a.tags = []
  /-- The tags alone tell whether the reputation of the host is asked for. -/
  isBelowGate_iff : ∀ config : ScoringConfig,
    Gate.isBelowGate config a.score = true ↔ tagWeight a.tags < config.reputationGate.toNat

/-- The score and the tags of every page tell the same (`ScoredByTags`). -/
theorem analyze_score_by_tags (csp : Option String) : ScoredByTags csp (analyze csp) := by
  have hlisted : (findings csp).Sublist allFindings := Magnitude.findings_sublist csp
  have htags : (analyze csp).tags = (findings csp).map Finding.tag := rfl
  have hweight : tagWeight (analyze csp).tags = totalWeight (findings csp) := tagWeight_map_tag hlisted.subset
  have hscore : (analyze csp).score = Float.ofNat (tagWeight (analyze csp).tags) := by
    rw [hweight, analyze]
  have hle : tagWeight (analyze csp).tags ≤ 115 := hweight ▸ totalWeight_findings_le_max csp
  have hfits : tagWeight (analyze csp).tags < 2 ^ 53 := by omega
  constructor
  case nodup => exact (hlisted.map Finding.tag).nodup allFindings_tags_nodup
  case listed => exact hlisted.map Finding.tag
  case noPolicy_iff => exact (noPolicy_tag_mem_iff csp).trans (findings_eq_noPolicy_iff csp)
  case noPolicy_alone =>
    intro hmem
    rw [htags, (noPolicy_tag_mem_iff csp).1 hmem]
    rfl
  case counted =>
    rintro text rfl hblank
    obtain ⟨t, hrun, hsum, ht⟩ := tally?_eq (Policy.parse text)
    refine ⟨t, hrun, ?_⟩
    have hpolicy : findings (some text) = (Policy.parse text).findings := by
      rw [findings_some, if_neg (Bool.eq_false_iff.1 hblank)]
    rw [analyze, hpolicy, hsum, ht]
  case score_eq => exact hscore
  case score_exact =>
    rw [hscore]
    exact Rounding.exactValue?_ofNat hfits
  case weight_le => exact hle
  case score_eq_zero_iff =>
    have hzero : (0 : Float) = Float.ofNat 0 := rfl
    rw [hscore, hzero, Rounding.ofNat_inj hfits (by decide), hweight, totalWeight_eq_zero_iff hlisted.subset,
      htags, List.map_eq_nil_iff]
  case isBelowGate_iff =>
    intro config
    have hgate : config.reputationGate.toNat < 2 ^ 53 := config.reputationGate.toNat_lt.trans (by decide)
    rw [Gate.isBelowGate, decide_eq_true_iff, hscore, Rounding.ofNat_lt_iff hfits hgate]

end PageRisk.Csp
