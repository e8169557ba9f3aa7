import PageRisk.Assessment
import PageRisk.Reputation.Outcome

set_option autoImplicit false

/-! # Blending local and remote scores

The score of a page is a weighted mean of what its policy says and what the reputation service says.
The weight is the share of the reputation, a number from zero to one. -/

namespace PageRisk

/-- The share of the reputation where none is configured. -/
def defaultWeight : Float := 0.8

/-- A weight between zero and one: a number outside is brought to the nearer end, and what is not a
    number counts as the default. -/
def normalizeWeight (w : Float) : Float :=
  if w.isNaN then defaultWeight
  else if w < 0.0 then 0.0
  else if 1.0 < w then 1.0
  else w

/-- The greater of a score and zero; what is not a number counts as zero. -/
def atLeastZero (score : Float) : Float :=
  if 0.0 < score then score else 0.0

/-- A blend of scores by a weight in range, as `normalizeWeight` makes it. -/
structure Blend where
  weight : Float

namespace Blend

/-- The blend by any weight, brought into range by `normalizeWeight`. -/
def ofWeight (w : Float) : Blend :=
  ⟨normalizeWeight w⟩

/-- The assessment `base` with the outcome of a lookup folded in: the mean of the scores, and the threats
    after the local tags. An unavailable service leaves the assessment as it is. -/
def combine (blend : Blend) (base : Assessment) : Reputation.Outcome → Assessment
  | .unavailable => base
  | .assessed score threats =>
    ⟨base.score * (1.0 - blend.weight) + atLeastZero score * blend.weight, base.tags ++ threats⟩

end Blend

end PageRisk
