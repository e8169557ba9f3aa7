set_option autoImplicit false

/-! # Assessments

What an analysis says of a page: how risky it is, and why. -/

namespace PageRisk

/-- A score, and a tag for each reason in the order of detection. -/
structure Assessment where
  score : Float
  tags : List String
  deriving DecidableEq

end PageRisk
