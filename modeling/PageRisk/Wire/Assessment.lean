import PageRisk.Assessment
import PageRisk.Json.Decoder

set_option autoImplicit false

/-! # Assessments as JSON -/

namespace PageRisk.Assessment

open Json (Decoder)

/-- The fields of an assessment that were read. -/
structure Draft where
  score : Option Float := none
  tags : Option (List String) := none

/-- An assessment: its score and tags. -/
def decoder : Decoder Assessment := .record {
  title := "struct AnalysisResult"
  fields := [
    Decoder.field "score" .refused .float Draft.score fun score d => { d with score := some score },
    Decoder.field "reasonTags" .refused (.list .string) Draft.tags fun tags d =>
      { d with tags := some tags }]
  closed := false
  start := {}
  finish := fun
    | ⟨none, _⟩ => .error "score"
    | ⟨_, none⟩ => .error "reasonTags"
    | ⟨some score, some tags⟩ => .ok ⟨score, tags⟩ }

/-- An assessment, its fields in the order of declaration. -/
def toJson (a : Assessment) : Json :=
  .object [("score", .ofFloat a.score), ("reasonTags", .ofStrings a.tags)]

end PageRisk.Assessment
