import PageRisk.Gate

set_option autoImplicit false

/-! # Pages, levels, sources and formats as JSON -/

namespace PageRisk

open Json (Decoder)

/-! ## Pages -/

namespace Page

/-- The fields of a page that were read. -/
structure Draft where
  hostname : Option String := none
  csp : Option (Option String) := none

/-- A page: its host and the text of its policy, null for none. -/
def decoder : Decoder Page := .record {
  title := "struct PageFingerprint"
  fields := [
    Decoder.field "hostname" .refused .string Draft.hostname fun hostname d =>
      { d with hostname := some hostname },
    Decoder.field "cspText" .allowedInObject (.optional .string) Draft.csp fun csp d =>
      { d with csp := some csp }]
  closed := false
  start := {}
  finish := fun
    | ⟨none, _⟩ => .error "hostname"
    | ⟨some hostname, csp⟩ => .ok ⟨hostname, csp.getD none⟩ }

/-- A page, its fields in the order of declaration. -/
def toJson (p : Page) : Json :=
  .object [("hostname", .string p.hostname), ("cspText", .ofString? p.csp)]

end Page

/-! ## Names -/

namespace ScoreSource

/-- The name of a source. -/
def name : ScoreSource → String
  | cache => "cache"
  | fresh => "fresh"

/-- A source by its name. -/
def decoder : Decoder ScoreSource :=
  .choice [("cache", cache), ("fresh", fresh)]

end ScoreSource

/-- A level by its name. -/
def RiskLevel.decoder : Decoder RiskLevel :=
  .choice [("low", low), ("high", high)]

end PageRisk
