import PageRisk.Csp.Rule
import PageRisk.Assessment

set_option autoImplicit false

/-! # Analysis of a page's policy

A page without a policy, or with a blank one, has one finding of its own. Any other page is scored
by the rules that match its policy. -/

namespace PageRisk.Csp

/-- The finding for a page that declares no policy. -/
def noPolicy : Finding :=
  ⟨"no-csp", 50, "Page declares no Content-Security-Policy"⟩

/-- Every finding that an analysis can report, in the order of reporting: `noPolicy`, and that of each
    `Rule`. -/
def allFindings : List Finding :=
  noPolicy :: Rule.all.map Rule.finding

/-- The findings for a page, given the text of its policy if it sends one: `noPolicy`, or those of the rules
    that are found in the policy. -/
def findings (csp : Option String) : List Finding :=
  match csp with
  | none => [noPolicy]
  | some text =>
    let trimmed := Text.trim text.toList
    if trimmed.isEmpty then [noPolicy]
    else
      let policy := Policy.parse (String.ofList trimmed)
      (Rule.all.filter (·.isFoundIn policy)).map Rule.finding

/-- The sum of the weights of some findings. -/
def totalWeight (found : List Finding) : Nat :=
  found.foldr (fun f total => f.weight + total) 0

/-- The assessment of a page by its policy alone: the `totalWeight` of the `findings`, and their tags. -/
def analyze (csp : Option String) : Assessment :=
  let found := findings csp
  ⟨Float.ofNat (totalWeight found), found.map Finding.tag⟩

end PageRisk.Csp
