import PageRisk.Csp.Policy

set_option autoImplicit false

/-! # Heuristics on policies

Each rule looks for one weakness of a declared policy. A rule that finds it adds its weight to the
score and its tag to the reasons, once. -/

namespace PageRisk.Csp

/-- The weaknesses that are looked for. -/
inductive Rule where
  | unsafeInline
  | unsafeEval
  | wildcardScriptSrc
  | trackerConnections
  | missingAntiClickjacking
  deriving DecidableEq, Repr

/-- How a finding is described to the user. -/
structure Finding where
  tag : String
  weight : Nat
  description : String
  deriving DecidableEq, Repr

/-- Parts of host names that belong to well-known trackers. -/
def trackerHosts : List String :=
  ["google-analytics", "googletagmanager", "facebook", "twitter", "doubleclick",
    "googlesyndication"]

namespace Rule

/-- All rules, in the order in which they are checked and reported. -/
def all : List Rule :=
  [unsafeInline, unsafeEval, wildcardScriptSrc, trackerConnections, missingAntiClickjacking]

/-- What a match of the rule is reported as. -/
def finding : Rule → Finding
  | unsafeInline => ⟨"unsafe-inline", 20, "Inline scripts or styles are allowed"⟩
  | unsafeEval => ⟨"unsafe-eval", 30, "eval() and similar string-to-code APIs are allowed"⟩
  | wildcardScriptSrc =>
    ⟨"wildcard-script-src", 40, "script-src or default-src admits a wildcard source"⟩
  | trackerConnections =>
    ⟨"tracker-connections", 15, "connect-src allows known analytics or ad trackers"⟩
  | missingAntiClickjacking =>
    ⟨"missing-anti-clickjacking", 10, "No frame-ancestors 'none' directive"⟩

/-- Whether the policy has the weakness that the rule looks for. -/
def isFoundIn (r : Rule) (p : Policy) : Bool :=
  match r with
  | unsafeInline => p.mentions "unsafe-inline"
  | unsafeEval => p.mentions "unsafe-eval"
  | wildcardScriptSrc =>
    (p.directives.filter fun d => d.isNamed "script-src" || d.isNamed "default-src").any
      fun d => d.sources.any fun s => s.toList.contains '*'
  | trackerConnections =>
    (p.named "connect-src").any fun d => trackerHosts.any d.mentions
  | missingAntiClickjacking =>
    !(p.directives.filter fun d => "frame-ancestors".toList.isPrefixOf d.text.toList).any
      fun d => d.hasSource "'none'"

end Rule

end PageRisk.Csp
