import PageRisk.Cache
import PageRisk.Config
import PageRisk.Csp.Analysis
import PageRisk.Settings

set_option autoImplicit false

/-! # The decision on a page

A page passes the global switch, the allowlist and the cache before it is assessed: by its policy, and
where that looks risky enough also by the reputation of its host. The assessment is kept in the cache;
where it cannot be kept, it is still given. -/

namespace PageRisk

/-- What is known of a page: the name of its host and its policy. -/
structure Page where
  hostname : String
  /-- The text of its policy, if it sends one. -/
  csp : Option String
  deriving DecidableEq, Repr

/-- Whether an assessment comes from the cache. -/
inductive ScoreSource where
  | cache
  | fresh
  deriving DecidableEq, Repr

/-- What is decided on a page. -/
inductive Outcome where
  /-- Its host is left alone. -/
  | allowlisted
  /-- Analysis is switched off. -/
  | disabled
  | scored (assessment : Assessment) (source : ScoreSource)
  deriving DecidableEq

namespace Gate

/-- The URL by which the reputation of a host is asked. -/
def lookupUrl (host : String) : String :=
  "https://" ++ host ++ "/"

/-- Whether a local score is too low for a lookup, by `ScoringConfig.reputationGate`. -/
def isBelowGate (config : ScoringConfig) (score : Float) : Bool :=
  score < Float.ofNat config.reputationGate.toNat

/-- The assessment of a page that is not in the cache: by its policy, and by the reputation of its host
    unless the score `isBelowGate`. -/
def assess (config : ScoringConfig) (host : String) (csp : Option String) : Task Assessment := do
  let base := Csp.analyze csp
  if isBelowGate config base.score then return base
  else return config.blend.combine base (← Task.lookup (lookupUrl host))

/-- Writes an assessment to the cache; a failure is ignored. -/
def remember (host : String) (a : Assessment) : Task Unit := do
  let entry := CacheEntry.ofAssessment a (← Task.now)
  ExceptT.mk ((Cache.put host entry).run.andThen fun _ => .done (.ok ()))

/-- The decision on a page: whether analysis runs, whether the host is left alone, whether the cache has an
    entry, and else `assess`. -/
def evaluate (config : ScoringConfig) (page : Page) : Task Outcome := do
  let host := Hostname.normalize page.hostname
  if !(← Settings.enabled) then return .disabled
  else if ← Settings.isAllowlisted host then return .allowlisted
  else match ← Cache.get config.cacheMaxAge host with
    | some entry => return .scored entry.assessment .cache
    | none =>
      let assessment ← assess config host page.csp
      remember host assessment
      return .scored assessment .fresh

end Gate

end PageRisk
