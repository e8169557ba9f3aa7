import PageRisk.Scoring

set_option autoImplicit false

/-! # Configuration

What a configuration file may set, and what holds where it sets nothing. -/

namespace PageRisk

/-- How scores are made. -/
structure ScoringConfig where
  /-- The share of the reputation, as it is written. -/
  reputationWeight : Float := defaultWeight
  /-- The least local score for which the reputation service is asked. -/
  reputationGate : UInt32 := 10
  /-- The threshold where none is stored. -/
  defaultThreshold : UInt32 := 50
  /-- The age in seconds from which a cached assessment no longer counts. -/
  cacheMaxAge : Option UInt64 := none
  deriving DecidableEq

/-- The share of the reputation that is used: `reputationWeight`, brought into range. -/
def ScoringConfig.effectiveWeight (c : ScoringConfig) : Float :=
  normalizeWeight c.reputationWeight

/-- The `Blend` that is used. -/
def ScoringConfig.blend (c : ScoringConfig) : Blend :=
  Blend.ofWeight c.effectiveWeight

/-- How the reputation service is reached. -/
structure ReputationConfig where
  endpoint : String := "http://127.0.0.1:8787/check"
  secret : String := ""
  timeoutMillis : UInt64 := 3000
  enabled : Bool := true
  deriving DecidableEq

/-- Where the store is kept. -/
structure StorageConfig where
  path : String := ".cspguard/store.json"
  deriving DecidableEq

/-- The whole configuration. -/
structure Config where
  scoring : ScoringConfig := {}
  reputation : ReputationConfig := {}
  storage : StorageConfig := {}
  deriving DecidableEq

/-- The variables of the environment that take precedence over a file. -/
structure Environment where
  secret : Option String := none
  endpoint : Option String := none
  deriving DecidableEq

namespace Config

/-- The name of the variable with the secret. -/
def secretVariable : String := "CSPGUARD_REPUTATION_SECRET"

/-- The name of the variable with the endpoint. -/
def endpointVariable : String := "CSPGUARD_REPUTATION_ENDPOINT"

/-- The file that is read where no other is named. -/
def defaultPath : String := ".cspguard.toml"

/-- The configuration with the variables of the `Environment` that are set in place of its own values. -/
def withEnvironment (c : Config) (env : Environment) : Config :=
  { c with reputation := { c.reputation with
      secret := env.secret.getD c.reputation.secret
      endpoint := env.endpoint.getD c.reputation.endpoint } }

/-- A configuration file to start from; its values are the defaults of `Config`. -/
def starter : String := String.join ([
    "# cspguard configuration",
    "",
    "[scoring]",
    "# Share of the final score that comes from the reputation service (0.0 - 1.0).",
    "reputation_weight = 0.8",
    "",
    "# Local CSP scores below this skip the reputation lookup.",
    "reputation_gate = 10",
    "",
    "# Pages scoring at or above this are reported as high risk.",
    "default_threshold = 50",
    "",
    "# Re-analyze hosts whose cached entry is older than this (seconds).",
    "# cache_max_age_secs = 86400",
    "",
    "[reputation]",
    "endpoint = \"http://127.0.0.1:8787/check\"",
    "# secret = \"...\"   # or set CSPGUARD_REPUTATION_SECRET",
    "timeout_ms = 3000",
    "enabled = true",
    "",
    "[storage]",
    "path = \".cspguard/store.json\""].map (· ++ "\n"))

end Config

end PageRisk
