import PageRisk.Config
import PageRisk.Json.Printer
import PageRisk.Reputation.Outcome

set_option autoImplicit false

/-! # The reputation service

A lookup is one request to the configured endpoint: the URL in question as JSON, and the secret in a
header. Anything but a successful reply with a body that can be read makes the service unavailable;
where lookups are switched off it always is. -/

namespace PageRisk.Reputation

/-- One request to the service. -/
structure Query where
  endpoint : String
  secret : String
  timeoutMillis : UInt64
  body : String
  deriving DecidableEq

/-- A reply of the service. -/
structure Reply where
  status : Nat
  body : String
  deriving DecidableEq

/-- The header that carries the secret. -/
def secretHeader : String := "X-Proxy-Secret"

/-- The request about a URL. -/
def queryFor (config : ReputationConfig) (url : String) : Query where
  endpoint := config.endpoint
  secret := config.secret
  timeoutMillis := config.timeoutMillis
  body := (Json.object [("url", .string url)]).compactText

/-- The outcome of a lookup by the reply, if there was one: `scoreBody` where the reply is a success. -/
def Outcome.ofReply : Option Reply → Outcome
  | none => .unavailable
  | some reply =>
    if 200 ≤ reply.status && reply.status < 300 then scoreBody reply.body else .unavailable

end PageRisk.Reputation
