import PageRisk.Json.Printer
import PageRisk.Message.Request
import PageRisk.Message.Response

set_option autoImplicit false

/-! # Answering requests

Every request gets exactly one response. A failure is a response too, so that no request keeps the next
from being answered. -/

namespace PageRisk.Message

/-- The response to a request that worked and has nothing to tell. -/
def Response.done : Response :=
  .marker .ok

/-- The response to a failure: `GuardError.text`. -/
def Response.ofError (e : GuardError) : Response :=
  .error e.text

/-- Does what a request asks for. -/
def perform (config : ScoringConfig) : Request → Task Response
  | .analyze hostname csp => return .ofOutcome (← Gate.evaluate config ⟨hostname, csp⟩)
  | .toggle enabled => do
    Settings.setEnabled enabled
    return .done
  | .toggleAllowlist hostname enabled => do
    let _ ← Settings.setAllowlisted hostname !enabled
    return .done
  | .setThreshold threshold => do
    Settings.setThreshold threshold
    return .done
  | .clearCache => do
    let _ ← Cache.clear
    return .done

/-- The response to a request: that of `perform`, or its error. -/
def handle (config : ScoringConfig) (request : Request) : Program services Response :=
  (perform config request).run.andThen fun
    | .ok response => .done response
    | .error e => .done (.ofError e)

/-- The response to a line: `handle`, if it is a request. -/
def respond (config : ScoringConfig) (line : String) : Program services Response :=
  match Request.ofLine line with
  | .error description => .done (.ofError (.message description))
  | .ok request => handle config request

/-- The text of the response to a line by `respond`. -/
def answerLine (config : ScoringConfig) (line : String) : Program services String :=
  (respond config line).andThen fun response => .done response.toJson.compactText

end PageRisk.Message
