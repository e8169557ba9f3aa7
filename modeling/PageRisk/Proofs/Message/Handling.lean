import PageRisk.Message.Dispatcher
import PageRisk.Proofs.Gate

set_option autoImplicit false

/-! # What a request does

A request is answered by the response of its work, or by the error that it ends with (`run_handle`). -/

namespace PageRisk.Message

open Surroundings

variable {σ : Type} {s : Surroundings σ} {config : ScoringConfig} {w w' : Situation σ}

theorem run_handle (s : Surroundings σ) (config : ScoringConfig) (request : Request)
    (w : Situation σ) :
    s.run (handle config request) w
      = match s.perform (perform config request) w with
        | (.ok response, w') => (response, w')
        | (.error e, w') => (.ofError e, w') := by
  rw [handle, run_andThen]
  cases hperform : s.perform (perform config request) w with
  | mk result w' =>
    have hrun : s.run (perform config request).run w = (result, w') := hperform
    rw [hrun]
    cases result <;> rfl

theorem run_handle_of_ok {request : Request} {response : Response}
    (h : s.perform (perform config request) w = (.ok response, w')) :
    s.run (handle config request) w = (response, w') := by
  rw [run_handle, h]

/-- The response to `Request.analyze` is that for the decision of `Gate.evaluate`. -/
theorem run_handle_analyze {hostname : String} {csp : Option String} {outcome : Outcome}
    (h : s.perform (Gate.evaluate config ⟨hostname, csp⟩) w = (.ok outcome, w')) :
    s.run (handle config (.analyze hostname csp)) w = (.ofOutcome outcome, w') := by
  apply run_handle_of_ok
  rw [perform, perform_bind_of_ok h, perform_pure]

/-- Over a store in memory `Request.toggleAllowlist` is always done, and leaves `Settings.afterListing`. -/
theorem run_handle_toggleAllowlist (source : List String → String → Reputation.Outcome)
    (clock : Nat → Int64) (hostname : String) (enabled : Bool) (w : Situation (Table Json)) :
    (inMemory source clock).run (handle config (.toggleAllowlist hostname enabled)) w
      = (.done, { w with stored := Settings.afterListing w.stored hostname !enabled }) := by
  apply run_handle_of_ok
  rw [perform, perform_bind_of_ok (Settings.perform_setAllowlisted source clock w _ _), perform_pure]

/-! ## Lines -/

/-- `respond` answers a line like the request that `Request.ofLine` reads in it. -/
theorem respond_of_ofLine {line : String} {request : Request} (h : Request.ofLine line = .ok request) :
    respond config line = handle config request := by
  rw [respond, h]

/-- `respond` refuses a line that `Request.ofLine` cannot read, and does nothing else. -/
theorem run_respond_of_error {line description : String}
    (h : Request.ofLine line = .error description) :
    s.run (respond config line) w = (.ofError (.message description), w) := by
  rw [respond, h]
  rfl

end PageRisk.Message
