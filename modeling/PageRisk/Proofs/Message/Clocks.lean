import PageRisk.Proofs.Cache.Timestamps
import PageRisk.Proofs.Message.Handling

set_option autoImplicit false

/-! # Requests under two clocks

Where entries do not age, a dispatcher over a store in memory reads its clock only to write down when an
assessment was made. Under two clocks it gives the same responses, asks for the same URLs and leaves
stores that differ in times only (`run_sameUpToTime`). -/

namespace PageRisk.Message

open Surroundings

/-- Whether two situations differ in times only: their stores are `Cache.SameUpToTime`, and the same URLs
    were asked. -/
structure SameUpToTime (w w' : Situation (Table Json)) : Prop where
  stored : Cache.SameUpToTime w.stored w'.stored
  asked : w.asked = w'.asked

section

variable {config : ScoringConfig} (source : List String → String → Reputation.Outcome)
  {w w' : Situation (Table Json)}

/-- `Gate.evaluate` gets the same decision under both clocks. -/
theorem evaluate_sameUpToTime (clock clock' : Nat → Int64) (hage : config.cacheMaxAge = none)
    (h : SameUpToTime w w') (page : Page) :
    ∃ outcome w₁ w₁', (inMemory source clock).perform (Gate.evaluate config page) w = (.ok outcome, w₁)
      ∧ (inMemory source clock').perform (Gate.evaluate config page) w' = (.ok outcome, w₁')
      ∧ SameUpToTime w₁ w₁' := by
  have hstanding := (h.stored.readAlike (Hostname.normalize page.hostname)).standing_eq
    (clock w.readings) (clock' w'.readings)
  rw [Gate.perform_evaluate_inMemory source clock hage, Gate.perform_evaluate_inMemory source clock' hage]
  simp only [hstanding]
  cases Gate.standing none w'.stored (clock' w'.readings) (Hostname.normalize page.hostname) with
  | some outcome => exact ⟨outcome, w, w', rfl, rfl, h⟩
  | none =>
    simp only [Gate.afterFresh_inMemory, ← h.asked]
    exact ⟨_, _, _, rfl, rfl, h.stored.insertEntry _ _ _ _, rfl⟩

/-- One request keeps two situations `SameUpToTime`, and gets the same response in both. -/
theorem handle_sameUpToTime (clock clock' : Nat → Int64) (hage : config.cacheMaxAge = none)
    (h : SameUpToTime w w') (request : Request) :
    ∃ response w₁ w₁', (inMemory source clock).run (handle config request) w = (response, w₁)
      ∧ (inMemory source clock').run (handle config request) w' = (response, w₁')
      ∧ SameUpToTime w₁ w₁' := by
  cases request with
  | analyze hostname csp =>
    obtain ⟨outcome, w₁, w₁', hperform, hperform', hsame⟩ :=
      evaluate_sameUpToTime source clock clock' hage h ⟨hostname, csp⟩
    exact ⟨_, w₁, w₁', run_handle_analyze hperform, run_handle_analyze hperform', hsame⟩
  | toggle enabled =>
    exact ⟨.done, _, _, run_handle_of_ok rfl, run_handle_of_ok rfl, h.stored.insert _ _, h.asked⟩
  | toggleAllowlist hostname enabled =>
    exact ⟨.done, _, _, run_handle_toggleAllowlist source clock hostname enabled w,
      run_handle_toggleAllowlist source clock' hostname enabled w',
      h.stored.afterListing hostname !enabled, h.asked⟩
  | setThreshold threshold =>
    exact ⟨.done, _, _, run_handle_of_ok rfl, run_handle_of_ok rfl, h.stored.insert _ _, h.asked⟩
  | clearCache =>
    exact ⟨.done, _, _, run_handle_of_ok rfl, run_handle_of_ok rfl, h.stored.cleared, h.asked⟩

end

/-- Without a `cacheMaxAge`, the clock decides nothing but the times of entries, over any sequence of
    requests. -/
theorem run_sameUpToTime {config : ScoringConfig}
    (source : List String → String → Reputation.Outcome) (clock clock' : Nat → Int64)
    (hage : config.cacheMaxAge = none) (requests : List Request) {w w' : Situation (Table Json)}
    (h : SameUpToTime w w') :
    ∃ responses w₁ w₁',
      (inMemory source clock).run (requests.mapM (handle config)) w = (responses, w₁)
      ∧ (inMemory source clock').run (requests.mapM (handle config)) w' = (responses, w₁')
      ∧ SameUpToTime w₁ w₁' := by
  induction requests generalizing w w' with
  | nil => exact ⟨[], w, w', rfl, rfl, h⟩
  | cons request rest ih =>
    obtain ⟨response, w₁, w₁', hrun, hrun', hsame⟩ :=
      handle_sameUpToTime source clock clock' hage h request
    obtain ⟨responses, w₂, w₂', hrest, hrest', hend⟩ := ih hsame
    refine ⟨response :: responses, w₂, w₂', ?_, ?_, hend⟩
    · rw [run_mapM_cons, hrun, hrest]
    · rw [run_mapM_cons, hrun', hrest']

end PageRisk.Message
