import PageRisk.Proofs.Gate.Footprint
import PageRisk.Proofs.Message.Clocks
import PageRisk.Proofs.Unasked

set_option autoImplicit false

/-! # Where reputation is never available

The weight of reputation and the score from which it is asked for matter to lookups only. Where none is
ever answered they decide nothing: not the responses, and not what is in the store for later requests
(`failOpen`). Fresh assessments are then those of the policies alone. -/

namespace PageRisk

open Surroundings
open PageRisk.Task (SameUnasked)

/-- The configuration with another weight of reputation and another score from which it is asked for. -/
def ScoringConfig.withReputation (config : ScoringConfig) (weight : Float) (gate : UInt32) :
    ScoringConfig :=
  { config with reputationWeight := weight, reputationGate := gate }

namespace Gate

/-- Without lookups `assess` is `Csp.analyze`. -/
theorem sameUnasked_assess (config : ScoringConfig) (host : String) (csp : Option String) :
    SameUnasked (assess config host csp) (pure (Csp.analyze csp)) := by
  unfold assess
  simp only
  split
  · exact SameUnasked.refl _
  · rfl

theorem sameUnasked_evaluate (config : ScoringConfig) (weight : Float) (gate : UInt32) (page : Page) :
    SameUnasked (evaluate config page) (evaluate (config.withReputation weight gate) page) := by
  unfold evaluate
  refine (SameUnasked.refl _).bind fun enabled => ?_
  split
  · exact SameUnasked.refl _
  · refine (SameUnasked.refl _).bind fun listed => ?_
    split
    · exact SameUnasked.refl _
    · refine (SameUnasked.refl _).bind fun found => ?_
      cases found with
      | some entry => exact SameUnasked.refl _
      | none =>
        have hassess : SameUnasked (assess config (Hostname.normalize page.hostname) page.csp)
            (assess (config.withReputation weight gate) (Hostname.normalize page.hostname) page.csp) :=
          (sameUnasked_assess config _ _).trans (sameUnasked_assess _ _ _).symm
        exact hassess.bind fun a => SameUnasked.refl _

end Gate

namespace Message

theorem unasked_handle (config : ScoringConfig) (weight : Float) (gate : UInt32) (request : Request) :
    (handle config request).unasked = (handle (config.withReputation weight gate) request).unasked := by
  have hperform : SameUnasked (perform config request)
      (perform (config.withReputation weight gate) request) := by
    cases request with
    | analyze hostname csp =>
      exact (Gate.sameUnasked_evaluate config weight gate _).bind fun outcome => SameUnasked.refl _
    | toggle enabled => exact SameUnasked.refl _
    | toggleAllowlist hostname enabled => exact SameUnasked.refl _
    | setThreshold threshold => exact SameUnasked.refl _
    | clearCache => exact SameUnasked.refl _
  rw [handle, handle, Program.unasked_andThen, Program.unasked_andThen, hperform]

theorem unasked_mapM_handle (config : ScoringConfig) (weight : Float) (gate : UInt32)
    (requests : List Request) :
    (requests.mapM (handle config)).unasked
      = (requests.mapM (handle (config.withReputation weight gate))).unasked := by
  rw [Program.unasked_mapM, Program.unasked_mapM]
  simp only [unasked_handle config weight gate]

/-- Over any surroundings that are `Silent`, requests get the same responses and leave the same store. -/
theorem run_withReputation {σ : Type} {s : Surroundings σ} (hsilent : s.Silent)
    (config : ScoringConfig) (weight : Float) (gate : UInt32) (requests : List Request)
    (w : Situation σ) :
    (s.run (requests.mapM (handle config)) w).1
        = (s.run (requests.mapM (handle (config.withReputation weight gate))) w).1
      ∧ (s.run (requests.mapM (handle config)) w).2.stored
        = (s.run (requests.mapM (handle (config.withReputation weight gate))) w).2.stored := by
  obtain ⟨hresponses, hsituations⟩ :=
    run_eq_of_unasked_eq hsilent (unasked_mapM_handle config weight gate requests) w
  have hstored := congrArg Situation.stored hsituations
  exact ⟨hresponses, hstored⟩

/-- Over `Silent` surroundings a fresh assessment is `Csp.analyze` of the policy. -/
theorem fresh_of_silent {σ : Type} {s : Surroundings σ} (hsilent : s.Silent) {w : Situation σ}
    {t : Table Json} (hreads : s.Reads w.stored t) {config : ScoringConfig} {page : Page}
    {a : Assessment} (hfresh : (s.perform (Gate.evaluate config page) w).1 = .ok (.scored a .fresh)) :
    a = Csp.analyze page.csp := by
  obtain ⟨readings, -, hperform⟩ := Gate.perform_evaluate hreads config page
  rw [hperform] at hfresh
  simp only at hfresh
  split at hfresh
  · next outcome hstanding =>
    obtain rfl := Except.ok.inj hfresh
    exact absurd trivial (Gate.standing_not_isFresh hstanding)
  · obtain ⟨rfl, -⟩ := Outcome.scored.inj (Except.ok.inj hfresh)
    exact Gate.verdict_of_unavailable (hsilent w.asked _)

/-- Over a store in memory and with a source of reputation that is never available, the weight of reputation
    and the score from which it is asked for do not matter: any requests get the same responses and leave
    the same store, and without a `cacheMaxAge` this is so under any two clocks, up to the times of the
    entries. A fresh assessment is `Csp.analyze` of the policy, and is what the client gets. -/
theorem failOpen (config : ScoringConfig) (weight : Float) (gate : UInt32)
    {source : List String → String → Reputation.Outcome}
    (hsource : ∀ asked url, source asked url = .unavailable) (clock : Nat → Int64)
    (requests : List Request) (w : Situation (Table Json)) :
    let ran := (inMemory source clock).run (requests.mapM (handle config)) w
    let other (clock : Nat → Int64) :=
      (inMemory source clock).run (requests.mapM (handle (config.withReputation weight gate))) w
    (ran.1 = (other clock).1 ∧ ran.2.stored = (other clock).2.stored)
      ∧ (config.cacheMaxAge = none → ∀ clock',
        ran.1 = (other clock').1 ∧ Cache.SameUpToTime ran.2.stored (other clock').2.stored)
      ∧ ∀ before hostname csp after, requests = before ++ .analyze hostname csp :: after →
        ∀ a, ((inMemory source clock).perform (Gate.evaluate config ⟨hostname, csp⟩)
          ((inMemory source clock).run (before.mapM (handle config)) w).2).1
            = .ok (.scored a .fresh) →
          a = Csp.analyze csp ∧ ran.1[before.length]? = some (.scored (Csp.analyze csp)) := by
  have hsilent : ∀ clock, (inMemory source clock).Silent := fun _ => hsource
  intro ran other
  refine ⟨run_withReputation (hsilent clock) config weight gate requests w, fun hage clock' => ?_,
    fun before hostname csp after hrequests a hfresh => ?_⟩
  · -- First the clock is changed, under the same configuration, and then the configuration.
    obtain ⟨responses, w₁, w₁', hrun, hrun', htimes⟩ :=
      run_sameUpToTime source clock clock' hage requests ⟨.refl w.stored, rfl⟩
    have hran : ran = (responses, w₁) := hrun
    have hother : responses = (other clock').1 ∧ w₁'.stored = (other clock').2.stored := by
      have hclock := run_withReputation (hsilent clock') config weight gate requests w
      rwa [hrun'] at hclock
    rw [hran, ← hother.1, ← hother.2]
    exact ⟨rfl, htimes.stored⟩
  · obtain rfl := fresh_of_silent (hsilent clock) (inMemory_reads source clock _) hfresh
    refine ⟨rfl, ?_⟩
    have hresponse := run_handle_analyze (Prod.ext hfresh rfl)
    simp only [ran, hrequests, getElem?_run_mapM, hresponse]
    rfl

/-- A source that is never available. -/
def noAnswers : List String → String → Reputation.Outcome :=
  fun _ _ => .unavailable

/-- A page after analysis was switched on. -/
def switchedOn : List Request :=
  [.toggle true, .analyze "example.com" (some "script-src *")]

theorem switchedOn_failOpen :
    (∀ asked url, noAnswers asked url = .unavailable)
      ∧ ((inMemory noAnswers fun _ => 0).run (switchedOn.mapM (handle {}))
          { stored := Table.empty }).1
        = ((inMemory noAnswers fun _ => 1).run
          (switchedOn.mapM (handle (({} : ScoringConfig).withReputation (0.0 / 0.0) 0)))
          { stored := Table.empty }).1
      ∧ ((inMemory noAnswers fun _ => 0).run (switchedOn.mapM (handle {}))
          { stored := Table.empty }).1[1]? = some (.scored (Csp.analyze (some "script-src *"))) := by
  have hsource : ∀ asked url, noAnswers asked url = .unavailable := fun _ _ => rfl
  obtain ⟨-, hclocks, hfresh⟩ := failOpen {} (0.0 / 0.0) 0 hsource (fun _ => 0) switchedOn
    { stored := Table.empty }
  let on : Situation (Table Json) :=
    { stored := Table.empty.insert Settings.enabledKey (.bool true) }
  have hundecided : Gate.standing none on.stored 0 (Hostname.normalize "example.com") = none := by
    rw [Gate.standing_none]
    rfl
  have hassessed : ((inMemory noAnswers fun _ => 0).perform
      (Gate.evaluate {} ⟨"example.com", some "script-src *"⟩) on).1
      = .ok (.scored (Csp.analyze (some "script-src *")) .fresh) := by
    rw [Gate.perform_evaluate_inMemory noAnswers _ rfl]
    simp only [hundecided]
    rw [Gate.verdict_of_unavailable rfl]
  have hsecond := hfresh [.toggle true] "example.com" (some "script-src *") [] rfl _ hassessed
  exact ⟨hsource, (hclocks rfl fun _ => 1).1, hsecond.2⟩

end Message

end PageRisk
