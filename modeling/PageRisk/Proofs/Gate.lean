import Mathlib.Tactic.Common
import PageRisk.Gate
import PageRisk.Proofs.Cache
import PageRisk.Proofs.Settings

set_option autoImplicit false

/-! # The decision on a page, step by step

The assessment of a page is a function of its policy and of what one lookup gives
(`Gate.verdict`), whatever the store is. Over a store that can be read, a decision reads the switch, the
allowlist and the entry of the host, in this order (`Gate.standing`), and writes at most that entry
(`Gate.perform_evaluate`). -/

namespace PageRisk.Gate

open Surroundings

/-! ## Assessing -/

/-- The assessment of a page by `Csp.analyze` and, where this reaches the gate, by what a lookup of its host
    gives. -/
def verdict (config : ScoringConfig) (reputation : String → Reputation.Outcome) (host : String)
    (csp : Option String) : Assessment :=
  let base := Csp.analyze csp
  if isBelowGate config base.score then base
  else config.blend.combine base (reputation (lookupUrl host))

/-- The URLs that are asked for to assess a page: `lookupUrl host`, unless its policy alone stays below the
    gate. -/
def questions (config : ScoringConfig) (host : String) (csp : Option String) : List String :=
  if isBelowGate config (Csp.analyze csp).score then [] else [lookupUrl host]

@[simp] theorem perform_assess {σ : Type} (s : Surroundings σ) (config : ScoringConfig)
    (host : String) (csp : Option String) (w : Situation σ) :
    s.perform (assess config host csp) w
      = (.ok (verdict config (s.source w.asked) host csp),
        { w with asked := questions config host csp ++ w.asked }) := by
  unfold assess verdict questions
  by_cases hbelow : isBelowGate config (Csp.analyze csp).score = true
  · simp only [hbelow, if_true, perform_pure, List.nil_append]
  · simp only [hbelow]
    exact perform_bind_of_ok (perform_lookup s (lookupUrl host) w) _

/-! ## Deciding -/

/-- What the entries of a store decide on the page of a host at a time; where they do not (`none`), the page
    is to be assessed. -/
def standing (maxAge : Option UInt64) (t : Table Json) (time : Int64) (host : String) :
    Option Outcome :=
  if Settings.enabledOf (t.get? Settings.enabledKey) = false then some .disabled
  else if Settings.isListed (Settings.allowlistOf (t.get? Settings.allowlistKey)) host then
    some .allowlisted
  else (Cache.found maxAge t time host).map fun entry => .scored entry.assessment .cache

/-- A host is left alone where analysis is on and the host is listed. -/
theorem standing_eq_allowlisted_iff (maxAge : Option UInt64) (t : Table Json) (time : Int64)
    (host : String) :
    standing maxAge t time host = some .allowlisted
      ↔ Settings.enabledOf (t.get? Settings.enabledKey) = true
        ∧ Settings.isListed (Settings.allowlistOf (t.get? Settings.allowlistKey)) host = true := by
  unfold standing
  split_ifs with henabled hlisted
  · simp [henabled]
  · simp [henabled, hlisted]
  · simp [hlisted]

/-- Without a greatest age `standing` does not depend on the time, and an entry counts where its assessment
    can be read. -/
theorem standing_none (t : Table Json) (time : Int64) (host : String) :
    standing none t time host
      = if Settings.enabledOf (t.get? Settings.enabledKey) = false then some .disabled
        else if Settings.isListed (Settings.allowlistOf (t.get? Settings.allowlistKey)) host then
          some .allowlisted
        else (Cache.kept? t host).map fun a => .scored a .cache := by
  rw [standing, Cache.found_none, Cache.kept?, Option.map_map]
  rfl

theorem standing_none_eq (t : Table Json) (time time' : Int64) (host : String) :
    standing none t time host = standing none t time' host := by
  rw [standing_none, standing_none]

/-- Whether two tables decide alike on the pages of a host: all that `standing` reads is the same. -/
structure ReadAlike (t u : Table Json) (host : String) : Prop where
  enabled : t.get? Settings.enabledKey = u.get? Settings.enabledKey
  allowlist : t.get? Settings.allowlistKey = u.get? Settings.allowlistKey
  kept : Cache.kept? t host = Cache.kept? u host

theorem ReadAlike.standing_eq {t u : Table Json} {host : String} (h : ReadAlike t u host)
    (time time' : Int64) : standing none t time host = standing none u time' host := by
  rw [standing_none, standing_none, h.enabled, h.allowlist, h.kept]

section Reads

variable {σ : Type} (s : Surroundings σ)

/-- `Gate.remember` writes an assessment to the store, and whether that worked does not matter. -/
theorem perform_remember (host : String) (a : Assessment) (w : Situation σ) :
    s.perform (remember host a) w
      = (.ok (), { w with
          stored := (s.store (.set (Table.empty.insert (Cache.key host)
            (CacheEntry.ofAssessment a (s.clock w.readings)).toStored)) w.stored).2
          readings := w.readings + 1 }) := rfl

/-- The situation after a page was assessed: its `questions` were asked and its `verdict` was written to the
    store. -/
def afterFresh (config : ScoringConfig) (host : String) (csp : Option String) (w : Situation σ) :
    Situation σ where
  stored := (s.store (.set (Table.empty.insert (Cache.key host)
    (CacheEntry.ofAssessment (verdict config (s.source w.asked) host csp)
      (s.clock w.readings)).toStored)) w.stored).2
  asked := questions config host csp ++ w.asked
  readings := w.readings + 1

/-- Over a store that can be read, `evaluate` decides by the `standing` of the host, and else by the
    `verdict`, which is the only thing written. -/
theorem perform_evaluate {s : Surroundings σ} {w : Situation σ} {t : Table Json}
    (h : s.Reads w.stored t) (config : ScoringConfig) (page : Page) :
    ∃ readings, (config.cacheMaxAge = none → readings = w.readings)
      ∧ s.perform (evaluate config page) w
        = let host := Hostname.normalize page.hostname
          let w' : Situation σ := { w with readings := readings }
          match standing config.cacheMaxAge t (s.clock w.readings) host with
          | some outcome => (.ok outcome, w')
          | none => (.ok (.scored (verdict config (s.source w.asked) host page.csp) .fresh),
              afterFresh s config host page.csp w') := by
  unfold evaluate standing
  rw [perform_bind_of_ok (Settings.perform_enabled h)]
  cases henabled : Settings.enabledOf (t.get? Settings.enabledKey) with
  | false => exact ⟨w.readings, fun _ => rfl, rfl⟩
  | true =>
    simp only [Bool.not_true, Bool.false_eq_true, if_false, reduceCtorEq]
    rw [perform_bind_of_ok (Settings.perform_isAllowlisted h _)]
    by_cases hlisted : Settings.isListed (Settings.allowlistOf (t.get? Settings.allowlistKey))
        (Hostname.normalize page.hostname) = true
    · simp only [hlisted, if_true, perform_pure]
      exact ⟨w.readings, fun _ => rfl, rfl⟩
    · simp only [hlisted, Bool.false_eq_true, if_false]
      obtain ⟨readings, hreadings, hget⟩ := Cache.perform_get h config.cacheMaxAge
        (Hostname.normalize page.hostname)
      rw [perform_bind_of_ok hget]
      refine ⟨readings, hreadings, ?_⟩
      cases Cache.found config.cacheMaxAge t (s.clock w.readings)
          (Hostname.normalize page.hostname) with
      | some entry => rfl
      | none =>
        simp only
        rw [perform_bind_of_ok (perform_assess s config _ page.csp _)]
        exact perform_bind_of_ok (perform_remember s _ _ _) _

/-- A page is left alone just if analysis is on and the key of its host is listed; `isListed` brings it to
    its key once more. -/
theorem perform_evaluate_eq_allowlisted_iff {s : Surroundings σ} {w : Situation σ} {t : Table Json}
    (h : s.Reads w.stored t) (config : ScoringConfig) (page : Page) :
    (s.perform (evaluate config page) w).1 = .ok .allowlisted
      ↔ Settings.enabledOf (t.get? Settings.enabledKey) = true
        ∧ Settings.isListed (Settings.allowlistOf (t.get? Settings.allowlistKey))
            (Hostname.normalize page.hostname) = true := by
  obtain ⟨readings, -, hperform⟩ := perform_evaluate h config page
  rw [hperform, ← standing_eq_allowlisted_iff config.cacheMaxAge t (s.clock w.readings)]
  cases hstanding : standing config.cacheMaxAge t (s.clock w.readings) (Hostname.normalize page.hostname) with
  | some outcome => simp only [hstanding, Except.ok.injEq, Option.some.injEq]
  | none => simp only [hstanding, Except.ok.injEq, reduceCtorEq]

end Reads

/-- Over a store in memory, `afterFresh` always keeps the assessment. -/
theorem afterFresh_inMemory (source : List String → String → Reputation.Outcome)
    (clock : Nat → Int64) (config : ScoringConfig) (host : String) (csp : Option String)
    (w : Situation (Table Json)) :
    afterFresh (inMemory source clock) config host csp w
      = { stored := w.stored.insert (Cache.key host)
            (CacheEntry.ofAssessment (verdict config (source w.asked) host csp)
              (clock w.readings)).toStored
          asked := questions config host csp ++ w.asked
          readings := w.readings + 1 } := rfl

/-- `perform_evaluate` over a store in memory and without a greatest age of entries: the clock is read only
    for the assessment that is kept. -/
theorem perform_evaluate_inMemory (source : List String → String → Reputation.Outcome)
    (clock : Nat → Int64) {config : ScoringConfig} (hage : config.cacheMaxAge = none) (page : Page)
    (w : Situation (Table Json)) :
    (inMemory source clock).perform (evaluate config page) w
      = let host := Hostname.normalize page.hostname
        match standing none w.stored (clock w.readings) host with
        | some outcome => (.ok outcome, w)
        | none => (.ok (.scored (verdict config (source w.asked) host page.csp) .fresh),
            afterFresh (inMemory source clock) config host page.csp w) := by
  obtain ⟨readings, hreadings, hperform⟩ :=
    perform_evaluate (inMemory_reads source clock w.stored) config page
  obtain rfl := hreadings hage
  rw [hperform, hage]
  rfl

end PageRisk.Gate
