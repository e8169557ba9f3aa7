import PageRisk.CommandLine.Commands
import PageRisk.Proofs.Message.FileClocks

set_option autoImplicit false

/-! # Commands that are requests

Some commands ask for what a request asks for (`Command.request?`). Such a command leaves its surroundings as
the request does (`snd_perform_storeWork`), and where it analyzes a page it prints the response and ends
by the threshold in force (`perform_storeWork_analyze`). -/

namespace PageRisk

open Surroundings

/-! ## The threshold in force -/

theorem Json.asNat?_reread (v : Json) : v.reread.asNat? = v.asNat? := by
  cases v with
  | number n =>
    cases n with
    | integer n => rfl
    | real x =>
      rw [Json.reread]
      rcases Json.real_cases x with ⟨-, hnull⟩ | ⟨y, hreal, -⟩
      · rw [hnull]
        rfl
      · rw [hreal]
        rfl
  | _ => rfl

/-- `Settings.thresholdOf` does not notice that a value was written and read. -/
theorem Settings.thresholdOf_reread (default : UInt32) (stored : Option Json) :
    thresholdOf default (stored.map Json.reread) = thresholdOf default stored := by
  cases stored with
  | none => rfl
  | some v => simp only [thresholdOf, Option.map_some, Option.bind_some, Json.asNat?_reread]

theorem Settings.perform_threshold {σ : Type} {s : Surroundings σ} {w : Situation σ} {t : Table Json}
    (h : s.Reads w.stored t) (default : UInt32) :
    s.perform (threshold default) w = (.ok (thresholdOf default (t.get? thresholdKey)), w) := by
  rw [threshold, perform_bind_of_ok (perform_get? h thresholdKey), perform_pure]

namespace CommandLine

open Message

/-! ## What a command leaves -/

/-- The `Request` that asks for what a command asks for. A page that is analyzed for a person to read is no
    request, and neither is showing something. -/
def Command.request? : Command → Option Request
  | .analyze hostname csp format =>
    if OutputFormat.ofText? format = some .json then some (.analyze hostname csp) else none
  | .allow hostname => some (.toggleAllowlist hostname false)
  | .disallow hostname => some (.toggleAllowlist hostname true)
  | .setThreshold n => some (.setThreshold n)
  | .setEnabled enabled => some (.toggle enabled)
  | .clearCache => some .clearCache
  | _ => none

section Effect

variable {σ α β : Type} {s : Surroundings σ} {w : Situation σ}

/-- Where `next` leaves its surroundings alone, `work >>= next` leaves them as `work` does. -/
theorem snd_perform_bind {work : Task α} {next : α → Task β}
    (h : ∀ a w, (s.perform (next a) w).2 = w) :
    (s.perform (work >>= next) w).2 = (s.perform work w).2 := by
  rw [perform_bind]
  cases s.perform work w with
  | mk result w' =>
    cases result with
    | ok a => exact h a w'
    | error e => rfl

theorem snd_perform_bind_pure (work : Task α) (f : α → β) :
    (s.perform (work >>= fun a => pure (f a)) w).2 = (s.perform work w).2 :=
  snd_perform_bind fun _ _ => rfl

theorem snd_run_handle (config : ScoringConfig) (request : Request) :
    (s.run (handle config request) w).2 = (s.perform (Message.perform config request) w).2 := by
  rw [run_handle]
  cases s.perform (Message.perform config request) w with
  | mk result w' => cases result <;> rfl

theorem Command.request?_analyze {hostname : String} {csp : Option String} {format : String}
    {request : Request} (h : (Command.analyze hostname csp format).request? = some request) :
    OutputFormat.ofText? format = some .json ∧ request = .analyze hostname csp := by
  change (if OutputFormat.ofText? format = some .json then some (Request.analyze hostname csp) else none)
    = some request at h
  by_cases hformat : OutputFormat.ofText? format = some .json
  · rw [if_pos hformat] at h
    exact ⟨hformat, (Option.some.inj h).symm⟩
  · rw [if_neg hformat] at h
    exact nomatch h

theorem Command.exists_of_request?_analyze {command : Command} {hostname : String} {csp : Option String}
    (h : command.request? = some (.analyze hostname csp)) :
    ∃ format, command = .analyze hostname csp format ∧ OutputFormat.ofText? format = some .json := by
  cases command with
  | analyze hostname' csp' format =>
    obtain ⟨hformat, hsame⟩ := Command.request?_analyze h
    obtain ⟨rfl, rfl⟩ := Request.analyze.inj hsame
    exact ⟨format, rfl, hformat⟩
  | _ => exact nomatch h

/-- A command leaves what its `Command.request?` leaves, where reading leaves the store alone. -/
theorem snd_perform_storeWork (hget : ∀ key w, (s.perform (Task.get? key) w).2 = w)
    {command : Command} {request : Request} (h : command.request? = some request)
    (config : ScoringConfig) :
    (s.perform (storeWork command config) w).2 = (s.run (handle config request) w).2 := by
  rw [snd_run_handle]
  cases command with
  | analyze hostname csp format =>
    obtain ⟨-, rfl⟩ := Command.request?_analyze h
    have hthreshold : ∀ w, (s.perform (Settings.threshold config.defaultThreshold) w).2 = w := fun w =>
      (snd_perform_bind_pure (Task.get? Settings.thresholdKey) _).trans (hget _ w)
    have hdecision : (s.perform (decision ⟨hostname, csp⟩ config) w).2
        = (s.perform (Gate.evaluate config ⟨hostname, csp⟩) w).2 :=
      snd_perform_bind fun _ w => (snd_perform_bind_pure _ _).trans (hthreshold w)
    exact ((snd_perform_bind_pure _ _).trans hdecision).trans (snd_perform_bind_pure _ _).symm
  | allow hostname =>
    obtain rfl := Option.some.inj h
    exact (snd_perform_bind fun changed _ => by cases changed <;> rfl).trans
      (snd_perform_bind_pure (Settings.setAllowlisted hostname true) _).symm
  | disallow hostname =>
    obtain rfl := Option.some.inj h
    exact (snd_perform_bind fun changed _ => by cases changed <;> rfl).trans
      (snd_perform_bind_pure (Settings.setAllowlisted hostname false) _).symm
  | setThreshold n =>
    obtain rfl := Option.some.inj h
    exact (snd_perform_bind_pure _ _).trans (snd_perform_bind_pure _ _).symm
  | setEnabled enabled =>
    obtain rfl := Option.some.inj h
    exact (snd_perform_bind_pure _ _).trans (snd_perform_bind_pure _ _).symm
  | clearCache =>
    obtain rfl := Option.some.inj h
    exact (snd_perform_bind_pure _ _).trans (snd_perform_bind_pure _ _).symm
  | _ => exact absurd h nofun

end Effect

/-! ## What analyzing a page prints -/

/-- Whether a response is a score that `RiskLevel.classify` calls high. -/
def IsHigh (threshold : UInt32) (response : Response) : Prop :=
  ∃ a, response = .scored a ∧ Float.ofNat threshold.toNat ≤ a.score

/-- Whether an output has the value of a response, and a code by `IsHigh`. -/
structure Presents (threshold : UInt32) (output : Output) (response : Response) : Prop where
  value : ∃ v, Json.readDocument output.stdout = .ok v
    ∧ Json.readDocument response.toJson.compactText = .ok v
  high : IsHigh threshold response → output.code = 1
  other : ¬ IsHigh threshold response → output.code = 0

theorem fits_toJson (response : Response) : Json.Fits Json.depthLimit response.toJson := by
  cases response with
  | marker result => simp [Response.toJson, Json.depthLimit, Json.Fits]
  | error text => simp [Response.toJson, Json.depthLimit, Json.Fits]
  | scored a =>
    simp only [Response.toJson, Assessment.toJson, Json.depthLimit, Json.Fits, List.forall_mem_cons,
      List.not_mem_nil, false_imp_iff, implies_true, and_true]
    exact ⟨Json.fits_ofFloat _ _, (Json.storable_ofStrings _ _).fits⟩

/-- The output of an analysis that is shown as JSON. -/
def analysisOutput (outcome : Outcome) (threshold : UInt32) : Output :=
  ⟨exitCode outcome threshold, (Response.ofOutcome outcome).toJson.prettyText ++ "\n", ""⟩

theorem presents_analysisOutput (outcome : Outcome) (threshold : UInt32) :
    Presents threshold (analysisOutput outcome threshold) (.ofOutcome outcome) where
  value := ⟨_, Json.readDocument_prettyLine (fits_toJson _),
    Json.readDocument_text Json.compact_prints (fits_toJson _) 0⟩
  high := by
    rintro ⟨a, hscored, hle⟩
    cases outcome with
    | scored b source =>
      obtain rfl := Response.scored.inj hscored
      simp [analysisOutput, exitCode, RiskLevel.classify, hle]
    | allowlisted => exact nomatch hscored
    | disabled => exact nomatch hscored
  other := by
    intro hlow
    cases outcome with
    | scored a source =>
      have hle : ¬ Float.ofNat threshold.toNat ≤ a.score := fun hle => hlow ⟨a, rfl, hle⟩
      simp [analysisOutput, exitCode, RiskLevel.classify, hle]
    | allowlisted => rfl
    | disabled => rfl

section Analysis

variable {σ : Type} {s : Surroundings σ} {w w₁ : Situation σ} {config : ScoringConfig}

theorem perform_storeWork_analyze {hostname format : String} {csp : Option String} {outcome : Outcome}
    {threshold : UInt32} (hformat : OutputFormat.ofText? format = some .json)
    (hevaluate : s.perform (Gate.evaluate config ⟨hostname, csp⟩) w = (.ok outcome, w₁))
    (hthreshold : s.perform (Settings.threshold config.defaultThreshold) w₁ = (.ok threshold, w₁)) :
    s.perform (storeWork (.analyze hostname csp format) config) w
      = (.ok (analysisOutput outcome threshold), w₁) := by
  have hdecision : s.perform (decision ⟨hostname, csp⟩ config) w = (.ok (outcome, threshold), w₁) := by
    rw [decision, perform_bind_of_ok hevaluate, perform_bind_of_ok hthreshold, perform_pure]
  refine (perform_bind_of_ok hdecision _).trans ?_
  rw [hformat]
  rfl

end Analysis

section Disk

variable {path : String} {source : List String → String → Reputation.Outcome} {clock : Nat → Int64}
  {w : Situation Files.Disk} {t : Table Json}

/-- `Gate.evaluate` changes nothing that `Settings.threshold` reads. -/
theorem exists_evaluate (ht : Store.entriesIn w.stored path = .ok t) (config : ScoringConfig) (page : Page) :
    ∃ outcome w₁, (onDisk path source clock).perform (Gate.evaluate config page) w = (.ok outcome, w₁)
      ∧ ∃ t₁, Store.entriesIn w₁.stored path = .ok t₁
        ∧ ∀ default, Settings.thresholdOf default (t₁.get? Settings.thresholdKey)
          = Settings.thresholdOf default (t.get? Settings.thresholdKey) := by
  obtain ⟨readings, -, hevaluate⟩ := Gate.perform_evaluate (Store.onDisk_reads source clock ht) config page
  rw [hevaluate]
  simp only
  split
  · next outcome _ => exact ⟨outcome, _, rfl, t, ht, fun _ => rfl⟩
  · obtain ⟨t₁, ht₁, hothers⟩ := Store.entriesIn_put ht (Cache.key (Hostname.normalize page.hostname))
      (CacheEntry.storable_toStored _ (.ofAssessment
        (Gate.verdict config (source w.asked) (Hostname.normalize page.hostname) page.csp)
        (clock readings)))
    refine ⟨_, _, rfl, t₁, ht₁, fun default => ?_⟩
    rcases hothers Settings.thresholdKey
      (Cache.ne_keyStart_append Cache.settingKeys_not_isKey.2.1 _) with hsame | hreread
    · rw [hsame]
    · rw [hreread, Settings.thresholdOf_reread]

variable (source clock)

/-- A page is analyzed as `Gate.evaluate` decides on it, and shown by the threshold in force before. -/
theorem exists_analysis (ht : Store.entriesIn w.stored path = .ok t) (config : ScoringConfig)
    (hostname : String) (csp : Option String) {format : String}
    (hformat : OutputFormat.ofText? format = some .json) :
    ∃ outcome w₁, (onDisk path source clock).perform (storeWork (.analyze hostname csp format) config) w
        = (.ok (analysisOutput outcome
          (Settings.thresholdOf config.defaultThreshold (t.get? Settings.thresholdKey))), w₁)
      ∧ (onDisk path source clock).run (handle config (.analyze hostname csp)) w
        = (.ofOutcome outcome, w₁) := by
  obtain ⟨outcome, w₁, hevaluate, t₁, ht₁, hsame⟩ := exists_evaluate ht config ⟨hostname, csp⟩
  have hthreshold := Settings.perform_threshold (Store.onDisk_reads source clock ht₁) config.defaultThreshold
  rw [hsame] at hthreshold
  exact ⟨outcome, w₁, perform_storeWork_analyze hformat hevaluate hthreshold,
    run_handle_analyze hevaluate⟩

theorem snd_perform_get?_onDisk (key : String) (w : Situation Files.Disk) :
    ((onDisk path source clock).perform (Task.get? key) w).2 = w := by
  cases hentries : Store.entriesIn w.stored path with
  | ok t => rw [perform_get? (Store.onDisk_reads source clock hentries)]
  | error e => rw [perform_get?_of_unreadable (Store.onDisk_unreadable source clock hentries)]

end Disk

end CommandLine

end PageRisk
