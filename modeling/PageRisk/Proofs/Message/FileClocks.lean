import PageRisk.Proofs.Message.Handling
import PageRisk.Proofs.Store.Alike

set_option autoImplicit false

/-! # Requests over a store in a file, under two clocks

Where entries do not age, work over two disks with stores that are alike has the same result under two
clocks, asks for the same URLs and leaves such disks (`Agrees`). This holds of every request
(`agrees_perform`), so of any sequence of them (`run_mapM_alike`), also where some writing fails. -/

namespace PageRisk.Message

open Surroundings Files

/-- Whether two situations are the same but for the times of cached entries in the store at `path`. -/
structure Alike (path : String) (w w' : Situation Disk) : Prop where
  stored : Store.Alike path w.stored w'.stored
  asked : w.asked = w'.asked

section

variable (path : String) (source : List String → String → Reputation.Outcome)
  (clock clock' : Nat → Int64)

/-- Whether `work` has the same result in situations that are `Alike`, and leaves such situations. -/
def Agrees {α : Type} (work : Task α) : Prop :=
  ∀ ⦃w w' : Situation Disk⦄, Alike path w w' → ∃ result w₁ w₁',
    (onDisk path source clock).perform work w = (result, w₁)
      ∧ (onDisk path source clock').perform work w' = (result, w₁') ∧ Alike path w₁ w₁'

variable {path source clock clock'}

theorem agrees_pure {α : Type} (a : α) : Agrees path source clock clock' (pure a) :=
  fun w w' h => ⟨.ok a, w, w', rfl, rfl, h⟩

theorem Agrees.bind {α β : Type} {work : Task α} {next : α → Task β}
    (hwork : Agrees path source clock clock' work)
    (hnext : ∀ a, Agrees path source clock clock' (next a)) :
    Agrees path source clock clock' (work >>= next) := by
  intro w w' h
  obtain ⟨result, w₁, w₁', hw, hw', h₁⟩ := hwork h
  rw [perform_bind, perform_bind, hw, hw']
  cases result with
  | ok a => exact hnext a h₁
  | error e => exact ⟨.error e, w₁, w₁', rfl, rfl, h₁⟩

/-! ## Operations -/

/-- `Task.get?` of a key without `Cache.isKey` is the same in situations that are `Alike`. -/
theorem agrees_get? {key : String} (hkey : Cache.isKey key = false) :
    Agrees path source clock clock' (Task.get? key) := by
  intro w w' h
  obtain ⟨t, u, ht, hu, htu⟩ := h.stored.entries
  refine ⟨.ok (t.get? key), w, w', perform_get? (Store.onDisk_reads source clock ht) key, ?_, h⟩
  rw [htu.get?_eq hkey]
  exact perform_get? (Store.onDisk_reads source clock' hu) key

theorem agrees_put (key : String) {value : Json}
    (hvalue : Json.Storable (Json.depthLimit - 1) value) :
    Agrees path source clock clock' (Task.put key value) := by
  intro w w' h
  obtain ⟨result, d', e', hd, he, hafter⟩ := h.stored.put key hvalue hvalue (.inl rfl)
  refine ⟨result, { w with stored := d' }, { w' with stored := e' }, ?_, ?_, hafter, h.asked⟩
  · exact congrArg (fun r => (r.1, { w with stored := r.2 })) hd
  · exact congrArg (fun r => (r.1, { w' with stored := r.2 })) he

theorem agrees_keys : Agrees path source clock clock' (Task.store .keys) := by
  intro w w' h
  obtain ⟨keys, hd, he⟩ := h.stored.keys
  refine ⟨.ok keys, w, w', ?_, ?_, h⟩
  · exact congrArg (fun r => (r.1, { w with stored := r.2 })) hd
  · exact congrArg (fun r => (r.1, { w' with stored := r.2 })) he

theorem agrees_remove (keys : List String) :
    Agrees path source clock clock' (Task.store (.remove keys)) := by
  intro w w' h
  obtain ⟨result, d', e', hd, he, hafter⟩ := h.stored.remove keys
  refine ⟨result, { w with stored := d' }, { w' with stored := e' }, ?_, ?_, hafter, h.asked⟩
  · exact congrArg (fun r => (r.1, { w with stored := r.2 })) hd
  · exact congrArg (fun r => (r.1, { w' with stored := r.2 })) he

/-! ## Settings and cache -/

theorem agrees_setEnabled (b : Bool) : Agrees path source clock clock' (Settings.setEnabled b) :=
  agrees_put _ (by simp [Json.depthLimit, Json.Storable])

theorem agrees_setThreshold (n : UInt32) :
    Agrees path source clock clock' (Settings.setThreshold n) :=
  agrees_put _ (by simp [Json.depthLimit, Json.Storable, Json.ofUInt32])

theorem agrees_setAllowlisted (host : String) (listed : Bool) :
    Agrees path source clock clock' (Settings.setAllowlisted host listed) := by
  refine Agrees.bind ((agrees_get? Cache.settingKeys_not_isKey.2.2).bind fun stored => agrees_pure _)
    fun hosts => ?_
  by_cases hchanged : (Settings.isListed hosts host != listed) = true
  · simp only [hchanged, if_true]
    exact (agrees_put _ (Json.storable_ofStrings _ _)).bind fun _ => agrees_pure _
  · simp only [hchanged]
    exact agrees_pure _

theorem agrees_clear : Agrees path source clock clock' Cache.clear :=
  (agrees_keys.bind fun _ => agrees_pure _).bind fun found =>
    (agrees_remove found).bind fun _ => agrees_pure _

/-- `Gate.evaluate` reads the clock only to write down when it decided. -/
theorem agrees_evaluate {config : ScoringConfig} (hage : config.cacheMaxAge = none) (page : Page) :
    Agrees path source clock clock' (Gate.evaluate config page) := by
  intro w w' h
  obtain ⟨t, u, ht, hu, htu⟩ := h.stored.entries
  obtain ⟨readings, hreadings, hw⟩ :=
    Gate.perform_evaluate (Store.onDisk_reads source clock ht) config page
  obtain ⟨readings', hreadings', hw'⟩ :=
    Gate.perform_evaluate (Store.onDisk_reads source clock' hu) config page
  have hstanding := (htu.readAlike (fun _ _ hvw => hvw.assessment?_eq)
    (Hostname.normalize page.hostname)).standing_eq (clock w.readings) (clock' w'.readings)
  rw [hw, hw', hage]
  simp only [onDisk] at hstanding ⊢
  rw [hstanding]
  cases Gate.standing none u (clock' w'.readings) (Hostname.normalize page.hostname) with
  | some outcome => exact ⟨.ok outcome, _, _, rfl, rfl, h.stored, h.asked⟩
  | none =>
    -- The same assessment is made in both situations, and is written down with its time.
    have hput := fun a : Assessment => h.stored.put (Cache.key (Hostname.normalize page.hostname))
      (CacheEntry.storable_toStored _ (.ofAssessment a (clock readings)))
      (CacheEntry.storable_toStored _ (.ofAssessment a (clock' readings')))
      (.inr ⟨Cache.isKey_keyStart_append _, CacheEntry.differInTime_toStored _ _ _⟩)
    obtain ⟨result, d', e', hd, he, hafter⟩ := hput (Gate.verdict config (source w.asked)
      (Hostname.normalize page.hostname) page.csp)
    rw [← h.asked]
    refine ⟨_, _, _, rfl, rfl, ?_, rfl⟩
    exact (congrArg₂ (Store.Alike path) (congrArg Prod.snd hd) (congrArg Prod.snd he)).mpr hafter

/-! ## Requests -/

theorem agrees_perform {config : ScoringConfig} (hage : config.cacheMaxAge = none) (request : Request) :
    Agrees path source clock clock' (perform config request) := by
  cases request with
  | analyze hostname csp => exact (agrees_evaluate hage _).bind fun _ => agrees_pure _
  | toggle enabled => exact (agrees_setEnabled enabled).bind fun _ => agrees_pure _
  | toggleAllowlist hostname enabled =>
    exact (agrees_setAllowlisted hostname !enabled).bind fun _ => agrees_pure _
  | setThreshold threshold => exact (agrees_setThreshold threshold).bind fun _ => agrees_pure _
  | clearCache => exact agrees_clear.bind fun _ => agrees_pure _

variable (source clock clock')

/-- `handle` gives the same response under both clocks, and keeps two situations `Alike`. -/
theorem handle_alike {config : ScoringConfig} (hage : config.cacheMaxAge = none) (request : Request)
    {w w' : Situation Disk} (h : Alike path w w') :
    ∃ response w₁ w₁', (onDisk path source clock).run (handle config request) w = (response, w₁)
      ∧ (onDisk path source clock').run (handle config request) w' = (response, w₁')
      ∧ Alike path w₁ w₁' := by
  obtain ⟨result, w₁, w₁', hw, hw', h₁⟩ := agrees_perform hage request h
  rw [run_handle, run_handle, hw, hw']
  cases result with
  | ok response => exact ⟨response, w₁, w₁', rfl, rfl, h₁⟩
  | error e => exact ⟨.ofError e, w₁, w₁', rfl, rfl, h₁⟩

/-- After `handle` there is still a store that can be read. -/
theorem exists_entries_handle {config : ScoringConfig} (hage : config.cacheMaxAge = none)
    (request : Request) {w : Situation Disk} {t : Table Json}
    (ht : Store.entriesIn w.stored path = .ok t) :
    ∃ t₁, Store.entriesIn ((onDisk path source clock).run (handle config request) w).2.stored path
      = .ok t₁ := by
  have hself : Alike path w w := ⟨⟨.refl _, t, t, ht, ht, .refl t⟩, rfl⟩
  obtain ⟨response, w₁, w₁', hrun, -, halike⟩ := handle_alike source clock clock hage request hself
  obtain ⟨t₁, u₁, ht₁, -⟩ := halike.stored.entries
  rw [hrun]
  exact ⟨t₁, ht₁⟩

/-- Without a `cacheMaxAge`, the clock decides nothing but the times of entries, over any sequence of
    requests. -/
theorem run_mapM_alike {config : ScoringConfig} (hage : config.cacheMaxAge = none)
    (requests : List Request) {w w' : Situation Disk} (h : Alike path w w') :
    ∃ responses w₁ w₁',
      (onDisk path source clock).run (requests.mapM (handle config)) w = (responses, w₁)
      ∧ (onDisk path source clock').run (requests.mapM (handle config)) w' = (responses, w₁')
      ∧ Alike path w₁ w₁' := by
  induction requests generalizing w w' with
  | nil => exact ⟨[], w, w', rfl, rfl, h⟩
  | cons request rest ih =>
    obtain ⟨response, w₁, w₁', hrun, hrun', hsame⟩ := handle_alike source clock clock' hage request h
    obtain ⟨responses, w₂, w₂', hrest, hrest', hend⟩ := ih hsame
    refine ⟨response :: responses, w₂, w₂', ?_, ?_, hend⟩
    · rw [run_mapM_cons, hrun, hrest]
    · rw [run_mapM_cons, hrun', hrest']

end

end PageRisk.Message
