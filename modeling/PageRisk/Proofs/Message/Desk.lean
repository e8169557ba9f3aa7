import Mathlib.Data.Finset.Insert
import Mathlib.Data.Finset.Erase
import PageRisk.Proofs.Magnitude
import PageRisk.Proofs.Message.Handling

set_option autoImplicit false

/-! # The dispatcher as a machine of sets and maps

What a dispatcher over a store in memory does can be told without keys and without JSON: a *desk* holds a
switch, a set of hosts, a threshold and a map from hosts to assessments, and answers requests from these.
`Shows` says when a store stands for a desk. Each request keeps this relation and gets the same response
from both (`handle_shows`), and so does every sequence of requests
(`responses_eq_desk_responses`). -/

namespace PageRisk.Message

open Surroundings
open Cache (ne_keyStart_append settingKeys_not_isKey)

/-! ## The desk -/

/-- What a dispatcher remembers between two requests. -/
structure Desk where
  enabled : Bool := true
  /-- The hosts that are left alone, by their keys. -/
  allowed : Finset String := ∅
  threshold : UInt32
  /-- The assessments that were made, by the keys of their hosts. -/
  cached : String → Option Assessment := fun _ => none
  /-- The URLs that were asked, the latest first: what the source of reputation answers may depend on
      them. -/
  asked : List String := []

namespace Desk

/-- The answer to `Request.analyze` for a host. -/
def analyze (config : ScoringConfig) (source : List String → String → Reputation.Outcome)
    (host : String) (csp : Option String) (d : Desk) : Response × Desk :=
  if d.enabled = false then (.marker .disabled, d)
  else if host ∈ d.allowed then (.marker .allowlisted, d)
  else match d.cached host with
    | some a => (.scored a, d)
    | none =>
      let a := Gate.verdict config (source d.asked) host csp
      (.scored a, { d with
        cached := Function.update d.cached host (some a)
        asked := Gate.questions config host csp ++ d.asked })

/-- The answer to a request, and the `Desk` afterwards. -/
def answer (config : ScoringConfig) (source : List String → String → Reputation.Outcome) :
    Request → StateM Desk Response
  | .analyze hostname csp => analyze config source (Hostname.normalize hostname) csp
  | .toggle enabled => fun d => (.done, { d with enabled := enabled })
  | .toggleAllowlist hostname enabled => fun d =>
    let host := Hostname.normalize hostname
    (.done, { d with allowed := if enabled then d.allowed.erase host else insert host d.allowed })
  | .setThreshold threshold => fun d => (.done, { d with threshold := threshold })
  | .clearCache => fun d => (.done, { d with cached := fun _ => none })

end Desk

/-! ## Stores that stand for a desk -/

/-- Whether a situation stands for a `Desk`: every reading of its store gives what the desk holds, and the
    same URLs were asked. -/
structure Shows (config : ScoringConfig) (w : Situation (Table Json)) (d : Desk) : Prop where
  enabled : Settings.enabledOf (w.stored.get? Settings.enabledKey) = d.enabled
  threshold : Settings.thresholdOf config.defaultThreshold
    (w.stored.get? Settings.thresholdKey) = d.threshold
  allowed : ∀ host, ((Settings.allowlistOf (w.stored.get? Settings.allowlistKey)).get? host).isSome
    ↔ host ∈ d.allowed
  /-- The hosts are their own keys, so that the list reads the same after it was written again. -/
  normalized : ∀ host ∈ d.allowed, Hostname.normalize host = host
  cached : ∀ host, ((w.stored.get? (Cache.keyStart ++ host)).bind CacheEntry.ofStored?).map
    CacheEntry.assessment = d.cached host
  asked : w.asked = d.asked

/-- `Table.empty` stands for the desk at the start. -/
theorem shows_start (config : ScoringConfig) :
    Shows config { stored := Table.empty } { threshold := config.defaultThreshold } where
  enabled := rfl
  threshold := rfl
  allowed host := by simp [Settings.allowlistOf]
  normalized host h := by simp at h
  cached host := rfl
  asked := rfl

/-! ## Single readings -/

section Step

variable {config : ScoringConfig} {source : List String → String → Reputation.Outcome}
  {clock : Nat → Int64} {w : Situation (Table Json)} {d : Desk}

theorem Shows.isListed_eq (h : Shows config w d) {host : String}
    (hkey : Hostname.normalize host = host) :
    Settings.isListed (Settings.allowlistOf (w.stored.get? Settings.allowlistKey)) host
      = decide (host ∈ d.allowed) := by
  rw [Settings.isListed, hkey, Bool.eq_iff_iff, h.allowed, decide_eq_true_iff]

/-! ## Writes -/

/-- A write to a key that no reading looks at but one leaves the other readings as they were; the five
    lemmas below are the five keys that are written. -/
theorem Shows.toggled (h : Shows config w d) (enabled : Bool) :
    Shows config { w with stored := w.stored.insert Settings.enabledKey (.bool enabled) }
      { d with enabled := enabled } where
  enabled := by rw [Table.get?_insert_self, Settings.enabledOf]
  threshold := by rw [Table.get?_insert_of_ne _ _ (by decide)]; exact h.threshold
  allowed host := by rw [Table.get?_insert_of_ne _ _ (by decide)]; exact h.allowed host
  normalized := h.normalized
  cached host := by
    rw [Table.get?_insert_of_ne _ _ (ne_keyStart_append settingKeys_not_isKey.1 host).symm]
    exact h.cached host
  asked := h.asked

theorem Shows.thresholdSet (h : Shows config w d) (n : UInt32) :
    Shows config { w with stored := w.stored.insert Settings.thresholdKey (.ofUInt32 n) }
      { d with threshold := n } where
  enabled := by rw [Table.get?_insert_of_ne _ _ (by decide)]; exact h.enabled
  threshold := by rw [Table.get?_insert_self, Settings.thresholdOf_ofUInt32]
  allowed host := by rw [Table.get?_insert_of_ne _ _ (by decide)]; exact h.allowed host
  normalized := h.normalized
  cached host := by
    rw [Table.get?_insert_of_ne _ _ (ne_keyStart_append settingKeys_not_isKey.2.1 host).symm]
    exact h.cached host
  asked := h.asked

/-- A list of hosts that are their own keys stands for these hosts once `Settings.allowlistJson` of it is
    written. -/
theorem Shows.listWritten (h : Shows config w d) {hosts : TextSet} {allowed : Finset String}
    (hmem : ∀ host, host ∈ hosts.keys ↔ host ∈ allowed)
    (hkeys : ∀ host ∈ allowed, Hostname.normalize host = host) :
    Shows config
      { w with stored := w.stored.insert Settings.allowlistKey (Settings.allowlistJson hosts) }
      { d with allowed := allowed } where
  enabled := by rw [Table.get?_insert_of_ne _ _ (by decide)]; exact h.enabled
  threshold := by rw [Table.get?_insert_of_ne _ _ (by decide)]; exact h.threshold
  allowed host := by
    have hnames : ∀ name ∈ hosts.keys, Hostname.normalize name = name := fun name hname =>
      hkeys name ((hmem name).1 hname)
    rw [Table.get?_insert_self, Settings.isSome_allowlistOf_of_normalized hnames, hmem]
  normalized := hkeys
  cached host := by
    rw [Table.get?_insert_of_ne _ _ (ne_keyStart_append settingKeys_not_isKey.2.2 host).symm]
    exact h.cached host
  asked := h.asked

/-- `Settings.afterListing` puts a host on the set or takes it off, whether the list had to be written or
    not. -/
theorem Shows.listed (h : Shows config w d) {host : String}
    (hkey : Hostname.normalize (Hostname.normalize host) = Hostname.normalize host) (listed : Bool) :
    Shows config { w with stored := Settings.afterListing w.stored host listed }
      { d with allowed := if listed then insert (Hostname.normalize host) d.allowed
          else d.allowed.erase (Hostname.normalize host) } := by
  have hlisted : Settings.isListed
      (Settings.allowlistOf (w.stored.get? Settings.allowlistKey)) host
      = decide (Hostname.normalize host ∈ d.allowed) := by
    rw [Settings.isListed, Bool.eq_iff_iff, h.allowed, decide_eq_true_iff]
  unfold Settings.afterListing
  by_cases hsame : Settings.isListed
      (Settings.allowlistOf (w.stored.get? Settings.allowlistKey)) host = listed
  · -- Nothing is written, and the set on the desk does not change either.
    have hallowed : (if listed then insert (Hostname.normalize host) d.allowed
        else d.allowed.erase (Hostname.normalize host)) = d.allowed := by
      rw [hlisted] at hsame
      cases listed with
      | true => exact Finset.insert_eq_of_mem (of_decide_eq_true hsame)
      | false => exact Finset.erase_eq_of_notMem (of_decide_eq_false hsame)
    simp only [hsame, if_true, hallowed]
    exact h
  · simp only [hsame, if_false]
    refine h.listWritten (fun name => ?_) fun name hname => ?_
    · cases listed with
      | true =>
        simp only [if_true, Table.mem_keys_iff, Table.get?_insert, Finset.mem_insert, ← h.allowed]
        by_cases hname : name = Hostname.normalize host <;> simp [hname]
      | false =>
        simp only [Bool.false_eq_true, if_false, Table.mem_keys_iff, Table.get?_erase,
          Finset.mem_erase, ← h.allowed]
        by_cases hname : name = Hostname.normalize host <;> simp [hname]
    · cases listed with
      | true =>
        rcases Finset.mem_insert.1 hname with rfl | hname
        · exact hkey
        · exact h.normalized name hname
      | false => exact h.normalized name (Finset.mem_of_mem_erase hname)

theorem Shows.cacheCleared (h : Shows config w d) :
    Shows config { w with stored := Cache.cleared w.stored } { d with cached := fun _ => none } where
  enabled := by rw [Cache.get?_cleared, settingKeys_not_isKey.1]; exact h.enabled
  threshold := by rw [Cache.get?_cleared, settingKeys_not_isKey.2.1]; exact h.threshold
  allowed host := by rw [Cache.get?_cleared, settingKeys_not_isKey.2.2]; exact h.allowed host
  normalized := h.normalized
  cached host := by rw [Cache.get?_cleared, Cache.isKey_keyStart_append]; rfl
  asked := h.asked

/-- The entry of a host that is its own key is the assessment of that host, and of no other. -/
theorem Shows.remembered (h : Shows config w d) {host : String}
    (hkey : Hostname.normalize host = host) (entry : CacheEntry)
    (hfinite : entry.score.isFinite = true) :
    Shows config { w with stored := w.stored.insert (Cache.key host) entry.toStored }
      { d with cached := Function.update d.cached host (some entry.assessment) } := by
  have hplace : Cache.key host = Cache.keyStart ++ host := by rw [Cache.key, hkey]
  rw [hplace]
  have hkeep : ∀ {k : String}, Cache.isKey k = false →
      (w.stored.insert (Cache.keyStart ++ host) entry.toStored).get? k = w.stored.get? k :=
    fun hk => Table.get?_insert_of_ne _ _ (ne_keyStart_append hk host)
  exact {
    enabled := by rw [hkeep settingKeys_not_isKey.1]; exact h.enabled
    threshold := by rw [hkeep settingKeys_not_isKey.2.1]; exact h.threshold
    allowed := fun other => by rw [hkeep settingKeys_not_isKey.2.2]; exact h.allowed other
    normalized := h.normalized
    cached := fun other => by
      by_cases hother : other = host
      · rw [hother, Table.get?_insert_self, Option.bind_some,
          CacheEntry.ofStored?_toStored hfinite]
        exact (Function.update_self host (some entry.assessment) d.cached).symm
      · have hne : Cache.keyStart ++ other ≠ Cache.keyStart ++ host := fun heq =>
          hother ((String.append_right_inj Cache.keyStart).1 heq)
        rw [Table.get?_insert_of_ne _ _ hne]
        exact (h.cached other).trans (Function.update_of_ne hother _ d.cached).symm
    asked := h.asked }

/-! ## One request -/

/-- Whether `Hostname.normalize` brings the host names of a request to their keys once and for all: the key
    of the key is the key. -/
def Settled : Request → Prop
  | .analyze hostname _ | .toggleAllowlist hostname _ =>
    Hostname.normalize (Hostname.normalize hostname) = Hostname.normalize hostname
  | _ => True

/-- `Gate.verdict` is finite where every blend with what the source may answer is. -/
theorem verdict_isFinite
    (hfinite : ∀ asked url csp,
      (config.blend.combine (Csp.analyze csp) (source asked url)).score.isFinite = true)
    (asked : List String) (host : String) (csp : Option String) :
    (Gate.verdict config (source asked) host csp).score.isFinite = true := by
  simp only [Gate.verdict]
  split
  · exact (Magnitude.analyze_isBelow csp).isFinite
  · exact hfinite asked _ csp

/-- `Request.analyze` is answered as by `Desk.analyze`, and the situation then stands for the desk
    afterwards. -/
theorem analyze_shows (hage : config.cacheMaxAge = none)
    (hfinite : ∀ asked url csp,
      (config.blend.combine (Csp.analyze csp) (source asked url)).score.isFinite = true)
    (h : Shows config w d) {hostname : String}
    (hkey : Hostname.normalize (Hostname.normalize hostname) = Hostname.normalize hostname)
    (csp : Option String) :
    ∃ w', (inMemory source clock).run (handle config (.analyze hostname csp)) w
        = ((d.analyze config source (Hostname.normalize hostname) csp).1, w')
      ∧ Shows config w' (d.analyze config source (Hostname.normalize hostname) csp).2 := by
  have hperform : ∀ {outcome w'},
      (inMemory source clock).perform (Gate.evaluate config ⟨hostname, csp⟩) w = (.ok outcome, w') →
      (inMemory source clock).run (handle config (.analyze hostname csp)) w
        = (.ofOutcome outcome, w') := run_handle_analyze
  -- All that a decision looks at is on the desk.
  have hcached := h.cached (Hostname.normalize hostname)
  rw [Gate.perform_evaluate_inMemory source clock hage] at hperform
  simp only [Gate.standing, Cache.found_none, h.enabled, h.isListed_eq hkey, Cache.key, hkey]
    at hperform
  unfold Desk.analyze
  cases henabled : d.enabled with
  | false =>
    simp only [henabled, if_true] at hperform ⊢
    exact ⟨w, hperform rfl, h⟩
  | true =>
    by_cases hmem : Hostname.normalize hostname ∈ d.allowed
    · simp only [henabled, reduceCtorEq, if_false, hmem, decide_true, if_true] at hperform ⊢
      exact ⟨w, hperform rfl, h⟩
    · simp only [henabled, reduceCtorEq, if_false, hmem, decide_false] at hperform ⊢
      cases hentry : (w.stored.get? (Cache.keyStart ++ Hostname.normalize hostname)).bind
          CacheEntry.ofStored? with
      | some entry =>
        rw [hentry, Option.map_some] at hcached
        simp only [hentry, Option.map_some, ← hcached] at hperform ⊢
        exact ⟨w, hperform rfl, h⟩
      | none =>
        rw [hentry, Option.map_none] at hcached
        simp only [hentry, Option.map_none, ← hcached, ← h.asked] at hperform ⊢
        refine ⟨_, hperform rfl, ?_⟩
        have hkept := h.remembered hkey
          (.ofAssessment (Gate.verdict config (source w.asked) (Hostname.normalize hostname) csp)
            (clock w.readings))
          (verdict_isFinite hfinite w.asked _ csp)
        exact ⟨hkept.enabled.trans henabled, hkept.threshold, hkept.allowed, hkept.normalized,
          hkept.cached, rfl⟩

/-- `handle` answers a request as `Desk.answer` does, and the situation then stands for the desk
    afterwards. -/
theorem handle_shows (clock : Nat → Int64) (hage : config.cacheMaxAge = none)
    (hfinite : ∀ asked url csp,
      (config.blend.combine (Csp.analyze csp) (source asked url)).score.isFinite = true)
    (h : Shows config w d) {request : Request} (hsettled : Settled request) :
    ∃ w', (inMemory source clock).run (handle config request) w
        = ((Desk.answer config source request d).1, w')
      ∧ Shows config w' (Desk.answer config source request d).2 := by
  cases request with
  | analyze hostname csp => exact analyze_shows hage hfinite h hsettled csp
  | toggle enabled => exact ⟨_, run_handle_of_ok rfl, h.toggled enabled⟩
  | toggleAllowlist hostname enabled =>
    have hlisted := h.listed hsettled !enabled
    refine ⟨_, run_handle_toggleAllowlist source clock hostname enabled w, ?_⟩
    cases enabled <;> exact hlisted
  | setThreshold threshold => exact ⟨_, run_handle_of_ok rfl, h.thresholdSet threshold⟩
  | clearCache => exact ⟨_, run_handle_of_ok rfl, h.cacheCleared⟩

end Step

/-! ## Any sequence of requests -/

/-- From a situation that `Shows` a desk, `handle` answers a sequence of requests as `Desk.answer` does. -/
theorem run_shows {config : ScoringConfig} {source : List String → String → Reputation.Outcome}
    (clock : Nat → Int64) (hage : config.cacheMaxAge = none)
    (hfinite : ∀ asked url csp,
      (config.blend.combine (Csp.analyze csp) (source asked url)).score.isFinite = true)
    (requests : List Request) (hsettled : ∀ request ∈ requests, Settled request)
    {w : Situation (Table Json)} {d : Desk} (h : Shows config w d) :
    ∃ w', (inMemory source clock).run (requests.mapM (handle config)) w
        = ((requests.mapM (Desk.answer config source) d).1, w')
      ∧ Shows config w' (requests.mapM (Desk.answer config source) d).2 := by
  induction requests generalizing w d with
  | nil => exact ⟨w, rfl, h⟩
  | cons request rest ih =>
    obtain ⟨w₁, hrun, hshows⟩ :=
      handle_shows clock hage hfinite h (hsettled request List.mem_cons_self)
    obtain ⟨w₂, hrest, hend⟩ := ih (fun r hr => hsettled r (List.mem_cons_of_mem _ hr)) hshows
    refine ⟨w₂, ?_, ?_⟩
    · rw [run_mapM_cons, hrun, hrest, List.mapM_cons]
      rfl
    · rw [List.mapM_cons]
      exact hend

/-- `handle` over an empty store in memory gives the responses of `Desk.answer`, for every sequence of
    requests; and its store stands for the desk at the end, so that the threshold it would classify by is
    that of the desk. Every blend with an answer that `Reputation.scoreBody` read from a body is finite. -/
theorem responses_eq_desk_responses {config : ScoringConfig}
    {source : List String → String → Reputation.Outcome} (clock : Nat → Int64)
    (hage : config.cacheMaxAge = none)
    (hfinite : ∀ asked url csp,
      (config.blend.combine (Csp.analyze csp) (source asked url)).score.isFinite = true)
    (requests : List Request) (hsettled : ∀ request ∈ requests, Settled request) :
    let ran := (inMemory source clock).run (requests.mapM (handle config)) { stored := Table.empty }
    let onDesk := requests.mapM (Desk.answer config source) { threshold := config.defaultThreshold }
    ran.1 = onDesk.1 ∧ Shows config ran.2 onDesk.2
      ∧ ∀ csp body, (config.blend.combine (Csp.analyze csp)
          (Reputation.scoreBody body)).score.isFinite = true := by
  obtain ⟨w', hrun, hshows⟩ := run_shows clock hage hfinite requests hsettled (shows_start config)
  intro ran onDesk
  have hran : ran = (onDesk.1, w') := hrun
  rw [hran]
  exact ⟨rfl, hshows, fun csp body => Magnitude.combine_scoreBody_isFinite config csp body⟩

/-- Some requests about one host, under two of its names. -/
def oneHost : List Request :=
  [.analyze "www.Example.com." none, .analyze "example.com" (some "script-src *"),
    .toggleAllowlist "example.com" false, .analyze "https://example.com/a" none, .clearCache,
    .setThreshold 7, .toggle false, .analyze "example.com" none]

theorem oneHost_settled : ∀ request ∈ oneHost, Settled request := by
  simp only [oneHost, List.forall_mem_cons, Settled]
  refine ⟨?_, ?_, ?_, ?_, trivial, trivial, trivial, ?_, by simp⟩ <;> decide +kernel

/-- A source whose every answer has an empty body. -/
def emptyAnswers : List String → String → Reputation.Outcome :=
  fun _ _ => Reputation.scoreBody ""

theorem oneHost_responses :
    let ran := (inMemory emptyAnswers fun _ => 0).run (oneHost.mapM (handle {}))
      { stored := Table.empty }
    let onDesk := oneHost.mapM (Desk.answer {} emptyAnswers)
      { threshold := ({} : ScoringConfig).defaultThreshold }
    (∀ request ∈ oneHost, Settled request) ∧ ran.1 = onDesk.1 ∧ Shows {} ran.2 onDesk.2 := by
  have hfinite : ∀ (asked : List String) (url : String) (csp : Option String),
      (({} : ScoringConfig).blend.combine (Csp.analyze csp)
        (emptyAnswers asked url)).score.isFinite = true :=
    fun _ _ csp => Magnitude.combine_scoreBody_isFinite {} csp ""
  have hresponses := responses_eq_desk_responses (fun _ => 0) rfl hfinite oneHost oneHost_settled
  exact ⟨oneHost_settled, hresponses.1, hresponses.2.1⟩

end PageRisk.Message
