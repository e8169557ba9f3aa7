import PageRisk.Proofs.Message.Desk

set_option autoImplicit false

/-! # What a store holds after any lines

A dispatcher writes each key in one form only: a truth value, an integer of 32 bits, the keys of some
hosts in order, or an entry under the key of a host. `Sound` says that a store in memory holds nothing
else. Every request keeps this, and so does every sequence of lines, whatever they are
(`run_answerLine_sound`). In a sound store no setting has its default in place of what is stored, and
every entry of the cache can be read (`Sound.heeded`). -/

namespace PageRisk.Store

/-! ## Sound stores -/

/-- Whether a value is of the form that is written under a key. -/
inductive Proper : String → Json → Prop where
  | enabled (b : Bool) : Proper Settings.enabledKey (.bool b)
  | threshold (n : WireInt) (nonneg : 0 ≤ n.value) (lt : n.value < 4294967296) :
    Proper Settings.thresholdKey (.number (.integer n))
  | allowlist (hosts : List String) (ascending : hosts.Pairwise (· < ·))
    (normal : ∀ host ∈ hosts, ∃ text, Hostname.normalize text = host) :
    Proper Settings.allowlistKey (.array (hosts.map .string))
  | cached (text : String) (value : Json) (entry : CacheEntry)
    (read : CacheEntry.ofStored? value = some entry) (finite : entry.score.isFinite = true) :
    Proper (Cache.keyStart ++ Hostname.normalize text) value

/-- Whether every value of a table is `Proper` under its key. -/
def Sound (t : Table Json) : Prop :=
  ∀ k v, t.get? k = some v → Proper k v

/-- Whether all readings of a table find what it holds: no setting counts as its default instead, and no
    entry of the cache as missing. -/
structure Heeded (t : Table Json) : Prop where
  enabled : ∀ v, t.get? Settings.enabledKey = some v → v = .bool (Settings.enabledOf (some v))
  threshold : ∀ v, t.get? Settings.thresholdKey = some v →
    ∀ default, v = .ofUInt32 (Settings.thresholdOf default (some v))
  /-- A host is listed where one of the stored names stands for it. -/
  allowlist : ∀ v, t.get? Settings.allowlistKey = some v →
    ∃ names, v = .ofStrings names ∧ ∀ host,
      ((Settings.allowlistOf (some v)).get? host).isSome ↔ ∃ name ∈ names, Hostname.normalize name = host
  /-- Every key of an entry is that of an entry that is read. -/
  entries : (Cache.entriesOf t).map (fun e => Cache.keyStart ++ e.1) = t.keys.filter Cache.isKey

/-! ## Values by their keys -/

namespace Proper

variable {v : Json}

theorem eq_bool (h : Proper Settings.enabledKey v) : ∃ b, v = .bool b := by
  generalize hk : Settings.enabledKey = k at h
  cases h with
  | enabled b => exact ⟨b, rfl⟩
  | threshold | allowlist => exact absurd hk (by decide)
  | cached => exact absurd hk (Cache.ne_keyStart_append Cache.settingKeys_not_isKey.1 _)

theorem eq_integer (h : Proper Settings.thresholdKey v) : ∃ n : UInt32, v = .ofUInt32 n := by
  generalize hk : Settings.thresholdKey = k at h
  cases h with
  | threshold n nonneg lt =>
    obtain ⟨value, lower, upper⟩ := n
    have hlt : value.toNat < UInt32.size := (Int.toNat_lt nonneg).2 lt
    have hn : ((UInt32.ofNat value.toNat).toNat : Int) = value := by
      rw [UInt32.toNat_ofNat_of_lt' hlt, Int.toNat_of_nonneg nonneg]
    refine ⟨UInt32.ofNat value.toNat, ?_⟩
    simp only [Json.ofUInt32, hn]
  | enabled | allowlist => exact absurd hk (by decide)
  | cached => exact absurd hk (Cache.ne_keyStart_append Cache.settingKeys_not_isKey.2.1 _)

theorem eq_strings (h : Proper Settings.allowlistKey v) : ∃ hosts, v = .ofStrings hosts := by
  generalize hk : Settings.allowlistKey = k at h
  cases h with
  | allowlist hosts => exact ⟨hosts, rfl⟩
  | enabled | threshold => exact absurd hk (by decide)
  | cached => exact absurd hk (Cache.ne_keyStart_append Cache.settingKeys_not_isKey.2.2 _)

theorem isSome_ofStored? {k : String} (h : Proper k v) (hkey : Cache.isKey k = true) :
    (CacheEntry.ofStored? v).isSome := by
  cases h with
  | cached text value entry read => rw [read]; rfl
  | enabled => exact absurd hkey (by simp [Cache.settingKeys_not_isKey.1])
  | threshold => exact absurd hkey (by simp [Cache.settingKeys_not_isKey.2.1])
  | allowlist => exact absurd hkey (by simp [Cache.settingKeys_not_isKey.2.2])

theorem ofUInt32 (n : UInt32) : Proper Settings.thresholdKey (.ofUInt32 n) :=
  .threshold _ (Int.natCast_nonneg _) (Int.ofNat_lt.2 n.toNat_lt)

theorem allowlistJson {hosts : TextSet}
    (h : ∀ host ∈ hosts.keys, ∃ text, Hostname.normalize text = host) :
    Proper Settings.allowlistKey (Settings.allowlistJson hosts) :=
  .allowlist hosts.keys (List.pairwise_map.2 hosts.ascending) h

theorem toStored (host : String) {entry : CacheEntry} (h : entry.score.isFinite = true) :
    Proper (Cache.key host) entry.toStored :=
  .cached host entry.toStored entry (CacheEntry.ofStored?_toStored h) h

end Proper

/-! ## Readings of a sound store -/

namespace Sound

variable {t : Table Json}

/-- In a `Sound` table every stored entry is among those that `Cache.entriesOf` reads. -/
theorem keys_entriesOf (h : Sound t) :
    (Cache.entriesOf t).map (fun e => Cache.keyStart ++ e.1) = t.keys.filter Cache.isKey := by
  have hall : ∀ e ∈ t.toList, Proper e.1 e.2 := fun e he => h e.1 e.2 ((t.get?_eq_some_iff e.1 e.2).2 he)
  rw [Cache.entriesOf, Table.keys]
  generalize t.toList = entries at hall
  induction entries with
  | nil => rfl
  | cons e rest ih =>
    obtain ⟨k, v⟩ := e
    have hrest := ih fun e he => hall e (List.mem_cons_of_mem _ he)
    rw [List.filterMap_cons, List.map_cons]
    cases hkey : Cache.isKey k with
    | false => simpa [hkey] using hrest
    | true =>
      obtain ⟨entry, hentry⟩ :=
        Option.isSome_iff_exists.1 ((hall (k, v) List.mem_cons_self).isSome_ofStored? hkey)
      simpa [hkey, hentry, Cache.keyStart_append_hostOf hkey] using hrest

theorem heeded (h : Sound t) : Heeded t where
  enabled v hv := by
    obtain ⟨b, rfl⟩ := (h _ v hv).eq_bool
    rfl
  threshold v hv default := by
    obtain ⟨n, rfl⟩ := (h _ v hv).eq_integer
    rw [Settings.thresholdOf_ofUInt32]
  allowlist v hv := by
    obtain ⟨names, rfl⟩ := (h _ v hv).eq_strings
    exact ⟨names, rfl, Settings.isSome_allowlistOf_ofStrings names⟩
  entries := h.keys_entriesOf

/-! ## Writes -/

theorem empty : Sound Table.empty := fun k v hv => by simp at hv

theorem insert (h : Sound t) {k : String} {v : Json} (hv : Proper k v) : Sound (t.insert k v) := by
  intro k' v' hget
  rw [Table.get?_insert] at hget
  by_cases hk : k' = k
  · rw [if_pos hk, Option.some.injEq] at hget
    rw [hk, ← hget]
    exact hv
  · rw [if_neg hk] at hget
    exact h k' v' hget

theorem cleared (h : Sound t) : Sound (Cache.cleared t) := by
  intro k v hget
  rw [Cache.get?_cleared] at hget
  split at hget
  · simp at hget
  · exact h k v hget

/-- `Settings.afterListing` writes a list of keys whatever was stored before, as names are brought to their
    keys each time the list is read. -/
theorem afterListing (h : Sound t) (host : String) (listed : Bool) :
    Sound (Settings.afterListing t host listed) := by
  simp only [Settings.afterListing]
  split
  · exact h
  · refine h.insert (.allowlistJson fun name hname => ?_)
    rw [Table.mem_keys_iff] at hname
    cases listed with
    | true =>
      rw [if_pos rfl, Table.get?_insert] at hname
      by_cases hkey : name = Hostname.normalize host
      · exact ⟨host, hkey.symm⟩
      · rw [if_neg hkey] at hname
        exact Settings.exists_normalize_of_isSome hname
    | false =>
      rw [if_neg (by decide), Table.get?_erase] at hname
      by_cases hkey : name = Hostname.normalize host
      · simp [hkey] at hname
      · rw [if_neg hkey] at hname
        exact Settings.exists_normalize_of_isSome hname

end Sound

end PageRisk.Store

namespace PageRisk.Message

open Surroundings
open Store (Sound)

section Run

variable {config : ScoringConfig} {source : List String → String → Reputation.Outcome}
  {clock : Nat → Int64}

/-! ## One request -/

/-- `Gate.evaluate` writes only a fresh assessment, which has a finite score. -/
theorem evaluate_sound
    (hfinite : ∀ asked url csp,
      (config.blend.combine (Csp.analyze csp) (source asked url)).score.isFinite = true)
    (page : Page) {w : Situation (Table Json)} (h : Sound w.stored) :
    ∃ outcome w', (inMemory source clock).perform (Gate.evaluate config page) w = (.ok outcome, w')
      ∧ Sound w'.stored := by
  obtain ⟨readings, -, hperform⟩ :=
    Gate.perform_evaluate (inMemory_reads source clock w.stored) config page
  rw [hperform]
  simp only
  cases Gate.standing config.cacheMaxAge w.stored ((inMemory source clock).clock w.readings)
      (Hostname.normalize page.hostname) with
  | some outcome => exact ⟨outcome, _, rfl, h⟩
  | none =>
    refine ⟨_, _, rfl, ?_⟩
    rw [Gate.afterFresh_inMemory]
    exact h.insert (.toStored _ (verdict_isFinite hfinite w.asked _ page.csp))

theorem handle_sound
    (hfinite : ∀ asked url csp,
      (config.blend.combine (Csp.analyze csp) (source asked url)).score.isFinite = true)
    (request : Request) {w : Situation (Table Json)} (h : Sound w.stored) :
    Sound ((inMemory source clock).run (handle config request) w).2.stored := by
  cases request with
  | analyze hostname csp =>
    obtain ⟨outcome, w', hperform, hsound⟩ := evaluate_sound hfinite ⟨hostname, csp⟩ h
    rw [run_handle_analyze hperform]
    exact hsound
  | toggle enabled => exact h.insert (.enabled enabled)
  | toggleAllowlist hostname enabled =>
    rw [run_handle_toggleAllowlist]
    exact h.afterListing hostname !enabled
  | setThreshold threshold => exact h.insert (.ofUInt32 threshold)
  | clearCache => exact h.cleared

/-! ## Any lines -/

/-- `answerLine` keeps a table `Sound`; a line that is no request leaves it as it is. -/
theorem answerLine_sound
    (hfinite : ∀ asked url csp,
      (config.blend.combine (Csp.analyze csp) (source asked url)).score.isFinite = true)
    (line : String) {w : Situation (Table Json)} (h : Sound w.stored) :
    Sound ((inMemory source clock).run (answerLine config line) w).2.stored := by
  rw [answerLine, run_andThen, run_done]
  cases hline : Request.ofLine line with
  | error description => rw [run_respond_of_error hline]; exact h
  | ok request => rw [respond_of_ofLine hline]; exact handle_sound hfinite request h

end Run

/-- After `answerLine` for any lines, an empty store in memory holds nothing but `Proper` values under their
    keys, and each of them counts wherever it is read (`Heeded`). Every blend with an answer that
    `Reputation.scoreBody` read from a body is finite. -/
theorem run_answerLine_sound {config : ScoringConfig}
    {source : List String → String → Reputation.Outcome} (clock : Nat → Int64)
    (hfinite : ∀ asked url csp,
      (config.blend.combine (Csp.analyze csp) (source asked url)).score.isFinite = true)
    (lines : List String) :
    let stored := ((inMemory source clock).run (lines.mapM (answerLine config))
      { stored := Table.empty }).2.stored
    Store.Sound stored ∧ Store.Heeded stored
      ∧ ∀ csp body, (config.blend.combine (Csp.analyze csp)
          (Reputation.scoreBody body)).score.isFinite = true := by
  intro stored
  have hsound : Store.Sound stored :=
    run_mapM_induction (P := fun w => Sound w.stored) (fun line w h => answerLine_sound hfinite line h)
      lines Sound.empty
  exact ⟨hsound, hsound.heeded, fun csp body => Magnitude.combine_scoreBody_isFinite config csp body⟩

/-- Some lines, of which two are no requests. -/
def someLines : List String :=
  ["\x7b\"hostname\":\"www.Example.com\"\x7d", "not a request",
    "\x7b\"type\":\"toggle-allowlist\",\"hostname\":\"b.org\",\"enabled\":false\x7d",
    "\x7b\"type\":\"toggle-allowlist\",\"hostname\":\"https://A.org/\",\"enabled\":false\x7d",
    "\x7b\"type\":\"set-threshold\",\"threshold\":4294967296\x7d",
    "\x7b\"type\":\"set-threshold\",\"threshold\":4294967295\x7d"]

theorem someLines_sound :
    let stored := ((inMemory emptyAnswers fun _ => 0).run (someLines.mapM (answerLine {}))
      { stored := Table.empty }).2.stored
    stored.keys = ["allowlist", "cache:example.com", "threshold"]
      ∧ Store.Sound stored ∧ Store.Heeded stored := by
  intro stored
  have hfinite : ∀ (asked : List String) (url : String) (csp : Option String),
      (({} : ScoringConfig).blend.combine (Csp.analyze csp)
        (emptyAnswers asked url)).score.isFinite = true :=
    fun _ _ csp => Magnitude.combine_scoreBody_isFinite {} csp ""
  have hsound := run_answerLine_sound (fun _ => 0) hfinite someLines
  exact ⟨by decide +kernel, hsound.1, hsound.2.1⟩

end PageRisk.Message
