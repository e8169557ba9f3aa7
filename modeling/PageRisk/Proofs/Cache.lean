import PageRisk.Cache
import PageRisk.Proofs.Json.Decoder
import PageRisk.Proofs.Services
import PageRisk.Settings

set_option autoImplicit false

/-! # Cached entries read back

An entry with a finite score is read back whole from the value that is stored for it
(`CacheEntry.ofStored?_toStored`). Over a store in memory and without a greatest age, the cache is then
a map from the keys of hosts to entries, and clearing it leaves all other keys alone. -/

namespace PageRisk

/-! ## Lists of texts as JSON -/

namespace Json

theorem canonicalItems_map_string (texts : List String) :
    canonicalItems (texts.map string) = texts.map string := by
  induction texts with
  | nil => rfl
  | cons text rest ih => rw [List.map_cons, canonicalItems, canonical, ih]

theorem canonical_ofStrings (texts : List String) : (ofStrings texts).canonical = ofStrings texts := by
  rw [ofStrings, canonical, canonicalItems_map_string]

theorem canonical_ofFloat (x : Float) : (ofFloat x).canonical = ofFloat x := by
  unfold ofFloat
  split <;> rfl

theorem allValues_string (texts : List String) :
    Decoder.allValues Decoder.string.fromValue (texts.map string) = .ok texts := by
  induction texts with
  | nil => rfl
  | cons text rest ih =>
    have hhead : Decoder.string.fromValue (string text) = .ok text := rfl
    rw [List.map_cons, Decoder.allValues, hhead]
    simp only [ih]
    rfl

theorem strings_fromValue_ofStrings (texts : List String) :
    (Decoder.list Decoder.string).fromValue (ofStrings texts) = .ok texts :=
  allValues_string texts

theorem float_fromValue_ofFloat {x : Float} (h : x.isFinite = true) :
    Decoder.float.fromValue (ofFloat x) = .ok x := by
  rw [ofFloat, if_pos h]
  rfl

theorem int64_fromValue_ofInt64 (n : Int64) :
    Decoder.int64.fromValue (ofInt64 n) = .ok n := by
  have hlo : -9223372036854775808 ≤ n.toInt := n.le_toInt
  have hhi : n.toInt < 9223372036854775808 := n.toInt_lt
  simp [Decoder.int64, Decoder.integer, Decoder.number, ofInt64, hlo, hhi]

end Json

/-! ## Entries -/

namespace CacheEntry

theorem toStored_eq (e : CacheEntry) :
    e.toStored = .object [("reasonTags", .ofStrings e.tags), ("score", .ofFloat e.score),
      ("timestamp", .ofInt64 e.timestamp)] := by
  have htime : (Json.ofInt64 e.timestamp).canonical = .ofInt64 e.timestamp := rfl
  have hscore (score : Json) : Table.place "score" score [] = [("score", score)] := rfl
  have htags (tags score : Json) : Table.place "reasonTags" tags [("score", score)]
      = [("reasonTags", tags), ("score", score)] := by
    rw [Table.place, if_neg (by decide), if_pos (by decide)]
  have hlast (time tags score : Json) :
      Table.place "timestamp" time [("reasonTags", tags), ("score", score)]
        = [("reasonTags", tags), ("score", score), ("timestamp", time)] := by
    rw [Table.place, if_neg (by decide), if_neg (by decide), Table.place, if_neg (by decide),
      if_neg (by decide), Table.place]
  simp only [toStored, toJson, Json.canonical, Json.canonicalMembers, Json.canonical_ofFloat,
    Json.canonical_ofStrings, htime, hscore, htags, hlast]

/-- `CacheEntry.decoder` reads the parts of an entry in the order of their names. -/
theorem decoder_fromValue (tags score : Json) (time : Int64) :
    decoder.fromValue (.object [("reasonTags", tags), ("score", score), ("timestamp", .ofInt64 time)])
      = ((Json.Decoder.list Json.Decoder.string).fromValue tags).bind fun tags =>
          (Json.Decoder.float.fromValue score).map fun score => ⟨score, tags, time⟩ := by
  have htime := Json.int64_fromValue_ofInt64 time
  rw [decoder, Json.Decoder.Form.record_fromValue_object,
    Json.Decoder.Form.fieldsFromMembers_cons_field rfl rfl]
  cases (Json.Decoder.list Json.Decoder.string).fromValue tags with
  | error cause => rfl
  | ok tags =>
    simp only [Except.bind]
    rw [Json.Decoder.Form.fieldsFromMembers_cons_field rfl rfl]
    cases Json.Decoder.float.fromValue score with
    | error cause => rfl
    | ok score =>
      simp only [Except.bind]
      rw [Json.Decoder.Form.fieldsFromMembers_cons_field rfl rfl, htime]
      rfl

/-- `ofStored?` reads an entry back from what is stored for it. A score that is not finite would be stored
    as null and not be read. -/
theorem ofStored?_toStored {e : CacheEntry} (h : e.score.isFinite = true) :
    ofStored? e.toStored = some e := by
  have hread : decoder.fromValue e.toStored = .ok e := by
    rw [toStored_eq, decoder_fromValue, Json.strings_fromValue_ofStrings,
      Json.float_fromValue_ofFloat h]
    rfl
  rw [ofStored?, hread]

end CacheEntry

/-! ## The cache over a store in memory -/

namespace Cache

open Surroundings

theorem isKey_keyStart_append (host : String) : isKey (keyStart ++ host) = true := by
  rw [isKey, String.toList_append, List.isPrefixOf_iff_prefix]
  exact List.prefix_append _ _

theorem keyStart_append_hostOf {k : String} (h : isKey k = true) : keyStart ++ hostOf k = k := by
  obtain ⟨rest, hrest⟩ := List.isPrefixOf_iff_prefix.1 h
  rw [hostOf, ← hrest, List.drop_left]
  exact String.toList_injective (by simpa using hrest)

/-- None of the keys of `Settings` is the key of an entry. -/
theorem settingKeys_not_isKey :
    isKey Settings.enabledKey = false ∧ isKey Settings.thresholdKey = false
      ∧ isKey Settings.allowlistKey = false := by decide

theorem ne_keyStart_append {k : String} (h : isKey k = false) (host : String) :
    k ≠ keyStart ++ host := by
  rintro rfl
  rw [isKey_keyStart_append] at h
  exact Bool.noConfusion h

/-- The table without the keys of entries (`isKey`). -/
def cleared (stored : Table Json) : Table Json :=
  stored.eraseAll (stored.keys.filter isKey)

theorem get?_cleared (stored : Table Json) (k : String) :
    (cleared stored).get? k = if isKey k then none else stored.get? k := by
  rw [cleared, Table.get?_eraseAll]
  by_cases hkey : isKey k = true
  · rw [if_pos hkey]
    by_cases hmem : k ∈ stored.keys
    · rw [if_pos (List.mem_filter.2 ⟨hmem, hkey⟩)]
    · have hnone : stored.get? k = none := by
        rw [Table.mem_keys_iff] at hmem
        simpa using hmem
      rw [hnone, ite_self]
  · rw [if_neg hkey, if_neg fun hmem => hkey (List.mem_filter.1 hmem).2]

/-! ## Looking up over a store that can be read -/

/-- The entry of a host that counts at a time: it can be read and is not `isExpired`. -/
def found (maxAge : Option UInt64) (t : Table Json) (time : Int64) (host : String) :
    Option CacheEntry :=
  ((t.get? (key host)).bind CacheEntry.ofStored?).filter fun e => !isExpired maxAge e.timestamp time

/-- Without a greatest age, `found` gives every entry that can be read, at all times. -/
theorem found_none (t : Table Json) (time : Int64) (host : String) :
    found none t time host = (t.get? (key host)).bind CacheEntry.ofStored? := by
  unfold found
  cases (t.get? (key host)).bind CacheEntry.ofStored? <;> rfl

/-- The assessment in the entry of a host, if there is one that can be read. -/
def kept? (t : Table Json) (host : String) : Option Assessment :=
  ((t.get? (key host)).bind CacheEntry.ofStored?).map CacheEntry.assessment

/-- `Cache.get` gives what is `found`. It reads the clock at most, and without a greatest age not even
    that. -/
theorem perform_get {σ : Type} {s : Surroundings σ} {w : Situation σ} {t : Table Json}
    (h : s.Reads w.stored t) (maxAge : Option UInt64) (host : String) :
    ∃ readings, (maxAge = none → readings = w.readings)
      ∧ s.perform (get maxAge host) w
        = (.ok (found maxAge t (s.clock w.readings) host), { w with readings := readings }) := by
  rw [get, perform_bind_of_ok (perform_get? h (key host)), found]
  cases (t.get? (key host)).bind CacheEntry.ofStored? with
  | none => exact ⟨w.readings, fun _ => rfl, rfl⟩
  | some entry =>
    cases maxAge with
    | none => exact ⟨w.readings, fun _ => rfl, rfl⟩
    | some seconds =>
      refine ⟨w.readings + 1, fun hnone => absurd hnone (by simp), ?_⟩
      simp only [Option.isNone_some, Bool.false_eq_true, if_false, Option.filter_some]
      rw [perform_bind_of_ok (perform_now s w), perform_pure]
      cases isExpired (some seconds) entry.timestamp (s.clock w.readings) <;> rfl

section Memory

variable (source : List String → String → Reputation.Outcome) (clock : Nat → Int64)
  (w : Situation (Table Json))

@[simp] theorem perform_put (host : String) (entry : CacheEntry) :
    (inMemory source clock).perform (put host entry) w
      = (.ok (), { w with stored := w.stored.insert (key host) entry.toStored }) := rfl

@[simp] theorem perform_clear :
    (inMemory source clock).perform clear w
      = (.ok (w.stored.keys.filter isKey).length, { w with stored := cleared w.stored }) := rfl

end Memory

end Cache

end PageRisk
