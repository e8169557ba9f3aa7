import PageRisk.Proofs.Gate

set_option autoImplicit false

/-! # Stores that differ in times only

The time of an entry is the one thing in a store that the clock decides. Two stores are alike where each
key has the same value in both, or is the key of an entry with values that are related (`AlikeBy`); most
writes keep this, whatever the relation is. Two stores in memory are the same up to the times of their
entries (`SameUpToTime`) where the related values are entries with the same assessment. After a store
was written to a file and read again, an entry may be another one, but still two entries differ in their
times at most (`SameButTimes`). Such stores decide alike on every page. -/

namespace PageRisk

/-! ## Entries that differ in times only -/

namespace CacheEntry

/-- What `toStored` makes of an entry, by what is stored of its tags, its score and its time. -/
def storedParts (tags score : Json) (time : Int64) : Json :=
  .object [("reasonTags", tags), ("score", score), ("timestamp", .ofInt64 time)]

theorem toStored_eq_storedParts (e : CacheEntry) :
    e.toStored = storedParts (.ofStrings e.tags) (.ofFloat e.score) e.timestamp :=
  e.toStored_eq

/-- Whether two values are `storedParts` with times of their own and nothing else different. -/
def DifferInTime (v w : Json) : Prop :=
  ∃ tags score time time', v = storedParts tags score time ∧ w = storedParts tags score time'

theorem differInTime_toStored (a : Assessment) (time time' : Int64) :
    DifferInTime (ofAssessment a time).toStored (ofAssessment a time').toStored :=
  ⟨_, _, time, time', toStored_eq_storedParts _, toStored_eq_storedParts _⟩

/-- The time has no part in whether `ofStored?` reads an entry, and as which assessment. -/
theorem assessment?_storedParts (tags score : Json) (time time' : Int64) :
    (ofStored? (storedParts tags score time)).map assessment
      = (ofStored? (storedParts tags score time')).map assessment := by
  rw [ofStored?, ofStored?, storedParts, storedParts, decoder_fromValue, decoder_fromValue]
  cases (Json.Decoder.list Json.Decoder.string).fromValue tags with
  | error e => rfl
  | ok tags => cases Json.Decoder.float.fromValue score <;> rfl

theorem DifferInTime.assessment?_eq {v w : Json} (h : DifferInTime v w) :
    (ofStored? v).map assessment = (ofStored? w).map assessment := by
  obtain ⟨tags, score, time, time', rfl, rfl⟩ := h
  exact assessment?_storedParts tags score time time'

end CacheEntry

namespace Cache

/-! ## Tables with related entries -/

/-- Whether two tables are the same but for values under keys of entries that `R` relates. -/
def AlikeBy (R : Json → Json → Prop) (t u : Table Json) : Prop :=
  ∀ k, t.get? k = u.get? k
    ∨ isKey k = true ∧ ∃ v w, t.get? k = some v ∧ u.get? k = some w ∧ R v w

namespace AlikeBy

variable {R : Json → Json → Prop} {t u : Table Json}

theorem refl (t : Table Json) : AlikeBy R t t := fun _ => .inl rfl

theorem get?_eq (h : AlikeBy R t u) {k : String} (hk : isKey k = false) :
    t.get? k = u.get? k := by
  rcases h k with heq | ⟨hkey, -⟩
  · exact heq
  · rw [hk] at hkey
    exact Bool.noConfusion hkey

theorem isSome_get?_eq (h : AlikeBy R t u) (k : String) : (t.get? k).isSome = (u.get? k).isSome := by
  rcases h k with heq | ⟨-, v, w, hv, hw, -⟩
  · rw [heq]
  · rw [hv, hw]
    rfl

/-- Where `R` relates entries that are read as the same assessment only, tables that are `AlikeBy R` decide
    alike on all pages. -/
theorem readAlike (h : AlikeBy R t u)
    (hR : ∀ v w, R v w →
      (CacheEntry.ofStored? v).map CacheEntry.assessment
        = (CacheEntry.ofStored? w).map CacheEntry.assessment)
    (host : String) : Gate.ReadAlike t u host where
  enabled := h.get?_eq settingKeys_not_isKey.1
  allowlist := h.get?_eq settingKeys_not_isKey.2.2
  kept := by
    unfold kept?
    rcases h (key host) with heq | ⟨-, v, w, hv, hw, hvw⟩
    · rw [heq]
    · rw [hv, hw]
      exact hR v w hvw

theorem insert (h : AlikeBy R t u) (key : String) (value : Json) :
    AlikeBy R (t.insert key value) (u.insert key value) := by
  intro k
  by_cases hk : k = key
  · left
    rw [hk, Table.get?_insert_self, Table.get?_insert_self]
  · rw [Table.get?_insert_of_ne t value hk, Table.get?_insert_of_ne u value hk]
    exact h k

theorem insertEntry (h : AlikeBy R t u) (host : String) {v w : Json} (hvw : R v w) :
    AlikeBy R (t.insert (key host) v) (u.insert (key host) w) := by
  intro k
  by_cases hk : k = key host
  · right
    rw [hk, Table.get?_insert_self, Table.get?_insert_self]
    exact ⟨isKey_keyStart_append _, v, w, rfl, rfl, hvw⟩
  · rw [Table.get?_insert_of_ne t _ hk, Table.get?_insert_of_ne u _ hk]
    exact h k

theorem cleared (h : AlikeBy R t u) : AlikeBy R (cleared t) (Cache.cleared u) := by
  intro k
  left
  rw [get?_cleared, get?_cleared]
  by_cases hk : isKey k = true
  · rw [if_pos hk, if_pos hk]
  · rw [if_neg hk, if_neg hk]
    exact h.get?_eq (by simpa using hk)

theorem afterListing (h : AlikeBy R t u) (host : String) (listed : Bool) :
    AlikeBy R (Settings.afterListing t host listed) (Settings.afterListing u host listed) := by
  unfold Settings.afterListing
  rw [h.get?_eq settingKeys_not_isKey.2.2]
  by_cases hlisted : Settings.isListed (Settings.allowlistOf (u.get? Settings.allowlistKey)) host
      = listed
  · simp only [hlisted, if_true]
    exact h
  · simp only [hlisted, if_false]
    exact h.insert _ _

theorem eraseAll (h : AlikeBy R t u) (keys : List String) :
    AlikeBy R (t.eraseAll keys) (u.eraseAll keys) := by
  intro k
  rw [Table.get?_eraseAll, Table.get?_eraseAll]
  split
  · exact .inl rfl
  · exact h k

theorem keys_eq (h : AlikeBy R t u) : t.keys = u.keys := by
  have hunits : t.map (fun _ => ()) = u.map fun _ => () := by
    refine Table.ext_get? fun k => ?_
    have hsome := h.isSome_get?_eq k
    rw [Table.get?_map, Table.get?_map]
    cases ht : t.get? k <;> cases hu : u.get? k <;> simp_all
  rw [← Table.keys_map (fun _ => ()) t, hunits, Table.keys_map]

/-- A function of values that keeps `R` keeps `AlikeBy R`. -/
theorem map (h : AlikeBy R t u) {f : Json → Json} (hf : ∀ v w, R v w → R (f v) (f w)) :
    AlikeBy R (t.map f) (u.map f) := by
  intro k
  rw [Table.get?_map, Table.get?_map]
  rcases h k with heq | ⟨hk, v, w, hv, hw, hvw⟩
  · exact .inl (by rw [heq])
  · exact .inr ⟨hk, f v, f w, by rw [hv]; rfl, by rw [hw]; rfl, hf v w hvw⟩

end AlikeBy

/-! ## Tables that are the same up to times -/

/-- Whether two tables are the same up to the times of the cached entries. -/
def SameUpToTime (t u : Table Json) : Prop :=
  ∀ k, t.get? k = u.get? k
    ∨ isKey k = true ∧ ∃ (a : Assessment) (time time' : Int64),
        t.get? k = some (CacheEntry.ofAssessment a time).toStored
          ∧ u.get? k = some (CacheEntry.ofAssessment a time').toStored

/-- Whether two values are the stored entries of one assessment. -/
def SameAssessment (v w : Json) : Prop :=
  ∃ (a : Assessment) (time time' : Int64), v = (CacheEntry.ofAssessment a time).toStored
    ∧ w = (CacheEntry.ofAssessment a time').toStored

theorem SameAssessment.differInTime {v w : Json} (h : SameAssessment v w) :
    CacheEntry.DifferInTime v w := by
  obtain ⟨a, time, time', rfl, rfl⟩ := h
  exact CacheEntry.differInTime_toStored a time time'

theorem sameUpToTime_iff {t u : Table Json} : SameUpToTime t u ↔ AlikeBy SameAssessment t u := by
  refine forall_congr' fun k => or_congr_right (and_congr_right fun _ => ⟨?_, ?_⟩)
  · rintro ⟨a, time, time', ht, hu⟩
    exact ⟨_, _, ht, hu, a, time, time', rfl, rfl⟩
  · rintro ⟨_, _, ht, hu, a, time, time', rfl, rfl⟩
    exact ⟨a, time, time', ht, hu⟩

namespace SameUpToTime

theorem refl (t : Table Json) : SameUpToTime t t := fun _ => .inl rfl

variable {t u : Table Json}

/-- Tables with `SameUpToTime` decide alike on all pages. -/
theorem readAlike (h : SameUpToTime t u) (host : String) : Gate.ReadAlike t u host :=
  (sameUpToTime_iff.1 h).readAlike (fun _ _ hvw => hvw.differInTime.assessment?_eq) host

theorem insert (h : SameUpToTime t u) (key : String) (value : Json) :
    SameUpToTime (t.insert key value) (u.insert key value) :=
  sameUpToTime_iff.2 ((sameUpToTime_iff.1 h).insert key value)

/-- The same assessment may be stored at different times, and `SameUpToTime` is kept. -/
theorem insertEntry (h : SameUpToTime t u) (host : String) (a : Assessment) (time time' : Int64) :
    SameUpToTime (t.insert (key host) (CacheEntry.ofAssessment a time).toStored)
      (u.insert (key host) (CacheEntry.ofAssessment a time').toStored) :=
  sameUpToTime_iff.2 ((sameUpToTime_iff.1 h).insertEntry host ⟨a, time, time', rfl, rfl⟩)

theorem cleared (h : SameUpToTime t u) : SameUpToTime (cleared t) (Cache.cleared u) :=
  sameUpToTime_iff.2 (sameUpToTime_iff.1 h).cleared

theorem afterListing (h : SameUpToTime t u) (host : String) (listed : Bool) :
    SameUpToTime (Settings.afterListing t host listed) (Settings.afterListing u host listed) :=
  sameUpToTime_iff.2 ((sameUpToTime_iff.1 h).afterListing host listed)

end SameUpToTime

/-! ## Tables that differ in times only -/

/-- Whether two tables are `AlikeBy` the times of entries. Unlike in `SameUpToTime`, these may have been
    read back from a file. -/
abbrev SameButTimes (t u : Table Json) : Prop :=
  AlikeBy CacheEntry.DifferInTime t u

end Cache

end PageRisk
