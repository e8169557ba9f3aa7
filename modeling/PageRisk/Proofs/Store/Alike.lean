import PageRisk.Proofs.Cache.Timestamps
import PageRisk.Proofs.Files.Places
import PageRisk.Proofs.Store.Faults

set_option autoImplicit false

/-! # Stores on two disks that differ in times only

Two disks with the same things at the same places hold stores that are the same but for the times of the
cached entries (`Alike`). The same operation, or the writing of two entries that differ in their times, has
the same result on both and keeps them alike, whether it succeeds or fails. -/

namespace PageRisk

/-! ## Reading anew -/

theorem CacheEntry.DifferInTime.reread {v w : Json} (h : CacheEntry.DifferInTime v w) :
    CacheEntry.DifferInTime v.reread w.reread := by
  obtain ⟨tags, score, time, time', rfl, rfl⟩ := h
  exact ⟨tags.reread, score.reread, time, time', rfl, rfl⟩

namespace Json

theorem storable_ofStrings (depth : Nat) (texts : List String) :
    Storable (depth + 1) (ofStrings texts) := by
  simp only [ofStrings, Storable, List.mem_map]
  rintro _ ⟨text, -, rfl⟩
  cases depth <;> trivial

theorem fits_ofFloat (depth : Nat) (x : Float) : Fits depth (ofFloat x) := by
  unfold ofFloat
  split <;> cases depth <;> trivial

end Json

theorem CacheEntry.storable_toStored (depth : Nat) (e : CacheEntry) :
    Json.Storable (depth + 2) e.toStored := by
  refine Json.Fits.storable_canonical ?_
  simp only [toJson, Json.Fits, List.mem_cons, List.not_mem_nil, or_false]
  rintro m (rfl | rfl | rfl)
  · exact Json.fits_ofFloat _ e.score
  · exact (Json.storable_ofStrings depth e.tags).fits
  · trivial

namespace Store

open Files

/-! ## How writing goes -/

variable {path : String} {d e : Disk} {t u : Table Json}

/-- Where `written` fails, the file keeps its entries. -/
theorem entriesIn_of_written_error {d' : Disk} {err : GuardError}
    (h : written d path t = (.error err, d')) : entriesIn d' path = entriesIn d path := by
  unfold written at h
  split at h
  · rw [(Prod.mk.inj h).2]
  · next between hwrite =>
    split at h
    · next failure hrename =>
      rw [← (Prod.mk.inj h).2]
      have hsame := Disk.SameDirectories.of_write hwrite
      have hfile := Disk.find?_of_write hwrite
      by_cases hname : HasFileName path
      · obtain ⟨location, hlocate, -, rfl⟩ := Disk.exists_of_write hwrite
        unfold entriesIn
        rw [find?_congr_temporary hname hlocate hsame fun other hother =>
          Disk.node?_put_of_ne hother _]
      · -- The temporary file is the file itself, and renaming that does not fail.
        rw [temporaryPath_eq_of_no_name hname] at hwrite hrename hfile
        obtain ⟨location, hlocate, hnode⟩ := Disk.exists_locate_of_find? hfile
        have hend : Disk.endsInSeparator path = false := by
          unfold Disk.write at hwrite
          split at hwrite
          · obtain ⟨_, -, herror⟩ := bind_eq_ok_iff.1 hwrite
            exact absurd herror nofun
          · next hno => simpa using hno
        rw [Disk.rename, Disk.locateEntry_eq_locate _ hend, hlocate] at hrename
        simp [hnode, hend] at hrename
    · exact absurd (congrArg Prod.fst h) nofun

theorem entriesIn_of_written_ok {d' : Disk} (ht : AllStorable t) (h : written d path t = (.ok (), d')) :
    entriesIn d' path = .ok (t.map Json.reread) := by
  rw [entriesIn, find?_of_written h]
  exact entriesOf_contentsOf_reread ht path

/-- A `set` of one value leaves the others as they are, or as `Json.reread` gives them. -/
theorem entriesIn_put (ht : entriesIn d path = .ok t) (key : String) {v : Json}
    (hv : Json.Storable (Json.depthLimit - 1) v) :
    ∃ t', entriesIn (onDisk path (.set (Table.empty.insert key v)) d).2 path = .ok t'
      ∧ ∀ k ≠ key, t'.get? k = t.get? k ∨ t'.get? k = (t.get? k).map Json.reread := by
  have hsingle : t.insertAll (Table.empty.insert key v).toList = t.insert key v := rfl
  rw [onDisk_set, ht]
  simp only [hsingle]
  cases hwritten : written d path (t.insert key v) with
  | mk result d' =>
    cases result with
    | error err => exact ⟨t, (entriesIn_of_written_error hwritten).trans ht, fun _ _ => .inl rfl⟩
    | ok _ =>
      refine ⟨_, entriesIn_of_written_ok ((allStorable_of_entriesIn ht).insert hv) hwritten,
        fun k hk => .inr ?_⟩
      rw [Table.get?_map, Table.get?_insert_of_ne t v hk]

/-! ## Two disks -/

/-- Whether two disks hold stores with `Cache.SameButTimes`, and else differ in the contents of files at
    most. -/
structure Alike (path : String) (d e : Disk) : Prop where
  places : Disk.SamePlaces d e
  entries : ∃ t u, entriesIn d path = .ok t ∧ entriesIn e path = .ok u ∧ Cache.SameButTimes t u

/-- How `written` goes, and where it leaves files, does not depend on the entries. -/
theorem written_samePlaces (h : Disk.SamePlaces d e) (path : String) (t u : Table Json) :
    (written d path t).1 = (written e path u).1
      ∧ Disk.SamePlaces (written d path t).2 (written e path u).2 := by
  unfold written
  rcases (h.write (temporaryPath path) (contentsOf t) (contentsOf u)).cases with
    ⟨d', e', hd, he, hbetween⟩ | ⟨err, hd, he⟩
  · simp only [hd, he]
    rcases (hbetween.rename (temporaryPath path) path).cases with
      ⟨d'', e'', hd', he', hafter⟩ | ⟨err, hd', he'⟩
    · simp only [hd', he']
      exact ⟨trivial, hafter⟩
    · simp only [hd', he']
      exact ⟨trivial, hbetween⟩
  · simp only [hd, he]
    exact ⟨trivial, h⟩

/-- Tables with `Cache.SameButTimes` are `written` with the same result, and leave disks that are
    `Alike`. -/
theorem Alike.written (h : Alike path d e) (ht : AllStorable t) (hu : AllStorable u)
    (htu : Cache.SameButTimes t u) :
    ∃ result d' e', written d path t = (result, d') ∧ written e path u = (result, e')
      ∧ Alike path d' e' := by
  obtain ⟨hresult, hplaces⟩ := written_samePlaces h.places path t u
  cases hd : Store.written d path t with
  | mk result d' =>
    cases he : Store.written e path u with
    | mk result' e' =>
      rw [hd, he] at hresult hplaces
      obtain rfl : result = result' := hresult
      refine ⟨result, d', e', rfl, rfl, hplaces, ?_⟩
      cases result with
      | ok _ =>
        exact ⟨_, _, entriesIn_of_written_ok ht hd, entriesIn_of_written_ok hu he,
          htu.map fun _ _ hvw => hvw.reread⟩
      | error err =>
        obtain ⟨told, uold, hdold, heold, hold⟩ := h.entries
        exact ⟨told, uold, (entriesIn_of_written_error hd).trans hdold,
          (entriesIn_of_written_error he).trans heold, hold⟩

/-- A `set` of one value keeps disks `Alike` where the two values are the same or
    `CacheEntry.DifferInTime`. -/
theorem Alike.put (h : Alike path d e) (key : String) {v w : Json}
    (hv : Json.Storable (Json.depthLimit - 1) v) (hw : Json.Storable (Json.depthLimit - 1) w)
    (hvw : v = w ∨ Cache.isKey key = true ∧ CacheEntry.DifferInTime v w) :
    ∃ result d' e', onDisk path (.set (Table.empty.insert key v)) d = (result, d')
      ∧ onDisk path (.set (Table.empty.insert key w)) e = (result, e') ∧ Alike path d' e' := by
  obtain ⟨t, u, ht, hu, htu⟩ := h.entries
  have hsingle : ∀ (x : Table Json) (v : Json),
      x.insertAll (Table.empty.insert key v).toList = x.insert key v := fun _ _ => rfl
  rw [onDisk_set, onDisk_set, ht, hu]
  simp only [hsingle]
  refine h.written ((allStorable_of_entriesIn ht).insert hv) ((allStorable_of_entriesIn hu).insert hw)
    fun k => ?_
  by_cases hk : k = key
  · rw [hk, Table.get?_insert_self, Table.get?_insert_self]
    rcases hvw with rfl | ⟨hkey, hdiffer⟩
    · exact .inl rfl
    · exact .inr ⟨hkey, v, w, rfl, rfl, hdiffer⟩
  · rw [Table.get?_insert_of_ne t v hk, Table.get?_insert_of_ne u w hk]
    exact htu k

theorem Alike.keys (h : Alike path d e) :
    ∃ keys, onDisk path .keys d = (.ok keys, d) ∧ onDisk path .keys e = (.ok keys, e) := by
  obtain ⟨t, u, ht, hu, htu⟩ := h.entries
  rw [onDisk_keys, onDisk_keys, ht, hu]
  exact ⟨t.keys, rfl, by rw [htu.keys_eq]⟩

theorem Alike.remove (h : Alike path d e) (keys : List String) :
    ∃ result d' e', onDisk path (.remove keys) d = (result, d')
      ∧ onDisk path (.remove keys) e = (result, e') ∧ Alike path d' e' := by
  obtain ⟨t, u, ht, hu, htu⟩ := h.entries
  have hsame : t.eraseAll keys = t ↔ u.eraseAll keys = u := by
    rw [Table.eraseAll_eq_self_iff, Table.eraseAll_eq_self_iff]
    refine forall₂_congr fun k _ => ?_
    rw [← Option.isNone_iff_eq_none, ← Option.isNone_iff_eq_none, ← Option.not_isSome,
      ← Option.not_isSome, htu.isSome_get?_eq]
  rw [onDisk_remove, onDisk_remove, ht, hu]
  simp only [hsame]
  by_cases hnone : u.eraseAll keys = u
  · rw [if_pos hnone, if_pos hnone]
    exact ⟨_, d, e, rfl, rfl, h⟩
  · rw [if_neg hnone, if_neg hnone]
    exact h.written ((allStorable_of_entriesIn ht).eraseAll keys)
      ((allStorable_of_entriesIn hu).eraseAll keys) (htu.eraseAll keys)

end Store

end PageRisk
