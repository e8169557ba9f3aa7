import PageRisk.Proofs.Cache.Entries
import PageRisk.Proofs.Gate.Footprint
import PageRisk.Proofs.Store.Alike

set_option autoImplicit false

/-! # Clearing the cache

Clearing lists the keys of the store, picks out those that start like the keys of entries, and removes them
in one operation. Where this works, nothing of the cache is left (`Emptied`, `emptied_of_shows`), over any
store that can be read. What else the store holds is left as it is by a store in memory, and read anew by
one in a file, which changes floating-point numbers at most (`clear_empties`). -/

namespace PageRisk

theorem Store.onDisk_shows {d : Files.Disk} {path : String} {t : Table Json}
    (h : entriesIn d path = .ok t) (source : List String → String → Reputation.Outcome)
    (clock : Nat → Int64) : (Surroundings.onDisk path source clock).Shows d t where
  reads := onDisk_reads source clock h
  keys := by
    show onDisk path .keys d = _
    rw [onDisk_keys, h]

namespace Cache

open Surroundings

/-! ## Nothing left -/

/-- What is found in a situation in which no entry of the cache is left. -/
structure Emptied {σ : Type} (s : Surroundings σ) (w : Situation σ) : Prop where
  entries : s.perform Cache.entries w = (.ok [], w)
  get : ∀ maxAge host, s.perform (Cache.get maxAge host) w = (.ok none, w)
  /-- Clearing once more removes nothing and changes nothing. -/
  clear : s.perform Cache.clear w = (.ok 0, w)
  /-- `Gate.evaluate` assesses every page that is neither disabled nor left alone. -/
  evaluate : ∀ config page, ∃ outcome w', s.perform (Gate.evaluate config page) w = (.ok outcome, w')
    ∧ (outcome ≠ .disabled → outcome ≠ .allowlisted → outcome.IsFresh)

section Shows

variable {σ : Type} {s : Surroundings σ} {w : Situation σ} {t : Table Json}

theorem emptied_of_shows (h : s.Shows w.stored t) (hnone : ∀ k, isKey k = true → t.get? k = none)
    (hremove : s.store (.remove []) w.stored = (.ok (), w.stored)) : Emptied s w where
  entries := by
    have hlisting : listing t = Table.empty := by
      refine Table.ext_get? fun host => ?_
      rw [get?_listing, hnone _ (isKey_keyStart_append host), Option.bind_none, Table.get?_empty]
    rw [perform_entries h, hlisting]
    rfl
  get maxAge host := by
    have hget : s.perform (Task.get? (key host)) w = (.ok none, w) := by
      rw [perform_get? h.reads, hnone (key host) (isKey_keyStart_append _)]
    rw [Cache.get, perform_bind_of_ok hget]
    rfl
  clear := by
    have hkeys : t.keys.filter isKey = [] := by
      refine List.filter_eq_nil_iff.2 fun k hmem hkey => ?_
      rw [Table.mem_keys_iff, hnone k hkey] at hmem
      exact Bool.noConfusion hmem
    have hclear := perform_clear_of_ok h (x := w.stored) (by rw [hkeys, hremove])
    rwa [hkeys] at hclear
  evaluate config page := by
    have hfound : ∀ time host, found config.cacheMaxAge t time host = none := by
      intro time host
      rw [found, hnone (key host) (isKey_keyStart_append _)]
      rfl
    obtain ⟨readings, -, hperform⟩ := Gate.perform_evaluate h.reads config page
    simp only [Gate.standing, hfound, Option.map_none] at hperform
    rw [hperform]
    -- Only the switch and the allowlist can decide.
    split_ifs
    · exact ⟨_, _, rfl, fun hdisabled => absurd rfl hdisabled⟩
    · exact ⟨_, _, rfl, fun _ hlisted => absurd rfl hlisted⟩
    · exact ⟨_, _, rfl, fun _ _ => trivial⟩

end Shows

/-! ## The stores that there are -/

theorem emptied_inMemory (source : List String → String → Reputation.Outcome) (clock : Nat → Int64)
    (w : Situation (Table Json)) :
    Emptied (inMemory source clock) { w with stored := cleared w.stored } := by
  refine emptied_of_shows (inMemory_shows source clock _) (fun k hkey => ?_) rfl
  rw [get?_cleared, if_pos hkey]

section OnDisk

variable {path : String} {w : Situation Files.Disk} {t : Table Json}
  (source : List String → String → Reputation.Outcome) (clock : Nat → Int64)

theorem emptied_onDisk (h : Store.entriesIn w.stored path = .ok t)
    (hnone : ∀ k, isKey k = true → t.get? k = none) : Emptied (onDisk path source clock) w := by
  refine emptied_of_shows (Store.onDisk_shows h source clock) hnone ?_
  show Store.onDisk path (.remove []) w.stored = _
  rw [Store.onDisk_remove, h]
  exact if_pos rfl

/-- Where no key is one of an entry, `clear` does not write to the disk. -/
theorem perform_clear_of_no_keys (h : Store.entriesIn w.stored path = .ok t)
    (hnone : ∀ k ∈ t.keys, isKey k = false) :
    (onDisk path source clock).perform clear w = (.ok 0, w) := by
  refine (emptied_onDisk source clock h fun k hkey => ?_).clear
  by_contra hsome
  have hmem : k ∈ t.keys := (t.mem_keys_iff k).2 (Option.isSome_iff_ne_none.2 hsome)
  rw [hnone k hmem] at hkey
  exact Bool.noConfusion hkey

/-- What a store's file holds after its cache was cleared: `t'` in place of `t`. -/
structure ClearedFile (t t' : Table Json) : Prop where
  gone : ∀ k, isKey k = true → t'.get? k = none
  /-- Another value is what it was, or what it is as `Json.reread`. -/
  others : ∀ k, isKey k = false → t'.get? k = t.get? k ∨ t'.get? k = (t.get? k).map Json.reread
  /-- A value without a `Number.real` in it is what it was. -/
  kept : ∀ k v depth, isKey k = false → t.get? k = some v → Json.Legible depth v → t'.get? k = some v

theorem clearedFile_of_eq {u : Table Json} (h : u = cleared t ∨ u = (cleared t).map Json.reread) :
    ClearedFile t u := by
  have hothers : ∀ k, isKey k = false → u.get? k = t.get? k ∨ u.get? k = (t.get? k).map Json.reread := by
    intro k hkey
    have hcleared : (cleared t).get? k = t.get? k := by rw [get?_cleared, hkey]; rfl
    rcases h with rfl | rfl
    · exact .inl hcleared
    · exact .inr (by rw [Table.get?_map, hcleared])
  refine ⟨fun k hkey => ?_, hothers, fun k v depth hkey hv hlegible => ?_⟩
  · have hcleared : (cleared t).get? k = none := by rw [get?_cleared, if_pos hkey]
    rcases h with rfl | rfl
    · exact hcleared
    · rw [Table.get?_map, hcleared, Option.map_none]
  · rcases hothers k hkey with heq | heq
    · rw [heq, hv]
    · rw [heq, hv, Option.map_some, hlegible.fits.2]

/-- Where no operation on files fails, `clear` succeeds and the file is a `ClearedFile`. -/
theorem perform_clear_of_smooth (h : Store.entriesIn w.stored path = .ok t)
    (hsmooth : Store.Smooth (Store.jsonFile path (.remove (t.keys.filter isKey))) w.stored) :
    ∃ d t', (onDisk path source clock).perform clear w
        = (.ok (t.keys.filter isKey).length, { w with stored := d })
      ∧ Store.entriesIn d path = .ok t' ∧ ClearedFile t t' := by
  have hshows := Store.onDisk_shows h source clock
  obtain ⟨d, hremove, ⟨hsame, rfl⟩ | hwritten⟩ := Store.onDisk_remove_of_smooth h hsmooth
  · exact ⟨_, t, perform_clear_of_ok hshows hremove, h, clearedFile_of_eq (.inl hsame.symm)⟩
  · refine ⟨d, _, perform_clear_of_ok hshows hremove, ?_, clearedFile_of_eq (.inr rfl)⟩
    exact Store.entriesIn_of_written_ok ((Store.allStorable_of_entriesIn h).eraseAll _) hwritten

/-- Where `clear` fails, the file keeps its entries. -/
theorem entriesIn_of_clear_error (h : Store.entriesIn w.stored path = .ok t) {e : GuardError}
    {w' : Situation Files.Disk} (hclear : (onDisk path source clock).perform clear w = (.error e, w')) :
    Store.entriesIn w'.stored path = .ok t := by
  have hshows := Store.onDisk_shows h source clock
  cases hremove : (onDisk path source clock).store (.remove (t.keys.filter isKey)) w.stored with
  | mk result d =>
    cases result with
    | ok _ =>
      rw [perform_clear_of_ok hshows hremove] at hclear
      exact nomatch (Prod.mk.inj hclear).1
    | error err =>
      rw [perform_clear_of_error hshows hremove] at hclear
      obtain ⟨-, rfl⟩ := Prod.mk.inj hclear
      have hdisk : Store.onDisk path (.remove (t.keys.filter isKey)) w.stored = (.error err, d) := hremove
      rw [Store.onDisk_remove, h] at hdisk
      simp only at hdisk
      split_ifs at hdisk
      · exact nomatch (Prod.mk.inj hdisk).1
      · exact (Store.entriesIn_of_written_error hdisk).trans h

end OnDisk

/-- `Cache.clear` removes all of the cache and nothing else. Over a store in memory, whatever it holds, the
    keys with `isKey` go, all others keep their values, and the cache is `Emptied`. Over a store in a file
    that can be read the same holds where no operation on files fails, up to `Json.reread` of the other
    values: one without a `Number.real` is kept. Without a key to be removed not a byte of the disk changes,
    and where clearing fails, the file keeps its entries. -/
theorem clear_empties (source : List String → String → Reputation.Outcome) (clock : Nat → Int64) :
    (∀ w : Situation (Table Json), ∃ t',
      (inMemory source clock).perform clear w
          = (.ok (w.stored.keys.filter isKey).length, { w with stored := t' })
        ∧ (∀ k, t'.get? k = if isKey k then none else w.stored.get? k)
        ∧ Emptied (inMemory source clock) { w with stored := t' })
      ∧ ∀ (path : String) (w : Situation Files.Disk) (t : Table Json),
        Store.entriesIn w.stored path = .ok t →
          (Store.Smooth (Store.jsonFile path (.remove (t.keys.filter isKey))) w.stored →
            ∃ d t', (onDisk path source clock).perform clear w
                = (.ok (t.keys.filter isKey).length, { w with stored := d })
              ∧ Store.entriesIn d path = .ok t' ∧ ClearedFile t t'
              ∧ Emptied (onDisk path source clock) { w with stored := d })
          ∧ ((∀ k ∈ t.keys, isKey k = false) → (onDisk path source clock).perform clear w = (.ok 0, w))
          ∧ ∀ e w', (onDisk path source clock).perform clear w = (.error e, w') →
              Store.entriesIn w'.stored path = .ok t := by
  refine ⟨fun w => ?_, fun path w t hin => ⟨fun hsmooth => ?_, ?_, ?_⟩⟩
  · exact ⟨cleared w.stored, perform_clear source clock w, get?_cleared w.stored,
      emptied_inMemory source clock w⟩
  · obtain ⟨d, t', hclear, hin', hcleared⟩ := perform_clear_of_smooth source clock hin hsmooth
    exact ⟨d, t', hclear, hin', hcleared, emptied_onDisk source clock hin' hcleared.gone⟩
  · exact perform_clear_of_no_keys source clock hin
  · exact fun e w' hclear => entriesIn_of_clear_error source clock hin hclear

/-- A disk with a store that has two keys of entries, none of them readable, and two keys that are much
    alike. -/
def litteredDisk : Files.Disk :=
  ⟨Table.ofList [("home", .directory), ("home/s.json", .file
    "\x7b\"cache:\":true,\"cache:A.example\":\"x\",\"cache\":null,\"Cache:a\":[]\x7d".toUTF8)], ["home"]⟩

/-- The entries that `litteredDisk` holds. -/
def litteredEntries : Table Json :=
  Table.ofList [("cache:", .bool true), ("cache:A.example", .string "x"), ("cache", .null), ("Cache:a", .array [])]

theorem litteredDisk_cleared :
    let s := onDisk "s.json" (fun _ _ => .unavailable) fun _ => 0
    ∃ d t', s.perform clear { stored := litteredDisk } = (.ok 2, { stored := d })
      ∧ Store.entriesIn d "s.json" = .ok t' ∧ t'.get? "cache" = some .null
      ∧ t'.get? "Cache:a" = some (.array []) ∧ Emptied s { stored := d } := by
  have hin : Store.entriesIn litteredDisk "s.json" = .ok litteredEntries := by decide +kernel
  have hsmooth : Store.NothingFails "s.json"
      [.call (.remove (litteredEntries.keys.filter isKey))] litteredDisk := by decide +kernel
  obtain ⟨d, t', hclear, hin', hcleared, hemptied⟩ :=
    ((clear_empties (fun _ _ => .unavailable) fun _ => 0).2 "s.json" { stored := litteredDisk } _ hin).1
      hsmooth.1
  have hcount : (litteredEntries.keys.filter isKey).length = 2 := rfl
  rw [hcount] at hclear
  refine ⟨d, t', hclear, hin', ?_, ?_, hemptied⟩
  · exact hcleared.kept "cache" .null 0 (by decide) rfl (by simp [Json.Legible])
  · exact hcleared.kept "Cache:a" (.array []) 1 (by decide) rfl (by simp [Json.Legible])

/-- A disk with a store that has two whole numbers which are read as `Number.real`: `m`, as it is written
    with an exponent, and `n`, as it has more than 64 bits. -/
def realsDisk : Files.Disk :=
  ⟨Table.ofList [("s.json", .file
    "\x7b\"cache:a\":0,\"m\":91245617977858217e1,\"n\":300000000000000000000000\x7d".toUTF8)], []⟩

def realsEntries : Table Json :=
  Table.ofList [("cache:a", .number (.integer ⟨0, by decide, by decide⟩)),
    ("m", .number (.real 912456179778582300)), ("n", .number (.real 300000000000000000000000))]

/-- Neither `m` nor `n` is the same number when it is read from the text that `clear` writes. -/
theorem reals_changed :
    ∃ d t t', Store.entriesIn realsDisk "s.json" = .ok t
      ∧ (onDisk "s.json" (fun _ _ => .unavailable) fun _ => 0).perform clear { stored := realsDisk }
        = (.ok 1, { stored := d })
      ∧ Store.entriesIn d "s.json" = .ok t'
      ∧ t.get? "m" = some (.number (.real 912456179778582300))
      ∧ t'.get? "m" = some (.number (.real 912456179778582400))
      ∧ t'.get? "m" ≠ t.get? "m"
      ∧ t.get? "n" = some (.number (.real 300000000000000000000000))
      ∧ t'.get? "n" = some (.number (.real 299999999999999970000000))
      ∧ t'.get? "n" ≠ t.get? "n" := by
  have hin : Store.entriesIn realsDisk "s.json" = .ok realsEntries := by decide +kernel
  have hsmooth : Store.NothingFails "s.json"
      [.call (.remove (realsEntries.keys.filter isKey))] realsDisk := by decide +kernel
  have hcount : (realsEntries.keys.filter isKey).length = 1 := rfl
  obtain ⟨d, hremove, ⟨hsame, -⟩ | hwritten⟩ := Store.onDisk_remove_of_smooth hin hsmooth.1
  · exact absurd (congrArg Table.size hsame) (by decide)
  · have hclear := perform_clear_of_ok (w := { stored := realsDisk })
      (Store.onDisk_shows hin (fun _ _ => .unavailable) fun _ => 0) hremove
    have hin' : Store.entriesIn d "s.json" = .ok ((cleared realsEntries).map Json.reread) :=
      Store.entriesIn_of_written_ok
        ((Store.allStorable_of_entriesIn hin).eraseAll (realsEntries.keys.filter isKey)) hwritten
    have hm : ((cleared realsEntries).map Json.reread).get? "m"
        = some (.number (.real 912456179778582400)) := by decide +kernel
    have hn : ((cleared realsEntries).map Json.reread).get? "n"
        = some (.number (.real 299999999999999970000000)) := by decide +kernel
    rw [hcount] at hclear
    refine ⟨d, realsEntries, _, hin, hclear, hin', rfl, hm, ?_, rfl, hn, ?_⟩
    · rw [hm]
      decide +kernel
    · rw [hn]
      decide +kernel

end Cache

end PageRisk
