import PageRisk.Proofs.Cache

set_option autoImplicit false

/-! # The entries of the cache as a map

The entries that can be read, listed by their hosts, are a table of their own (`Cache.listing`): a host is
looked up in it under its key in the store (`get?_listing`), and writing the entry of a host to the store is
an insertion (`listing_insert`). Listing and clearing take what the store shows of itself (`Shows`). -/

namespace PageRisk

/-! ## Stores that can be read and list their keys -/

/-- Whether the store `s.store` in the state `x` answers `get` and `keys` as the table `t`, and stays as it
    is. -/
structure Surroundings.Shows {σ : Type} (s : Surroundings σ) (x : σ) (t : Table Json) : Prop where
  reads : s.Reads x t
  keys : s.store .keys x = (.ok t.keys, x)

theorem Surroundings.inMemory_shows (source : List String → String → Reputation.Outcome)
    (clock : Nat → Int64) (t : Table Json) : (inMemory source clock).Shows t t :=
  ⟨inMemory_reads source clock t, rfl⟩

namespace Cache

open Surroundings

/-! ## Keys in order -/

@[simp] theorem hostOf_keyStart_append (host : String) : hostOf (keyStart ++ host) = host := by
  rw [hostOf, String.toList_append, List.drop_left, String.ofList_toList]

/-- The keys that start with `keyStart` are in the order of the hosts behind it. -/
theorem keyStart_append_lt_iff (a b : String) : keyStart ++ a < keyStart ++ b ↔ a < b := by
  rw [String.lt_iff, String.lt_iff, String.toList_append, String.toList_append]
  induction keyStart.toList with
  | nil => rfl
  | cons c rest ih => rw [List.cons_append, List.cons_append, List.cons_lt_cons_self, ih]

/-! ## Listing -/

theorem mem_entriesOf_iff (t : Table Json) (host : String) (e : CacheEntry) :
    (host, e) ∈ entriesOf t
      ↔ ∃ v, t.get? (keyStart ++ host) = some v ∧ CacheEntry.ofStored? v = some e := by
  rw [entriesOf, List.mem_filterMap]
  constructor
  · rintro ⟨⟨k, v⟩, hmem, hread⟩
    by_cases hkey : isKey k = true
    · simp only [hkey, if_true] at hread
      obtain ⟨e', he', heq⟩ := Option.map_eq_some_iff.1 hread
      obtain ⟨rfl, rfl⟩ := Prod.mk.inj heq
      rw [keyStart_append_hostOf hkey]
      exact ⟨v, (t.get?_eq_some_iff k v).2 hmem, he'⟩
    · simp [hkey] at hread
  · rintro ⟨v, hv, hread⟩
    refine ⟨(keyStart ++ host, v), (t.get?_eq_some_iff _ v).1 hv, ?_⟩
    simp [isKey_keyStart_append, hread]

theorem ascending_entriesOf (t : Table Json) : Ascending (entriesOf t) := by
  refine List.Pairwise.filterMap _ ?_ t.ascending
  rintro ⟨k, v⟩ ⟨l, u⟩ hlt a ha b hb
  by_cases hk : isKey k = true
  · by_cases hl : isKey l = true
    · simp only [hk, if_true, Option.map_eq_some_iff] at ha
      simp only [hl, if_true, Option.map_eq_some_iff] at hb
      obtain ⟨e, -, rfl⟩ := ha
      obtain ⟨f, -, rfl⟩ := hb
      rw [← keyStart_append_lt_iff, keyStart_append_hostOf hk, keyStart_append_hostOf hl]
      exact hlt
    · simp [hl] at hb
  · simp [hk] at ha

/-- The entries that can be read, by their hosts. -/
def listing (t : Table Json) : Table CacheEntry :=
  ⟨entriesOf t, ascending_entriesOf t⟩

theorem get?_listing (t : Table Json) (host : String) :
    (listing t).get? host = (t.get? (keyStart ++ host)).bind CacheEntry.ofStored? := by
  refine Option.ext fun e => ?_
  show _ = some e ↔ _ = some e
  rw [Table.get?_eq_some_iff, Option.bind_eq_some_iff]
  exact mem_entriesOf_iff t host e

/-- Writing an entry under its `key` puts it into the `listing`, in place of whatever the store had for its
    host. -/
theorem listing_insert (t : Table Json) (host : String) {e : CacheEntry} (he : e.score.isFinite = true) :
    listing (t.insert (key host) e.toStored) = (listing t).insert (Hostname.normalize host) e := by
  refine Table.ext_get? fun other => ?_
  rw [get?_listing, Table.get?_insert, Table.get?_insert, key, get?_listing]
  by_cases hother : other = Hostname.normalize host
  · rw [if_pos hother, if_pos (by rw [hother]), Option.bind_some, CacheEntry.ofStored?_toStored he]
  · rw [if_neg hother, if_neg fun heq => hother ((String.append_right_inj keyStart).1 heq)]

/-- The keys that `Cache.entries` asks for are all that have a part in the `listing`. -/
theorem listing_select (t : Table Json) : listing (t.select (t.keys.filter isKey)) = listing t := by
  refine Table.ext_get? fun host => ?_
  rw [get?_listing, get?_listing, Table.get?_select]
  by_cases hmem : keyStart ++ host ∈ t.keys
  · rw [if_pos (List.mem_filter.2 ⟨hmem, isKey_keyStart_append host⟩)]
  · have hnone : t.get? (keyStart ++ host) = none := by
      rw [Table.mem_keys_iff] at hmem
      simpa using hmem
    rw [hnone, ite_self]

section Shows

variable {σ : Type} {s : Surroundings σ} {w : Situation σ} {t : Table Json}

theorem perform_keys (h : s.Shows w.stored t) : s.perform keys w = (.ok (t.keys.filter isKey), w) := by
  have hall : s.perform (Task.store .keys) w = (.ok t.keys, w) := by
    rw [perform_store, h.keys]
  rw [keys, perform_bind_of_ok hall, perform_pure]

theorem perform_entries (h : s.Shows w.stored t) :
    s.perform entries w = (.ok (listing t).toList, w) := by
  have hget : s.perform (Task.store (.get (t.keys.filter isKey))) w
      = (.ok (t.select (t.keys.filter isKey)), w) := by
    rw [perform_store, h.reads]
  have hlisting : entriesOf (t.select (t.keys.filter isKey)) = (listing t).toList :=
    congrArg Table.toList (listing_select t)
  rw [entries, perform_bind_of_ok (perform_keys h), perform_bind_of_ok hget, perform_pure, hlisting]

theorem perform_clear_of_ok (h : s.Shows w.stored t) {x : σ}
    (hremove : s.store (.remove (t.keys.filter isKey)) w.stored = (.ok (), x)) :
    s.perform clear w = (.ok (t.keys.filter isKey).length, { w with stored := x }) := by
  have hstore : s.perform (Task.store (.remove (t.keys.filter isKey))) w
      = (.ok (), { w with stored := x }) := by rw [perform_store, hremove]
  rw [clear, perform_bind_of_ok (perform_keys h), perform_bind_of_ok hstore, perform_pure]

theorem perform_clear_of_error (h : s.Shows w.stored t) {x : σ} {e : GuardError}
    (hremove : s.store (.remove (t.keys.filter isKey)) w.stored = (.error e, x)) :
    s.perform clear w = (.error e, { w with stored := x }) := by
  rw [clear, perform_bind_of_ok (perform_keys h), perform_bind, perform_store, hremove]

end Shows

/-! ## Writing one entry -/

/-- Whether the list `after` is in order, has `e` for `host` once, and is like `before` otherwise. -/
structure ListedOnce (before after : List (String × CacheEntry)) (host : String) (e : CacheEntry) :
    Prop where
  listed : (host, e) ∈ after
  once : (after.map Prod.fst).count host = 1
  others : after.filter (fun p => p.1 != host) = before.filter fun p => p.1 != host
  ascending : Ascending after

theorem listedOnce_insert (before : Table CacheEntry) (host : String) (e : CacheEntry) :
    ListedOnce before.toList (before.insert host e).toList host e where
  listed := (Table.get?_eq_some_iff _ host e).1 (Table.get?_insert_self before host e)
  once := by
    refine List.count_eq_one_of_mem (before.insert host e).nodup_keys ?_
    exact (Table.mem_keys_iff _ host).2 (by rw [Table.get?_insert_self]; rfl)
  others := congrArg Table.toList (before.erase_insert host e)
  ascending := (before.insert host e).ascending

/-- What the cache gives after the entry `e` of `host` was written: `w` is the situation before, `w'` the
    one after. -/
structure Written (s : Surroundings (Table Json)) (w w' : Situation (Table Json)) (host : String)
    (e : CacheEntry) : Prop where
  /-- Every name with the `key` of the host has the entry. -/
  found : ∀ other, Hostname.normalize other = Hostname.normalize host →
    s.perform (get none other) w' = (.ok (some e), w')
  /-- Every name with another `key` has what it had. -/
  others : ∀ other, Hostname.normalize other ≠ Hostname.normalize host →
    (s.perform (get none other) w').1 = (s.perform (get none other) w).1
  entries : ∃ before after, s.perform entries w = (.ok before, w) ∧ s.perform entries w' = (.ok after, w')
    ∧ ListedOnce before after (Hostname.normalize host) e
  frame : ∀ k, isKey k = false → w'.stored.get? k = w.stored.get? k

/-- Over a store in memory, whatever it holds, and without a greatest age, the cache is a map from keys of
    hosts to whole entries: after `put` an entry with a finite score is found under all names of its host
    and listed once, and nothing else is changed (`Written`). -/
theorem put_written (source : List String → String → Reputation.Outcome) (clock : Nat → Int64)
    (w : Situation (Table Json)) (host : String) {e : CacheEntry} (he : e.score.isFinite = true) :
    ∃ w', (inMemory source clock).perform (put host e) w = (.ok (), w')
      ∧ Written (inMemory source clock) w w' host e := by
  have hget : ∀ (v : Situation (Table Json)) (other : String),
      (inMemory source clock).perform (get none other) v
        = (.ok ((v.stored.get? (key other)).bind CacheEntry.ofStored?), v) := by
    intro v other
    obtain ⟨readings, hreadings, hperform⟩ := perform_get (inMemory_reads source clock v.stored) none other
    obtain rfl := hreadings rfl
    rw [hperform, found_none]
  refine ⟨_, perform_put source clock w host e, ?_, ?_, ?_, ?_⟩
  · intro other hsame
    have hkey : key other = key host := congrArg (keyStart ++ ·) hsame
    rw [hget, hkey]
    show (Except.ok (((w.stored.insert (key host) e.toStored).get? (key host)).bind _), _) = _
    rw [Table.get?_insert_self, Option.bind_some, CacheEntry.ofStored?_toStored he]
  · intro other hother
    have hkey : key other ≠ key host := fun heq => hother ((String.append_right_inj keyStart).1 heq)
    rw [hget, hget, Table.get?_insert_of_ne _ _ hkey]
  · refine ⟨_, _, perform_entries (inMemory_shows source clock w.stored),
      perform_entries (inMemory_shows source clock _), ?_⟩
    rw [listing_insert w.stored host he]
    exact listedOnce_insert (listing w.stored) _ e
  · intro k hk
    exact Table.get?_insert_of_ne w.stored _ (ne_keyStart_append hk _)

/-- `put_written` over a store with an entry that cannot be read, under a name that is not the key
    itself. -/
theorem garbage_replaced :
    let s := inMemory (fun _ _ => .unavailable) fun _ => 0
    let w : Situation (Table Json) :=
      { stored := Table.empty.insert (key "a.example") (.string "garbage") }
    ∃ w', s.perform (put "https://www.A.example/" ⟨65, ["wildcard-script-src"], 1⟩) w = (.ok (), w')
      ∧ Written s w w' "https://www.A.example/" ⟨65, ["wildcard-script-src"], 1⟩ :=
  put_written _ _ _ _ (by decide)

end Cache

end PageRisk
