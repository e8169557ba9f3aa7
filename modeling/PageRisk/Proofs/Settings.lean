import PageRisk.Proofs.Services
import PageRisk.Settings

set_option autoImplicit false

/-! # Settings read back

A setting that was written is read as it was written. For the allowlist this holds up to the keys of
its hosts, as every host is brought to its key anew on each reading (`isSome_allowlistOf`). -/

namespace PageRisk.Settings

/-! ## The threshold -/

theorem thresholdOf_ofUInt32 (default n : UInt32) :
    thresholdOf default (some (.ofUInt32 n)) = n := by
  have hasNat : (Json.ofUInt32 n).asNat? = some n.toNat := by
    simp [Json.ofUInt32, Json.asNat?]
  have hlt : n.toNat < 4294967296 := n.toNat_lt
  simp [thresholdOf, hasNat, hlt]

/-! ## The allowlist -/

theorem filterMap_asString?_map_string (texts : List String) :
    (texts.map Json.string).filterMap Json.asString? = texts := by
  induction texts with
  | nil => rfl
  | cons text rest ih => simp [Json.asString?, ih]

/-- `allowlistOf` a stored list lists the keys of the hosts that it names. -/
theorem isSome_allowlistOf_ofStrings (names : List String) (host : String) :
    ((allowlistOf (some (.ofStrings names))).get? host).isSome
      ↔ ∃ name ∈ names, Hostname.normalize name = host := by
  have hread : allowlistOf (some (.ofStrings names))
      = Table.ofList (names.map fun name => (Hostname.normalize name, ())) := by
    rw [Json.ofStrings, allowlistOf, filterMap_asString?_map_string]
  rw [hread, Table.get?_ofList, ← List.map_reverse, Table.isSome_lookup_iff]
  simp

/-- `allowlistOf` undoes `allowlistJson` up to `Hostname.normalize`. -/
theorem isSome_allowlistOf (hosts : TextSet) (host : String) :
    ((allowlistOf (some (allowlistJson hosts))).get? host).isSome
      ↔ ∃ name ∈ hosts.keys, Hostname.normalize name = host :=
  isSome_allowlistOf_ofStrings hosts.keys host

/-- Whatever is stored, `allowlistOf` lists only keys of hosts. -/
theorem exists_normalize_of_isSome {stored : Option Json} {host : String}
    (h : ((allowlistOf stored).get? host).isSome) : ∃ text, Hostname.normalize text = host := by
  unfold allowlistOf at h
  split at h
  · rw [Table.get?_ofList, ← List.map_reverse, Table.isSome_lookup_iff] at h
    obtain ⟨e, hmem, rfl⟩ := h
    obtain ⟨text, -, rfl⟩ := List.mem_map.1 hmem
    exact ⟨text, rfl⟩
  · simp at h

/-- `allowlistOf` undoes `allowlistJson` for hosts that are their own keys. -/
theorem isSome_allowlistOf_of_normalized {hosts : TextSet}
    (h : ∀ name ∈ hosts.keys, Hostname.normalize name = name) (host : String) :
    ((allowlistOf (some (allowlistJson hosts))).get? host).isSome ↔ host ∈ hosts.keys := by
  rw [isSome_allowlistOf]
  constructor
  · rintro ⟨name, hmem, rfl⟩
    rw [h name hmem]
    exact hmem
  · intro hmem
    exact ⟨host, hmem, h host hmem⟩

/-! ## Settings over a store that can be read -/

section Reads

variable {σ : Type} {s : Surroundings σ} {w : Situation σ} {t : Table Json}

open Surroundings

theorem perform_enabled (h : s.Reads w.stored t) :
    s.perform enabled w = (.ok (enabledOf (t.get? enabledKey)), w) := by
  rw [enabled, perform_bind_of_ok (perform_get? h enabledKey), perform_pure]

theorem perform_allowlist (h : s.Reads w.stored t) :
    s.perform allowlist w = (.ok (allowlistOf (t.get? allowlistKey)), w) := by
  rw [allowlist, perform_bind_of_ok (perform_get? h allowlistKey), perform_pure]

theorem perform_isAllowlisted (h : s.Reads w.stored t) (host : String) :
    s.perform (isAllowlisted host) w
      = (.ok (isListed (allowlistOf (t.get? allowlistKey)) host), w) := by
  rw [isAllowlisted, perform_bind_of_ok (perform_allowlist h), perform_pure]

end Reads

/-! ## Settings over a store in memory -/

section Memory

variable (source : List String → String → Reputation.Outcome) (clock : Nat → Int64)
  (w : Situation (Table Json))

open Surroundings

/-- The table after a host was put on the allowlist or taken off it: the list is only written where it
    changes. -/
def afterListing (stored : Table Json) (host : String) (listed : Bool) : Table Json :=
  let hosts := allowlistOf (stored.get? allowlistKey)
  if isListed hosts host = listed then stored
  else
    let key := Hostname.normalize host
    stored.insert allowlistKey (allowlistJson (if listed then hosts.insert key () else hosts.erase key))

theorem perform_setAllowlisted (host : String) (listed : Bool) :
    (inMemory source clock).perform (setAllowlisted host listed) w
      = (.ok (isListed (allowlistOf (w.stored.get? allowlistKey)) host != listed),
        { w with stored := afterListing w.stored host listed }) := by
  rw [setAllowlisted, perform_bind_of_ok (perform_allowlist (inMemory_reads source clock w.stored))]
  by_cases h : isListed (allowlistOf (w.stored.get? allowlistKey)) host = listed
  · simp [h, afterListing]
  · have hchanged : (isListed (allowlistOf (w.stored.get? allowlistKey)) host != listed) = true := by
      simpa using h
    rw [if_pos hchanged, perform_bind_of_ok (perform_put source clock w _ _), perform_pure,
      afterListing, if_neg h]

end Memory

end PageRisk.Settings
