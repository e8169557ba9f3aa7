import PageRisk.Proofs.Gate
import PageRisk.Proofs.Hostname

set_option autoImplicit false

/-! # Hosts put on the allowlist and taken off it

A host is listed by its key, and each reading of the list brings the names on it to their keys again. So
what was put on the list is found there as long as the names on it are their own keys; where one is not, it
stands for another host once the list is written (`setAllowlisted_takesEffect_iff`). -/

namespace PageRisk.Settings

open Hostname Surroundings

/-! ## Lists written and read again -/

/-- The hosts that a table lists. -/
abbrev listedIn (stored : Table Json) : TextSet :=
  allowlistOf (stored.get? allowlistKey)

/-- The `hosts` with one of them put on the list or taken off it. -/
def relisted (hosts : TextSet) (host : String) (listed : Bool) : TextSet :=
  if listed then hosts.insert (normalize host) () else hosts.erase (normalize host)

theorem mem_keys_relisted_iff (hosts : TextSet) (host : String) (listed : Bool) (name : String) :
    name ∈ (relisted hosts host listed).keys
      ↔ if name = normalize host then listed = true else name ∈ hosts.keys := by
  rw [Table.mem_keys_iff, Table.mem_keys_iff, relisted]
  cases listed with
  | true =>
    rw [if_pos rfl, Table.get?_insert]
    split_ifs <;> simp
  | false =>
    rw [if_neg Bool.false_ne_true, Table.get?_erase]
    split_ifs <;> simp

theorem isListed_iff (hosts : TextSet) (host : String) :
    isListed hosts host = true ↔ normalize host ∈ hosts.keys :=
  (Table.mem_keys_iff hosts (normalize host)).symm

/-- To list a host that is listed already, or the other way round, changes nothing. -/
theorem afterListing_of_isListed {stored : Table Json} {host : String} {listed : Bool}
    (h : isListed (listedIn stored) host = listed) : afterListing stored host listed = stored := by
  rw [afterListing]
  exact if_pos h

/-- A list that is written names the hosts of `relisted`, and those that are read from it are their keys. -/
theorem listedIn_afterListing {stored : Table Json} {host : String} {listed : Bool}
    (h : isListed (listedIn stored) host ≠ listed) :
    listedIn (afterListing stored host listed)
      = allowlistOf (some (allowlistJson (relisted (listedIn stored) host listed))) := by
  rw [afterListing, if_neg h, listedIn, Table.get?_insert_self]
  rfl

theorem enabledOf_afterListing (stored : Table Json) (host : String) (listed : Bool) :
    enabledOf ((afterListing stored host listed).get? enabledKey) = enabledOf (stored.get? enabledKey) := by
  by_cases h : isListed (listedIn stored) host = listed
  · rw [afterListing_of_isListed h]
  · have hkey : enabledKey ≠ allowlistKey := by decide
    rw [afterListing, if_neg h, Table.get?_insert_of_ne _ _ hkey]

/-- Only keys of hosts are on a list that has been read, and `relisted` puts on another. -/
theorem exists_normalize_of_mem_relisted {stored : Option Json} {host name : String} {listed : Bool}
    (h : name ∈ (relisted (allowlistOf stored) host listed).keys) : ∃ text, normalize text = name := by
  rw [mem_keys_relisted_iff] at h
  split_ifs at h with hname
  · exact ⟨host, hname.symm⟩
  · rw [Table.mem_keys_iff] at h
    exact exists_normalize_of_isSome h

/-- A `relisted` list is read as it was meant just if all names on it are their own keys. -/
theorem isListed_relisted_iff (stored : Option Json) (host : String) (listed : Bool) :
    (∀ other, isListed (allowlistOf (some (allowlistJson (relisted (allowlistOf stored) host listed)))) other
        = true ↔ normalize other ∈ (relisted (allowlistOf stored) host listed).keys)
      ↔ ∀ name ∈ (relisted (allowlistOf stored) host listed).keys, normalize name = name := by
  constructor
  · intro hread
    refine normalize_eq_self_of_onto ?_
    intro name hname
    obtain ⟨text, rfl⟩ := exists_normalize_of_mem_relisted hname
    have hlisted := (hread text).2 hname
    rw [isListed, isSome_allowlistOf] at hlisted
    exact hlisted
  · intro hfixed other
    rw [isListed]
    exact isSome_allowlistOf_of_normalized hfixed (normalize other)

/-- A list shows the change of one host and nothing else just if it lists what `relisted` names. -/
theorem follows_relisted_iff (hosts after : TextSet) (host : String) (listed : Bool) :
    (isListed after host = listed
        ∧ ∀ other, normalize other ≠ normalize host → isListed after other = isListed hosts other)
      ↔ ∀ other, isListed after other = true ↔ normalize other ∈ (relisted hosts host listed).keys := by
  have hkey (other : String) := mem_keys_relisted_iff hosts host listed (normalize other)
  constructor
  · rintro ⟨hhost, hothers⟩ other
    rw [hkey other]
    by_cases hsame : normalize other = normalize host
    · rw [if_pos hsame, ← hhost, isListed, isListed, hsame]
    · rw [if_neg hsame, hothers other hsame, isListed_iff]
  · intro hafter
    refine ⟨?_, ?_⟩
    · rw [Bool.eq_iff_iff, hafter host, hkey host, if_pos rfl]
    · intro other hne
      rw [Bool.eq_iff_iff, hafter other, hkey other, if_neg hne, isListed_iff]

/-- `afterListing` lists what `relisted` names just if the list was not written or all names on it are their
    own keys. -/
theorem isListed_afterListing_iff (stored : Table Json) (host : String) (listed : Bool) :
    (∀ other, isListed (listedIn (afterListing stored host listed)) other = true
        ↔ normalize other ∈ (relisted (listedIn stored) host listed).keys)
      ↔ (isListed (listedIn stored) host ≠ listed →
        ∀ name ∈ (relisted (listedIn stored) host listed).keys, normalize name = name) := by
  by_cases hsame : isListed (listedIn stored) host = listed
  · rw [afterListing_of_isListed hsame]
    refine iff_of_true ?_ (fun hne => absurd hsame hne)
    exact (follows_relisted_iff _ _ host listed).1 ⟨hsame, fun _ _ => rfl⟩
  · rw [listedIn_afterListing hsame, isListed_relisted_iff]
    exact ⟨fun hfixed _ => hfixed, fun hfixed => hfixed hsame⟩

/-! ## Taking effect -/

/-- What `setAllowlisted` is for: the host is listed or not as it was asked for, doing so again changes
    nothing, other hosts are as before, and `Gate.evaluate` leaves pages of the host alone or not
    accordingly. -/
structure TakesEffect (s : Surroundings (Table Json)) (config : ScoringConfig) (host : String)
    (listed : Bool) (w w' : Situation (Table Json)) (changed : Bool) : Prop where
  listed_after : (s.perform (isAllowlisted host) w').1 = .ok listed
  changed_iff : changed = true ↔ (s.perform (isAllowlisted host) w).1 ≠ .ok listed
  again : (s.perform (setAllowlisted host listed) w').1 = .ok false
  others : ∀ other, normalize other ≠ normalize host →
    (s.perform (isAllowlisted other) w').1 = (s.perform (isAllowlisted other) w).1
  decides : (s.perform enabled w').1 = .ok true → ∀ csp,
    (s.perform (Gate.evaluate config ⟨host, csp⟩) w').1 = .ok .allowlisted ↔ listed = true

/-- Whether the new list reads as it was written: all names that are written are their own keys, and the key
    of the host's key, by which `Gate.evaluate` looks a page of it up, is on it just if the host's key
    is. -/
structure Lasts (stored : Table Json) (host : String) (listed : Bool) : Prop where
  own_keys : isListed (listedIn stored) host ≠ listed →
    ∀ name ∈ (relisted (listedIn stored) host listed).keys, normalize name = name
  key_of_key : enabledOf (stored.get? enabledKey) = true →
    (normalize (normalize host) ∈ (relisted (listedIn stored) host listed).keys ↔ listed = true)

/-- A change `Lasts` where the host's key and the names on the list are their own keys. -/
theorem lasts_of_own_keys {stored : Table Json} {host : String} (listed : Bool)
    (hhost : normalize (normalize host) = normalize host)
    (hnames : ∀ name ∈ (listedIn stored).keys, normalize name = name) : Lasts stored host listed where
  own_keys := by
    intro _ name hname
    rw [mem_keys_relisted_iff] at hname
    split_ifs at hname with heq
    · rw [heq, hhost]
    · exact hnames name hname
  key_of_key := by
    intro _
    rw [hhost, mem_keys_relisted_iff, if_pos rfl]

section Memory

variable (source : List String → String → Reputation.Outcome) (clock : Nat → Int64)
  (config : ScoringConfig) (w : Situation (Table Json)) (host : String) (listed : Bool)

/-- `TakesEffect` in terms of the list that `afterListing` leaves. -/
theorem takesEffect_iff :
    TakesEffect (inMemory source clock) config host listed w
        { w with stored := afterListing w.stored host listed }
        (isListed (listedIn w.stored) host != listed)
      ↔ isListed (listedIn (afterListing w.stored host listed)) host = listed
        ∧ (∀ other, normalize other ≠ normalize host →
          isListed (listedIn (afterListing w.stored host listed)) other = isListed (listedIn w.stored) other)
        ∧ (enabledOf (w.stored.get? enabledKey) = true →
          (isListed (listedIn (afterListing w.stored host listed)) (normalize host) = true
            ↔ listed = true)) := by
  have hreads := inMemory_reads source clock (afterListing w.stored host listed)
  have hbefore (other : String) := perform_isAllowlisted (inMemory_reads source clock w.stored) other
  have hafter (other : String) := perform_isAllowlisted (w := { w with
    stored := afterListing w.stored host listed }) hreads other
  have henabled := perform_enabled (w := { w with stored := afterListing w.stored host listed }) hreads
  have hpage (csp : Option String) := Gate.perform_evaluate_eq_allowlisted_iff (w := { w with
    stored := afterListing w.stored host listed }) hreads config ⟨host, csp⟩
  rw [enabledOf_afterListing] at henabled
  simp only [enabledOf_afterListing] at hpage
  constructor
  · rintro ⟨hlisted, -, -, hothers, hdecides⟩
    refine ⟨?_, ?_, ?_⟩
    · simpa [hafter] using hlisted
    · intro other hne
      simpa [hafter, hbefore] using hothers other hne
    · intro hon
      have hdecided := hdecides (by rw [henabled, hon]) none
      rw [hpage none] at hdecided
      simpa [hon] using hdecided
  · rintro ⟨hlisted, hothers, hdecides⟩
    refine ⟨?_, ?_, ?_, ?_, ?_⟩
    · rw [hafter, hlisted]
    · simp [hbefore]
    · simp [perform_setAllowlisted, hlisted]
    · intro other hne
      rw [hafter, hbefore, hothers other hne]
    · intro hon csp
      have hstored : enabledOf (w.stored.get? enabledKey) = true := by simpa [henabled] using hon
      rw [hpage csp, hdecides hstored]
      simp [hstored]

/-- `setAllowlisted` never fails in memory, and it `TakesEffect` just if the new list reads as it was
    written (`Lasts`). -/
theorem setAllowlisted_takesEffect_iff :
    ∃ changed w', (inMemory source clock).perform (setAllowlisted host listed) w = (.ok changed, w')
      ∧ (TakesEffect (inMemory source clock) config host listed w w' changed
        ↔ Lasts w.stored host listed) := by
  refine ⟨_, _, perform_setAllowlisted source clock w host listed, ?_⟩
  rw [takesEffect_iff, ← and_assoc, follows_relisted_iff]
  constructor
  · rintro ⟨hmeant, hdecides⟩
    refine ⟨(isListed_afterListing_iff w.stored host listed).1 hmeant, ?_⟩
    intro hon
    rw [← hmeant (normalize host)]
    exact hdecides hon
  · rintro ⟨hown, hkey⟩
    have hmeant := (isListed_afterListing_iff w.stored host listed).2 hown
    refine ⟨hmeant, ?_⟩
    intro hon
    rw [hmeant (normalize host)]
    exact hkey hon

end Memory

/-- Where the key of a host has a `www.` of its own, the host is put on an empty allowlist and is not on it
    afterwards. -/
theorem setAllowlisted_www_www :
    ∃ w', (inMemory (fun _ _ => .unavailable) (fun _ => 0)).perform
        (setAllowlisted "www.www.example.com" true) ⟨Table.empty, [], 0⟩ = (.ok true, w')
      ∧ ((inMemory (fun _ _ => .unavailable) (fun _ => 0)).perform
          (isAllowlisted "www.www.example.com") w').1 = .ok false := by
  refine ⟨_, perform_setAllowlisted _ _ _ _ _, ?_⟩
  rw [perform_isAllowlisted (inMemory_reads _ _ _)]
  decide +kernel

end PageRisk.Settings
