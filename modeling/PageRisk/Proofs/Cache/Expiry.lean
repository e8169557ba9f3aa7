import PageRisk.Proofs.Cache

set_option autoImplicit false

/-! # How long entries count

The age of an entry and the greatest age are cut off where they leave 64 bits. Neither cut matters: an entry
counts just as unbounded integers have it, apart from greatest ages of more milliseconds than 64 bits hold,
under which every entry counts (`isExpired_eq_false_iff`). -/

namespace PageRisk.Cache

open Surroundings

/-- Whether an entry with a time stamp counts now, in unbounded integers: there is no greatest age, or it is
    more milliseconds than an `Int64` holds, or the entry is not older. -/
def Counts : (maxAge : Option UInt64) → (timestamp now : Int64) → Prop
  | none, _, _ => True
  | some seconds, timestamp, now =>
    9223372036854775807 < 1000 * (seconds.toNat : Int)
      ∨ now.toInt - timestamp.toInt ≤ 1000 * (seconds.toNat : Int)

instance (maxAge : Option UInt64) (timestamp now : Int64) : Decidable (Counts maxAge timestamp now) :=
  match maxAge with
  | none => isTrue trivial
  | some _ => inferInstanceAs (Decidable (_ ∨ _))

/-- `isExpired` decides `Counts`. The one greatest age under which the two cuts of `isExpired` could meet,
    as many milliseconds as an `Int64` holds at most, is no whole number of seconds. -/
theorem isExpired_eq_false_iff (maxAge : Option UInt64) (timestamp now : Int64) :
    isExpired maxAge timestamp now = false ↔ Counts maxAge timestamp now := by
  cases maxAge with
  | none => simp [isExpired, Counts]
  | some seconds =>
    have hnonneg : 0 ≤ (seconds.toNat : Int) := Int.natCast_nonneg _
    rw [isExpired, decide_eq_false_iff_not, Counts]
    simp only [maxAgeMillis, elapsed, millisMax]
    omega

/-- An entry of the future `Counts`. -/
theorem Counts.of_le {timestamp now : Int64} (h : now.toInt ≤ timestamp.toInt) (maxAge : Option UInt64) :
    Counts maxAge timestamp now := by
  cases maxAge with
  | none => trivial
  | some seconds =>
    right
    omega

/-- What `Counts` under some greatest age counts under every higher one. -/
theorem Counts.mono {seconds more : UInt64} {timestamp now : Int64} (hmore : seconds ≤ more)
    (h : Counts (some seconds) timestamp now) : Counts (some more) timestamp now := by
  have hle : seconds.toNat ≤ more.toNat := UInt64.le_iff_toNat_le.1 hmore
  simp only [Counts] at h ⊢
  omega

section Stored

variable {σ : Type} {s : Surroundings σ} {w : Situation σ} {t : Table Json} {host : String} {value : Json}
  {entry : CacheEntry}

theorem found_of_stored (hstored : t.get? (key host) = some value)
    (hread : CacheEntry.ofStored? value = some entry) (maxAge : Option UInt64) (time : Int64) :
    found maxAge t time host = if Counts maxAge entry.timestamp time then some entry else none := by
  rw [found, hstored, Option.bind_some, hread]
  by_cases h : Counts maxAge entry.timestamp time
  · rw [if_pos h, Option.filter_some, (isExpired_eq_false_iff _ _ _).2 h]
    rfl
  · have hexpired : isExpired maxAge entry.timestamp time = true := by
      rwa [← isExpired_eq_false_iff, Bool.not_eq_false] at h
    rw [if_neg h, Option.filter_some, hexpired]
    rfl

/-- `Cache.get` gives the entry of a host if it `Counts`, and else nothing. -/
theorem perform_get_fst (hreads : s.Reads w.stored t) (hstored : t.get? (key host) = some value)
    (hread : CacheEntry.ofStored? value = some entry) (maxAge : Option UInt64) :
    (s.perform (get maxAge host) w).1
      = .ok (if Counts maxAge entry.timestamp (s.clock w.readings) then some entry else none) := by
  obtain ⟨readings, -, hget⟩ := perform_get hreads maxAge host
  rw [hget, found_of_stored hstored hread]

/-- An entry that can be read is found just where it `Counts` at the time at which it is looked up, whatever
    its own time and the greatest age are; where it does not count, nothing is found. So it is found at all
    times up to its own, and under every greatest age above one under which it is found. -/
theorem get_eq_entry_iff (hreads : s.Reads w.stored t) (hstored : t.get? (key host) = some value)
    (hread : CacheEntry.ofStored? value = some entry) :
    (∀ maxAge, ((s.perform (get maxAge host) w).1 = .ok (some entry)
          ↔ Counts maxAge entry.timestamp (s.clock w.readings))
        ∧ (¬ Counts maxAge entry.timestamp (s.clock w.readings) →
          (s.perform (get maxAge host) w).1 = .ok none))
      ∧ ((s.clock w.readings).toInt ≤ entry.timestamp.toInt →
        ∀ maxAge, (s.perform (get maxAge host) w).1 = .ok (some entry))
      ∧ ∀ seconds more : UInt64, seconds ≤ more →
        (s.perform (get (some seconds) host) w).1 = .ok (some entry) →
          (s.perform (get (some more) host) w).1 = .ok (some entry) := by
  have hfound : ∀ maxAge, (s.perform (get maxAge host) w).1 = .ok (some entry)
      ↔ Counts maxAge entry.timestamp (s.clock w.readings) := by
    intro maxAge
    rw [perform_get_fst hreads hstored hread]
    split_ifs with h <;> simp [h]
  refine ⟨fun maxAge => ⟨hfound maxAge, fun h => ?_⟩, fun hfuture maxAge => ?_, ?_⟩
  · rw [perform_get_fst hreads hstored hread, if_neg h]
  · exact (hfound maxAge).2 (.of_le hfuture maxAge)
  · intro seconds more hmore hhit
    exact (hfound _).2 (((hfound _).1 hhit).mono hmore)

/-- An entry of the earliest time that an `Int64` holds. -/
def earliest : CacheEntry := ⟨50, ["no-csp"], -9223372036854775808⟩

/-- At the latest time, `earliest` is found under the highest greatest age, and is too old under one that is
    just short of what an `Int64` holds in milliseconds. -/
theorem earliest_found_and_expired :
    let s := inMemory (fun _ _ => .unavailable) fun _ => 9223372036854775807
    let w : Situation (Table Json) :=
      { stored := Table.empty.insert (key "a.example") earliest.toStored }
    (s.perform (get (some 18446744073709551615) "a.example") w).1 = .ok (some earliest)
      ∧ (s.perform (get (some 9223372036854775) "a.example") w).1 = .ok none := by
  intro s w
  have hfound := get_eq_entry_iff (s := s) (w := w) (inMemory_reads _ _ _)
    (Table.get?_insert_self Table.empty (key "a.example") earliest.toStored)
    (CacheEntry.ofStored?_toStored (by decide))
  exact ⟨(hfound.1 _).1.2 (by decide), (hfound.1 _).2 (by decide)⟩

end Stored

end PageRisk.Cache
