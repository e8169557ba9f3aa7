import PageRisk.Proofs.Errors
import PageRisk.Proofs.Store.JsonFile

set_option autoImplicit false

/-! # The errors of stores

A store in memory has none (`memory_storeErrs`), and one in a file has no `GuardError.message`
(`onDisk_storeErrs`). -/

namespace PageRisk.Store

open Files

theorem entriesOf_errs {path : String} {contents : ByteArray} {e : GuardError}
    (h : entriesOf path contents = .error e) : ¬ e.IsMessage := by
  unfold entriesOf at h
  split at h
  · obtain rfl := Except.error.inj h
    exact id
  · split_ifs at h
    split at h
    · obtain rfl := Except.error.inj h
      exact id
    · exact absurd h nofun
    · obtain rfl := Except.error.inj h
      exact id

theorem entriesIn_errs {d : Disk} {path : String} {e : GuardError} (h : entriesIn d path = .error e) :
    ¬ e.IsMessage := by
  unfold entriesIn at h
  split at h
  · exact absurd h nofun
  · exact entriesOf_errs h
  · obtain rfl := Except.error.inj h
    exact id

theorem written_errs {d : Disk} {path : String} {entries : Table Json} {e : GuardError}
    (h : (written d path entries).1 = .error e) : ¬ e.IsMessage := by
  unfold written at h
  split at h
  · obtain rfl := Except.error.inj h
    exact id
  · split at h
    · obtain rfl := Except.error.inj h
      exact id
    · exact absurd h nofun

theorem onDisk_errs {path : String} {op : StoreOp} {d : Disk} {e : GuardError}
    (h : (onDisk path op d).1 = .error e) : ¬ e.IsMessage := by
  cases hentries : entriesIn d path with
  | error failure =>
    obtain rfl : failure = e := by
      cases op <;> simpa [onDisk_get, onDisk_set, onDisk_remove, onDisk_keys, hentries] using h
    exact entriesIn_errs hentries
  | ok t =>
    cases op with
    | get keys => exact absurd h (by simp [onDisk_get, hentries])
    | keys => exact absurd h (by simp [onDisk_keys, hentries])
    | set entries =>
      rw [onDisk_set, hentries] at h
      exact written_errs h
    | remove keys =>
      rw [onDisk_remove, hentries] at h
      simp only at h
      split_ifs at h
      exact written_errs h

/-! ## The stores that there are -/

variable (source : List String → String → Reputation.Outcome) (clock : Nat → Int64)

theorem memory_storeErrs (P : GuardError → Prop) : (Surroundings.inMemory source clock).StoreErrs P := by
  intro op t e he
  cases op <;> exact absurd he nofun

theorem onDisk_storeErrs (path : String) :
    (Surroundings.onDisk path source clock).StoreErrs fun e => ¬ e.IsMessage :=
  fun _ _ _ he => onDisk_errs he

end PageRisk.Store
