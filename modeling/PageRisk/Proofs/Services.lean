import PageRisk.Proofs.Program
import PageRisk.Proofs.Table
import PageRisk.Store.Memory
import PageRisk.Surroundings

set_option autoImplicit false

/-! # Running work over given surroundings

A piece of work is run operation by operation: `perform_bind` follows a sequence, and each operation of
the services has an equation of its own. Over a store that can be read, looking up a single key is a
lookup in a table (`perform_get?`); over one in memory, writing one is an insertion (`perform_put`). -/

namespace PageRisk.Surroundings

variable {σ α β : Type}

/-! ## Sequences -/

theorem run_andThen (s : Surroundings σ) (p : Program services α) (f : α → Program services β)
    (w : Situation σ) :
    s.run (p.andThen f) w = s.run (f (s.run p w).1) (s.run p w).2 :=
  Program.runWith_andThen_apply (I := services) s.answer p f w

@[simp] theorem run_done (s : Surroundings σ) (a : α) (w : Situation σ) :
    s.run (.done a) w = (a, w) := rfl

@[simp] theorem perform_pure (s : Surroundings σ) (a : α) (w : Situation σ) :
    s.perform (pure a : Task α) w = (.ok a, w) := rfl

/-- `work >>= next` goes on with `next` where `work` succeeds, in the situation that it leaves. -/
theorem perform_bind (s : Surroundings σ) (work : Task α) (next : α → Task β) (w : Situation σ) :
    s.perform (work >>= next) w
      = match s.perform work w with
        | (.ok a, w') => s.perform (next a) w'
        | (.error e, w') => (.error e, w') := by
  change s.run (work.run.andThen _) w = _
  rw [run_andThen]
  cases h : s.perform work w with
  | mk result w' =>
    have hrun : s.run work.run w = (result, w') := h
    rw [hrun]
    cases result <;> rfl

theorem perform_bind_of_ok {s : Surroundings σ} {work : Task α} {w w' : Situation σ} {a : α}
    (h : s.perform work w = (.ok a, w')) (next : α → Task β) :
    s.perform (work >>= next) w = s.perform (next a) w' := by
  rw [perform_bind, h]

/-- `mapM` runs programs one after the other, each in the situation that those before it leave. -/
theorem run_mapM_cons (s : Surroundings σ) (f : α → Program services β) (a : α) (rest : List α)
    (w : Situation σ) :
    s.run ((a :: rest).mapM f) w
      = ((s.run (f a) w).1 :: (s.run (rest.mapM f) (s.run (f a) w).2).1,
        (s.run (rest.mapM f) (s.run (f a) w).2).2) :=
  Program.runWith_mapM_cons (I := services) s.answer f a rest w

theorem getElem?_run_mapM (s : Surroundings σ) (f : α → Program services β) (before : List α) (a : α)
    (after : List α) (w : Situation σ) :
    (s.run ((before ++ a :: after).mapM f) w).1[before.length]?
      = some (s.run (f a) (s.run (before.mapM f) w).2).1 :=
  Program.getElem?_runWith_mapM (I := services) s.answer f before a after w

theorem length_run_mapM (s : Surroundings σ) (f : α → Program services β) (as : List α)
    (w : Situation σ) : (s.run (as.mapM f) w).1.length = as.length :=
  Program.length_runWith_mapM (I := services) s.answer f as w

/-- What every single program keeps holds after `mapM` of them. -/
theorem run_mapM_induction {s : Surroundings σ} {f : α → Program services β} {P : Situation σ → Prop}
    (hstep : ∀ a w, P w → P (s.run (f a) w).2) (as : List α) {w : Situation σ} (h : P w) :
    P (s.run (as.mapM f) w).2 := by
  induction as generalizing w with
  | nil => exact h
  | cons a rest ih =>
    rw [run_mapM_cons]
    exact ih (hstep a w h)

/-- What every operation of the store keeps holds of it after any program. -/
theorem run_stored_induction {s : Surroundings σ} {P : σ → Prop}
    (hstep : ∀ op x, P x → P (s.store op x).2) (p : Program services α) {w : Situation σ}
    (h : P w.stored) : P (s.run p w).2.stored := by
  induction p generalizing w with
  | done a => exact h
  | call op next ih =>
    cases op with
    | store op => exact ih _ (hstep op w.stored h)
    | lookup url => exact ih (s.source w.asked url) (w := { w with asked := url :: w.asked }) h
    | now => exact ih (s.clock w.readings) (w := { w with readings := w.readings + 1 }) h

/-! ## Single operations -/

@[simp] theorem perform_lookup (s : Surroundings σ) (url : String) (w : Situation σ) :
    s.perform (Task.lookup url) w
      = (.ok (s.source w.asked url), { w with asked := url :: w.asked }) := rfl

@[simp] theorem perform_now (s : Surroundings σ) (w : Situation σ) :
    s.perform Task.now w = (.ok (s.clock w.readings), { w with readings := w.readings + 1 }) := rfl

theorem perform_store (s : Surroundings σ) (op : StoreOp) (w : Situation σ) :
    s.perform (Task.store op) w
      = ((s.store op w.stored).1, { w with stored := (s.store op w.stored).2 }) := rfl

/-! ## Stores that can be read -/

/-- Whether a store in some state can be read: `StoreOp.get` gives the entries of a table and leaves the
    state as it is. Nothing is said of changes. -/
def Reads (s : Surroundings σ) (x : σ) (t : Table Json) : Prop :=
  ∀ keys, s.store (.get keys) x = (.ok (t.select keys), x)

theorem perform_get? {s : Surroundings σ} {w : Situation σ} {t : Table Json}
    (h : s.Reads w.stored t) (key : String) :
    s.perform (Task.get? key) w = (.ok (t.get? key), w) := by
  have hget : s.perform (Task.store (.get [key])) w = (.ok (t.select [key]), w) := by
    rw [perform_store, h [key]]
  have hselect : (t.select [key]).get? key = t.get? key := by
    rw [Table.get?_select, if_pos (List.mem_singleton_self key)]
  rw [Task.get?, perform_bind_of_ok hget, perform_pure, hselect]

/-- Whether a store in some state cannot be read: every `StoreOp.get` fails and leaves the state as it
    is. -/
def Unreadable (s : Surroundings σ) (x : σ) (e : GuardError) : Prop :=
  ∀ keys, s.store (.get keys) x = (.error e, x)

theorem perform_get?_of_unreadable {s : Surroundings σ} {w : Situation σ} {e : GuardError}
    (h : s.Unreadable w.stored e) (key : String) : s.perform (Task.get? key) w = (.error e, w) := by
  have hget : s.perform (Task.store (.get [key])) w = (.error e, w) := by
    rw [perform_store, h [key]]
  rw [Task.get?, perform_bind, hget]

/-! ## The stores that there are -/

/-- `Surroundings` with a store in memory. -/
def inMemory (source : List String → String → Reputation.Outcome) (clock : Nat → Int64) :
    Surroundings (Table Json) :=
  ⟨Store.memory, source, clock⟩

/-- `Surroundings` with a store in a file on a disk. -/
def onDisk (path : String) (source : List String → String → Reputation.Outcome)
    (clock : Nat → Int64) : Surroundings Files.Disk :=
  ⟨Store.onDisk path, source, clock⟩

section Memory

variable (source : List String → String → Reputation.Outcome) (clock : Nat → Int64)
  (w : Situation (Table Json))

/-- A store in memory can always be read (`Reads`). -/
theorem inMemory_reads (t : Table Json) : (inMemory source clock).Reads t t := fun _ => rfl

@[simp] theorem perform_put (key : String) (value : Json) :
    (inMemory source clock).perform (Task.put key value) w
      = (.ok (), { w with stored := w.stored.insert key value }) := rfl

end Memory

end PageRisk.Surroundings
