import PageRisk.Proofs.Services
import PageRisk.Proofs.Store.JsonFile

set_option autoImplicit false

/-! # A store in a file is a store in memory

Calls on a store in a file are answered as by a store in memory, in any number and order and through any
number of handles, as long as no operation on files fails (`history_onFile_eq_inMemory`). Both are handed
the same calls, and after each of them the file holds what the other one holds. That a file is read back as
it was written is what this rests on; the rest is one step for each operation (`onDisk_refines`). -/

namespace PageRisk.Store

open Files

/-! ## Calls -/

/-- A call on a store. -/
inductive Call where
  | get (keys : List String)
  | set (entries : Table Json)
  | remove (keys : List String)
  | keys
  /-- The value under one key. -/
  | getOne (key : String)
  /-- Writes one value. -/
  | setOne (key : String) (value : Json)

/-- What a `Call` gives. -/
inductive Reply where
  | entries (found : Table Json)
  | keys (found : List String)
  | value (found : Option Json)
  | done
  deriving DecidableEq

namespace Call

/-- The `Task` of a `Call`. -/
def task : Call → Task Reply
  | get wanted => return .entries (← Task.store (.get wanted))
  | set entries => do
    Task.store (.set entries)
    return .done
  | remove unwanted => do
    Task.store (.remove unwanted)
    return .done
  | keys => return .keys (← Task.store .keys)
  | getOne key => return .value (← Task.get? key)
  | setOne key value => do
    Task.put key value
    return .done

/-- The one `StoreOp` that a `Call` takes. -/
def op : Call → StoreOp
  | get wanted => .get wanted
  | set entries => .set entries
  | remove unwanted => .remove unwanted
  | keys => .keys
  | getOne key => .get [key]
  | setOne key value => .set (Table.empty.insert key value)

/-- What a `Call` makes of the result of its `op`. -/
def reply : (c : Call) → c.op.Result → Reply
  | get _, found => .entries found
  | set _, _ => .done
  | remove _, _ => .done
  | keys, found => .keys found
  | getOne key, found => .value (found.get? key)
  | setOne _ _, _ => .done

/-- The answer of a store to a `Call`. Nothing but the store is asked. -/
def run {σ : Type} (store : (op : StoreOp) → StateM σ op.Answer) (c : Call) :
    StateM σ (Except GuardError Reply) := fun s =>
  let surroundings : Surroundings σ := ⟨store, fun _ _ => .unavailable, fun _ => 0⟩
  let (answer, w) := surroundings.perform c.task { stored := s }
  (answer, w.stored)

theorem task_eq (c : Call) : c.task = Task.store c.op >>= fun result => pure (c.reply result) := by
  cases c with
  | getOne key => rw [task, Task.get?, bind_assoc]; rfl
  | _ => rfl

theorem run_eq {σ : Type} (store : (op : StoreOp) → StateM σ op.Answer) (c : Call) (s : σ) :
    c.run store s
      = match store c.op s with
        | (.ok result, s') => (.ok (c.reply result), s')
        | (.error e, s') => (.error e, s') := by
  unfold run
  simp only [task_eq, Surroundings.perform_bind, Surroundings.perform_store]
  cases store c.op s with
  | mk result s' => cases result <;> rfl

/-- Whether all values that a `Call` writes are `Json.Exact`. -/
def WritesExact (depth : Nat) : Call → Prop
  | set entries => AllExact depth entries
  | setOne _ value => Json.Exact depth value
  | _ => True

end Call

/-! ## Runs in which no operation on files fails -/

/-- Whether the answer to an operation on files tells of no failure; that to `FileOp.probe` never does. -/
def succeeded : (op : FileOp) → op.Answer → Bool
  | .probe _, _ => true
  | .read _, result => result.isOk
  | .write _ _, result => result.isOk
  | .rename _ _, result => result.isOk
  | .makeDirectories _, result => result.isOk

/-- Whether `Disk.answer` tells of no failure. -/
def Succeeds (op : FileOp) (d : Disk) : Prop :=
  succeeded op (Disk.answer op d).1 = true

/-- Whether every operation that a program asks for `Succeeds`. -/
def Smooth {α : Type} (p : Program files α) (d : Disk) : Prop :=
  p.Throughout (I := files) Disk.answer Succeeds d

section Smooth

variable {α β : Type}

theorem Smooth.of_bind {d d' : Disk} {task : FileTask α} {next : α → FileTask β} {a : α}
    (h : Smooth (task >>= next).run d) (hrun : runOn d task = (.ok a, d')) :
    Smooth (next a).run d' := by
  have hboth := (Program.throughout_andThen (I := files) Disk.answer Succeeds task.run
    (ExceptT.bindCont next) d).1 h
  have hresult : Program.runWith (I := files) (m := StateM Disk) Disk.answer task.run d
      = (.ok a, d') := hrun
  have hnext := hboth.2
  rw [hresult] at hnext
  exact hnext

theorem exists_ok_of_change (change : Disk → Except FileError Disk) {d : Disk}
    (h : (Disk.change change d).1.isOk = true) : ∃ d', change d = .ok d' := by
  unfold Disk.change at h
  cases hchange : change d with
  | ok d' => exact ⟨d', rfl⟩
  | error e =>
    rw [hchange] at h
    exact absurd h (by simp [Except.isOk, Except.toBool])

theorem Smooth.exists_write {d : Disk} {path : String} {contents : ByteArray}
    {next : Unit → FileTask β}
    (h : Smooth (attempt (perform (.write path contents)) >>= next).run d) :
    ∃ d', d.write path contents = .ok d' :=
  exists_ok_of_change (fun d => d.write path contents) h.1

theorem Smooth.exists_rename {d : Disk} {source target : String}
    (h : Smooth (attempt (perform (.rename source target))).run d) :
    ∃ d', d.rename source target = .ok d' :=
  exists_ok_of_change (fun d => d.rename source target) h.1

/-- Where `writeAll` runs `Smooth`, all entries are `written`. -/
theorem exists_written {d : Disk} {path : String} {t : Table Json}
    (h : Smooth (writeAll path t).run d) : ∃ d', written d path t = (.ok (), d') := by
  unfold writeAll at h
  obtain ⟨between, hwrite⟩ := h.exists_write
  have hrun : runOn d (attempt (perform (.write (temporaryPath path) (contentsOf t))))
      = (.ok (), between) := by
    rw [runOn_write, hwrite]
  obtain ⟨d', hrename⟩ := (h.of_bind hrun).exists_rename
  refine ⟨d', ?_⟩
  unfold written
  simp only [hwrite, hrename]

end Smooth

/-! ## One operation -/

/-- Whether all values that a `StoreOp` writes are `Json.Exact`. -/
def WritesExact (depth : Nat) : StoreOp → Prop
  | .set entries => AllExact depth entries
  | _ => True

theorem memory_get (keys : List String) (t : Table Json) :
    memory (.get keys) t = (.ok (t.select keys), t) := rfl

theorem memory_set (entries t : Table Json) :
    memory (.set entries) t = (.ok (), t.insertAll entries.toList) := rfl

theorem memory_remove (keys : List String) (t : Table Json) :
    memory (.remove keys) t = (.ok (), t.eraseAll keys) := rfl

theorem memory_keys (t : Table Json) : memory .keys t = (.ok t.keys, t) := rfl

/-- Where `remove` runs `Smooth`, it leaves the file alone if none of the keys is there, and else the other
    entries are `written`. -/
theorem onDisk_remove_of_smooth {d : Disk} {path : String} {t : Table Json} {keys : List String}
    (hin : entriesIn d path = .ok t) (hsmooth : Smooth (jsonFile path (.remove keys)) d) :
    ∃ d', onDisk path (.remove keys) d = (.ok (), d')
      ∧ (t.eraseAll keys = t ∧ d' = d ∨ written d path (t.eraseAll keys) = (.ok (), d')) := by
  have hread : runOn d (readAll path) = (.ok t, d) := by rw [runOn_readAll, hin]
  have hremove := onDisk_remove d path keys
  simp only [hin] at hremove
  by_cases hsame : t.eraseAll keys = t
  · rw [if_pos hsame] at hremove
    exact ⟨d, hremove, .inl ⟨hsame, rfl⟩⟩
  · rw [if_neg hsame] at hremove
    have hbind : Smooth (readAll path >>= fun old =>
        if (old.eraseAll keys).size != old.size then writeAll path (old.eraseAll keys)
        else pure ()).run d := hsmooth
    have hsize : ((t.eraseAll keys).size != t.size) = true := by
      simpa using fun heq => hsame (Table.eraseAll_eq_of_size heq)
    have hwrite := hbind.of_bind hread
    rw [if_pos hsize] at hwrite
    obtain ⟨d', hwritten⟩ := exists_written hwrite
    exact ⟨d', hremove.trans hwritten, .inr hwritten⟩

/-- `onDisk` answers an operation as `memory` does on the entries of the file, and the file holds afterwards
    what `memory` holds. -/
theorem onDisk_refines {depth : Nat} (hdepth : depth < Json.depthLimit) {d : Disk} {path : String}
    {t : Table Json} (hin : entriesIn d path = .ok t) (ht : AllExact depth t) {op : StoreOp}
    (hop : WritesExact depth op) (hsmooth : Smooth (jsonFile path op) d) :
    ∃ d' result t', onDisk path op d = (.ok result, d') ∧ memory op t = (.ok result, t')
      ∧ entriesIn d' path = .ok t' ∧ AllExact depth t' ∧ Disk.SameDirectories d d' := by
  have hread : runOn d (readAll path) = (.ok t, d) := by rw [runOn_readAll, hin]
  cases op with
  | get keys =>
    refine ⟨d, _, t, ?_, memory_get keys t, hin, ht, Disk.SameDirectories.refl d⟩
    rw [onDisk_get, hin]
  | keys =>
    refine ⟨d, _, t, ?_, memory_keys t, hin, ht, Disk.SameDirectories.refl d⟩
    rw [onDisk_keys, hin]
  | set entries =>
    have hbind : Smooth (readAll path >>= fun old => writeAll path (old.insertAll entries.toList)).run d :=
      hsmooth
    obtain ⟨d', hwritten⟩ := exists_written (hbind.of_bind hread)
    have hnew : AllExact depth (t.insertAll entries.toList) := ht.insertAll hop
    refine ⟨d', (), _, ?_, memory_set entries t, entriesIn_of_written hdepth hnew hwritten, hnew,
      sameDirectories_of_written hwritten⟩
    rw [onDisk_set, hin]
    exact hwritten
  | remove keys =>
    have hnew : AllExact depth (t.eraseAll keys) := ht.eraseAll keys
    obtain ⟨d', hremove, ⟨hsame, rfl⟩ | hwritten⟩ := onDisk_remove_of_smooth hin hsmooth
    · refine ⟨d', (), t, hremove, ?_, hin, ht, Disk.SameDirectories.refl d'⟩
      rw [memory_remove, hsame]
    · exact ⟨d', (), _, hremove, memory_remove keys t, entriesIn_of_written hdepth hnew hwritten, hnew,
        sameDirectories_of_written hwritten⟩

/-! ## Any sequence of calls -/

/-- What may happen to a store: another handle is opened on its file, or a `Call` is made. A handle is
    nothing but the path of the file, so that a call is the same through each of them. -/
inductive Step where
  | opened
  | call (c : Call)

namespace Step

/-- A `Step` on a store in a file. -/
def onFile (path : String) : Step → StateM Disk (Except GuardError Reply)
  | opened => fun d =>
    let (result, d') := runOn d (openFile path)
    (result.map fun _ => .done, d')
  | call c => c.run (onDisk path)

/-- A `Step` on a store in memory. -/
def inMemory : Step → StateM (Table Json) (Except GuardError Reply)
  | opened => fun t => (.ok .done, t)
  | call c => c.run memory

/-- Whether no operation on files fails in a `Step`. -/
def NothingFails (path : String) : Step → Disk → Prop
  | opened, d => Smooth (openFile path).run d
  | call c, d => Smooth (jsonFile path c.op) d

end Step

/-- To open another handle changes nothing on a disk that is `Ready`. -/
theorem Ready.onFile_opened {d : Disk} {path : String} (h : Ready d path) :
    Step.opened.onFile path d = (.ok .done, d) := by
  simp only [Step.onFile, h.runOn_openFile]
  rfl

/-- What each `Step` answered, with what the store held after it. -/
def history {σ : Type} (step : Step → StateM σ (Except GuardError Reply))
    (held : σ → Except GuardError (Table Json)) :
    List Step → σ → List (Except GuardError Reply × Except GuardError (Table Json))
  | [], _ => []
  | a :: rest, s => ((step a s).1, held (step a s).2) :: history step held rest (step a s).2

/-- Whether no operation on files fails in any of the steps. -/
def NothingFails (path : String) : List Step → Disk → Prop
  | [], _ => True
  | a :: rest, d => a.NothingFails path d ∧ NothingFails path rest (a.onFile path d).2

theorem call_run_of_ok {σ : Type} {store : (op : StoreOp) → StateM σ op.Answer} {c : Call} {s s' : σ}
    {result : c.op.Result} (h : store c.op s = (.ok result, s')) :
    c.run store s = (.ok (c.reply result), s') := by
  rw [Call.run_eq, h]

theorem Call.WritesExact.op {depth : Nat} {c : Call} (h : c.WritesExact depth) :
    Store.WritesExact depth c.op := by
  cases c with
  | set entries => exact h
  | setOne key value =>
    rintro e hmem
    obtain rfl : e = (key, value) := by simpa [Table.insert, Table.place, Table.empty] using hmem
    exact h
  | _ => trivial

/-- `Step.onFile` answers as `Step.inMemory`, and both stores hold the same afterwards. -/
theorem onFile_refines {depth : Nat} (hdepth : depth < Json.depthLimit) {d : Disk} {path : String}
    {t : Table Json} (hready : Ready d path) (hin : entriesIn d path = .ok t)
    (ht : AllExact depth t) {a : Step} (ha : ∀ c, a = .call c → c.WritesExact depth)
    (hsmooth : a.NothingFails path d) :
    ∃ d' reply t', a.onFile path d = (.ok reply, d') ∧ a.inMemory t = (.ok reply, t')
      ∧ Ready d' path ∧ entriesIn d' path = .ok t' ∧ AllExact depth t' := by
  cases a with
  | opened =>
    exact ⟨d, .done, t, hready.onFile_opened, rfl, hready, hin, ht⟩
  | call c =>
    obtain ⟨d', result, t', hfile, hmemory, hin', ht', hsame⟩ :=
      onDisk_refines hdepth hin ht (ha c rfl).op hsmooth
    exact ⟨d', c.reply result, t', call_run_of_ok hfile, call_run_of_ok hmemory,
      hready.of_sameDirectories hsame, hin', ht'⟩

theorem history_refines {depth : Nat} (hdepth : depth < Json.depthLimit) {d : Disk} {path : String}
    {t : Table Json} (hready : Ready d path) (hin : entriesIn d path = .ok t)
    (ht : AllExact depth t) (steps : List Step)
    (hexact : ∀ c, Step.call c ∈ steps → c.WritesExact depth) (hsmooth : NothingFails path steps d) :
    history (Step.onFile path) (entriesIn · path) steps d = history Step.inMemory .ok steps t
      ∧ ∀ record ∈ history (Step.onFile path) (entriesIn · path) steps d, record.1.isOk = true := by
  induction steps generalizing d t with
  | nil => exact ⟨rfl, fun record hmem => by simp [history] at hmem⟩
  | cons a rest ih =>
    obtain ⟨d', reply, t', hfile, hmemory, hready', hin', ht'⟩ := onFile_refines hdepth hready hin ht
      (fun c hc => hexact c (hc ▸ List.mem_cons_self)) hsmooth.1
    have hrest := hsmooth.2
    rw [hfile] at hrest
    obtain ⟨heq, hok⟩ := ih hready' hin' ht' (fun c hc => hexact c (List.mem_cons_of_mem _ hc)) hrest
    rw [history, history, hfile, hmemory]
    refine ⟨?_, fun record hmem => ?_⟩
    · rw [hin', heq]
    · rcases List.mem_cons.1 hmem with rfl | hmem
      · rfl
      · exact hok record hmem

/-- Whether a path leads to no file, or to one with nothing but white space in it. -/
def StartsBlank (d : Disk) (path : String) : Prop :=
  d.find? path = none
    ∨ ∃ text : String, d.find? path = some (.file text.toUTF8) ∧ Text.allBlank text.toList = true

theorem entriesIn_of_startsBlank {d : Disk} {path : String} (h : StartsBlank d path) :
    entriesIn d path = .ok Table.empty := by
  unfold entriesIn
  rcases h with hnone | ⟨text, hfile, hblank⟩
  · rw [hnone]
  · have htext : String.fromUTF8? text.toUTF8 = some text := dif_pos text.isValidUTF8
    rw [hfile]
    simp only [entriesOf, htext, hblank, if_true]

/-- A store in a file is a store in memory: where `openFile` was run and the path `StartsBlank`, all steps
    have the same `history` in the file and in memory, as long as no operation on files fails. The values
    that are written are `Json.Exact`: no floating-point numbers, and lists and objects in one another to
    less than `Json.depthLimit`. -/
theorem history_onFile_eq_inMemory {depth : Nat} (hdepth : depth < Json.depthLimit)
    {before d : Disk} {path : String} (hopened : runOn before (openFile path) = (.ok (), d))
    (hstart : StartsBlank d path) (steps : List Step)
    (hexact : ∀ c, Step.call c ∈ steps → c.WritesExact depth) (hsmooth : NothingFails path steps d) :
    history (Step.onFile path) (entriesIn · path) steps d
        = history Step.inMemory .ok steps Table.empty
      ∧ ∀ record ∈ history (Step.onFile path) (entriesIn · path) steps d, record.1.isOk = true :=
  history_refines hdepth (ready_of_openFile hopened) (entriesIn_of_startsBlank hstart)
    (fun e hmem => by simp [Table.empty] at hmem) steps hexact hsmooth

instance (op : files.Op) (d : Disk) : Decidable (Succeeds op d) :=
  inferInstanceAs (Decidable (_ = true))

instance decidableNothingFails (path : String) :
    (steps : List Step) → (d : Disk) → Decidable (NothingFails path steps d)
  | [], _ => isTrue trivial
  | a :: rest, d =>
    have : Decidable (a.NothingFails path d) := match a with
      | .opened => Program.decidableThroughout _ _ (openFile path).run d
      | .call c => Program.decidableThroughout _ _ (jsonFile path c.op) d
    have := decidableNothingFails path rest (a.onFile path d).2
    inferInstanceAs (Decidable (_ ∧ _))

/-- A disk with a directory to work in, and nothing else. -/
def emptyDisk : Disk :=
  ⟨Table.empty.insert "home" .directory, ["home"]⟩

/-- `emptyDisk` after a store was opened in a directory of its own. -/
def openedDisk : Disk :=
  ⟨Table.ofList [("home", .directory), ("home/state", .directory)], ["home"]⟩

/-- Some calls through two handles. -/
def someSteps : List Step :=
  [.call (.setOne "b" (.array [.null, .string "x\n\"y"])), .opened,
    .call (.set (Table.empty.insert "a" (.object [("k", .bool true)]))),
    .call (.get ["b", "a", "b"]), .call (.remove ["b", "c"]), .call .keys, .call (.getOne "a")]

theorem someSteps_exact : ∀ c, Step.call c ∈ someSteps → c.WritesExact 2 := by
  intro c hmem
  simp only [someSteps, List.mem_cons, Step.call.injEq, List.not_mem_nil, or_false,
    reduceCtorEq, false_or] at hmem
  rcases hmem with rfl | rfl | rfl | rfl | rfl | rfl
  · simp [Call.WritesExact, Json.Exact]
  · intro e hmem
    obtain rfl : e = ("a", .object [("k", .bool true)]) := by
      simpa [Table.insert, Table.place, Table.empty] using hmem
    simp [Json.Exact, Ascending]
  all_goals trivial

theorem someSteps_history :
    runOn emptyDisk (openFile "state/store.json") = (.ok (), openedDisk)
      ∧ StartsBlank openedDisk "state/store.json"
      ∧ NothingFails "state/store.json" someSteps openedDisk
      ∧ history (Step.onFile "state/store.json") (entriesIn · "state/store.json") someSteps openedDisk
        = history Step.inMemory .ok someSteps Table.empty := by
  have hopened : runOn emptyDisk (openFile "state/store.json") = (.ok (), openedDisk) := by
    decide +kernel
  have hstart : StartsBlank openedDisk "state/store.json" := .inl (by decide +kernel)
  have hsmooth : NothingFails "state/store.json" someSteps openedDisk := by decide +kernel
  have hhistory := history_onFile_eq_inMemory (by decide) hopened hstart someSteps someSteps_exact
    hsmooth
  exact ⟨hopened, hstart, hsmooth, hhistory.1⟩

end PageRisk.Store
