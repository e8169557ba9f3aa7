import Mathlib.Data.List.Induction
import PageRisk.Proofs.Store.Faults

set_option autoImplicit false

/-! # Two programs that write to one store

A store's file is read and written in single operations, and another program may do something between any
two of them. A `Race` is two programs on one disk that take turns, one operation at a time. Where each makes
one call to set entries of its own, and both succeed, the entries of both are in the file if one call was
over before the other had read the file (`Apart`). Otherwise the call that ended first is undone: the other
one writes what it had read before, with its own entries alone (`sets_outcome`). -/

namespace PageRisk

open Files

/-! ## One operation at a time -/

namespace Program

variable {I : Interface} {α : Type}

/-- Runs the next operation of a program; one that is `done` stays as it is. -/
def step {m : Type → Type} [Monad m] (handle : (op : I.Op) → m (I.Answer op)) :
    Program I α → m (Program I α)
  | done a => pure (done a)
  | call op next => handle op >>= fun answer => pure (next answer)

/-- The result of a program that is `done`. -/
def result? : Program I α → Option α
  | done a => some a
  | call _ _ => none

theorem eq_done_of_result? {p : Program I α} {a : α} (h : p.result? = some a) : p = done a := by
  cases p with
  | done b => exact congrArg done (Option.some.inj h)
  | call op next => exact absurd h (by simp [result?])

/-- `step` and then `runWith` is `runWith` alone. -/
theorem runWith_step {σ : Type} (handle : (op : I.Op) → StateM σ (I.Answer op)) (p : Program I α)
    (s : σ) :
    (p.step handle s).1.runWith handle (p.step handle s).2 = p.runWith handle s := by
  cases p <;> rfl

end Program

namespace Store

/-- One of two programs. -/
inductive Side where
  | left
  | right
  deriving DecidableEq, Repr

/-- The other one. -/
def Side.other : Side → Side
  | left => right
  | right => left

@[simp] theorem Side.other_other (s : Side) : s.other.other = s := by cases s <;> rfl

theorem Side.other_ne (s : Side) : s.other ≠ s := by cases s <;> decide

theorem Side.eq_or_eq_other (s a : Side) : s = a ∨ s = a.other := by cases s <;> cases a <;> decide

/-- Two programs on one disk. -/
structure Race where
  calls : Side → Program files (Except GuardError Unit)
  disk : Disk

namespace Race

/-- The `step` of the program on one side. -/
def turn (r : Race) (s : Side) : Race :=
  let (p, d) := (r.calls s).step (I := files) (m := StateM Disk) Disk.answer r.disk
  ⟨Function.update r.calls s p, d⟩

/-- Some turns one after the other, each a `turn` of the side that it names. -/
def run (r : Race) (turns : List Side) : Race :=
  turns.foldl turn r

/-- Two calls of `set` on one store, neither of them begun. -/
def ofSets (path : String) (entries : Side → Table Json) (d : Disk) : Race :=
  ⟨fun s => jsonFile path (.set (entries s)), d⟩

theorem run_append (r : Race) (before after : List Side) :
    r.run (before ++ after) = (r.run before).run after := List.foldl_append

theorem calls_turn_self (r : Race) (s : Side) :
    (r.turn s).calls s = ((r.calls s).step (I := files) (m := StateM Disk) Disk.answer r.disk).1 :=
  Function.update_self s _ _

theorem calls_turn_of_ne (r : Race) {s other : Side} (h : other ≠ s) :
    (r.turn s).calls other = r.calls other :=
  Function.update_of_ne h _ _

theorem disk_turn (r : Race) (s : Side) :
    (r.turn s).disk = ((r.calls s).step (I := files) (m := StateM Disk) Disk.answer r.disk).2 := rfl

theorem turn_of_done {r : Race} {s : Side} {result : Except GuardError Unit}
    (h : r.calls s = .done result) : r.turn s = r := by
  have hcalls : Function.update r.calls s (.done result) = r.calls := by
    rw [← h, Function.update_eq_self]
  unfold turn
  rw [h]
  exact congrArg (Race.mk · r.disk) hcalls

/-- A program that is `done` stays so. -/
theorem calls_run_of_done {r : Race} {s : Side} {result : Except GuardError Unit}
    (h : r.calls s = .done result) (turns : List Side) : (r.run turns).calls s = .done result := by
  induction turns generalizing r with
  | nil => exact h
  | cons a rest ih =>
    refine ih ?_
    by_cases ha : a = s
    · rw [ha, turn_of_done h]
      exact h
    · rw [calls_turn_of_ne r (Ne.symm ha)]
      exact h

/-- Where one program is `done`, the turns left are those of the other, which runs as if it were alone. -/
theorem runWith_of_done {r : Race} {a : Side} {result other : Except GuardError Unit}
    (h : r.calls a = .done result) {turns : List Side}
    (hother : (r.run turns).calls a.other = .done other) :
    (r.calls a.other).runWith (I := files) (m := StateM Disk) Disk.answer r.disk
      = (other, (r.run turns).disk) := by
  induction turns generalizing r with
  | nil =>
    have hcalls : r.calls a.other = .done other := hother
    rw [hcalls]
    rfl
  | cons s rest ih =>
    have hrest : ((r.turn s).run rest).calls a.other = .done other := hother
    change _ = (other, ((r.turn s).run rest).disk)
    rcases s.eq_or_eq_other a with rfl | rfl
    · rw [turn_of_done h] at hrest ⊢
      exact ih h hrest
    · have hdone : (r.turn a.other).calls a = .done result := by
        rw [calls_turn_of_ne r a.other_ne.symm]
        exact h
      rw [← ih hdone hrest, calls_turn_self, disk_turn]
      exact (Program.runWith_step (I := files) Disk.answer (r.calls a.other) r.disk).symm

end Race

/-! ## A call to set entries, operation by operation -/

/-- What follows an operation under `attempt`: the rest of the work if it succeeded, else its failure. -/
def afterwards {α β : Type} (next : α → FileTask β) :
    Except FileError α → Program files (Except GuardError β)
  | .ok a => (next a).run
  | .error e => .done (.error (.file e))

theorem run_attempt_bind {α β : Type} (p : Program files (Except FileError α)) (next : α → FileTask β) :
    (attempt p >>= next).run = p.andThen (afterwards next) := by
  refine (Program.andThen_assoc p _ (ExceptT.bindCont next)).trans ?_
  congr 1
  funext answer
  cases answer <;> rfl

/-- What is left of `readAll` once the probe was answered. -/
def readKnowing (path : String) (there : Bool) : FileTask (Table Json) :=
  if there then do
    let contents ← attempt (perform (.read path))
    ExceptT.mk (.done (entriesOf path contents))
  else return Table.empty

/-- What is left of a `set` after some of its operations: it probes for the file, reads it, writes
    `temporaryPath path` and renames that. The entries `t` are those that it has read. -/
def setAfter (path : String) (entries t : Table Json) : Nat → Program files (Except GuardError Unit)
  | 0 => jsonFile path (.set entries)
  | 1 => (readKnowing path true >>= fun old => writeAll path (old.insertAll entries.toList)).run
  | 2 => (writeAll path (t.insertAll entries.toList)).run
  | 3 => (attempt (perform (.rename (temporaryPath path) path))).run
  | _ => .done (.ok ())

section Set

variable {path : String} {d : Disk} {contents : ByteArray} {entries t : Table Json}

theorem step_perform {α : Type} (op : FileOp) (next : op.Answer → Program files α) (d : Disk) :
    ((perform op).andThen next).step (I := files) (m := StateM Disk) Disk.answer d
      = (next (Disk.answer op d).1, (Disk.answer op d).2) := rfl

theorem step_probe (hfile : d.find? path = some (.file contents)) :
    (setAfter path entries t 0).step (I := files) (m := StateM Disk) Disk.answer d
      = (setAfter path entries t 1, d) := by
  change ((readKnowing path (d.find? path).isSome >>= fun old =>
    writeAll path (old.insertAll entries.toList)).run, d) = _
  rw [hfile]
  rfl

theorem step_read (hfile : d.find? path = some (.file contents))
    (hread : entriesOf path contents = .ok t) :
    (setAfter path entries t 1).step (I := files) (m := StateM Disk) Disk.answer d
      = (setAfter path entries t 2, d) := by
  have hrun : setAfter path entries t 1 = (perform (.read path)).andThen
      (afterwards fun contents => ExceptT.mk (.done (entriesOf path contents)) >>= fun old =>
        writeAll path (old.insertAll entries.toList)) := by
    rw [← run_attempt_bind, ← bind_assoc]
    rfl
  have hanswer : Disk.answer (.read path) d = (.ok contents, d) :=
    congrArg (·, d) ((Disk.read_eq_ok_iff d path contents).2 hfile)
  rw [hrun, step_perform, hanswer]
  simp only [afterwards, hread]
  rfl

variable (path d entries t) in
theorem step_write :
    (setAfter path entries t 2).step (I := files) (m := StateM Disk) Disk.answer d
      = match d.write (temporaryPath path) (contentsOf (t.insertAll entries.toList)) with
        | .ok d' => (setAfter path entries t 3, d')
        | .error e => (.done (.error (.file e)), d) := by
  have hrun : setAfter path entries t 2
      = (perform (.write (temporaryPath path) (contentsOf (t.insertAll entries.toList)))).andThen
        (afterwards fun _ => attempt (perform (.rename (temporaryPath path) path))) := by
    rw [← run_attempt_bind]
    rfl
  rw [hrun, step_perform, Disk.answer]
  generalize contentsOf (t.insertAll entries.toList) = new
  cases hwrite : d.write (temporaryPath path) new with
  | ok d' => rw [Disk.change_of_ok (fun d => d.write (temporaryPath path) new) hwrite]; rfl
  | error e => rw [Disk.change_of_error (fun d => d.write (temporaryPath path) new) hwrite]; rfl

variable (path d entries t) in
theorem step_rename :
    (setAfter path entries t 3).step (I := files) (m := StateM Disk) Disk.answer d
      = match d.rename (temporaryPath path) path with
        | .ok d' => (setAfter path entries t 4, d')
        | .error e => (.done (.error (.file e)), d) := by
  rw [setAfter, attempt]
  refine (step_perform _ _ d).trans ?_
  rw [Disk.answer]
  cases hrename : d.rename (temporaryPath path) path with
  | ok d' => rw [Disk.change_of_ok (fun d => d.rename (temporaryPath path) path) hrename]; rfl
  | error e => rw [Disk.change_of_error (fun d => d.rename (temporaryPath path) path) hrename]

end Set

/-! ## Before a file is renamed -/

section Race

variable {path : String} {entries : Side → Table Json} {t : Table Json} {contents : ByteArray}

/-- Two calls each of which has done `count` of its operations, and none the rename. The store's file is as
    it was, and `temporaryPath path` holds the new entries of a call that alone has written it. -/
structure Underway (path : String) (entries : Side → Table Json) (t : Table Json)
    (contents : ByteArray) (count : Side → Nat) (r : Race) : Prop where
  calls : ∀ s, r.calls s = setAfter path (entries s) t (count s)
  file : r.disk.find? path = some (.file contents)
  temporary : ∀ s, count s = 3 → count s.other ≤ 2 →
    r.disk.find? (temporaryPath path) = some (.file (contentsOf (t.insertAll (entries s).toList)))

theorem calls_turn {count : Side → Nat} {r : Race}
    (hcalls : ∀ s, r.calls s = setAfter path (entries s) t (count s)) {s : Side} {d' : Disk}
    (hstep : (setAfter path (entries s) t (count s)).step (I := files) (m := StateM Disk) Disk.answer
      r.disk = (setAfter path (entries s) t (count s + 1), d')) :
    (∀ o, (r.turn s).calls o = setAfter path (entries o) t (Function.update count s (count s + 1) o))
      ∧ (r.turn s).disk = d' := by
  rw [← hcalls s] at hstep
  refine ⟨fun o => ?_, (r.disk_turn s).trans (congrArg Prod.snd hstep)⟩
  by_cases ho : o = s
  · rw [ho, Function.update_self, r.calls_turn_self, hstep]
  · rw [Function.update_of_ne ho, r.calls_turn_of_ne ho, hcalls]

/-- A call that has done two operations at most does its next one and both are still `Underway`, or this was
    the write and has failed. -/
theorem Underway.turn (hname : HasFileName path) (hread : entriesOf path contents = .ok t)
    {count : Side → Nat} {r : Race} (h : Underway path entries t contents count r)
    {s : Side} (hs : count s ≤ 2) :
    Underway path entries t contents (Function.update count s (count s + 1)) (r.turn s)
      ∨ ∃ e, (r.turn s).calls s = .done (.error e) := by
  have hother : Function.update count s (count s + 1) s.other = count s.other :=
    Function.update_of_ne s.other_ne _ _
  -- To probe and to read change nothing, and the call goes on with the entries of the file.
  have hlook : count s ≤ 1 → (setAfter path (entries s) t (count s)).step (I := files)
      (m := StateM Disk) Disk.answer r.disk = (setAfter path (entries s) t (count s + 1), r.disk) →
      Underway path entries t contents (Function.update count s (count s + 1)) (r.turn s) := by
    intro hle hstep
    obtain ⟨hcalls, hdisk⟩ := calls_turn h.calls hstep
    refine ⟨hcalls, hdisk ▸ h.file, fun o ho hless => ?_⟩
    rcases o.eq_or_eq_other s with rfl | rfl
    · rw [Function.update_self] at ho
      omega
    · rw [hother] at ho
      rw [hdisk]
      exact h.temporary _ ho (by rw [s.other_other]; omega)
  obtain hzero | hone | htwo : count s = 0 ∨ count s = 1 ∨ count s = 2 := by omega
  · exact .inl (hlook (by omega) (by rw [hzero]; exact step_probe h.file))
  · exact .inl (hlook (by omega) (by rw [hone]; exact step_read h.file hread))
  · have hstep := step_write path r.disk (entries s) t
    cases hwrite : r.disk.write (temporaryPath path) (contentsOf (t.insertAll (entries s).toList)) with
    | error e =>
      refine .inr ⟨.file e, ?_⟩
      rw [r.calls_turn_self, h.calls, htwo, hstep, hwrite]
    | ok d' =>
      rw [hwrite] at hstep
      have hwritten : (setAfter path (entries s) t (count s)).step (I := files) (m := StateM Disk)
          Disk.answer r.disk = (setAfter path (entries s) t (count s + 1), d') := by
        rw [htwo]
        exact hstep
      obtain ⟨hcalls, hdisk⟩ := calls_turn h.calls hwritten
      refine .inl ⟨hcalls, ?_, fun o ho hless => ?_⟩
      · rw [hdisk, find?_of_torn hname (.of_write hwrite)]
        exact h.file
      · -- The file of the other call, if it has written one, is lost.
        rcases o.eq_or_eq_other s with rfl | rfl
        · rw [hdisk]
          exact Disk.find?_of_write hwrite
        · rw [s.other_other, Function.update_self] at hless
          omega

theorem count_append_singleton (turns : List Side) (s : Side) :
    (fun o => (turns ++ [s]).count o) = Function.update (turns.count ·) s (turns.count s + 1) := by
  funext o
  by_cases ho : o = s
  · rw [ho, Function.update_self, List.count_append, List.count_singleton_self]
  · have hnone : [s].count o = 0 := List.count_eq_zero_of_not_mem (by simpa using ho)
    rw [Function.update_of_ne ho, List.count_append, hnone, Nat.add_zero]

/-- After turns that let no call rename its file, both calls are `Underway`, or one has ended with an
    error. -/
theorem underway_run (entries : Side → Table Json) (hname : HasFileName path)
    (hread : entriesOf path contents = .ok t) {d : Disk} (hfile : d.find? path = some (.file contents)) (turns : List Side)
    (hcount : ∀ s, turns.count s ≤ 3) :
    Underway path entries t contents (turns.count ·) ((Race.ofSets path entries d).run turns)
      ∨ ∃ s e, ((Race.ofSets path entries d).run turns).calls s = .done (.error e) := by
  induction turns using List.reverseRecOn with
  | nil => exact .inl ⟨fun _ => rfl, hfile, fun s hs => absurd hs (by simp)⟩
  | append_singleton turns s ih =>
    have hbefore : ∀ o, turns.count o ≤ 3 := fun o => by
      have := hcount o
      rw [List.count_append] at this
      omega
    have hs : turns.count s ≤ 2 := by
      have := hcount s
      rw [List.count_append, List.count_singleton_self] at this
      omega
    rw [Race.run_append, count_append_singleton]
    rcases ih hbefore with h | ⟨o, e, ho⟩
    · rcases h.turn hname hread hs with hnext | ⟨e, he⟩
      · exact .inl hnext
      · exact .inr ⟨s, e, he⟩
    · exact .inr ⟨o, e, Race.calls_run_of_done ho [s]⟩

/-- No call has a fourth turn, or there is a first fourth turn. -/
theorem first_rename (turns : List Side) :
    (∀ s, turns.count s ≤ 3)
      ∨ ∃ before a after, turns = before ++ a :: after ∧ before.count a = 3
        ∧ ∀ s, before.count s ≤ 3 := by
  induction turns using List.reverseRecOn with
  | nil => exact .inl fun s => by simp
  | append_singleton turns s ih =>
    rcases ih with hle | ⟨before, a, after, rfl, ha, hle⟩
    · by_cases hs : turns.count s = 3
      · exact .inr ⟨turns, s, [], rfl, hs, hle⟩
      · refine .inl fun o => ?_
        have hcount := congrFun (count_append_singleton turns s) o
        rw [Function.update_apply] at hcount
        have := hle o
        have := hle s
        split_ifs at hcount <;> omega
    · exact .inr ⟨before, a, after ++ [s], by simp, ha, hle⟩

/-! ## After a file is renamed -/

/-- Where there is a file at `path`, renaming `temporaryPath path` to it leaves nothing at
    `temporaryPath path`. -/
theorem find?_temporary_of_rename (hname : HasFileName path) {d d' : Disk}
    (hfile : d.find? path = some (.file contents))
    (hrename : d.rename (temporaryPath path) path = .ok d') : d'.find? (temporaryPath path) = none := by
  have hall := Disk.SameDirectories.of_rename hrename
  obtain ⟨old, new, found, hold, hfound, hnew, hnode, rfl⟩ := Disk.exists_of_rename hrename
  have hplace : d.node? old ≠ some .directory := by simp [hfound]
  -- The store's file is still there when the temporary one is taken away, so it is another one.
  have hkey : Disk.key new ≠ Disk.key old := by
    intro heq
    have hstill := find?_remove_temporary hname hold hplace
    rw [Disk.find?_of_locate ((Disk.SameDirectories.of_remove hplace).locate hnew), hfile,
      Disk.node?_remove (Disk.node?_ne_nil hnode), if_pos heq] at hstill
    exact absurd hstill (by simp)
  rw [Disk.find?_of_locate (hall.locate hold), Disk.node?_put_of_ne hkey.symm,
    Disk.node?_remove (Disk.node?_ne_nil hplace), if_pos rfl]

/-- A call that goes on alone after the other renamed its file has read the old entries or reads the new
    ones, and writes them with its own. -/
theorem file_of_alone {d d' : Disk} {written : ByteArray} (hfile : d.find? path = some (.file written))
    {own : Table Json} {n : Nat} (hn : n ≤ 2)
    (h : (setAfter path own t n).runWith (I := files) (m := StateM Disk) Disk.answer d = (.ok (), d')) :
    ∃ old, (if n ≤ 1 then entriesOf path written = .ok old else old = t)
      ∧ d'.find? path = some (.file (contentsOf (old.insertAll own.toList))) := by
  have hwhole : n ≤ 1 → onDisk path (.set own) d = (.ok (), d') := by
    intro hle
    obtain rfl | rfl : n = 0 ∨ n = 1 := by omega
    · exact h
    · have hprobe : (setAfter path own t 0).step (I := files) (m := StateM Disk) Disk.answer d
          = (setAfter path own t 1, d) := step_probe hfile
      have hstep := Program.runWith_step (I := files) Disk.answer (setAfter path own t 0) d
      rw [hprobe] at hstep
      exact hstep.symm.trans h
  by_cases hle : n ≤ 1
  · have hset := hwhole hle
    rw [onDisk_set, entriesIn, hfile] at hset
    simp only at hset
    cases hentries : entriesOf path written with
    | error e =>
      rw [hentries] at hset
      cases hset
    | ok old =>
      rw [hentries] at hset
      obtain ⟨between, hwrite, hrename⟩ := exists_of_written hset
      exact ⟨old, by rw [if_pos hle], Disk.find?_of_written hwrite hrename⟩
  · obtain rfl : n = 2 := by omega
    have hwritten : runOn d (writeAll path (t.insertAll own.toList)) = (.ok (), d') := h
    rw [runOn_writeAll] at hwritten
    obtain ⟨between, hwrite, hrename⟩ := exists_of_written hwritten
    exact ⟨t, by rw [if_neg hle], Disk.find?_of_written hwrite hrename⟩

/-- A call cannot rename `temporaryPath path` once the other call took it away. -/
theorem not_ok_of_no_temporary {d d' : Disk} (hnone : d.find? (temporaryPath path) = none)
    {own : Table Json} :
    (setAfter path own t 3).runWith (I := files) (m := StateM Disk) Disk.answer d ≠ (.ok (), d') := by
  intro h
  have hrun : runOn d (attempt (perform (.rename (temporaryPath path) path))) = (.ok (), d') := h
  rw [runOn_rename] at hrun
  cases hrename : d.rename (temporaryPath path) path with
  | error e =>
    rw [hrename] at hrun
    exact absurd hrun (by simp)
  | ok d'' =>
    obtain ⟨old, -, found, hold, hfound, -⟩ := Disk.exists_of_rename hrename
    rw [Disk.find?_of_locate hold, hfound] at hnone
    exact absurd hnone (by simp)

theorem setAfter_ne_done {own : Table Json} {n : Nat} (hn : n ≤ 3) (result : Except GuardError Unit) :
    setAfter path own t n ≠ .done result := by
  obtain rfl | rfl | rfl | rfl : n = 0 ∨ n = 1 ∨ n = 2 ∨ n = 3 := by omega
  all_goals exact nofun

/-- The call that renames its file first puts its entries there. Those of the other call come to be there
    when that one goes on alone, with the entries `old` that it has read before or reads now. -/
theorem exists_first (entries : Side → Table Json) (hname : HasFileName path)
    (hread : entriesOf path contents = .ok t) {d : Disk} (hfile : d.find? path = some (.file contents)) {turns : List Side}
    (hok : ∀ s, (((Race.ofSets path entries d).run turns).calls s).result? = some (.ok ())) :
    ∃ before a after old, turns = before ++ a :: after ∧ before.count a = 3
      ∧ before.count a.other ≤ 2
      ∧ (if before.count a.other ≤ 1
          then entriesOf path (contentsOf (t.insertAll (entries a).toList)) = .ok old else old = t)
      ∧ ((Race.ofSets path entries d).run turns).disk.find? path
        = some (.file (contentsOf (old.insertAll (entries a.other).toList))) := by
  have hdone := fun s => Program.eq_done_of_result? (hok s)
  rcases first_rename turns with hle | ⟨before, a, after, rfl, ha, hle⟩
  · -- Nobody came to rename a file, so a call is still underway or ended with an error.
    rcases underway_run entries hname hread hfile turns hle with h | ⟨s, e, hs⟩
    · exact absurd ((h.calls .left).symm.trans (hdone .left)) (setAfter_ne_done (hle .left) _)
    · exact absurd (hs.symm.trans (hdone s)) nofun
  · rw [Race.run_append] at hdone ⊢
    rcases underway_run entries hname hread hfile before hle with h | ⟨s, e, hs⟩
    · generalize (Race.ofSets path entries d).run before = r at h hdone ⊢
      have hturn : (r.turn a).calls a.other = setAfter path (entries a.other) t (before.count a.other) :=
        (r.calls_turn_of_ne a.other_ne).trans (h.calls _)
      have hstep := step_rename path r.disk (entries a) t
      cases hrename : r.disk.rename (temporaryPath path) path with
      | error e =>
        have hfailed : (r.turn a).calls a = .done (.error (.file e)) := by
          rw [r.calls_turn_self, h.calls, ha, hstep, hrename]
        exact absurd ((Race.calls_run_of_done hfailed after).symm.trans (hdone a)) nofun
      | ok d' =>
        rw [hrename, ← ha, ← h.calls] at hstep
        have hdisk : (r.turn a).disk = d' := (r.disk_turn a).trans (congrArg Prod.snd hstep)
        have hover : (r.turn a).calls a = .done (.ok ()) :=
          (r.calls_turn_self a).trans (congrArg Prod.fst hstep)
        have hrest := Race.runWith_of_done hover (hdone a.other)
        rw [hturn, hdisk] at hrest
        have hless : before.count a.other ≤ 2 := by
          by_contra hmore
          have hthree : before.count a.other = 3 := by
            have := hle a.other
            omega
          rw [hthree] at hrest
          exact not_ok_of_no_temporary (find?_temporary_of_rename hname h.file hrename) hrest
        have hwritten := Disk.find?_of_rename (h.temporary a ha hless) hrename
        obtain ⟨old, hold, hfinal⟩ := file_of_alone hwritten hless hrest
        exact ⟨before, a, after, old, rfl, ha, hless, hold, hfinal⟩
    · exact absurd ((Race.calls_run_of_done hs _).symm.trans (hdone s)) nofun

end Race

/-! ## What is in the file in the end -/

/-- Whether one call was over before the other one made its second operation, which reads the file. -/
def Apart (turns : List Side) : Prop :=
  ∃ s before after, turns = before ++ after ∧ 4 ≤ before.count s ∧ before.count s.other ≤ 1

/-- At the turn in which the first call renames its file, `Apart` is decided: the other call has had one
    turn at most. -/
theorem apart_iff {before after : List Side} {a : Side} (ha : before.count a = 3)
    (hother : before.count a.other ≤ 2) :
    Apart (before ++ a :: after) ↔ before.count a.other ≤ 1 := by
  constructor
  · rintro ⟨s, u, v, heq, hfour, hone⟩
    have hsplit : before ++ [a] ++ after = u ++ v := by simpa using heq
    -- Of two beginnings of the same turns one is a beginning of the other.
    rcases List.append_eq_append_iff.1 hsplit with ⟨more, hu, -⟩ | ⟨more, hshort, -⟩
    · rw [hu] at hone
      rcases s.eq_or_eq_other a with rfl | rfl
      · simp only [List.count_append] at hone
        omega
      · simp only [List.count_append, a.other_other, List.count_singleton_self] at hone
        omega
    · have hnone : [a].count a.other = 0 := List.count_eq_zero_of_not_mem (by simpa using a.other_ne)
      have hcount := congrArg (List.count s) hshort
      have hcount' := congrArg (List.count s.other) hshort
      rw [List.count_append, List.count_append] at hcount hcount'
      rcases s.eq_or_eq_other a with rfl | rfl
      · rw [List.count_singleton_self] at hcount
        rw [hnone] at hcount'
        -- The fourth turn is the last one, so nothing is left after it.
        rcases List.eq_nil_or_concat more with rfl | ⟨init, x, rfl⟩
        · simp only [List.count_nil] at hcount'
          omega
        · rw [List.concat_eq_append, ← List.append_assoc] at hshort
          have hbefore := (List.append_inj' hshort rfl).1
          have := congrArg (List.count s) hbefore
          rw [List.count_append] at this
          omega
      · omega
  · intro hle
    refine ⟨a, before ++ [a], after, by simp, ?_, ?_⟩
    · rw [List.count_append, List.count_singleton_self, ha]
    · have hnone : [a].count a.other = 0 := List.count_eq_zero_of_not_mem (by simpa using a.other_ne)
      rw [List.count_append, hnone]
      exact hle

/-- Whether `w` comes from `v` by writing and reading it some number of times (`Json.reread`). -/
def ReadFrom (v w : Json) : Prop :=
  ∃ n, w = Json.reread^[n] v

theorem ReadFrom.refl (v : Json) : ReadFrom v v := ⟨0, rfl⟩

theorem ReadFrom.reread {v w : Json} (h : ReadFrom v w) : ReadFrom v w.reread := by
  obtain ⟨n, rfl⟩ := h
  exact ⟨n + 1, (Function.iterate_succ_apply' _ _ _).symm⟩

/-- Whether a table holds what both calls wrote, and what `before` held under all other keys. -/
structure KeepsBoth (before : Table Json) (entries : Side → Table Json) (after : Table Json) : Prop where
  own : ∀ s k v, (entries s).get? k = some v → ∃ w, after.get? k = some w ∧ ReadFrom v w
  others : ∀ k, (∀ s, (entries s).get? k = none) →
    after.get? k = before.get? k
      ∨ ∃ v w, before.get? k = some v ∧ after.get? k = some w ∧ ReadFrom v w

section Outcome

variable {path : String} {entries : Side → Table Json} {t : Table Json} {contents : ByteArray} {d : Disk}
  {turns : List Side}

theorem get?_insertAll_toList {β : Type} (t entries : Table β) (k : String) :
    (t.insertAll entries.toList).get? k = (entries.get? k).or (t.get? k) := by
  rw [Table.get?_insertAll, ← Table.get?_ofList, Table.ofList_toList]

/-- Writing the entries of one call after those of the other gives `KeepsBoth`. -/
theorem keepsBoth_of_apart {a : Side}
    (hapart : ∀ k, (entries .left).get? k = none ∨ (entries .right).get? k = none) :
    KeepsBoth t entries (Table.map Json.reread
      ((Table.map Json.reread (t.insertAll (entries a).toList)).insertAll
        (entries a.other).toList)) := by
  have hget : ∀ k, (Table.map Json.reread ((Table.map Json.reread
      (t.insertAll (entries a).toList)).insertAll (entries a.other).toList)).get? k
      = (((entries a.other).get? k).or
          ((((entries a).get? k).or (t.get? k)).map Json.reread)).map Json.reread := fun k => by
    rw [Table.get?_map, get?_insertAll_toList, Table.get?_map, get?_insertAll_toList]
  have hother : ∀ k v, (entries a).get? k = some v → (entries a.other).get? k = none :=
    fun k v hv => by
      have h := hapart k
      cases a <;> simp_all [Side.other]
  refine ⟨fun s k v hv => ?_, fun k hnone => ?_⟩
  · rcases s.eq_or_eq_other a with rfl | rfl
    · exact ⟨_, by rw [hget, hother k v hv, hv]; rfl, (ReadFrom.refl v).reread.reread⟩
    · exact ⟨_, by rw [hget, hv]; rfl, (ReadFrom.refl v).reread⟩
  · rw [hget, hnone a, hnone a.other]
    cases hv : t.get? k with
    | none => exact .inl rfl
    | some v => exact .inr ⟨v, _, rfl, rfl, (ReadFrom.refl v).reread.reread⟩

/-- Two calls of `set` with different keys run at the same time over one file that holds an object, and both
    succeed. If they were `Apart`, the file then holds the entries of both and all else that it held
    (`KeepsBoth`). Otherwise one call is undone: under every key that is not the other's, the file holds
    what it held before. -/
theorem sets_outcome (hname : HasFileName path) (hfile : d.find? path = some (.file contents))
    (hread : entriesOf path contents = .ok t) (hentries : ∀ s, AllStorable (entries s))
    (hapart : ∀ k, (entries .left).get? k = none ∨ (entries .right).get? k = none)
    (hok : ∀ s, (((Race.ofSets path entries d).run turns).calls s).result? = some (.ok ())) :
    (Apart turns → ∃ u, entriesIn ((Race.ofSets path entries d).run turns).disk path = .ok u
        ∧ KeepsBoth t entries u)
      ∧ (¬ Apart turns → ∃ undone u, entriesIn ((Race.ofSets path entries d).run turns).disk path = .ok u
        ∧ (∀ k, (entries (Side.other undone)).get? k = none → u.get? k = (t.get? k).map Json.reread)) := by
  obtain ⟨before, a, after, old, rfl, ha, hless, hold, hfinal⟩ :=
    exists_first entries hname hread hfile hok
  have ht : AllStorable t := allStorable_of_entriesOf hread
  have hfirst : AllStorable (t.insertAll (entries a).toList) := ht.insertAll (hentries a)
  have hin : AllStorable old →
      entriesIn ((Race.ofSets path entries d).run (before ++ a :: after)).disk path
        = .ok ((old.insertAll (entries a.other).toList).map Json.reread) := fun hstorable => by
    rw [entriesIn, hfinal]
    exact entriesOf_contentsOf_reread (hstorable.insertAll (hentries a.other)) path
  rw [apart_iff ha hless]
  refine ⟨fun hle => ?_, fun hmore => ?_⟩
  · rw [if_pos hle, entriesOf_contentsOf_reread hfirst] at hold
    obtain rfl := Except.ok.inj hold
    exact ⟨_, hin hfirst.reread, keepsBoth_of_apart hapart⟩
  · rw [if_neg hmore] at hold
    subst hold
    refine ⟨a, _, hin ht, fun k hnone => ?_⟩
    rw [Table.get?_map, get?_insertAll_toList, hnone, Option.none_or]

/-- Entries with which the program is switched off. -/
def switchedOff : Table Json :=
  Table.ofList [("enabled", .bool false)]

/-- `contentsOf switchedOff`, as bytes. -/
def switchedOffFile : ByteArray :=
  "\x7b\"enabled\":false\x7d".toUTF8

/-- A disk with `switchedOffFile` as its store. -/
def sharedDisk : Disk :=
  ⟨Table.ofList [("home", .directory), ("home/store.json", .file switchedOffFile)], ["home"]⟩

/-- A threshold for one call, and the assessment of a host for the other. -/
def thresholdAndHost : Side → Table Json
  | .left => Table.empty.insert "threshold" (Json.ofUInt32 40)
  | .right => Table.empty.insert "cache:a.example"
      (CacheEntry.toStored ⟨0, ["missing-csp"], 1700000000000⟩)

theorem thresholdAndHost_storable (s : Side) : AllStorable (thresholdAndHost s) := by
  cases s with
  | left =>
    refine Table.All.insert (fun _ he => absurd he List.not_mem_nil) ?_
    simp [Json.depthLimit, Json.Storable, Json.ofUInt32]
  | right =>
    refine Table.All.insert (fun _ he => absurd he List.not_mem_nil) ?_
    have hzero : Float.isFinite 0 = true := rfl
    exact Json.Fits.storable_canonical (by
      simp [Json.depthLimit, Json.Fits, CacheEntry.toJson, Json.ofFloat, Json.ofStrings, Json.ofInt64,
        hzero])

theorem thresholdAndHost_apart (k : String) :
    (thresholdAndHost .left).get? k = none ∨ (thresholdAndHost .right).get? k = none := by
  by_cases hk : k = "threshold"
  · refine .inr ?_
    rw [hk]
    rfl
  · refine .inl ?_
    rw [thresholdAndHost, Table.get?_insert, if_neg hk]
    rfl

/-- Both calls succeed and the threshold is lost: the call for the host had read the file before it was
    written. -/
theorem thresholdAndHost_undone :
    let r := (Race.ofSets "store.json" thresholdAndHost sharedDisk).run
      [.right, .right, .left, .left, .left, .left, .right, .right]
    (∀ s, (r.calls s).result? = some (.ok ()))
      ∧ ∃ u, entriesIn r.disk "store.json" = .ok u
        ∧ ¬ KeepsBoth switchedOff thresholdAndHost u := by
  intro r
  have hread : entriesOf "store.json" switchedOffFile = .ok switchedOff := by decide +kernel
  have hfinal : r.disk.find? "store.json" = some (.file (contentsOf
      (switchedOff.insertAll (thresholdAndHost .right).toList))) := by
    decide +kernel
  have hin : entriesIn r.disk "store.json" = .ok ((switchedOff.insertAll
      (thresholdAndHost .right).toList).map Json.reread) := by
    rw [entriesIn, hfinal]
    exact entriesOf_contentsOf_reread
      ((allStorable_of_entriesOf hread).insertAll (thresholdAndHost_storable .right)) _
  refine ⟨fun s => by cases s <;> decide +kernel, _, hin, fun hkeeps => ?_⟩
  obtain ⟨w, hw, -⟩ := hkeeps.own .left "threshold" _ rfl
  have hlost : (thresholdAndHost .right).get? "threshold" = none := rfl
  rw [Table.get?_map, get?_insertAll_toList, hlost] at hw
  exact Option.some_ne_none w hw.symm

/-- With turns that are `Apart`, the threshold and the host are both there. -/
theorem thresholdAndHost_kept :
    ∃ u, entriesIn ((Race.ofSets "store.json" thresholdAndHost sharedDisk).run
      [.right, .left, .left, .left, .left, .right, .right, .right]).disk "store.json" = .ok u
      ∧ KeepsBoth switchedOff thresholdAndHost u := by
  have hread : entriesOf "store.json" switchedOffFile = .ok switchedOff := by decide +kernel
  have hok : ∀ s, (((Race.ofSets "store.json" thresholdAndHost sharedDisk).run
      [.right, .left, .left, .left, .left, .right, .right, .right]).calls s).result? = some (.ok ()) := by
    intro s
    cases s <;> decide +kernel
  have houtcome := sets_outcome (by decide) (by decide +kernel) hread thresholdAndHost_storable
    thresholdAndHost_apart hok
  exact houtcome.1 ⟨.left, [.right, .left, .left, .left, .left], _, rfl, by decide, by decide⟩

end Outcome

end Store

end PageRisk
