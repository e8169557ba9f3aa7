import PageRisk.Proofs.Files.Disk
import PageRisk.Proofs.Json.Storable
import PageRisk.Proofs.Program
import PageRisk.Proofs.Services

set_option autoImplicit false

/-! # The store in a file, operation by operation

On a disk, every operation of a store in a file is a function of the entries that the file holds
(`entriesIn`) and of how writing and renaming go (`written`). A file that was written holds what was
written (`entriesIn_of_written`). -/

namespace PageRisk.Store

open Files

/-! ## Work on a disk -/

section Run

variable {α β : Type}

/-- The result of a `FileTask` on a disk, and the disk afterwards. -/
def runOn (d : Disk) (task : FileTask α) : Except GuardError α × Disk :=
  Program.runWith (I := files) (m := StateM Disk) Disk.answer task.run d

@[simp] theorem runOn_pure (d : Disk) (a : α) : runOn d (pure a : FileTask α) = (.ok a, d) := rfl

theorem runOn_bind (d : Disk) (task : FileTask α) (next : α → FileTask β) :
    runOn d (task >>= next)
      = match runOn d task with
        | (.ok a, d') => runOn d' (next a)
        | (.error e, d') => (.error e, d') := by
  refine (congrFun (Program.runWith_andThen (I := files) (m := StateM Disk) Disk.answer task.run _)
    d).trans ?_
  unfold runOn
  simp only [bind, StateT.bind]
  cases Program.runWith (I := files) (m := StateM Disk) Disk.answer task.run d with
  | mk result d' => cases result <;> rfl

theorem runOn_bind_of_ok {d d' : Disk} {task : FileTask α} {a : α} (h : runOn d task = (.ok a, d'))
    (next : α → FileTask β) : runOn d (task >>= next) = runOn d' (next a) := by
  rw [runOn_bind, h]

/-- `attempt p` runs as `p` does, with a `FileError` turned into a `GuardError`. -/
theorem runOn_attempt (d : Disk) (p : Program files (Except FileError α)) :
    runOn d (attempt p)
      = match Program.runWith (I := files) (m := StateM Disk) Disk.answer p d with
        | (.ok a, d') => (.ok a, d')
        | (.error e, d') => (.error (.file e), d') := by
  refine (congrFun (Program.runWith_andThen (I := files) (m := StateM Disk) Disk.answer p _) d).trans ?_
  simp only [bind, StateT.bind]
  cases Program.runWith (I := files) (m := StateM Disk) Disk.answer p d with
  | mk result d' => cases result <;> rfl

end Run

/-! ## Reading -/

/-- The entries that a store's file holds on a disk: those of `entriesOf`, and none where there is no
    file. -/
def entriesIn (d : Disk) (path : String) : Except GuardError (Table Json) :=
  match d.find? path with
  | none => .ok Table.empty
  | some (.file contents) => entriesOf path contents
  | some .directory => .error (.file .isADirectory)

theorem read_of_directory {d : Disk} {path : String} (h : d.find? path = some .directory) :
    d.read path = .error .isADirectory := by
  obtain ⟨location, hlocate, hnode⟩ := Disk.exists_locate_of_find? h
  rw [Disk.read, hlocate]
  simp only [hnode]

/-- `readAll` gives `entriesIn` and leaves the disk as it is. -/
theorem runOn_readAll (d : Disk) (path : String) : runOn d (readAll path) = (entriesIn d path, d) := by
  have hprobe : runOn d (ExceptT.lift (perform (.probe path)) : FileTask Bool)
      = (.ok (d.find? path).isSome, d) := rfl
  rw [readAll, runOn_bind_of_ok hprobe, entriesIn]
  cases hfind : d.find? path with
  | none => rfl
  | some node =>
    have hread : Program.runWith (I := files) (m := StateM Disk) Disk.answer (perform (.read path)) d
        = (d.read path, d) := rfl
    rw [Option.isSome_some, if_pos rfl, runOn_bind, runOn_attempt, hread]
    cases node with
    | file contents =>
      rw [(Disk.read_eq_ok_iff d path contents).2 hfind]
      rfl
    | directory => rw [read_of_directory hfind]

/-! ## Writing -/

/-- How `writeAll` goes on a disk: the entries are written to `temporaryPath path`, and this is renamed to
    `path`. -/
def written (d : Disk) (path : String) (entries : Table Json) : Except GuardError Unit × Disk :=
  match d.write (temporaryPath path) (contentsOf entries) with
  | .error e => (.error (.file e), d)
  | .ok d' => match d'.rename (temporaryPath path) path with
    | .error e => (.error (.file e), d')
    | .ok d'' => (.ok (), d'')

/-- A `FileTask` of a single change runs as that change of the disk. -/
theorem runOn_change {d : Disk} (change : Disk → Except FileError Disk)
    {p : Program files (Except FileError Unit)}
    (h : Program.runWith (I := files) (m := StateM Disk) Disk.answer p d = Disk.change change d) :
    runOn d (attempt p)
      = match change d with
        | .ok d' => (.ok (), d')
        | .error e => (.error (.file e), d) := by
  rw [runOn_attempt, h, Disk.change]
  cases change d <;> rfl

theorem runOn_write (d : Disk) (path : String) (contents : ByteArray) :
    runOn d (attempt (perform (.write path contents)))
      = match d.write path contents with
        | .ok d' => (.ok (), d')
        | .error e => (.error (.file e), d) :=
  runOn_change (fun d => d.write path contents) rfl

theorem runOn_rename (d : Disk) (source target : String) :
    runOn d (attempt (perform (.rename source target)))
      = match d.rename source target with
        | .ok d' => (.ok (), d')
        | .error e => (.error (.file e), d) :=
  runOn_change (fun d => d.rename source target) rfl

theorem runOn_makeDirectories (d : Disk) (path : String) :
    runOn d (attempt (perform (.makeDirectories path)))
      = match d.makeDirectories (path.length + 1) path with
        | .ok d' => (.ok (), d')
        | .error e => (.error (.file e), d) :=
  runOn_change (fun d => d.makeDirectories (path.length + 1) path) rfl

theorem runOn_writeAll (d : Disk) (path : String) (entries : Table Json) :
    runOn d (writeAll path entries) = written d path entries := by
  unfold writeAll written
  rw [runOn_bind, runOn_write]
  cases d.write (temporaryPath path) (contentsOf entries) with
  | error e => rfl
  | ok d' =>
    simp only [runOn_rename]
    cases d'.rename (temporaryPath path) path <;> rfl

/-! ## Operations -/

theorem onDisk_get (d : Disk) (path : String) (keys : List String) :
    onDisk path (.get keys) d
      = match entriesIn d path with
        | .ok t => (.ok (t.select keys), d)
        | .error e => (.error e, d) := by
  change runOn d (fileTask path (.get keys)) = _
  rw [fileTask, runOn_bind, runOn_readAll]
  cases entriesIn d path with
  | error e => rfl
  | ok t => exact congrArg (fun t => (Except.ok t, d)) (Table.ofList_drain t keys)

theorem onDisk_keys (d : Disk) (path : String) :
    onDisk path .keys d
      = match entriesIn d path with
        | .ok t => (.ok t.keys, d)
        | .error e => (.error e, d) := by
  change runOn d (fileTask path .keys) = _
  rw [fileTask, runOn_bind, runOn_readAll]
  cases entriesIn d path <;> rfl

theorem onDisk_set (d : Disk) (path : String) (entries : Table Json) :
    onDisk path (.set entries) d
      = match entriesIn d path with
        | .ok t => written d path (t.insertAll entries.toList)
        | .error e => (.error e, d) := by
  change runOn d (fileTask path (.set entries)) = _
  rw [fileTask, runOn_bind, runOn_readAll]
  cases entriesIn d path with
  | error e => rfl
  | ok t => exact runOn_writeAll d path _

/-- `remove` writes nothing where none of its keys is there. -/
theorem onDisk_remove (d : Disk) (path : String) (keys : List String) :
    onDisk path (.remove keys) d
      = match entriesIn d path with
        | .ok t =>
          if t.eraseAll keys = t then (.ok (), d) else written d path (t.eraseAll keys)
        | .error e => (.error e, d) := by
  change runOn d (fileTask path (.remove keys)) = _
  rw [fileTask, runOn_bind, runOn_readAll]
  cases entriesIn d path with
  | error e => rfl
  | ok t =>
    simp only
    by_cases hsize : (t.eraseAll keys).size = t.size
    · have hsame := Table.eraseAll_eq_of_size hsize
      rw [if_pos hsame, hsame, if_neg (by simp)]
      rfl
    · have hchanged : t.eraseAll keys ≠ t := fun heq => hsize (by rw [heq])
      rw [if_neg hchanged, if_pos (by simpa using hsize)]
      exact runOn_writeAll d path _

section Reading

variable {d : Disk} {path : String} (source : List String → String → Reputation.Outcome)
  (clock : Nat → Int64)

theorem onDisk_reads {t : Table Json} (h : entriesIn d path = .ok t) :
    (Surroundings.onDisk path source clock).Reads d t := by
  intro keys
  exact (onDisk_get d path keys).trans (by rw [h])

theorem onDisk_unreadable {e : GuardError} (h : entriesIn d path = .error e) :
    (Surroundings.onDisk path source clock).Unreadable d e := by
  intro keys
  exact (onDisk_get d path keys).trans (by rw [h])

end Reading

/-! ## What was written is read -/

/-- Whether `Json.Exact` holds of all values of a table. -/
def AllExact (depth : Nat) (t : Table Json) : Prop :=
  ∀ e ∈ t.toList, Json.Exact depth e.2

theorem AllExact.insertAll {depth : Nat} {t entries : Table Json} (h : AllExact depth t)
    (hentries : AllExact depth entries) : AllExact depth (t.insertAll entries.toList) :=
  Table.All.insertAll h hentries

theorem AllExact.eraseAll {depth : Nat} {t : Table Json} (h : AllExact depth t)
    (keys : List String) : AllExact depth (t.eraseAll keys) :=
  Table.All.eraseAll h keys

/-- Whether `Json.Storable` holds of all values of a table, so that they can be written to the store's file
    and be read again. The file is one object around the values, which may therefore be nested less deep by
    one than `Json.depthLimit`. -/
def AllStorable (t : Table Json) : Prop :=
  t.All (Json.Storable (Json.depthLimit - 1))

theorem AllStorable.insertAll {t own : Table Json} (ht : AllStorable t) (hown : AllStorable own) :
    AllStorable (t.insertAll own.toList) :=
  Table.All.insertAll ht hown

theorem AllStorable.eraseAll {t : Table Json} (ht : AllStorable t) (keys : List String) :
    AllStorable (t.eraseAll keys) :=
  Table.All.eraseAll ht keys

theorem AllStorable.reread {t : Table Json} (ht : AllStorable t) : AllStorable (t.map Json.reread) := by
  rintro _ he
  obtain ⟨e, hmem, rfl⟩ := List.mem_map.1 he
  exact (ht e hmem).reread

/-- What `contentsOf` writes, `entriesOf` reads with each value as `Json.reread`. -/
theorem entriesOf_contentsOf_reread {t : Table Json} (h : AllStorable t) (path : String) :
    entriesOf path (contentsOf t) = .ok (t.map Json.reread) := by
  have hstorable : Json.Storable Json.depthLimit (.object t.toList) := ⟨t.ascending, h⟩
  have htext : String.fromUTF8? (contentsOf t) = some (Json.object t.toList).prettyText := by
    exact dif_pos (Json.object t.toList).prettyText.isValidUTF8
  -- The text starts with a bracket, so it is not blank.
  have hblank : Text.allBlank (Json.object t.toList).prettyText.toList = false := by
    obtain ⟨rest, hopen⟩ : ∃ rest, Json.prettyAt 0 (.object t.toList) = '\x7b' :: rest := by
      rw [Json.prettyAt, Json.block]
      split <;> exact ⟨_, rfl⟩
    rw [Json.prettyText, String.toList_ofList, hopen]
    rfl
  have hreread : (Json.object t.toList).reread = .object (t.map Json.reread).toList := by
    rw [Json.reread, Json.rereadMembers_eq_map]
    rfl
  unfold entriesOf
  simp only [htext, hblank, Bool.false_eq_true, if_false, Json.parse_prettyText_reread hstorable, hreread,
    Table.ofList_toList]

theorem reread_of_exact {depth : Nat} {t : Table Json} (h : AllExact depth t) : t.map Json.reread = t := by
  refine Table.ext ((List.map_congr_left fun e he => ?_).trans (List.map_id _))
  exact Prod.ext rfl (h e he).legible.fits.2

/-- What `contentsOf` writes of `AllExact` values, `entriesOf` reads as it was. The file is one object
    around the values, so that `depth` stays below `Json.depthLimit`. -/
theorem entriesOf_contentsOf {depth : Nat} (hdepth : depth < Json.depthLimit) {t : Table Json}
    (h : AllExact depth t) (path : String) : entriesOf path (contentsOf t) = .ok t := by
  have hstorable : AllStorable t := fun e he => ((h e he).mono (Nat.le_pred_of_lt hdepth)).storable
  rw [entriesOf_contentsOf_reread hstorable, reread_of_exact h]

/-- What `entriesOf` reads is `AllStorable`. -/
theorem allStorable_of_entriesOf {path : String} {contents : ByteArray} {t : Table Json}
    (h : entriesOf path contents = .ok t) : AllStorable t := by
  unfold entriesOf at h
  split at h
  · exact absurd h nofun
  · split_ifs at h
    · rw [← Except.ok.inj h]
      exact fun e he => absurd he List.not_mem_nil
    · split at h
      · exact absurd h nofun
      · next members hparse =>
        rw [← Except.ok.inj h]
        exact Table.all_ofList (Json.storable_of_parse hparse).2
      · exact absurd h nofun

theorem allStorable_of_entriesIn {d : Disk} {path : String} {t : Table Json}
    (h : entriesIn d path = .ok t) : AllStorable t := by
  unfold entriesIn at h
  split at h
  · rw [← Except.ok.inj h]
    exact fun e he => absurd he List.not_mem_nil
  · exact allStorable_of_entriesOf h
  · exact absurd h nofun

theorem exists_of_written {d d' : Disk} {path : String} {t : Table Json}
    (h : written d path t = (.ok (), d')) :
    ∃ between, d.write (temporaryPath path) (contentsOf t) = .ok between
      ∧ between.rename (temporaryPath path) path = .ok d' := by
  unfold written at h
  split at h
  · exact absurd h (by simp)
  · next between hwrite =>
    split at h
    · exact absurd h (by simp)
    · next hrename =>
      obtain rfl := (Prod.mk.inj h).2
      exact ⟨between, hwrite, hrename⟩

/-- What was `written` is what the file holds. -/
theorem find?_of_written {d d' : Disk} {path : String} {t : Table Json}
    (h : written d path t = (.ok (), d')) : d'.find? path = some (.file (contentsOf t)) := by
  obtain ⟨between, hwrite, hrename⟩ := exists_of_written h
  exact Disk.find?_of_written hwrite hrename

theorem entriesIn_of_written {depth : Nat} (hdepth : depth < Json.depthLimit) {d d' : Disk}
    {path : String} {t : Table Json} (ht : AllExact depth t)
    (h : written d path t = (.ok (), d')) : entriesIn d' path = .ok t := by
  rw [entriesIn, find?_of_written h]
  exact entriesOf_contentsOf hdepth ht path

theorem sameDirectories_of_written {d d' : Disk} {path : String} {t : Table Json}
    (h : written d path t = (.ok (), d')) : Disk.SameDirectories d d' := by
  obtain ⟨between, hwrite, hrename⟩ := exists_of_written h
  exact (Disk.SameDirectories.of_write hwrite).trans (Disk.SameDirectories.of_rename hrename)

/-! ## Opening -/

/-- Whether the directory that a store's file is in is there. -/
def Ready (d : Disk) (path : String) : Prop :=
  ∀ directory, parent? path = some directory → directory ≠ "" → d.isDirectory directory = true

theorem Ready.of_sameDirectories {d e : Disk} {path : String} (h : Ready d path)
    (hsame : Disk.SameDirectories d e) : Ready e path := fun directory hparent hne =>
  hsame.isDirectory (h directory hparent hne)

/-- `openFile` makes the directory of `parent?`, if the path names one. -/
theorem runOn_openFile (d : Disk) (path : String) :
    runOn d (openFile path)
      = match parent? path with
        | none => (.ok (), d)
        | some directory =>
          if directory = "" then (.ok (), d)
          else match d.makeDirectories (directory.length + 1) directory with
            | .ok d' => (.ok (), d')
            | .error e => (.error (.file e), d) := by
  unfold openFile
  cases parent? path with
  | none => rfl
  | some directory =>
    by_cases hempty : directory = ""
    · subst hempty
      rfl
    · simp only [hempty, if_false]
      exact runOn_makeDirectories d directory

/-- After `openFile` a store is `Ready`. -/
theorem ready_of_openFile {d d' : Disk} {path : String} (h : runOn d (openFile path) = (.ok (), d')) :
    Ready d' path := by
  intro directory hparent hne
  rw [runOn_openFile, hparent] at h
  simp only [hne, if_false] at h
  split at h
  · next hmade =>
    obtain rfl := (Prod.mk.inj h).2
    exact Disk.isDirectory_of_makeDirectories hne hmade
  · exact absurd h (by simp)

/-- On a disk that is `Ready`, `openFile` changes nothing. -/
theorem Ready.runOn_openFile {d : Disk} {path : String} (h : Ready d path) :
    runOn d (openFile path) = (.ok (), d) := by
  rw [Store.runOn_openFile]
  cases hparent : parent? path with
  | none => rfl
  | some directory =>
    by_cases hempty : directory = ""
    · simp only [hempty, if_true]
    · simp only [hempty, if_false,
        Disk.makeDirectories_of_isDirectory (h directory hparent hempty)]

end PageRisk.Store
