import PageRisk.Proofs.Files.Beside
import PageRisk.Proofs.Store.Refinement

set_option autoImplicit false

/-! # A change of the store is made wholly or not at all

A change may be cut off at any point, and any operation on files in it may fail: `Ends` says how a program
may then end. A write that does not succeed may leave any beginning of what was to be written; to rename a
file happens or does not. The file of the store then holds either what it held or all of the new contents
(`AllOrNothing`), as the temporary file is another file, with one exception: a probe that fails answers as
for a file that is not there, and a `set` that asked it may lose what the file held (`Lost`,
`threshold_lost`). There are no other exceptions (`all_or_nothing_iff`). What may be left in the temporary
file changes nothing later (`history_without_leftover`). -/

namespace PageRisk.Store

open Files

/-! ## Runs that go wrong -/

/-- What a write of `contents` that does not succeed leaves: the disk as it was, or a file with some prefix
    of `contents`. -/
inductive Torn (path : String) (contents : ByteArray) (d : Disk) : Disk → Prop
  | untouched : Torn path contents d d
  | begun (part rest : ByteArray) (d' : Disk) (hcontents : part ++ rest = contents)
      (hwrite : d.write path part = .ok d') : Torn path contents d d'

/-- How one operation may go: as `Disk.answer` runs it, or not. `FileOp.probe` has no error to give; where
    it is not `truthful` it may answer `false` for a file that is there. -/
inductive Goes (truthful : Bool) : (op : FileOp) → Disk → op.Answer → Disk → Prop
  | works (op : FileOp) (d : Disk) : Goes truthful op d (Disk.answer op d).1 (Disk.answer op d).2
  | unseen (path : String) (d : Disk) (h : truthful = false) : Goes truthful (.probe path) d false d
  | unread (path : String) (e : FileError) (d : Disk) : Goes truthful (.read path) d (.error e) d
  | unwritten (path : String) (contents : ByteArray) (e : FileError) (d d' : Disk)
      (h : Torn path contents d d') : Goes truthful (.write path contents) d (.error e) d'
  | unrenamed (source target : String) (e : FileError) (d : Disk) :
      Goes truthful (.rename source target) d (.error e) d

theorem Goes.of_answer {truthful : Bool} {op : FileOp} {d d' : Disk} {answer : op.Answer}
    (h : Disk.answer op d = (answer, d')) : Goes truthful op d answer d' := by
  have hworks := @Goes.works truthful op d
  rwa [h] at hworks

/-- How a `Program` on files may end: with `some` result, or with `none` where it is cut off between two
    operations or within a write. -/
inductive Ends (truthful : Bool) {α : Type} : Program files α → Disk → Option α → Disk → Prop
  | done (a : α) (d : Disk) : Ends truthful (.done a) d (some a) d
  | cut (p : Program files α) (d : Disk) : Ends truthful p d none d
  | torn (path : String) (contents : ByteArray) (next : Except FileError Unit → Program files α)
      (d d' : Disk) (h : Torn path contents d d') :
      Ends truthful (.call (.write path contents) next) d none d'
  | step (op : FileOp) (next : op.Answer → Program files α) (d d' d'' : Disk) (answer : op.Answer)
      (r : Option α) (hop : Goes truthful op d answer d') (hrest : Ends truthful (next answer) d' r d'') :
      Ends truthful (.call op next) d r d''

section Ends

variable {truthful : Bool} {α β : Type}

/-- `p.andThen f` ends in `p`, or goes on with `f` from where `p` ends. -/
theorem ends_andThen {p : Program files α} {f : α → Program files β} {d d'' : Disk} {r : Option β}
    (h : Ends truthful (p.andThen f) d r d'') :
    (r = none ∧ Ends truthful p d none d'')
      ∨ ∃ a d', Ends truthful p d (some a) d' ∧ Ends truthful (f a) d' r d'' := by
  induction p generalizing d with
  | done a =>
    -- Nothing of the first part is left to be done: everything happens in the second.
    exact .inr ⟨a, d, .done a d, h⟩
  | call op next ih =>
    rw [Program.call_andThen] at h
    cases h with
    | cut => exact .inl ⟨rfl, .cut _ _⟩
    | torn path contents _ _ _ htorn => exact .inl ⟨rfl, .torn path contents next d d'' htorn⟩
    | step _ _ _ d' _ answer _ hop hrest =>
      rcases ih answer hrest with ⟨hnone, hfirst⟩ | ⟨a, between, hfirst, hnext⟩
      · exact .inl ⟨hnone, .step op next d d' d'' answer none hop hfirst⟩
      · exact .inr ⟨a, between, .step op next d d' between answer (some a) hop hfirst, hnext⟩

/-- `task >>= next` ends in `task`, cut off or with its error, or goes on with `next` from where `task`
    ends. -/
theorem ends_bind {task : FileTask α} {next : α → FileTask β} {d d'' : Disk}
    {r : Option (Except GuardError β)} (h : Ends truthful (task >>= next).run d r d'') :
    (r = none ∧ ∃ first, Ends truthful task.run d first d'')
      ∨ (∃ e, r = some (.error e) ∧ Ends truthful task.run d (some (.error e)) d'')
      ∨ ∃ a d', Ends truthful task.run d (some (.ok a)) d' ∧ Ends truthful (next a).run d' r d'' := by
  have hboth : Ends truthful (task.run.andThen (ExceptT.bindCont next)) d r d'' := h
  -- After an error of the first part there is only its result left to give.
  rcases ends_andThen hboth with ⟨hnone, hfirst⟩ | ⟨result, d', hfirst, hnext⟩
  · exact .inl ⟨hnone, none, hfirst⟩
  · cases result with
    | ok a => exact .inr (.inr ⟨a, d', hfirst, hnext⟩)
    | error e =>
      have hdone : Ends truthful (.done (.error e) : Program files (Except GuardError β)) d' r d'' :=
        hnext
      cases hdone with
      | done => exact .inr (.inl ⟨e, rfl, hfirst⟩)
      | cut => exact .inl ⟨rfl, _, hfirst⟩

theorem ends_done {a : α} {d d' : Disk} {r : Option α}
    (h : Ends truthful (.done a : Program files α) d r d') : d' = d ∧ ∀ b, r = some b → b = a := by
  cases h with
  | done => exact ⟨rfl, fun b hb => (Option.some.inj hb).symm⟩
  | cut => exact ⟨rfl, fun b hb => absurd hb (by simp)⟩

/-! ### Single operations -/

theorem ends_perform {op : FileOp} {d d' : Disk} {r : Option op.Answer}
    (h : Ends truthful (perform op) d r d') :
    (r = none ∧ (d' = d ∨ ∃ path contents, op = .write path contents ∧ Torn path contents d d'))
      ∨ ∃ answer, Goes truthful op d answer d' ∧ ∀ b, r = some b → b = answer := by
  unfold perform Program.ask at h
  cases h with
  | cut => exact .inl ⟨rfl, .inl rfl⟩
  | torn path contents _ _ _ htorn => exact .inl ⟨rfl, .inr ⟨path, contents, rfl, htorn⟩⟩
  | step _ _ _ _ _ answer _ hop hrest =>
    obtain ⟨rfl, hr⟩ := ends_done hrest
    exact .inr ⟨answer, hop, hr⟩

/-- `attempt p` ends as `p` does. -/
theorem ends_attempt {p : Program files (Except FileError α)} {d d' : Disk}
    {r : Option (Except GuardError α)} (h : Ends truthful (attempt p).run d r d') :
    ∃ first, Ends truthful p d first d' ∧ (∀ a, r = some (.ok a) → first = some (.ok a))
      ∧ ∀ e, r = some (.error e) → ∃ failure, first = some (.error failure) := by
  unfold attempt at h
  rcases ends_andThen h with ⟨rfl, hfirst⟩ | ⟨answer, between, hfirst, hnext⟩
  · exact ⟨none, hfirst, by simp, by simp⟩
  · cases answer with
    | ok a =>
      obtain ⟨rfl, hr⟩ := ends_done hnext
      refine ⟨some (.ok a), hfirst, fun b hb => ?_, fun e he => absurd (hr _ he) (by simp)⟩
      rw [Except.ok.inj (hr _ hb)]
    | error failure =>
      obtain ⟨rfl, hr⟩ := ends_done hnext
      exact ⟨some (.error failure), hfirst, fun b hb => absurd (hr _ hb) (by simp),
        fun e _ => ⟨failure, rfl⟩⟩

/-- `ExceptT.lift p` ends as `p` does, and never with an error. -/
theorem ends_lift {p : Program files α} {d d' : Disk} {r : Option (Except GuardError α)}
    (h : Ends truthful (ExceptT.lift p : FileTask α).run d r d') :
    ∃ first, Ends truthful p d first d' ∧ ∀ a, r = some (.ok a) → first = some a := by
  have hmap : Ends truthful (p.andThen fun a => .done (.ok a)) d r d' := h
  rcases ends_andThen hmap with ⟨rfl, hfirst⟩ | ⟨a, between, hfirst, hnext⟩
  · exact ⟨none, hfirst, by simp⟩
  · obtain ⟨rfl, hr⟩ := ends_done hnext
    refine ⟨some a, hfirst, fun b hb => ?_⟩
    rw [Except.ok.inj (hr _ hb)]

/-- `FileOp.probe` changes nothing. Its answer is true, or it is `false` and the probe was not
    `truthful`. -/
theorem ends_probe {path : String} {d d' : Disk} {r : Option Bool}
    (h : Ends truthful (perform (.probe path)) d r d') :
    d' = d ∧ ∀ there, r = some there →
      there = (d.find? path).isSome ∨ truthful = false ∧ there = false := by
  rcases ends_perform h with ⟨rfl, rfl | ⟨_, _, hop, -⟩⟩ | ⟨answer, hgoes, hr⟩
  · exact ⟨rfl, by simp⟩
  · exact absurd hop (by simp)
  · cases hgoes with
    | works => exact ⟨rfl, fun there hthere => .inl (hr there hthere)⟩
    | unseen _ _ hfalse => exact ⟨rfl, fun there hthere => .inr ⟨hfalse, hr there hthere⟩⟩

/-- `FileOp.read` changes nothing and gives what `Disk.read` gives, or fails. -/
theorem ends_read {path : String} {d d' : Disk} {r : Option (Except GuardError ByteArray)}
    (h : Ends truthful (attempt (perform (.read path))).run d r d') :
    d' = d ∧ ∀ contents, r = some (.ok contents) → d.read path = .ok contents := by
  obtain ⟨first, hfirst, hok, -⟩ := ends_attempt h
  rcases ends_perform hfirst with ⟨rfl, rfl | ⟨_, _, hop, -⟩⟩ | ⟨answer, hgoes, hr⟩
  · exact ⟨rfl, fun contents hcontents => absurd (hok contents hcontents) (by simp)⟩
  · exact absurd hop (by simp)
  · cases hgoes with
    | works => exact ⟨rfl, fun contents hcontents => (hr _ (hok contents hcontents)).symm⟩
    | unread _ e =>
      exact ⟨rfl, fun contents hcontents => absurd (hr _ (hok contents hcontents)) (by simp)⟩

theorem Torn.of_write {path : String} {contents : ByteArray} {d d' : Disk}
    (h : d.write path contents = .ok d') : Torn path contents d d' :=
  .begun contents ByteArray.empty d' ByteArray.append_empty h

/-- `Disk.change` succeeds with the changed disk, or fails and leaves the disk as it is. -/
theorem change_cases (change : Disk → Except FileError Disk) (d : Disk) :
    (∃ d', change d = .ok d' ∧ Disk.change change d = (.ok (), d'))
      ∨ ∃ e, Disk.change change d = (.error e, d) := by
  cases hchange : change d with
  | ok d' => exact .inl ⟨d', rfl, Disk.change_of_ok change hchange⟩
  | error e => exact .inr ⟨e, Disk.change_of_error change hchange⟩

/-- `FileOp.write` leaves the disk `Torn`, and gives what `Disk.write` gives where it says that it
    succeeded. -/
theorem ends_write {path : String} {contents : ByteArray} {d d' : Disk}
    {r : Option (Except GuardError Unit)}
    (h : Ends truthful (attempt (perform (.write path contents))).run d r d') :
    Torn path contents d d' ∧ (r = some (.ok ()) → d.write path contents = .ok d') := by
  obtain ⟨first, hfirst, hok, -⟩ := ends_attempt h
  rcases ends_perform hfirst with ⟨rfl, rfl | ⟨_, _, hop, htorn⟩⟩ | ⟨answer, hgoes, hr⟩
  · exact ⟨.untouched, fun hdone => absurd (hok () hdone) (by simp)⟩
  · obtain ⟨rfl, rfl⟩ := FileOp.write.inj hop
    exact ⟨htorn, fun hdone => absurd (hok () hdone) (by simp)⟩
  · cases hgoes with
    | works =>
      rcases change_cases (fun d => d.write path contents) d with ⟨d'', hwrite, hchange⟩ | ⟨e, hchange⟩
      · have hdisk : (Disk.answer (.write path contents) d).2 = d'' := congrArg Prod.snd hchange
        rw [hdisk]
        exact ⟨.of_write hwrite, fun _ => hwrite⟩
      · have hdisk : (Disk.answer (.write path contents) d).2 = d := congrArg Prod.snd hchange
        have hanswer : (Disk.answer (.write path contents) d).1 = .error e := congrArg Prod.fst hchange
        rw [hdisk]
        refine ⟨.untouched, fun hdone => ?_⟩
        exact absurd ((hr _ (hok () hdone)).trans hanswer) (by simp)
    | unwritten _ _ e _ _ htorn =>
      exact ⟨htorn, fun hdone => absurd (hr _ (hok () hdone)) (by simp)⟩

/-- `FileOp.rename` leaves the disk as it is or does all that `Disk.rename` does, and it does not do so with
    an error. -/
theorem ends_rename {source target : String} {d d' : Disk} {r : Option (Except GuardError Unit)}
    (h : Ends truthful (attempt (perform (.rename source target))).run d r d') :
    d' = d ∨ d.rename source target = .ok d' ∧ ∀ e, r ≠ some (.error e) := by
  obtain ⟨first, hfirst, -, herror⟩ := ends_attempt h
  rcases ends_perform hfirst with ⟨rfl, rfl | ⟨_, _, hop, -⟩⟩ | ⟨answer, hgoes, hr⟩
  · exact .inl rfl
  · exact absurd hop (by simp)
  · cases hgoes with
    | works =>
      rcases change_cases (fun d => d.rename source target) d with ⟨d'', hrename, hchange⟩ | ⟨e, hchange⟩
      · have hdisk : (Disk.answer (.rename source target) d).2 = d'' := congrArg Prod.snd hchange
        have hanswer : (Disk.answer (.rename source target) d).1 = .ok () := congrArg Prod.fst hchange
        rw [hdisk]
        refine .inr ⟨hrename, fun e he => ?_⟩
        obtain ⟨failure, hfailure⟩ := herror e he
        exact absurd ((hr _ hfailure).trans hanswer) (by simp)
      · exact .inl (congrArg Prod.snd hchange)
    | unrenamed _ _ e => exact .inl rfl

/-! ## Operations of the store -/

/-- However `readAll` ends, it changes nothing, and its entries are those of `entriesIn`, or none where the
    file was not seen. -/
theorem ends_readAll {path : String} {d d' : Disk} {r : Option (Except GuardError (Table Json))}
    (h : Ends truthful (readAll path).run d r d') :
    d' = d ∧ ∀ t, r = some (.ok t) → entriesIn d path = .ok t ∨ truthful = false ∧ t = Table.empty := by
  unfold readAll at h
  rcases ends_bind h with ⟨rfl, first, hprobe⟩ | ⟨e, rfl, hprobe⟩ | ⟨there, between, hprobe, hrest⟩
  · obtain ⟨_, hfirst, -⟩ := ends_lift hprobe
    exact ⟨(ends_probe hfirst).1, by simp⟩
  · obtain ⟨_, hfirst, -⟩ := ends_lift hprobe
    exact ⟨(ends_probe hfirst).1, by simp⟩
  · obtain ⟨answer, hfirst, hok⟩ := ends_lift hprobe
    obtain ⟨rfl, hthere⟩ := ends_probe hfirst
    have hseen := hthere there (hok there rfl)
    cases there with
    | false =>
      -- Either there is no file, and no entries is what it holds, or the probe was not truthful.
      obtain ⟨rfl, hr⟩ := ends_done (a := Except.ok Table.empty) hrest
      refine ⟨rfl, fun t ht => ?_⟩
      obtain rfl := Except.ok.inj (hr _ ht)
      rcases hseen with hnone | ⟨hfalse, -⟩
      · have hnothing : d'.find? path = none := by simpa using hnone.symm
        refine .inl ?_
        rw [entriesIn, hnothing]
      · exact .inr ⟨hfalse, rfl⟩
    | true =>
      rw [if_pos rfl] at hrest
      rcases ends_bind hrest with ⟨rfl, first, hread⟩ | ⟨e, rfl, hread⟩ | ⟨contents, _, hread, hparse⟩
      · exact ⟨(ends_read hread).1, by simp⟩
      · exact ⟨(ends_read hread).1, by simp⟩
      · obtain ⟨rfl, hcontents⟩ := ends_read hread
        obtain ⟨rfl, hr⟩ := ends_done hparse
        refine ⟨rfl, fun t ht => .inl ?_⟩
        rw [entriesIn, (Disk.read_eq_ok_iff _ path contents).1 (hcontents contents rfl)]
        exact (hr _ ht).symm

/-- However `writeAll` ends, it leaves `temporaryPath path` torn at most, or does all that `written` does,
    and then it does not end with an error. -/
theorem ends_writeAll {path : String} {entries : Table Json} {d d' : Disk}
    {r : Option (Except GuardError Unit)} (h : Ends truthful (writeAll path entries).run d r d') :
    Torn (temporaryPath path) (contentsOf entries) d d'
      ∨ written d path entries = (.ok (), d') ∧ ∀ e, r ≠ some (.error e) := by
  unfold writeAll at h
  rcases ends_bind h with ⟨rfl, first, hwrite⟩ | ⟨e, rfl, hwrite⟩ | ⟨_, between, hwrite, hrename⟩
  · exact .inl (ends_write hwrite).1
  · exact .inl (ends_write hwrite).1
  · -- The temporary file is complete; what matters now is whether it is renamed.
    obtain ⟨htorn, hwritten⟩ := ends_write hwrite
    rcases ends_rename hrename with rfl | ⟨hrenamed, hr⟩
    · exact .inl htorn
    · refine .inr ⟨?_, hr⟩
      unfold written
      simp only [hwritten rfl, hrenamed]

/-- Work that begins with `readAll` ends with nothing changed, or goes on with the entries of `entriesIn`,
    or with none where the file was not seen. -/
theorem ends_readAll_bind {path : String} {next : Table Json → FileTask β} {d d' : Disk}
    {r : Option (Except GuardError β)} (h : Ends truthful (readAll path >>= next).run d r d') :
    d' = d ∨ ∃ t, (entriesIn d path = .ok t ∨ truthful = false ∧ t = Table.empty)
      ∧ Ends truthful (next t).run d r d' := by
  rcases ends_bind h with ⟨-, first, hfirst⟩ | ⟨e, -, hfirst⟩ | ⟨t, between, hfirst, hnext⟩
  · exact .inl (ends_readAll hfirst).1
  · exact .inl (ends_readAll hfirst).1
  · obtain ⟨rfl, ht⟩ := ends_readAll hfirst
    exact .inr ⟨t, ht t rfl, hnext⟩

/-- However `jsonFile` ends, `temporaryPath path` is torn at most, or new contents took the place of the
    store's file, and then it does not end with an error. The new contents are those of `memory`, or the
    entries of a `set` alone where the file was not seen. -/
theorem ends_jsonFile {path : String} {op : StoreOp} {d d' : Disk} {r : Option op.Answer}
    (h : Ends truthful (jsonFile path op) d r d') :
    (∃ contents, Torn (temporaryPath path) contents d d')
      ∨ ((∃ t, entriesIn d path = .ok t ∧ written d path (memory op t).2 = (.ok (), d'))
          ∨ truthful = false ∧ ∃ entries, op = .set entries ∧ written d path entries = (.ok (), d'))
        ∧ ∀ e, r ≠ some (.error e) := by
  have hunchanged : d' = d → ∃ contents, Torn (temporaryPath path) contents d d' := by
    rintro rfl
    exact ⟨ByteArray.empty, .untouched⟩
  cases op with
  | get keys =>
    have hbind : Ends truthful
        (readAll path >>= fun old => pure (Table.ofList (old.drain keys))).run d r d' := h
    rcases ends_readAll_bind hbind with hsame | ⟨t, -, hnext⟩
    · exact .inl (hunchanged hsame)
    · exact .inl (hunchanged (ends_done hnext).1)
  | keys =>
    have hbind : Ends truthful (readAll path >>= fun old => pure old.keys).run d r d' := h
    rcases ends_readAll_bind hbind with hsame | ⟨t, -, hnext⟩
    · exact .inl (hunchanged hsame)
    · exact .inl (hunchanged (ends_done hnext).1)
  | set entries =>
    have hbind : Ends truthful
        (readAll path >>= fun old => writeAll path (old.insertAll entries.toList)).run d r d' := h
    rcases ends_readAll_bind hbind with hsame | ⟨t, ht, hnext⟩
    · exact .inl (hunchanged hsame)
    · rcases ends_writeAll hnext with htorn | ⟨hwritten, hr⟩
      · exact .inl ⟨_, htorn⟩
      · refine .inr ⟨?_, hr⟩
        rcases ht with hin | ⟨hfalse, rfl⟩
        · exact .inl ⟨t, hin, hwritten⟩
        · have halone : Table.empty.insertAll entries.toList = entries := entries.ofList_toList
          rw [halone] at hwritten
          exact .inr ⟨hfalse, entries, rfl, hwritten⟩
  | remove keys =>
    have hbind : Ends truthful (readAll path >>= fun old =>
        if (old.eraseAll keys).size != old.size then writeAll path (old.eraseAll keys)
        else pure ()).run d r d' := h
    rcases ends_readAll_bind hbind with hsame | ⟨t, ht, hnext⟩
    · exact .inl (hunchanged hsame)
    · split_ifs at hnext with hsize
      · rcases ends_writeAll hnext with htorn | ⟨hwritten, hr⟩
        · exact .inl ⟨_, htorn⟩
        · rcases ht with hin | ⟨-, rfl⟩
          · exact .inr ⟨.inl ⟨t, hin, hwritten⟩, hr⟩
          · -- Where no entries were seen, there is no key to be removed.
            rw [(Table.eraseAll_eq_self_iff Table.empty keys).2 fun k _ => Table.get?_empty k] at hsize
            exact absurd hsize (by simp)
      · -- No key was there, so nothing is written.
        exact .inl (hunchanged (ends_done hnext).1)

/-- A `set` whose probe does not see the file goes on to write its own entries alone. -/
theorem ends_set_of_unseen {path : String} {entries : Table Json} {d d' : Disk}
    (h : written d path entries = (.ok (), d')) :
    Ends false (jsonFile path (.set entries)) d (some (.ok ())) d' := by
  obtain ⟨between, hwrite, hrename⟩ := exists_of_written h
  have halone : Table.empty.insertAll entries.toList = entries := entries.ofList_toList
  rw [← halone] at hwrite
  have hwrites : Goes false (.write (temporaryPath path) (contentsOf (Table.empty.insertAll entries.toList)))
      d (.ok ()) between :=
    .of_answer (Disk.change_of_ok
      (fun d => d.write (temporaryPath path) (contentsOf (Table.empty.insertAll entries.toList))) hwrite)
  have hrenames : Goes false (.rename (temporaryPath path) path) between (.ok ()) d' :=
    .of_answer (Disk.change_of_ok (fun d => d.rename (temporaryPath path) path) hrename)
  have hrenaming : Ends false (attempt (perform (.rename (temporaryPath path) path))).run between
      (some (.ok ())) d' := .step _ _ _ _ _ _ _ hrenames (.done _ _)
  have hwriting : Ends false (writeAll path (Table.empty.insertAll entries.toList)).run d
      (some (.ok ())) d' := .step _ _ _ _ _ _ _ hwrites hrenaming
  exact .step (.probe path) _ d d d' false _ (.unseen path d rfl) hwriting

end Ends

/-! ## The temporary file -/

theorem temporaryExtension_eq : "json.tmp".toList = "json".toList ++ '.' :: "tmp".toList := rfl

/-- `temporaryPath path` is never `path` itself. -/
theorem temporaryPath_ne {path : String} (h : HasFileName path) : temporaryPath path ≠ path :=
  withExtension_ne h temporaryExtension_eq (by decide) (by decide)

/-- A path without a file name has no `temporaryPath` of its own. -/
theorem temporaryPath_eq_of_no_name {path : String} (h : ¬ HasFileName path) : temporaryPath path = path := by
  have hname : ((lastName path).isEmpty || lastName path == ['.'] || lastName path == ['.', '.'])
      = true := by
    unfold HasFileName at h
    simp only [Bool.or_eq_true, List.isEmpty_iff, beq_iff_eq]
    tauto
  exact if_pos hname

/-- `Disk.write` takes `temporaryPath path` for the path of a file. -/
theorem endsInSeparator_temporaryPath {path : String} (h : HasFileName path) :
    Disk.endsInSeparator (temporaryPath path) = false := by
  have hextension : '/' ∉ "json.tmp".toList := by decide
  obtain ⟨hslash, hne, -⟩ := newName_shape path hextension (by decide)
  rw [Disk.endsInSeparator, temporaryPath, toList_withExtension h, List.getLast?_append_of_ne_nil _ hne,
    beq_eq_false_iff_ne]
  exact fun hlast => hslash (List.mem_of_getLast? hlast)

section Temporary

variable {path : String} {d d' : Disk} {location : List String}

/-- What is put at `temporaryPath path` does not change what `find?` gives for `path`. -/
theorem find?_congr_temporary (hname : HasFileName path)
    (hlocate : d.locate (temporaryPath path) = .ok location) (hsame : Disk.SameDirectories d d')
    (hnode : ∀ other, Disk.key other ≠ Disk.key location → d'.node? other = d.node? other) :
    d'.find? path = d.find? path :=
  Disk.find?_congr_beside hname temporaryExtension_eq (by decide) (by decide) hlocate hsame hnode

theorem find?_of_torn {contents : ByteArray} (hname : HasFileName path)
    (h : Torn (temporaryPath path) contents d d') : d'.find? path = d.find? path := by
  cases h with
  | untouched => rfl
  | begun part rest _ hcontents hwrite =>
    have hsame := Disk.SameDirectories.of_write hwrite
    obtain ⟨location, hlocate, hnode, rfl⟩ := Disk.exists_of_write hwrite
    exact find?_congr_temporary hname hlocate hsame fun other hother => Disk.node?_put_of_ne hother _

/-! ## What is left behind -/

/-- Where `temporaryPath path` leads anywhere, the directory of the store is there (`Ready`). -/
theorem ready_of_locate (hname : HasFileName path)
    (hlocate : d.locate (temporaryPath path) = .ok location) : Ready d path :=
  fun _ hparent hne =>
    Disk.isDirectory_parent hname temporaryExtension_eq (by decide) (by decide) hlocate hparent hne

variable (hname : HasFileName path) (hlocate : d.locate (temporaryPath path) = .ok location)
  (hnode : d.node? location ≠ some .directory)

include hname hlocate hnode

theorem find?_remove_temporary : (d.remove location).find? path = d.find? path :=
  find?_congr_temporary hname hlocate (Disk.SameDirectories.of_remove hnode)
    fun _ hother => Disk.node?_remove_of_ne hother

theorem entriesIn_remove_temporary : entriesIn (d.remove location) path = entriesIn d path := by
  unfold entriesIn
  rw [find?_remove_temporary hname hlocate hnode]

/-- `Disk.write` to `temporaryPath path` replaces anything left there. -/
theorem write_remove_temporary (contents : ByteArray) :
    (d.remove location).write (temporaryPath path) contents
      = d.write (temporaryPath path) contents := by
  have hlocate' := (Disk.SameDirectories.of_remove hnode).locate hlocate
  have hnode' : (d.remove location).node? location ≠ some .directory := by
    rw [Disk.node?_remove (Disk.node?_ne_nil hnode), if_pos rfl]
    simp
  have hput : (d.remove location).put location (.file contents) = d.put location (.file contents) := by
    unfold Disk.put Disk.remove
    rw [Table.insert_erase]
  unfold Disk.write
  simp only [endsInSeparator_temporaryPath hname, Bool.false_eq_true, if_false, hlocate, hlocate',
    beq_eq_false_iff_ne.2 hnode, beq_eq_false_iff_ne.2 hnode', hput]

/-- `written` goes the same with and without something left at `temporaryPath path`, and once it writes at
    all, it leaves the same disk. -/
theorem written_remove_temporary (entries : Table Json) :
    (written (d.remove location) path entries).1 = (written d path entries).1
      ∧ ((written (d.remove location) path entries).2 = (written d path entries).2
        ∨ (written (d.remove location) path entries).2 = d.remove location
          ∧ (written d path entries).2 = d) := by
  unfold written
  rw [write_remove_temporary hname hlocate hnode]
  cases d.write (temporaryPath path) (contentsOf entries) with
  | error e => exact ⟨rfl, .inr ⟨rfl, rfl⟩⟩
  | ok d' => exact ⟨rfl, .inl rfl⟩

/-- `onDisk` answers the same with and without something left at `temporaryPath path`, and leaves the same
    disk up to that. -/
theorem onDisk_remove_temporary (op : StoreOp) :
    (onDisk path op (d.remove location)).1 = (onDisk path op d).1
      ∧ ((onDisk path op (d.remove location)).2 = (onDisk path op d).2
        ∨ (onDisk path op (d.remove location)).2 = d.remove location ∧ (onDisk path op d).2 = d) := by
  have hentries := entriesIn_remove_temporary hname hlocate hnode
  cases op with
  | get keys =>
    rw [onDisk_get, onDisk_get, hentries]
    cases entriesIn d path <;> exact ⟨rfl, .inr ⟨rfl, rfl⟩⟩
  | keys =>
    rw [onDisk_keys, onDisk_keys, hentries]
    cases entriesIn d path <;> exact ⟨rfl, .inr ⟨rfl, rfl⟩⟩
  | set entries =>
    rw [onDisk_set, onDisk_set, hentries]
    cases entriesIn d path with
    | error e => exact ⟨rfl, .inr ⟨rfl, rfl⟩⟩
    | ok t => exact written_remove_temporary hname hlocate hnode _
  | remove keys =>
    rw [onDisk_remove, onDisk_remove, hentries]
    cases entriesIn d path with
    | error e => exact ⟨rfl, .inr ⟨rfl, rfl⟩⟩
    | ok t =>
      simp only
      split
      · exact ⟨rfl, .inr ⟨rfl, rfl⟩⟩
      · exact written_remove_temporary hname hlocate hnode _

/-- `Step.onFile` answers the same with and without something left at `temporaryPath path`, and leaves the
    same disk up to that. -/
theorem onFile_remove_temporary (a : Step) :
    (a.onFile path (d.remove location)).1 = (a.onFile path d).1
      ∧ ((a.onFile path (d.remove location)).2 = (a.onFile path d).2
        ∨ (a.onFile path (d.remove location)).2 = d.remove location ∧ (a.onFile path d).2 = d) := by
  cases a with
  | opened =>
    have hready := ready_of_locate hname hlocate
    have hready' := hready.of_sameDirectories (Disk.SameDirectories.of_remove hnode)
    rw [hready.onFile_opened, hready'.onFile_opened]
    exact ⟨rfl, .inr ⟨rfl, rfl⟩⟩
  | call c =>
    obtain ⟨hanswer, hdisk⟩ := onDisk_remove_temporary hname hlocate hnode c.op
    simp only [Step.onFile, Call.run_eq]
    generalize onDisk path c.op (d.remove location) = without at hanswer hdisk ⊢
    generalize onDisk path c.op d = left at hanswer hdisk ⊢
    obtain ⟨result, e⟩ := without
    obtain ⟨result', e'⟩ := left
    obtain rfl : result = result' := hanswer
    cases result <;> exact ⟨rfl, hdisk⟩

/-- The `history` of any steps is the same with and without something left at `temporaryPath path`. -/
theorem history_without_leftover (steps : List Step) :
    history (Step.onFile path) (entriesIn · path) steps (d.remove location)
      = history (Step.onFile path) (entriesIn · path) steps d := by
  induction steps with
  | nil => rfl
  | cons a rest ih =>
    -- A step either writes over what is left, and the disks are the same from then on, or leaves both.
    obtain ⟨hanswer, hsame | ⟨hwithout, hleft⟩⟩ := onFile_remove_temporary hname hlocate hnode a
    · rw [history, history, hanswer, hsame]
    · rw [history, history, hanswer, hwithout, hleft, ih,
        entriesIn_remove_temporary hname hlocate hnode]

end Temporary

/-! ## All or nothing -/

/-- Whether the file of a store holds what it held before an operation, or all of what `memory` holds after
    it. -/
def AllOrNothing (path : String) (op : StoreOp) (d d' : Disk) : Prop :=
  d'.find? path = d.find? path
    ∨ ∃ t, entriesIn d path = .ok t ∧ d'.find? path = some (.file (contentsOf (memory op t).2))

/-- Whether the old contents were lost to a `set` of `entries`: the file now holds `entries` alone, which is
    neither what it held nor all of what `memory` would hold. -/
structure Lost (path : String) (entries : Table Json) (d d' : Disk) : Prop where
  alone : d'.find? path = some (.file (contentsOf entries))
  there : (d.find? path).isSome = true
  changed : d.find? path ≠ some (.file (contentsOf entries))
  incomplete : ∀ t, entriesIn d path = .ok t →
    contentsOf (t.insertAll entries.toList) ≠ contentsOf entries

theorem Lost.not_allOrNothing {path : String} {entries : Table Json} {d d' : Disk}
    (h : Lost path entries d d') : ¬ AllOrNothing path (.set entries) d d' := by
  rintro (hsame | ⟨t, hin, hnew⟩)
  · exact h.changed (hsame ▸ h.alone)
  · rw [h.alone] at hnew
    exact h.incomplete t hin (Node.file.inj (Option.some.inj hnew)).symm

/-- A file that holds the entries of a `set` alone is as `AllOrNothing` says, or `Lost` what it held. -/
theorem allOrNothing_or_lost {path : String} {entries : Table Json} {d d' : Disk}
    (h : d'.find? path = some (.file (contentsOf entries))) :
    AllOrNothing path (.set entries) d d' ∨ Lost path entries d d' := by
  refine or_iff_not_imp_left.2 fun hnot => ?_
  have hincomplete : ∀ t, entriesIn d path = .ok t →
      contentsOf (t.insertAll entries.toList) ≠ contentsOf entries := by
    intro t hin hsame
    refine hnot (.inr ⟨t, hin, ?_⟩)
    rw [h, ← hsame]
    rfl
  refine ⟨h, ?_, fun hold => hnot (.inl (h.trans hold.symm)), hincomplete⟩
  -- Without a file there are no entries beside those of the call.
  by_contra hnone
  have hin : entriesIn d path = .ok Table.empty := by
    rw [entriesIn, Option.not_isSome_iff_eq_none.1 hnone]
  exact hincomplete _ hin (congrArg contentsOf entries.ofList_toList)

/-- However `jsonFile` ends, with any operation on files failing or cut off at any point, `AllOrNothing`
    holds of the store's file unless it was `Lost` to a `set` whose probe did not see it: a failing probe is
    no error, so that the `set` goes on as if there were no file. Where every probe is `truthful` this
    cannot happen. After an error the file holds what it held. Whatever is left at `temporaryPath path`,
    which is another file, changes no later `history`, unless it is a directory. -/
theorem all_or_nothing_iff {truthful : Bool} {path : String} (hname : HasFileName path)
    {op : StoreOp} {d d' : Disk} {r : Option op.Answer} (h : Ends truthful (jsonFile path op) d r d') :
    temporaryPath path ≠ path
      ∧ (truthful = true → AllOrNothing path op d d')
      ∧ (AllOrNothing path op d d' ↔ ¬ ∃ entries, op = .set entries ∧ Lost path entries d d')
      ∧ (∀ e, r = some (.error e) → d'.find? path = d.find? path)
      ∧ ∀ location, d'.locate (temporaryPath path) = .ok location →
        d'.node? location ≠ some .directory →
          ∀ steps, history (Step.onFile path) (entriesIn · path) steps d'
            = history (Step.onFile path) (entriesIn · path) steps (d'.remove location) := by
  have hcases : AllOrNothing path op d d'
      ∨ truthful = false ∧ ∃ entries, op = .set entries ∧ Lost path entries d d' := by
    rcases ends_jsonFile h with
      ⟨contents, htorn⟩ | ⟨⟨t, hin, hwritten⟩ | ⟨hfalse, entries, rfl, hwritten⟩, -⟩
    · exact .inl (.inl (find?_of_torn hname htorn))
    · exact .inl (.inr ⟨t, hin, find?_of_written hwritten⟩)
    · exact (allOrNothing_or_lost (find?_of_written hwritten)).imp_right
        fun hlost => ⟨hfalse, entries, rfl, hlost⟩
  refine ⟨temporaryPath_ne hname, fun htrue => ?_, ⟨?_, fun hkept => ?_⟩, fun e he => ?_,
    fun location hlocate hnode steps => (history_without_leftover hname hlocate hnode steps).symm⟩
  · exact hcases.resolve_right fun hlost => Bool.noConfusion (htrue.symm.trans hlost.1)
  · rintro hdone ⟨entries, rfl, hlost⟩
    exact hlost.not_allOrNothing hdone
  · exact hcases.resolve_right fun hlost => hkept hlost.2
  · rcases ends_jsonFile h with ⟨contents, htorn⟩ | ⟨-, hr⟩
    · exact find?_of_torn hname htorn
    · exact absurd he (hr e)

/-- One entry to write. -/
def oneEntry : Table Json :=
  Table.empty.insert "a" .null

/-- `emptyDisk` after the write of `oneEntry` was cut off behind its first byte. -/
def tornDisk : Disk :=
  emptyDisk.put ["home", "s.json.tmp"] (.file "\x7b".toUTF8)

theorem oneEntry_torn :
    Ends true (jsonFile "s.json" (.set oneEntry)) emptyDisk none tornDisk
      ∧ temporaryPath "s.json" ≠ "s.json"
      ∧ AllOrNothing "s.json" (.set oneEntry) emptyDisk tornDisk
      ∧ history (Step.onFile "s.json") (entriesIn · "s.json") someSteps tornDisk
        = history (Step.onFile "s.json") (entriesIn · "s.json") someSteps
          (tornDisk.remove ["home", "s.json.tmp"]) := by
  have hname : HasFileName "s.json" := by decide
  have hnone : emptyDisk.find? "s.json" = none := by decide +kernel
  have hprobe : Goes true (.probe "s.json") emptyDisk false emptyDisk :=
    .of_answer (Prod.ext (congrArg Option.isSome hnone) rfl)
  have htorn : Torn (temporaryPath "s.json") (contentsOf oneEntry) emptyDisk tornDisk :=
    .begun "\x7b".toUTF8 "\n  \"a\": null\n\x7d".toUTF8 tornDisk (by decide +kernel) (by decide +kernel)
  have hends : Ends true (jsonFile "s.json" (.set oneEntry)) emptyDisk none tornDisk :=
    .step _ _ _ _ _ false _ hprobe (.torn _ _ _ _ _ htorn)
  obtain ⟨hne, hkept, -, -, hlater⟩ := all_or_nothing_iff hname hends
  exact ⟨hends, hne, hkept rfl,
    hlater ["home", "s.json.tmp"] (by decide +kernel) (by decide +kernel) someSteps⟩

/-- A disk with a store that holds a threshold and nothing else. -/
def thresholdDisk : Disk :=
  ⟨Table.ofList [("s.json", .file "\x7b\"threshold\":40\x7d".toUTF8)], []⟩

/-- What `thresholdDisk` becomes by a `set` of the switch that does not see the store's file. -/
def switchDisk : Disk :=
  ⟨Table.ofList [("s.json", .file "\x7b\n  \"enabled\": false\n\x7d".toUTF8)], []⟩

/-- Where its probe fails, the `set` reports success and the threshold is gone. -/
theorem threshold_lost :
    let entries := Table.ofList [("enabled", Json.bool false)]
    Ends false (jsonFile "s.json" (.set entries)) thresholdDisk (some (.ok ())) switchDisk
      ∧ (entriesIn thresholdDisk "s.json").toOption.map Table.keys = some ["threshold"]
      ∧ (entriesIn switchDisk "s.json").toOption.map Table.keys = some ["enabled"]
      ∧ ¬ AllOrNothing "s.json" (.set entries) thresholdDisk switchDisk := by
  intro entries
  have hwritten : written thresholdDisk "s.json" entries = (.ok (), switchDisk) := by decide +kernel
  have hin : entriesIn thresholdDisk "s.json"
      = .ok (Table.ofList [("threshold", .ofUInt32 40)]) := by decide +kernel
  have hlost : Lost "s.json" entries thresholdDisk switchDisk := by
    refine ⟨by decide +kernel, by decide +kernel, by decide +kernel, fun t ht => ?_⟩
    obtain rfl := Except.ok.inj (hin.symm.trans ht)
    decide +kernel
  exact ⟨ends_set_of_unseen hwritten, by rw [hin]; rfl, by decide +kernel, hlost.not_allOrNothing⟩

end PageRisk.Store
