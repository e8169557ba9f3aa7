import Mathlib.Tactic.Common
import PageRisk.Files.Disk
import PageRisk.Proofs.Except
import PageRisk.Proofs.Table
import PageRisk.Proofs.Text

set_option autoImplicit false

/-! # Changes of a disk

What paths lead to after a disk has changed. Where a path leads depends on the directories alone, so a
change that keeps these keeps all locations (`SameDirectories`). A file that was written and renamed into
place is what is then read there (`find?_of_written`), and directories that were made need not be made again
(`makeDirectories_of_isDirectory`). -/

namespace PageRisk.Files.Disk

/-! ## Single locations -/

theorem node?_ne_nil {d : Disk} {location : List String}
    (h : d.node? location ≠ some .directory) : location ≠ [] := by
  rintro rfl
  exact h rfl

theorem node?_put (d : Disk) (target : List String) (node : Node) (location : List String) :
    (d.put target node).node? location
      = if location ≠ [] ∧ key location = key target then some node else d.node? location := by
  unfold node? put
  cases location with
  | nil => rfl
  | cons name rest =>
    simp only [List.isEmpty_cons, Bool.false_eq_true, if_false, Table.get?_insert]
    by_cases hkey : key (name :: rest) = key target <;> simp [hkey]

theorem node?_put_self {d : Disk} {target : List String} (h : target ≠ []) (node : Node) :
    (d.put target node).node? target = some node := by
  rw [node?_put, if_pos ⟨h, rfl⟩]

theorem node?_put_of_ne {d : Disk} {target location : List String}
    (h : key location ≠ key target) (node : Node) :
    (d.put target node).node? location = d.node? location := by
  unfold node? put
  split
  · rfl
  · exact Table.get?_insert_of_ne _ _ h

theorem node?_remove {d : Disk} {target location : List String} (h : location ≠ []) :
    (d.remove target).node? location
      = if key location = key target then none else d.node? location := by
  unfold node? remove
  rw [List.isEmpty_eq_false_iff.2 h]
  exact Table.get?_erase _ _ _

theorem node?_remove_of_ne {d : Disk} {target location : List String}
    (h : key location ≠ key target) : (d.remove target).node? location = d.node? location := by
  unfold node? remove
  split
  · rfl
  · rw [Table.get?_erase, if_neg h]

/-- Locations with the same `key` hold the same, the root apart. -/
theorem node?_congr {d : Disk} {location other : List String} (h : key location = key other)
    (hlocation : location ≠ []) (hother : other ≠ []) : d.node? location = d.node? other := by
  unfold node?
  rw [List.isEmpty_eq_false_iff.2 hlocation, List.isEmpty_eq_false_iff.2 hother, h]

/-! ## Disks with the same directories -/

/-- Whether two disks have the same directories and the same working directory. -/
structure SameDirectories (d e : Disk) : Prop where
  workingDirectory : d.workingDirectory = e.workingDirectory
  directory_iff : ∀ location, d.node? location = some .directory ↔ e.node? location = some .directory

namespace SameDirectories

variable {d e : Disk}

theorem refl (d : Disk) : SameDirectories d d :=
  ⟨rfl, fun _ => Iff.rfl⟩

theorem trans {f : Disk} (h : SameDirectories d e) (h' : SameDirectories e f) : SameDirectories d f :=
  ⟨h.workingDirectory.trans h'.workingDirectory, fun location =>
    (h.directory_iff location).trans (h'.directory_iff location)⟩

theorem symm (h : SameDirectories d e) : SameDirectories e d :=
  ⟨h.workingDirectory.symm, fun location => (h.directory_iff location).symm⟩

/-- A file that is `put` where no directory is keeps `SameDirectories`. -/
theorem of_put {target : List String} (h : d.node? target ≠ some .directory) (contents : ByteArray) :
    SameDirectories d (d.put target (.file contents)) where
  workingDirectory := rfl
  directory_iff location := by
    have hne : target ≠ [] := node?_ne_nil h
    rw [node?_put]
    split
    · next hkey =>
      rw [node?_congr hkey.2 hkey.1 hne]
      simp [h]
    · rfl

theorem of_remove {target : List String} (h : d.node? target ≠ some .directory) :
    SameDirectories d (d.remove target) where
  workingDirectory := rfl
  directory_iff location := by
    have hne : target ≠ [] := node?_ne_nil h
    cases location with
    | nil => exact Iff.rfl
    | cons name rest =>
      rw [node?_remove (List.cons_ne_nil name rest)]
      split
      · next hkey =>
        rw [node?_congr hkey (List.cons_ne_nil name rest) hne]
        simp [h]
      · rfl

end SameDirectories

theorem checkDirectory_eq_ok_iff (d : Disk) (location : List String) :
    d.checkDirectory location = .ok () ↔ d.node? location = some .directory := by
  unfold checkDirectory
  split <;> simp_all

/-- `follow` leads to the same place on a disk that has all directories of the first one. -/
theorem follow_of_directories {d e : Disk}
    (h : ∀ location, d.node? location = some .directory → e.node? location = some .directory)
    {start target : List String} {names : List String} (hfollow : d.follow start names = .ok target) :
    e.follow start names = .ok target := by
  induction names generalizing start with
  | nil => exact hfollow
  | cons name rest ih =>
    rw [follow] at hfollow ⊢
    cases hcheck : d.checkDirectory start with
    | error err =>
      rw [hcheck] at hfollow
      exact absurd hfollow (by simp)
    | ok u =>
      have hdirectory := h start ((checkDirectory_eq_ok_iff d start).1 hcheck)
      rw [hcheck] at hfollow
      rw [(checkDirectory_eq_ok_iff e start).2 hdirectory]
      simp only at hfollow ⊢
      split_ifs at hfollow ⊢ with hstay hup hlong
      · exact ih hfollow
      · exact ih hfollow
      · exact ih hfollow

theorem locate_of_directories {d e : Disk} (hworking : d.workingDirectory = e.workingDirectory)
    (h : ∀ location, d.node? location = some .directory → e.node? location = some .directory)
    {path : String} {target : List String} (hlocate : d.locate path = .ok target) :
    e.locate path = .ok target := by
  unfold locate at hlocate ⊢
  obtain ⟨found, hnames, hfollow⟩ := bind_eq_ok_iff.1 hlocate
  have hstart : e.startOf path = d.startOf path := by
    unfold startOf
    rw [hworking]
  rw [hstart]
  exact bind_eq_ok_iff.2 ⟨found, hnames, follow_of_directories h hfollow⟩

theorem SameDirectories.locate {d e : Disk} (h : SameDirectories d e) {path : String}
    {target : List String} (hlocate : d.locate path = .ok target) : e.locate path = .ok target :=
  locate_of_directories h.workingDirectory (fun location => (h.directory_iff location).1) hlocate

/-- The `names` of a path are the pieces between its separators. -/
theorem exists_of_names {path : String} {found : List String} (h : names path = .ok found) :
    path.toList ≠ [] ∧ '\x00' ∉ path.toList ∧ path.utf8ByteSize < pathLimit
      ∧ found = (Text.pieces (fun c => c == '/') path.toList).map String.ofList := by
  unfold names at h
  simp only at h
  split_ifs at h with hempty hnul hlong
  refine ⟨by simpa using hempty, by simpa using hnul, by omega, (Except.ok.inj h).symm⟩

/-! ## Reading -/

theorem find?_of_locate {d : Disk} {path : String} {location : List String}
    (h : d.locate path = .ok location) : d.find? path = d.node? location := by
  rw [find?, h]

theorem exists_locate_of_find? {d : Disk} {path : String} {node : Node}
    (h : d.find? path = some node) :
    ∃ location, d.locate path = .ok location ∧ d.node? location = some node := by
  unfold find? at h
  split at h
  · exact absurd h (by simp)
  · next location hlocate => exact ⟨location, hlocate, h⟩

theorem read_eq_ok_iff (d : Disk) (path : String) (contents : ByteArray) :
    d.read path = .ok contents ↔ d.find? path = some (.file contents) := by
  unfold read find?
  split
  · simp
  · split <;> simp_all

/-! ## Writing and renaming -/

theorem exists_of_write {d e : Disk} {path : String} {contents : ByteArray}
    (h : d.write path contents = .ok e) :
    ∃ location, d.locate path = .ok location ∧ d.node? location ≠ some .directory
      ∧ e = d.put location (.file contents) := by
  unfold write at h
  split at h
  · obtain ⟨_, -, herror⟩ := bind_eq_ok_iff.1 h
    exact absurd herror (by simp)
  · split at h
    · exact absurd h (by simp)
    · next location hlocate =>
      split at h
      · exact absurd h (by simp)
      · next hnode => exact ⟨location, hlocate, by simpa using hnode, (Except.ok.inj h).symm⟩

/-- The `names` of a path that does not end in a separator do not end in an empty one. -/
theorem dropLastWhile_names {path : String} {found : List String}
    (h : endsInSeparator path = false) (hnames : names path = .ok found) :
    Text.dropLastWhile (· == "") found = found := by
  obtain ⟨hempty, -, -, rfl⟩ := exists_of_names hnames
  obtain ⟨before, last, hpath, hlast, hbefore⟩ :=
    Text.exists_last_piece (fun c => c == '/') path.toList
  have hpieces : ∃ initial, Text.pieces (fun c => c == '/') path.toList = initial ++ [last] := by
    rw [hpath]
    rcases hbefore with rfl | ⟨before', separator, hseparator, rfl⟩
    · exact ⟨[], Text.pieces_of_forall hlast⟩
    · refine ⟨Text.pieces (fun c => c == '/') before', ?_⟩
      obtain rfl : separator = '/' := by simpa using hseparator
      rw [List.append_assoc, List.singleton_append,
        Text.pieces_append_cons (p := fun c => c == '/') rfl, Text.pieces_of_forall hlast]
  have hne : last ≠ [] := by
    rintro rfl
    rcases hbefore with rfl | ⟨before', separator, hseparator, rfl⟩
    · exact hempty hpath
    · rw [endsInSeparator, hpath] at h
      simp at hseparator
      simp [hseparator] at h
  obtain ⟨initial, hinitial⟩ := hpieces
  rw [hinitial, List.map_append, List.map_singleton, Text.dropLastWhile_append_singleton]
  simpa using hne

theorem locateEntry_eq_locate (d : Disk) {path : String} (h : endsInSeparator path = false) :
    d.locateEntry path = d.locate path := by
  unfold locateEntry locate
  cases hnames : names path with
  | error e => rfl
  | ok found =>
    simp only [Except.bind]
    rw [dropLastWhile_names h hnames]

theorem exists_of_rename {d e : Disk} {source target : String} (h : d.rename source target = .ok e) :
    ∃ old new contents, d.locate source = .ok old ∧ d.node? old = some (.file contents)
      ∧ d.locate target = .ok new ∧ d.node? new ≠ some .directory
      ∧ e = (d.remove old).put new (.file contents) := by
  unfold rename at h
  split at h
  · exact absurd h (by simp)
  · exact absurd h (by simp)
  · next old new hold hnew =>
    split at h
    · exact absurd h (by simp)
    · exact absurd h (by simp)
    · next contents hfile =>
      split_ifs at h with hseparator hdirectory
      rw [locateEntry_eq_locate d (by simpa using hseparator)] at hnew
      exact ⟨old, new, contents, hold, hfile, hnew, by simpa using hdirectory,
        (Except.ok.inj h).symm⟩

theorem SameDirectories.of_write {d e : Disk} {path : String} {contents : ByteArray}
    (h : d.write path contents = .ok e) : SameDirectories d e := by
  obtain ⟨location, -, hnode, rfl⟩ := exists_of_write h
  exact SameDirectories.of_put hnode contents

theorem SameDirectories.of_rename {d e : Disk} {source target : String}
    (h : d.rename source target = .ok e) : SameDirectories d e := by
  obtain ⟨old, new, contents, -, hfile, -, hnode, rfl⟩ := exists_of_rename h
  have hremove : SameDirectories d (d.remove old) :=
    SameDirectories.of_remove (by rw [hfile]; simp)
  exact hremove.trans (SameDirectories.of_put
    (fun hdirectory => hnode ((hremove.directory_iff new).2 hdirectory)) contents)

theorem find?_of_write {d e : Disk} {path : String} {contents : ByteArray}
    (h : d.write path contents = .ok e) : e.find? path = some (.file contents) := by
  obtain ⟨location, hlocate, hplace, rfl⟩ := exists_of_write h
  rw [find?_of_locate ((SameDirectories.of_put hplace contents).locate hlocate),
    node?_put_self (node?_ne_nil hplace)]

theorem find?_of_rename {d e : Disk} {source target : String} {contents : ByteArray}
    (hfile : d.find? source = some (.file contents)) (h : d.rename source target = .ok e) :
    e.find? target = some (.file contents) := by
  have hall := SameDirectories.of_rename h
  obtain ⟨old, new, found, hold, hfound, hnew, hnode, rfl⟩ := exists_of_rename h
  have hcontents : found = contents := by
    rw [find?_of_locate hold, hfound] at hfile
    exact Node.file.inj (Option.some.inj hfile)
  rw [find?_of_locate (hall.locate hnew), node?_put_self (node?_ne_nil hnode), hcontents]

/-- What `write` puts at one path and `rename` takes to another is then found at the other. -/
theorem find?_of_written {d d' e : Disk} {source target : String} {contents : ByteArray}
    (hwrite : d.write source contents = .ok d') (hrename : d'.rename source target = .ok e) :
    e.find? target = some (.file contents) :=
  find?_of_rename (find?_of_write hwrite) hrename

/-! ## Changes that may fail -/

theorem change_of_ok (result : Disk → Except FileError Disk) {d d' : Disk} (h : result d = .ok d') :
    change result d = (.ok (), d') := by
  rw [change, h]

theorem change_of_error (result : Disk → Except FileError Disk) {d : Disk} {e : FileError}
    (h : result d = .error e) : change result d = (.error e, d) := by
  rw [change, h]

/-! ## Making directories -/

theorem isDirectory_iff (d : Disk) (path : String) :
    d.isDirectory path = true ↔ d.find? path = some .directory := by
  unfold isDirectory
  exact beq_iff_eq

theorem SameDirectories.isDirectory {d e : Disk} (h : SameDirectories d e) {path : String}
    (hd : d.isDirectory path = true) : e.isDirectory path = true := by
  rw [isDirectory_iff] at hd ⊢
  obtain ⟨location, hlocate, hnode⟩ := exists_locate_of_find? hd
  rw [find?_of_locate (h.locate hlocate)]
  exact (h.directory_iff location).1 hnode

theorem exists_of_makeDirectory {d e : Disk} {path : String} (h : d.makeDirectory path = .ok e) :
    ∃ location, d.locate path = .ok location ∧ d.node? location = none
      ∧ e = d.put location .directory := by
  unfold makeDirectory at h
  split at h
  · exact absurd h nofun
  · next location hlocate =>
    split at h
    · exact absurd h nofun
    · next hnone => exact ⟨location, hlocate, hnone, (Except.ok.inj h).symm⟩

theorem isDirectory_of_makeDirectory {d e : Disk} {path : String}
    (h : d.makeDirectory path = .ok e) : e.isDirectory path = true := by
  obtain ⟨location, hlocate, hnone, rfl⟩ := exists_of_makeDirectory h
  have hne : location ≠ [] := node?_ne_nil (by rw [hnone]; simp)
  have hkept : ∀ other, d.node? other = some .directory →
      (d.put location .directory).node? other = some .directory := by
    intro other hother
    rw [node?_put]
    split
    · rfl
    · exact hother
  have hworking : d.workingDirectory = (d.put location .directory).workingDirectory := rfl
  rw [isDirectory_iff, find?_of_locate (locate_of_directories hworking hkept hlocate),
    node?_put_self hne]

/-- After `makeDirectories` there is a directory at the path. -/
theorem isDirectory_of_makeDirectories {d e : Disk} {fuel : Nat} {path : String} (hpath : path ≠ "")
    (h : d.makeDirectories (fuel + 1) path = .ok e) : e.isDirectory path = true := by
  rw [makeDirectories, if_neg (by simpa using hpath)] at h
  unfold ensureDirectory at h
  split at h
  · next hmade =>
    obtain rfl := Except.ok.inj h
    exact isDirectory_of_makeDirectory hmade
  · split at h
    · exact absurd h (by simp)
    · split at h
      · next hmade =>
        obtain rfl := Except.ok.inj h
        exact isDirectory_of_makeDirectory hmade
      · split_ifs at h with hthere
        obtain rfl := Except.ok.inj h
        exact hthere
  · split_ifs at h with hthere
    obtain rfl := Except.ok.inj h
    exact hthere

/-- `makeDirectories` leaves a disk as it is where the directory is there. -/
theorem makeDirectories_of_isDirectory {d : Disk} {path : String} (h : d.isDirectory path = true)
    (fuel : Nat) : d.makeDirectories (fuel + 1) path = .ok d := by
  obtain ⟨location, hlocate, hnode⟩ := exists_locate_of_find? ((isDirectory_iff d path).1 h)
  have hexists : d.makeDirectory path = .error .alreadyExists := by
    rw [makeDirectory, hlocate]
    simp only [hnode]
  rw [makeDirectories]
  split
  · rfl
  · unfold ensureDirectory
    simp only [hexists, h, if_true]

/-- Whether all that is on a disk is on another one as well. -/
structure Grown (d e : Disk) : Prop where
  workingDirectory : d.workingDirectory = e.workingDirectory
  kept : ∀ location node, d.node? location = some node → e.node? location = some node

namespace Grown

variable {d e : Disk}

theorem refl (d : Disk) : Grown d d := ⟨rfl, fun _ _ h => h⟩

theorem trans {f : Disk} (h : Grown d e) (h' : Grown e f) : Grown d f :=
  ⟨h.workingDirectory.trans h'.workingDirectory, fun location node hnode =>
    h'.kept location node (h.kept location node hnode)⟩

theorem find?_eq (h : Grown d e) {path : String} {node : Node} (hfind : d.find? path = some node) :
    e.find? path = some node := by
  obtain ⟨location, hlocate, hnode⟩ := exists_locate_of_find? hfind
  rw [find?_of_locate (locate_of_directories h.workingDirectory
    (fun other => h.kept other .directory) hlocate)]
  exact h.kept location node hnode

theorem of_makeDirectory {path : String} (h : d.makeDirectory path = .ok e) : Grown d e := by
  obtain ⟨target, -, hnone, rfl⟩ := exists_of_makeDirectory h
  have hne : target ≠ [] := node?_ne_nil (by rw [hnone]; simp)
  refine ⟨rfl, fun location node hnode => ?_⟩
  rw [node?_put]
  split
  · next hkey =>
    rw [node?_congr hkey.2 hkey.1 hne, hnone] at hnode
    exact absurd hnode (by simp)
  · exact hnode

end Grown

/-- Whether `above` is met on the way up from a path, `parent?` by `parent?`. -/
inductive OnTheWay : String → String → Prop
  | here (path : String) : OnTheWay path path
  | up {above parent path : String} (hparent : parent? path = some parent) (h : OnTheWay above parent) :
      OnTheWay above path

/-- What each `makeDirectory` on the way to a path keeps holds after `makeDirectories`. -/
theorem makeDirectories_induction {P : Disk → Prop} {fuel : Nat} {path : String} {d e : Disk}
    (hstep : ∀ above d₁ d₂, OnTheWay above path → P d₁ → d₁.makeDirectory above = .ok d₂ → P d₂)
    (hd : P d) (h : d.makeDirectories fuel path = .ok e) : P e := by
  induction fuel generalizing path e with
  | zero =>
    rw [← Except.ok.inj h]
    exact hd
  | succ fuel ih =>
    rw [makeDirectories] at h
    split at h
    · rw [← Except.ok.inj h]
      exact hd
    · unfold ensureDirectory at h
      split at h
      · next hmade =>
        rw [← Except.ok.inj h]
        exact hstep path _ _ (.here path) hd hmade
      · -- The parent is made first, and then the directory again.
        split at h
        · exact absurd h nofun
        · next parents hretry =>
          split at hretry
          · exact absurd hretry nofun
          · next parent hparent =>
            have hparents : P parents :=
              ih (fun above d₁ d₂ habove => hstep above d₁ d₂ (.up hparent habove)) hretry
            split at h
            · next hmade =>
              rw [← Except.ok.inj h]
              exact hstep path _ _ (.here path) hparents hmade
            · split_ifs at h
              rw [← Except.ok.inj h]
              exact hparents
      · split_ifs at h
        rw [← Except.ok.inj h]
        exact hd

/-- `makeDirectories` takes nothing away. -/
theorem Grown.of_makeDirectories {d e : Disk} {fuel : Nat} {path : String}
    (h : d.makeDirectories fuel path = .ok e) : Grown d e :=
  makeDirectories_induction (fun _ _ _ _ hgrown hmade => hgrown.trans (.of_makeDirectory hmade)) (.refl d) h


/-- In the working directory, `makeDirectories` is a single `makeDirectory`, or there is nothing to make. -/
theorem eq_or_makeDirectory_of_makeDirectories {d e : Disk} (fuel : Nat) {path : String}
    (hparent : parent? path = some "") (h : d.makeDirectories (fuel + 1 + 1) path = .ok e) :
    e = d ∨ d.makeDirectory path = .ok e := by
  rw [makeDirectories] at h
  split at h
  · exact .inl (Except.ok.inj h).symm
  · have hretry : d.makeDirectories (fuel + 1) "" = .ok d := rfl
    rw [hparent] at h
    simp only [hretry] at h
    unfold ensureDirectory at h
    split at h
    · next hmade => exact .inr (hmade.trans h)
    · next hmade =>
      simp only [hmade] at h
      split_ifs at h
      exact .inl (Except.ok.inj h).symm
    · split_ifs at h
      exact .inl (Except.ok.inj h).symm

end PageRisk.Files.Disk
