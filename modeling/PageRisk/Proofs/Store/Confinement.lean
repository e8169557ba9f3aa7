import PageRisk.Proofs.Store.JsonFile

set_option autoImplicit false

/-! # What belongs to a store

A store owns the file at its path and the temporary file beside it. Whatever is done with it, nothing else
changes on the disk (`run_ownOnly`); opening it makes directories on the way to its path and nothing else
(`opening_of_openFile`). So all files that are not its own are what they were (`Opening.confined`). -/

namespace PageRisk

open Files

namespace Store

/-! ## Places of a store -/

/-- Whether a location is that of the file at `path` or at `temporaryPath path`. A directory is neither. -/
def Owns (path : String) (d : Disk) (location : List String) : Prop :=
  ∃ place, (d.locate path = .ok place ∨ d.locate (temporaryPath path) = .ok place)
    ∧ d.node? place ≠ some .directory ∧ Disk.key place = Disk.key location

theorem Owns.of_sameDirectories {path : String} {d e : Disk} {location : List String}
    (h : Owns path d location) (hsame : Disk.SameDirectories d e) : Owns path e location := by
  obtain ⟨place, hplace, hnode, hkey⟩ := h
  refine ⟨place, hplace.imp hsame.locate hsame.locate, ?_, hkey⟩
  intro hdirectory
  exact hnode ((hsame.directory_iff place).2 hdirectory)

theorem owns_congr {path : String} {d e : Disk} (hsame : Disk.SameDirectories d e) (location : List String) :
    Owns path d location ↔ Owns path e location := by
  constructor
  · intro h
    exact h.of_sameDirectories hsame
  · intro h
    exact h.of_sameDirectories hsame.symm

/-! ## Operations -/

/-- Whether two disks differ at most in what the store at `path` `Owns`. -/
structure OwnOnly (path : String) (d e : Disk) : Prop where
  directories : Disk.SameDirectories d e
  kept : ∀ location, ¬ Owns path d location → e.node? location = d.node? location

namespace OwnOnly

variable {path : String} {d e : Disk}

theorem refl (path : String) (d : Disk) : OwnOnly path d d :=
  ⟨.refl d, fun _ _ => rfl⟩

theorem trans {f : Disk} (h : OwnOnly path d e) (h' : OwnOnly path e f) : OwnOnly path d f where
  directories := h.directories.trans h'.directories
  kept location hlocation := by
    rw [h'.kept location (mt (owns_congr h.directories location).2 hlocation), h.kept location hlocation]

variable {place : List String}
  (hplace : d.locate path = .ok place ∨ d.locate (temporaryPath path) = .ok place)
  (hnode : d.node? place ≠ some .directory)

include hplace hnode

theorem of_put (contents : ByteArray) : OwnOnly path d (d.put place (.file contents)) where
  directories := .of_put hnode contents
  kept location hlocation := by
    apply Disk.node?_put_of_ne
    intro hkey
    exact hlocation ⟨place, hplace, hnode, hkey.symm⟩

theorem of_remove : OwnOnly path d (d.remove place) where
  directories := .of_remove hnode
  kept location hlocation := by
    apply Disk.node?_remove_of_ne
    intro hkey
    exact hlocation ⟨place, hplace, hnode, hkey.symm⟩

end OwnOnly

variable {path : String}

theorem ownOnly_of_write {d e : Disk} {contents : ByteArray}
    (h : d.write (temporaryPath path) contents = .ok e) : OwnOnly path d e := by
  obtain ⟨place, hplace, hnode, rfl⟩ := Disk.exists_of_write h
  exact .of_put (.inr hplace) hnode contents

theorem ownOnly_of_rename {d e : Disk} (h : d.rename (temporaryPath path) path = .ok e) :
    OwnOnly path d e := by
  obtain ⟨old, new, contents, hold, hfile, hnew, hnode, rfl⟩ := Disk.exists_of_rename h
  have hremoved : OwnOnly path d (d.remove old) := .of_remove (.inr hold) (by rw [hfile]; nofun)
  refine hremoved.trans (.of_put (.inl (hremoved.directories.locate hnew)) ?_ contents)
  intro hdirectory
  exact hnode ((hremoved.directories.directory_iff new).2 hdirectory)

/-- However far `written` gets, the disk differs in what the store `Owns` at most. -/
theorem ownOnly_written (d : Disk) (t : Table Json) : OwnOnly path d (written d path t).2 := by
  unfold written
  cases hwrite : d.write (temporaryPath path) (contentsOf t) with
  | error e => exact .refl path d
  | ok between =>
    have hfirst := ownOnly_of_write hwrite
    dsimp only
    cases hrename : between.rename (temporaryPath path) path with
    | error e => exact hfirst
    | ok after => exact hfirst.trans (ownOnly_of_rename hrename)

/-- `onDisk` touches only what the store `Owns`. -/
theorem ownOnly_onDisk (op : StoreOp) (d : Disk) : OwnOnly path d (onDisk path op d).2 := by
  cases op with
  | get keys =>
    rw [onDisk_get]
    split <;> exact .refl path d
  | keys =>
    rw [onDisk_keys]
    split <;> exact .refl path d
  | set entries =>
    rw [onDisk_set]
    split
    · exact ownOnly_written d _
    · exact .refl path d
  | remove keys =>
    rw [onDisk_remove]
    split
    · split
      · exact .refl path d
      · exact ownOnly_written d _
    · exact .refl path d

/-- Whatever a program does with its store, the disk differs in what the store `Owns` at most. -/
theorem run_ownOnly {α : Type} (source : List String → String → Reputation.Outcome) (clock : Nat → Int64)
    (p : Program services α) (w : Situation Disk) :
    OwnOnly path w.stored ((Surroundings.onDisk path source clock).run p w).2.stored := by
  refine Surroundings.run_stored_induction (P := OwnOnly path w.stored) ?_ p (.refl path w.stored)
  intro op d h
  exact h.trans (ownOnly_onDisk op d)

/-! ## Opening -/

/-- Whether a location is that of a directory on the way to `path`, parent by parent. -/
def Encloses (path : String) (d : Disk) (location : List String) : Prop :=
  ∃ directory above place, parent? path = some directory ∧ Disk.OnTheWay above directory
    ∧ d.locate above = .ok place ∧ Disk.key place = Disk.key location

theorem Encloses.of_directories {path : String} {d e : Disk} {location : List String}
    (h : Encloses path d location) (hworking : d.workingDirectory = e.workingDirectory)
    (hkept : ∀ location, d.node? location = some .directory → e.node? location = some .directory) :
    Encloses path e location := by
  obtain ⟨directory, above, place, hparent, habove, hplace, hkey⟩ := h
  exact ⟨directory, above, place, hparent, habove, Disk.locate_of_directories hworking hkept hplace, hkey⟩

/-- What `openFile` does to a disk: all that was there stays, and what is new are directories that enclose
    the store. -/
structure Opening (path : String) (d e : Disk) : Prop where
  grown : Disk.Grown d e
  new : ∀ location, e.node? location = d.node? location
    ∨ e.node? location = some .directory ∧ Encloses path e location

namespace Opening

variable {d e : Disk}

theorem refl (path : String) (d : Disk) : Opening path d d :=
  ⟨.refl d, fun _ => .inl rfl⟩

/-- One directory more on the way to the store keeps `Opening`. -/
theorem makeDirectory (h : Opening path d e) {directory above : String}
    (hparent : parent? path = some directory) (habove : Disk.OnTheWay above directory) {f : Disk}
    (hmade : e.makeDirectory above = .ok f) : Opening path d f := by
  have hgrown := Disk.Grown.of_makeDirectory hmade
  have hkept := fun location => hgrown.kept location .directory
  refine ⟨h.grown.trans hgrown, ?_⟩
  obtain ⟨place, hplace, -, rfl⟩ := Disk.exists_of_makeDirectory hmade
  intro location
  rw [Disk.node?_put]
  split
  · next hkey =>
    have hencloses : Encloses path e location :=
      ⟨directory, above, place, hparent, habove, hplace, hkey.2.symm⟩
    exact .inr ⟨rfl, hencloses.of_directories hgrown.workingDirectory hkept⟩
  · rcases h.new location with hsame | ⟨hdirectory, hencloses⟩
    · exact .inl hsame
    · exact .inr ⟨hdirectory, hencloses.of_directories hgrown.workingDirectory hkept⟩

end Opening

/-- `openFile` makes directories on the way to the store and does nothing else, whether or not it
    succeeds. -/
theorem opening_of_openFile (path : String) (d : Disk) : Opening path d (runOn d (openFile path)).2 := by
  rw [runOn_openFile]
  cases hparent : parent? path with
  | none => exact .refl path d
  | some directory =>
    dsimp only
    split_ifs
    · exact .refl path d
    · split
      · next made hmade =>
        refine Disk.makeDirectories_induction (P := Opening path d) ?_ (.refl path d) hmade
        intro above d₁ d₂ habove h hstep
        exact h.makeDirectory hparent habove hstep
      · exact .refl path d

/-! ## Opening and operations -/

/-- Whether two disks differ at most in what a store `Owns` and in directories on the way to it: no other
    file was created, changed or removed. -/
structure Confined (path : String) (d e : Disk) : Prop where
  files : ∀ location, ¬ Owns path e location → ∀ contents,
    e.node? location = some (.file contents) ↔ d.node? location = some (.file contents)
  directories : ∀ location, d.node? location = some .directory → e.node? location = some .directory
  made : ∀ location, e.node? location = some .directory →
    d.node? location = some .directory ∨ Encloses path e location

theorem Confined.refl (path : String) (d : Disk) : Confined path d d :=
  ⟨fun _ _ _ => Iff.rfl, fun _ => id, fun _ => .inl⟩

theorem Opening.confined {d opened e : Disk} (hopen : Opening path d opened) (hown : OwnOnly path opened e) :
    Confined path d e where
  files location hlocation contents := by
    rw [hown.kept location (mt (owns_congr hown.directories location).1 hlocation)]
    rcases hopen.new location with hsame | ⟨hdirectory, -⟩
    · rw [hsame]
    · -- Where a directory was made there was no file.
      rw [hdirectory]
      refine iff_of_false nofun ?_
      intro hfile
      rw [hopen.grown.kept location _ hfile] at hdirectory
      exact absurd hdirectory nofun
  directories location hdirectory :=
    (hown.directories.directory_iff location).1 (hopen.grown.kept location _ hdirectory)
  made location hdirectory := by
    have hopened := (hown.directories.directory_iff location).2 hdirectory
    rcases hopen.new location with hsame | ⟨-, hencloses⟩
    · rw [hsame] at hopened
      exact .inl hopened
    · exact .inr (hencloses.of_directories hown.directories.workingDirectory fun location =>
        (hown.directories.directory_iff location).1)

end Store

end PageRisk
