import PageRisk.Proofs.Machine
import PageRisk.Proofs.Store.Confinement
import PageRisk.Proofs.Store.Faults
import PageRisk.Proofs.Toml

set_option autoImplicit false

/-! # The configuration file beside a store

The store that a configuration names is not in the configuration file, and neither is its temporary file
(`keepsConfig_of_loaded`): a text that can be both is blank, and a blank configuration names another file.
So whatever is done with the store, the configuration stays what it was (`run_keeps`). -/

namespace PageRisk

open Files

namespace Files

/-! ## Keys of locations -/

theorem Disk.getLast?_key {name : String} (h : name ≠ "") (location : List String) :
    (Disk.key (location ++ [name])).toList.getLast? = name.toList.getLast? := by
  have hne : name.toList ≠ [] := by simpa using h
  cases location with
  | nil => rfl
  | cons first rest =>
    rw [Disk.key_append_singleton (List.cons_ne_nil _ _), String.toList_append,
      List.getLast?_append_of_ne_nil _ hne]

/-- A location has a longer `Disk.key` than one above it. -/
theorem Disk.length_key_lt {above : List String} (habove : above ≠ []) {more : List String}
    (hmore : more ≠ []) : (Disk.key above).length < (Disk.key (above ++ more)).length := by
  induction more using List.reverseRecOn with
  | nil => exact absurd rfl hmore
  | append_singleton more name ih =>
    rw [← List.append_assoc, Disk.key_append_singleton (by simp [habove])]
    have hslash : "/".length = 1 := rfl
    simp only [String.length_append, hslash]
    by_cases hnil : more = []
    · rw [hnil, List.append_nil]
      omega
    · have := ih hnil
      omega

/-- All that is above the place that `Disk.follow` leads to is a directory, or above the place it starts
    at. -/
theorem Disk.above_of_follow {d : Disk} {start target : List String} {names : List String}
    (h : d.follow start names = .ok target) {above : List String} (habove : above <+: target)
    (hne : above ≠ target) :
    d.node? above = some .directory ∨ above <+: start ∧ above ≠ start := by
  induction names generalizing start with
  | nil =>
    obtain rfl : start = target := Except.ok.inj h
    exact .inr ⟨habove, hne⟩
  | cons name rest ih =>
    rw [Disk.follow] at h
    cases hcheck : d.checkDirectory start with
    | error e =>
      rw [hcheck] at h
      cases h
    | ok u =>
      have hdirectory := (Disk.checkDirectory_eq_ok_iff d start).1 hcheck
      rw [hcheck] at h
      simp only at h
      split_ifs at h
      · exact ih h
      · rcases ih h with hnode | ⟨habove, hshort⟩
        · exact .inl hnode
        · refine .inr ⟨habove.trans (List.dropLast_prefix start), fun heq => ?_⟩
          -- Nothing is above the place above it but what is shorter.
          have hlength := (heq ▸ habove).length_le
          have hnil : start = [] := by
            rw [List.length_dropLast] at hlength
            exact List.length_eq_zero_iff.1 (by omega)
          exact hshort (by rw [heq, hnil]; rfl)
      · rcases ih h with hnode | ⟨habove, hshort⟩
        · exact .inl hnode
        · rcases List.prefix_concat_iff.1 habove with heq | habove
          · exact absurd heq hshort
          · by_cases heq : above = start
            · exact .inl (heq ▸ hdirectory)
            · exact .inr ⟨habove, heq⟩

/-- `newName` has the new extension, or names the directory above. -/
theorem newName_eq (path : String) (extension : List Char) :
    newName path extension = ['.', '.'] ∨ ∃ stem, newName path extension = stem ++ '.' :: extension := by
  unfold newName
  split
  · split
    · exact .inl rfl
    · exact .inr ⟨['.'], rfl⟩
  · exact .inr ⟨_, rfl⟩
  · exact .inr ⟨_, rfl⟩
  · exact .inr ⟨_, rfl⟩

end Files

namespace Store

/-! ## Where the configuration is -/

/-- A path that is one name is located in the working directory. -/
theorem locate_name (d : Disk) {name : String}
    (h : Disk.names name = .ok [name] ∧ (name.toList.head? == some '/') = false
      ∧ (name == "" || name == ".") = false ∧ (name == "..") = false ∧ ¬ 255 < name.utf8ByteSize) :
    d.locate name = (d.checkDirectory d.workingDirectory).map fun _ => d.workingDirectory ++ [name] := by
  obtain ⟨hnames, hroot, hstay, hup, hlong⟩ := h
  have hstart : d.startOf name = d.workingDirectory := by
    unfold Disk.startOf
    rw [hroot]
    rfl
  rw [Disk.locate, hnames, hstart]
  simp only [Except.bind, Disk.follow, hstay, hup, hlong, if_false, Bool.false_eq_true]
  cases d.checkDirectory d.workingDirectory <;> rfl

theorem locate_config (d : Disk) :
    d.locate Config.defaultPath
      = (d.checkDirectory d.workingDirectory).map fun _ => d.workingDirectory ++ [".cspguard.toml"] :=
  locate_name d (by decide +kernel)

theorem locate_defaultPath {d : Disk} {location : List String}
    (h : d.locate Config.defaultPath = .ok location) :
    location = d.workingDirectory ++ [".cspguard.toml"] := by
  rw [locate_config] at h
  obtain ⟨_, -, hlocation⟩ := map_eq_ok_iff.1 h
  exact hlocation.symm

/-- Whether neither a store's file nor its `temporaryPath` is at `Config.defaultPath`. -/
def KeepsConfig (path : String) (d : Disk) : Prop :=
  ∀ place, (d.locate path = .ok place ∨ d.locate (temporaryPath path) = .ok place) →
    d.node? place ≠ some .directory →
    ∀ location, d.locate Config.defaultPath = .ok location → Disk.key place ≠ Disk.key location

theorem KeepsConfig.not_owns {path : String} {d : Disk} (h : KeepsConfig path d) {location : List String}
    (hlocation : d.locate Config.defaultPath = .ok location) : ¬ Owns path d location := by
  rintro ⟨place, hplace, hnode, hkey⟩
  exact h place hplace hnode location hlocation hkey

/-! ## The store named by a configuration -/

section Named

variable {d : Disk} {location place : List String}

/-- A name with another last letter than `.cspguard.toml` is not at `Config.defaultPath`. -/
theorem key_ne_of_getLast? (hlocation : d.locate Config.defaultPath = .ok location) {name : String}
    (hne : name ≠ "") (hlast : name.toList.getLast? ≠ some 'l') (above : List String) :
    Disk.key (above ++ [name]) ≠ Disk.key location := by
  intro heq
  have hend := congrArg (fun key => key.toList.getLast?) heq
  have hfile : ".cspguard.toml" ≠ "" := by decide
  simp only [locate_defaultPath hlocation, Disk.getLast?_key hne, Disk.getLast?_key hfile] at hend
  exact hlast hend

theorem exists_of_locate_defaultStore (h : d.locate ({} : StorageConfig).path = .ok place) :
    ∃ above, place = above ++ ["store.json"] := by
  have hnames : Disk.names ({} : StorageConfig).path = .ok [".cspguard", "store.json"] := by
    decide +kernel
  have hplain : ∀ name ∈ [".cspguard", "store.json"], (name == "" || name == ".") = false
      ∧ (name == "..") = false ∧ ¬ 255 < name.utf8ByteSize := by decide +kernel
  simp only [List.forall_mem_cons] at hplain
  obtain ⟨⟨hstay, hup, hlong⟩, ⟨hstay', hup', hlong'⟩, -⟩ := hplain
  rw [Disk.locate, hnames] at h
  simp only [Except.bind, Disk.follow, hstay, hup, hlong, hstay', hup', hlong', if_false,
    Bool.false_eq_true] at h
  split at h
  · cases h
  · split at h
    · cases h
    · exact ⟨_, (Except.ok.inj h).symm⟩

/-- A configuration that is read from the store's own file sets nothing: what is both is blank, or an empty
    object. -/
theorem storage_eq_default {env : Environment} {config : Config} {t : Table Json}
    (hload : configOf env (d.find? Config.defaultPath) = .ok config)
    (hentries : entriesIn d config.storage.path = .ok t)
    (hsame : d.find? config.storage.path = d.find? Config.defaultPath) :
    config.storage = {} := by
  cases hfound : d.find? Config.defaultPath with
  | none =>
    rw [hfound] at hload
    rw [← Except.ok.inj hload]
    rfl
  | some node =>
    rw [hfound] at hload
    rw [entriesIn, hsame, hfound] at hentries
    cases node with
    | directory => cases hentries
    | file contents =>
      unfold configOf at hload
      simp only at hload hentries
      split at hload
      · cases hload
      · next text htext =>
        obtain ⟨found, hparse, hconfig⟩ := map_eq_ok_iff.1 hload
        rw [← hconfig, ConfigFile.eq_default_of_hollow (hollow_of_entriesOf htext hentries) hparse]
        rfl

theorem place_ne_config {env : Environment} {config : Config} {t : Table Json}
    (hload : configOf env (d.find? Config.defaultPath) = .ok config)
    (hentries : entriesIn d config.storage.path = .ok t)
    (hplace : d.locate config.storage.path = .ok place) (hnode : d.node? place ≠ some .directory)
    (hlocation : d.locate Config.defaultPath = .ok location) : Disk.key place ≠ Disk.key location := by
  intro heq
  have hsame : d.node? place = d.node? location := by
    refine Disk.node?_congr heq (Disk.node?_ne_nil hnode) ?_
    rw [locate_defaultPath hlocation]
    simp
  have hdefault := storage_eq_default hload hentries
    (by rw [Disk.find?_of_locate hplace, Disk.find?_of_locate hlocation, hsame])
  rw [hdefault] at hplace
  obtain ⟨above, rfl⟩ := exists_of_locate_defaultStore hplace
  exact key_ne_of_getLast? hlocation (by decide) (by decide) above heq

theorem temporary_ne_config {path : String} (hname : HasFileName path)
    (hplace : d.locate (temporaryPath path) = .ok place) (hnode : d.node? place ≠ some .directory)
    (hlocation : d.locate Config.defaultPath = .ok location) : Disk.key place ≠ Disk.key location := by
  have hextension : '/' ∉ "json.tmp".toList := by decide
  obtain ⟨hslash, hne, hdot⟩ := newName_shape path hextension (by decide)
  obtain ⟨found, hnames⟩ := Disk.exists_names_of_locate hplace
  rw [Disk.locate_eq_follow hnames, temporaryPath, toList_withExtension hname,
    split_directoryPart_append path hslash] at hplace
  obtain ⟨directory, hfollow, -, hshape⟩ := Disk.exists_of_follow_append hne hdot hplace
  rcases hshape with rfl | rfl
  · -- The place above a directory that was reached is one too, or is above the working directory.
    have hplacene := Disk.node?_ne_nil hnode
    have hdirectory : directory.dropLast ≠ directory := by
      intro heq
      have hlength := congrArg List.length heq
      rw [List.length_dropLast] at hlength
      have hnil : directory = [] := List.length_eq_zero_iff.1 (by omega)
      exact hplacene (by rw [hnil]; rfl)
    rcases Disk.above_of_follow hfollow (List.dropLast_prefix directory) hdirectory with
      hthere | ⟨⟨more, hmore⟩, hshort⟩
    · exact absurd hthere hnode
    · have hmorene : more ≠ [] := fun hnil => hshort (by rw [← hmore, hnil, List.append_nil])
      unfold Disk.startOf at hmore
      split at hmore
      · exact absurd (List.append_eq_nil_iff.1 hmore).1 hplacene
      · intro heq
        have hnonempty : more ++ [".cspguard.toml"] ≠ [] := by simp
        have hlonger := Disk.length_key_lt hplacene hnonempty
        rw [← List.append_assoc, hmore, heq, locate_defaultPath hlocation] at hlonger
        exact Nat.lt_irrefl _ hlonger
  · refine key_ne_of_getLast? hlocation (by simpa using hne) ?_ directory
    rw [String.toList_ofList]
    rcases newName_eq path "json.tmp".toList with hdots | ⟨stem, hstem⟩
    · rw [hdots]
      decide
    · rw [hstem, List.getLast?_append_of_ne_nil _ (List.cons_ne_nil _ _)]
      decide

/-- A configuration names a store for which `KeepsConfig` holds. -/
theorem keepsConfig_of_loaded {env : Environment} {config : Config} {t : Table Json}
    (hload : configOf env (d.find? Config.defaultPath) = .ok config)
    (hentries : entriesIn d config.storage.path = .ok t) : KeepsConfig config.storage.path d := by
  intro place hplace hnode location hlocation
  rcases hplace with hplace | hplace
  · exact place_ne_config hload hentries hplace hnode hlocation
  · by_cases hname : HasFileName config.storage.path
    · exact temporary_ne_config hname hplace hnode hlocation
    · rw [temporaryPath_eq_of_no_name hname] at hplace
      exact place_ne_config hload hentries hplace hnode hlocation

end Named

/-- The directory that `openFile` makes at the default place is not at `Config.defaultPath`. -/
theorem find?_config_of_directory {d d' : Disk} (hnone : d.find? Config.defaultPath = none)
    (h : d.makeDirectory ".cspguard" = .ok d') : d'.find? Config.defaultPath = none := by
  obtain ⟨place, hplace, -, rfl⟩ := Disk.exists_of_makeDirectory h
  rw [locate_name d (by decide +kernel)] at hplace
  obtain ⟨u, hcheck, rfl⟩ := map_eq_ok_iff.1 hplace
  have hlocation : d.locate Config.defaultPath = .ok (d.workingDirectory ++ [".cspguard.toml"]) := by
    rw [locate_config, hcheck]
    rfl
  rw [Disk.find?_of_locate hlocation] at hnone
  cases hlocation' : (d.put (d.workingDirectory ++ [".cspguard"]) .directory).locate
      Config.defaultPath with
  | error e => rw [Disk.find?, hlocation']
  | ok location =>
    have hsame := locate_defaultPath hlocation'
    obtain rfl : location = d.workingDirectory ++ [".cspguard.toml"] := hsame
    rw [Disk.find?_of_locate hlocation', Disk.node?_put_of_ne
      (key_ne_of_getLast? hlocation (by decide) (by decide) _).symm, hnone]

/-- `openFile` leaves what is found at `Config.defaultPath`. -/
theorem find?_config_of_opened {env : Environment} {config : Config} {d d' : Disk}
    (hload : configOf env (d.find? Config.defaultPath) = .ok config)
    (hopen : runOn d (openFile config.storage.path) = (.ok (), d')) :
    d'.find? Config.defaultPath = d.find? Config.defaultPath := by
  rw [runOn_openFile] at hopen
  cases hparent : parent? config.storage.path with
  | none =>
    rw [hparent] at hopen
    rw [← (Prod.mk.inj hopen).2]
  | some directory =>
    rw [hparent] at hopen
    simp only at hopen
    split_ifs at hopen with hempty
    · rw [← (Prod.mk.inj hopen).2]
    · split at hopen
      · next made hmade =>
        obtain rfl : made = d' := (Prod.mk.inj hopen).2
        cases hfound : d.find? Config.defaultPath with
        | some node => exact (Disk.Grown.of_makeDirectories hmade).find?_eq hfound
        | none =>
          -- Nothing is configured, so the directory is that of the store at its default place.
          have hstorage : config.storage = {} := by
            rw [hfound] at hload
            rw [← Except.ok.inj hload]
            rfl
          rw [hstorage] at hparent
          obtain rfl : ".cspguard" = directory := Option.some.inj hparent
          rcases Disk.eq_or_makeDirectory_of_makeDirectories 8 rfl hmade with rfl | hdirectory
          · exact hfound
          · exact find?_config_of_directory hfound hdirectory
      · exact absurd (congrArg Prod.fst hopen) nofun

/-! ## What is done with the store -/

/-- Whether a disk has the directories and the configuration of another one. -/
structure Keeps (d e : Disk) : Prop where
  directories : Disk.SameDirectories d e
  config : e.find? Config.defaultPath = d.find? Config.defaultPath

theorem keeps_of_node? {d e : Disk} (hsame : Disk.SameDirectories d e)
    (h : ∀ location, d.locate Config.defaultPath = .ok location → e.node? location = d.node? location) :
    Keeps d e := by
  refine ⟨hsame, ?_⟩
  cases hlocate : d.locate Config.defaultPath with
  | ok location => rw [Disk.find?_of_locate hlocate, Disk.find?_of_locate (hsame.locate hlocate),
      h location hlocate]
  | error err =>
    cases hlocate' : e.locate Config.defaultPath with
    | error err' => rw [Disk.find?, Disk.find?, hlocate, hlocate']
    | ok location =>
      rw [hsame.symm.locate hlocate'] at hlocate
      cases hlocate

/-- Whatever a program does with its store, the disk `Keeps` the configuration beside it. -/
theorem run_keeps {α : Type} {path : String} {w : Situation Disk} (h : KeepsConfig path w.stored)
    (source : List String → String → Reputation.Outcome) (clock : Nat → Int64)
    (p : Program services α) :
    Keeps w.stored ((Surroundings.onDisk path source clock).run p w).2.stored := by
  have hown : OwnOnly path w.stored ((Surroundings.onDisk path source clock).run p w).2.stored :=
    run_ownOnly source clock p w
  refine keeps_of_node? hown.directories ?_
  intro location hlocation
  exact hown.kept location (h.not_owns hlocation)

end Store

end PageRisk
