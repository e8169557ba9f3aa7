import PageRisk.Proofs.Files.Disk
import PageRisk.Proofs.Files.Path

set_option autoImplicit false

/-! # Two files beside one another

A file and the one with another extension stand in the same directory under different names
(`exists_directory`). So what is put at the one place or taken from it does not change what is found at the
other (`find?_congr_beside`). -/

namespace PageRisk.Files.Disk

/-! ## Following names in two parts -/

theorem follow_append (d : Disk) (start : List String) (names others : List String) :
    d.follow start (names ++ others)
      = (d.follow start names).bind fun location => d.follow location others := by
  induction names generalizing start with
  | nil => rfl
  | cons name names ih =>
    rw [List.cons_append, follow, follow]
    cases d.checkDirectory start with
    | error e => rfl
    | ok u =>
      simp only
      split_ifs
      · exact ih start
      · exact ih start.dropLast
      · rfl
      · exact ih (start ++ [name])

/-- The names in a path as `String`s. -/
def texts (names : List (List Char)) : List String :=
  names.map String.ofList

theorem exists_names_of_locate {d : Disk} {path : String} {location : List String}
    (h : d.locate path = .ok location) : ∃ found, names path = .ok found := by
  unfold locate at h
  obtain ⟨found, hnames, -⟩ := bind_eq_ok_iff.1 h
  exact ⟨found, hnames⟩

theorem locate_eq_follow {d : Disk} {path : String} {found : List String}
    (h : names path = .ok found) :
    d.locate path = d.follow (d.startOf path) (texts (split path.toList)) := by
  obtain ⟨-, -, -, rfl⟩ := exists_of_names h
  rw [locate, h]
  rfl

/-- A last name leads `follow` into the directory that was reached before it, or to the one above that. -/
theorem exists_of_follow_append {d : Disk} {start location : List String} {names : List (List Char)}
    {name : List Char} (hne : name ≠ []) (hdot : name ≠ ['.'])
    (h : d.follow start (texts (names ++ [name])) = .ok location) :
    ∃ directory, d.follow start (texts names) = .ok directory
      ∧ d.node? directory = some .directory
      ∧ (location = directory.dropLast ∨ location = directory ++ [String.ofList name]) := by
  rw [texts, List.map_append, List.map_singleton, follow_append] at h
  obtain ⟨directory, hfollow, hlast⟩ := bind_eq_ok_iff.1 h
  have hempty : (String.ofList name == "" || String.ofList name == ".") = false := by
    rw [Bool.or_eq_false_iff, beq_eq_false_iff_ne, beq_eq_false_iff_ne]
    exact ⟨fun heq => hne (by simpa using congrArg String.toList heq),
      fun heq => hdot (by simpa using congrArg String.toList heq)⟩
  simp only [follow, hempty, Bool.false_eq_true, if_false] at hlast
  cases hcheck : d.checkDirectory directory with
  | error e =>
    rw [hcheck] at hlast
    exact absurd hlast (by simp)
  | ok u =>
    rw [hcheck] at hlast
    refine ⟨directory, hfollow, (checkDirectory_eq_ok_iff d directory).1 hcheck, ?_⟩
    simp only at hlast
    -- The name is `..`, too long, or one to go down to.
    split_ifs at hlast
    · exact .inl (Except.ok.inj hlast).symm
    · exact .inr (Except.ok.inj hlast).symm

/-- Names that are `Idle` lead `follow` nowhere else, and only what is at the place decides whether they are
    followed. -/
theorem follow_idle {d e : Disk} {location : List String}
    (h : e.node? location = d.node? location) {names : List (List Char)} (hidle : Idle names) :
    e.follow location (texts names) = d.follow location (texts names)
      ∧ ∀ target, d.follow location (texts names) = .ok target → target = location := by
  induction names with
  | nil => exact ⟨rfl, fun target htarget => (Except.ok.inj htarget).symm⟩
  | cons name names ih =>
    have hname : (String.ofList name == "" || String.ofList name == ".") = true := by
      rcases hidle name List.mem_cons_self with rfl | rfl <;> decide
    have hcheck : e.checkDirectory location = d.checkDirectory location := by
      rw [checkDirectory, checkDirectory, h]
    obtain ⟨heq, hstay⟩ := ih fun other hother => hidle other (List.mem_cons_of_mem _ hother)
    rw [texts, List.map_cons, follow, follow, hcheck]
    simp only [hname, if_true]
    cases d.checkDirectory location with
    | error err => exact ⟨rfl, fun target htarget => absurd htarget (by simp)⟩
    | ok u => exact ⟨heq, hstay⟩

/-! ## Keys -/

theorem key_append_singleton {location : List String} (h : location ≠ []) (name : String) :
    key (location ++ [name]) = key location ++ "/" ++ name := by
  rw [key, String.intercalate_append_of_ne_nil h (List.cons_ne_nil _ _), String.intercalate_singleton]
  rfl

/-- Different names in one directory have different `key`s. -/
theorem key_append_ne {name other : String} (h : name ≠ other) (location : List String) :
    key (location ++ [name]) ≠ key (location ++ [other]) := by
  intro heq
  cases location with
  | nil => exact h heq
  | cons first location =>
    rw [key_append_singleton (List.cons_ne_nil _ _), key_append_singleton (List.cons_ne_nil _ _)] at heq
    exact h ((String.append_right_inj _).1 heq)

/-- What is in a directory has another `key` than the directory above. -/
theorem key_dropLast_ne {name : String} (h : name ≠ "") (location : List String) :
    key location.dropLast ≠ key (location ++ [name]) := by
  rcases List.eq_nil_or_concat location with rfl | ⟨above, last, rfl⟩
  · exact h.symm
  · rw [List.concat_eq_append, List.dropLast_concat, key_append_singleton (by simp)]
    have hlonger : (key above).length < (key (above ++ [last]) ++ "/" ++ name).length := by
      cases above with
      | nil =>
        simp only [key, String.intercalate_nil, String.length_append]
        have : "/".length = 1 := rfl
        have : "".length = 0 := rfl
        omega
      | cons first above =>
        rw [key_append_singleton (List.cons_ne_nil _ _)]
        simp only [String.length_append]
        have : "/".length = 1 := rfl
        omega
    intro heq
    rw [← heq] at hlonger
    exact Nat.lt_irrefl _ hlonger

/-! ## Another file in the directory -/

section Beside

variable {path extension : String} {d : Disk}

theorem startOf_of_parts {other : String} {name : List Char} (hpath : HasFileName path)
    (hother : other.toList = directoryPart path ++ name) (hslash : '/' ∉ name) (hne : name ≠ []) :
    d.startOf other = d.startOf path := by
  obtain ⟨trail, hparts, -⟩ := exists_parts hpath
  have hhead : (other.toList.head? == some '/') = (path.toList.head? == some '/') := by
    rw [hother, hparts]
    cases hdirectory : directoryPart path with
    | cons c rest => rfl
    | nil =>
      obtain ⟨c, rest, rfl⟩ := List.exists_cons_of_ne_nil hne
      obtain ⟨c', rest', hlast⟩ := List.exists_cons_of_ne_nil hpath.1
      have hc : c ≠ '/' := fun heq => hslash (heq ▸ List.mem_cons_self)
      have hc' : c' ≠ '/' := fun heq =>
        slash_not_mem_lastName path (by rw [hlast, heq]; exact List.mem_cons_self)
      rw [hlast]
      simp [hc, hc']
  unfold startOf
  rw [hhead]

/-- A path that begins another one has `names` where the other has. -/
theorem exists_names_of_prefix {shorter longer : String} {rest : List Char} {found : List String}
    (hne : shorter ≠ "") (h : longer.toList = shorter.toList ++ rest)
    (hlonger : names longer = .ok found) : ∃ found', names shorter = .ok found' := by
  obtain ⟨-, hnul, hlong, -⟩ := exists_of_names hlonger
  have hlist : shorter.toList ≠ [] := by simpa using hne
  have hsize : shorter.utf8ByteSize ≤ longer.utf8ByteSize := by
    have heq : longer = shorter ++ String.ofList rest := by
      rw [← String.toList_inj, h, String.toList_append, String.toList_ofList]
    rw [heq, String.utf8ByteSize_append]
    omega
  unfold names
  simp only
  rw [if_neg (by simpa using hne), if_neg ?_, if_neg (by omega)]
  · exact ⟨_, rfl⟩
  · rw [h] at hnul
    simpa using fun hmem => hnul (List.mem_append_left _ hmem)

/-! The path has a file name, the extension ends in one part of its own, and the file with that extension can
be located. -/

variable {location : List String} {first last : List Char} (hpath : HasFileName path)
  (hextension : extension.toList = first ++ '.' :: last) (hlast : '.' ∉ last)
  (hslash : '/' ∉ extension.toList)
  (hlocate : d.locate (withExtension path extension) = .ok location)

include hpath hextension hlast hslash hlocate

/-- A file with another extension, at `location`, is in the directory of the file at `path`, under a `key`
    of its own. -/
theorem exists_directory :
    ∃ directory, d.follow (d.startOf path) (texts (directoryNames path)) = .ok directory
      ∧ d.node? directory = some .directory
      ∧ key (directory ++ [String.ofList (lastName path)]) ≠ key location := by
  have hshape := newName_shape path hslash (by rw [hextension]; simp)
  have hlist := toList_withExtension hpath extension
  have hne : newName path extension.toList ≠ lastName path := by
    rw [hextension]
    exact newName_ne hlast hpath
  generalize newName path extension.toList = name at hshape hlist hne
  have hfile : String.ofList (lastName path) ≠ "" := fun heq =>
    hpath.1 (by simpa using congrArg String.toList heq)
  obtain ⟨found, hnames⟩ := exists_names_of_locate hlocate
  rw [locate_eq_follow hnames, startOf_of_parts hpath hlist hshape.1 hshape.2.1, hlist,
    split_directoryPart_append path hshape.1] at hlocate
  obtain ⟨directory, hfollow, hdirectory, hlocation⟩ :=
    exists_of_follow_append hshape.2.1 hshape.2.2 hlocate
  refine ⟨directory, hfollow, hdirectory, ?_⟩
  -- The new name may be `..`, which leads above the directory.
  rcases hlocation with rfl | rfl
  · exact (key_dropLast_ne hfile directory).symm
  · refine (key_append_ne (fun heq => hne ?_) directory).symm
    simpa using congrArg String.toList heq

/-- What `find?` gives for a file does not depend on what is at the `key` of one with another extension, as
    long as this is no directory. -/
theorem find?_congr_beside {e : Disk} (hsame : SameDirectories d e)
    (hnode : ∀ other, key other ≠ key location → e.node? other = d.node? other) :
    e.find? path = d.find? path := by
  obtain ⟨directory, hfollow, hdirectory, hkey⟩ :=
    exists_directory hpath hextension hlast hslash hlocate
  cases hnames : names path with
  | error err => rw [find?, find?, locate, locate, hnames]; rfl
  | ok found =>
    have hstart : e.startOf path = d.startOf path := by
      unfold startOf
      rw [hsame.workingDirectory]
    -- The way to the directory is the same on both disks, and its last name leads to another key.
    have hfollow' : e.follow (d.startOf path) (texts (directoryNames path)) = .ok directory :=
      follow_of_directories (fun other => (hsame.directory_iff other).1) hfollow
    have hcheck := (checkDirectory_eq_ok_iff d directory).2 hdirectory
    have hcheck' := (checkDirectory_eq_ok_iff e directory).2 ((hsame.directory_iff directory).1 hdirectory)
    obtain ⟨idle, hsplit, hidle⟩ := exists_split hpath
    have hplain : (String.ofList (lastName path) == "" || String.ofList (lastName path) == ".") = false
        ∧ (String.ofList (lastName path) == "..") = false := by
      obtain ⟨hempty, hdot, hdots⟩ := hpath
      rw [Bool.or_eq_false_iff, beq_eq_false_iff_ne, beq_eq_false_iff_ne, beq_eq_false_iff_ne]
      exact ⟨⟨fun heq => hempty (by simpa using congrArg String.toList heq),
        fun heq => hdot (by simpa using congrArg String.toList heq)⟩,
        fun heq => hdots (by simpa using congrArg String.toList heq)⟩
    obtain ⟨hrest, hstay⟩ := follow_idle (hnode _ hkey) hidle
    rw [find?, find?, locate_eq_follow hnames, locate_eq_follow hnames, hstart, hsplit, texts,
      List.map_append, List.map_cons, follow_append, follow_append, ← texts, ← texts, hfollow, hfollow']
    simp only [Except.bind, follow, hcheck, hcheck', hplain.1, hplain.2, Bool.false_eq_true, if_false]
    split_ifs
    · rfl
    · rw [hrest]
      cases htarget : d.follow (directory ++ [String.ofList (lastName path)]) (texts idle) with
      | error err => rfl
      | ok target =>
        obtain rfl := hstay target htarget
        exact hnode _ hkey

/-- Where a file with another extension can be located, the `parent?` of the file is a directory. -/
theorem isDirectory_parent {parent : String}
    (hparent : parent? path = some parent) (hne : parent ≠ "") : d.isDirectory parent = true := by
  obtain ⟨directory, hfollow, hdirectory, -⟩ :=
    exists_directory hpath hextension hlast hslash hlocate
  obtain rfl : String.ofList (dropTrailing (directoryPart path).reverse).reverse = parent :=
    Option.some.inj ((parent?_eq hpath).symm.trans hparent)
  have hpart : directoryPart path ≠ [] := fun hnil => hne (by rw [hnil]; rfl)
  obtain ⟨rest, hrest, hshape⟩ := directoryNames_parent hpart
  generalize hleft : (dropTrailing (directoryPart path).reverse).reverse = left at hrest hshape hne ⊢
  have hleftne : left ≠ [] := by
    rintro rfl
    exact hne rfl
  obtain ⟨_, hlonger⟩ := exists_names_of_locate hlocate
  have hprefix : (withExtension path extension).toList
      = (String.ofList left).toList ++ (rest ++ newName path extension.toList) := by
    rw [toList_withExtension hpath, hrest, String.toList_ofList, List.append_assoc]
  obtain ⟨_, hnames⟩ := exists_names_of_prefix hne hprefix hlonger
  have hstart : d.startOf (String.ofList left) = d.startOf path := by
    obtain ⟨trail, hparts, -⟩ := exists_parts hpath
    obtain ⟨c, more, rfl⟩ := List.exists_cons_of_ne_nil hleftne
    unfold startOf
    rw [hparts, hrest, String.toList_ofList]
    rfl
  have hthere : d.locate (String.ofList left) = .ok directory := by
    rw [locate_eq_follow hnames, hstart, String.toList_ofList]
    rcases hshape with ⟨idle, hsplit, hidle⟩ | ⟨hroot, hidle⟩
    · rw [hsplit, texts, List.map_append, follow_append, ← texts, ← texts] at hfollow
      obtain ⟨reached, hreached, hrest⟩ := bind_eq_ok_iff.1 hfollow
      rw [hreached, (follow_idle rfl hidle).2 directory hrest]
    · -- Only the root is left, and all names from there to the directory mean nothing.
      obtain rfl : left = ['/'] := by
        rw [← hleft, hroot]
        rfl
      have hatRoot : d.startOf path = [] := hstart.symm
      rw [(follow_idle rfl hidle).2 directory hfollow, hatRoot]
      rfl
  rw [isDirectory_iff, find?_of_locate hthere, hdirectory]

end Beside

end PageRisk.Files.Disk
