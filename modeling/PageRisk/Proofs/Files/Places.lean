import PageRisk.Proofs.Files.Disk

set_option autoImplicit false

/-! # Disks that differ in the contents of files only

How an operation on files goes depends on where there are files and directories, and not on what is in the
files. So on two disks with the same things at the same places (`SamePlaces`), writing and renaming succeed
alike or fail with the same error, and leave such disks. -/

namespace PageRisk

/-- Whether two results are related by `R`, or are the same error. -/
def Matching {ε α β : Type} (R : α → β → Prop) : Except ε α → Except ε β → Prop
  | .ok a, .ok b => R a b
  | .error e, .error e' => e = e'
  | _, _ => False

theorem Matching.cases {ε α β : Type} {R : α → β → Prop} {x : Except ε α} {y : Except ε β}
    (h : Matching R x y) :
    (∃ a b, x = .ok a ∧ y = .ok b ∧ R a b) ∨ ∃ e, x = .error e ∧ y = .error e := by
  cases x with
  | ok a =>
    cases y with
    | ok b => exact .inl ⟨a, b, rfl, rfl, h⟩
    | error e => exact h.elim
  | error e =>
    cases y with
    | ok b => exact h.elim
    | error e' => exact .inr ⟨e, rfl, congrArg Except.error (Eq.symm h)⟩

namespace Files

/-- Whether two places are both empty, or both hold a file, or both a directory. -/
inductive Node.SameKind : Option Node → Option Node → Prop
  | nothing : SameKind none none
  | file (contents contents' : ByteArray) : SameKind (some (.file contents)) (some (.file contents'))
  | directory : SameKind (some .directory) (some .directory)

theorem Node.SameKind.refl : (found : Option Node) → Node.SameKind found found
  | none => nothing
  | some (.file contents) => file contents contents
  | some .directory => directory

theorem Node.SameKind.directory_iff {found found' : Option Node} (h : Node.SameKind found found') :
    found = some .directory ↔ found' = some .directory := by
  cases h <;> simp

namespace Disk

/-- Whether two disks have a `Node.SameKind` at every place, whatever is in the files. -/
structure SamePlaces (d e : Disk) : Prop where
  workingDirectory : d.workingDirectory = e.workingDirectory
  sameKind : ∀ location, Node.SameKind (d.node? location) (e.node? location)

namespace SamePlaces

theorem refl (d : Disk) : SamePlaces d d :=
  ⟨rfl, fun _ => .refl _⟩

variable {d e : Disk}

/-! ## Following paths -/

theorem checkDirectory_eq (h : SamePlaces d e) (location : List String) :
    d.checkDirectory location = e.checkDirectory location := by
  have hkind := h.sameKind location
  unfold checkDirectory
  generalize d.node? location = found at hkind
  generalize e.node? location = found' at hkind
  cases hkind <;> rfl

theorem follow_eq (h : SamePlaces d e) (location : List String) (names : List String) :
    d.follow location names = e.follow location names := by
  induction names generalizing location with
  | nil => rfl
  | cons name rest ih =>
    rw [follow, follow, h.checkDirectory_eq]
    cases e.checkDirectory location with
    | error err => rfl
    | ok u =>
      simp only
      split_ifs
      · exact ih location
      · exact ih location.dropLast
      · rfl
      · exact ih (location ++ [name])

theorem startOf_eq (h : SamePlaces d e) (path : String) : d.startOf path = e.startOf path := by
  unfold startOf
  rw [h.workingDirectory]

theorem locate_eq (h : SamePlaces d e) (path : String) : d.locate path = e.locate path := by
  unfold locate
  simp only [h.startOf_eq, funext (h.follow_eq _)]

theorem locateEntry_eq (h : SamePlaces d e) (path : String) :
    d.locateEntry path = e.locateEntry path := by
  unfold locateEntry
  simp only [h.startOf_eq, h.follow_eq]

theorem checkParent_eq (h : SamePlaces d e) (path : String) :
    d.checkParent path = e.checkParent path := by
  unfold checkParent
  simp only [h.startOf_eq, h.follow_eq]

/-! ## Changes -/

theorem put (h : SamePlaces d e) (location : List String) (contents contents' : ByteArray) :
    SamePlaces (d.put location (.file contents)) (e.put location (.file contents')) where
  workingDirectory := h.workingDirectory
  sameKind other := by
    rw [node?_put, node?_put]
    split
    · exact .file contents contents'
    · exact h.sameKind other

theorem remove (h : SamePlaces d e) (location : List String) :
    SamePlaces (d.remove location) (e.remove location) where
  workingDirectory := h.workingDirectory
  sameKind other := by
    cases other with
    | nil => exact .directory
    | cons name rest =>
      rw [node?_remove (List.cons_ne_nil name rest), node?_remove (List.cons_ne_nil name rest)]
      split
      · exact .nothing
      · exact h.sameKind _

theorem isDirectory_eq (h : SamePlaces d e) (location : List String) :
    (d.node? location == some .directory) = (e.node? location == some .directory) := by
  rw [Bool.eq_iff_iff, beq_iff_eq, beq_iff_eq]
  exact (h.sameKind location).directory_iff

theorem write (h : SamePlaces d e) (path : String) (contents contents' : ByteArray) :
    Matching SamePlaces (d.write path contents) (e.write path contents') := by
  unfold Disk.write
  rw [h.checkParent_eq, h.locate_eq]
  split
  · cases e.checkParent path <;> rfl
  · split
    · rfl
    · next location _ =>
      rw [h.isDirectory_eq]
      split
      · rfl
      · exact h.put location contents contents'

theorem rename (h : SamePlaces d e) (source target : String) :
    Matching SamePlaces (d.rename source target) (e.rename source target) := by
  unfold Disk.rename
  rw [h.locate_eq, h.locateEntry_eq]
  cases e.locate source with
  | error err => rfl
  | ok old =>
    cases e.locateEntry target with
    | error err => rfl
    | ok new =>
      have hold := h.sameKind old
      simp only
      generalize d.node? old = found at hold
      generalize e.node? old = found' at hold
      cases hold with
      | nothing => rfl
      | directory => rfl
      | file contents contents' =>
        simp only [h.isDirectory_eq new]
        split_ifs
        · rfl
        · rfl
        · exact (h.remove old).put new contents contents'

end SamePlaces

end Disk

end Files

end PageRisk
