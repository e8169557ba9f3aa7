import PageRisk.Files.Path
import PageRisk.Proofs.Text

set_option autoImplicit false

/-! # The parts of a path

A path with a file name is a directory, that name, and what follows it without meaning anything
(`exists_parts`). The path that `withExtension` makes of it has the same directory
(`toList_withExtension`) and another name (`newName_ne`), so it is another path (`withExtension_ne`). -/

namespace PageRisk.Files

/-- The pieces of a text between separators. -/
abbrev split (cs : List Char) : List (List Char) :=
  Text.pieces (fun c => c == '/') cs

theorem split_append (before after : List Char) :
    split (before ++ '/' :: after) = split before ++ split after :=
  Text.pieces_append_cons (p := fun c => c == '/') rfl before after

theorem split_of_not_mem {cs : List Char} (h : '/' ∉ cs) : split cs = [cs] := by
  refine Text.pieces_of_forall fun c hc => ?_
  rw [beq_eq_false_iff_ne]
  rintro rfl
  exact h hc

/-! ## What means nothing -/

/-- Whether all names are empty or `.`, so that they mean nothing. -/
def Idle (names : List (List Char)) : Prop :=
  ∀ name ∈ names, name = [] ∨ name = ['.']

theorem Idle.append {names others : List (List Char)} (h : Idle names) (h' : Idle others) :
    Idle (names ++ others) := by
  intro name hname
  rcases List.mem_append.1 hname with hname | hname
  · exact h name hname
  · exact h' name hname

theorem idle_singleton {name : List Char} (h : name = [] ∨ name = ['.']) : Idle [name] := by
  intro other hother
  rw [List.mem_singleton.1 hother]
  exact h

theorem dropTrailing_eq_self {r : List Char} (hslash : ∀ c rest, r ≠ '/' :: c :: rest)
    (hdot : ∀ rest, r ≠ '.' :: '/' :: rest) : dropTrailing r = r := by
  unfold dropTrailing
  split
  · exact absurd rfl (hslash _ _)
  · exact absurd rfl (hdot _)
  · rfl

/-- Whether what `dropTrailing` takes off begins with a separator and means nothing. Where only the root is
    left there need not be a separator, as the root ends in one. -/
def DropsIdle (r : List Char) : Prop :=
  ∃ trail, r.reverse = (dropTrailing r).reverse ++ trail
    ∧ (trail = [] ∨ (∃ tail, trail = '/' :: tail ∧ Idle (split tail))
      ∨ dropTrailing r = ['/'] ∧ Idle (split trail))

/-- One more name that is `Idle` may be dropped. -/
theorem DropsIdle.more {r shorter : List Char} (h : DropsIdle shorter) (last : List Char)
    (hr : r.reverse = shorter.reverse ++ '/' :: last) (hdrop : dropTrailing r = dropTrailing shorter)
    (hlast : last = [] ∨ last = ['.']) : DropsIdle r := by
  obtain ⟨trail, htrail, hshape⟩ := h
  have hname : split last = [last] := split_of_not_mem (by rcases hlast with rfl | rfl <;> decide)
  have hidle : Idle [last] := idle_singleton hlast
  refine ⟨trail ++ '/' :: last, by rw [hr, hdrop, htrail, List.append_assoc], ?_⟩
  rw [hdrop]
  rcases hshape with rfl | ⟨tail, rfl, htail⟩ | ⟨hroot, htrail⟩
  · exact .inr (.inl ⟨last, rfl, hname ▸ hidle⟩)
  · refine .inr (.inl ⟨tail ++ '/' :: last, rfl, ?_⟩)
    rw [split_append, hname]
    exact htail.append hidle
  · refine .inr (.inr ⟨hroot, ?_⟩)
    rw [split_append, hname]
    exact htrail.append hidle

theorem dropsIdle (r : List Char) : DropsIdle r := by
  induction hlength : r.length using Nat.strongRecOn generalizing r with
  | ind n ih =>
    by_cases hslash : ∃ c rest, r = '/' :: c :: rest
    · obtain ⟨c, rest, rfl⟩ := hslash
      rw [List.length_cons] at hlength
      exact (ih (c :: rest).length (by omega) (c :: rest) rfl).more []
        List.reverse_cons (by rw [dropTrailing]) (.inl rfl)
    · by_cases hdot : ∃ rest, r = '.' :: '/' :: rest
      · obtain ⟨rest, rfl⟩ := hdot
        cases rest with
        | nil => exact ⟨['.'], rfl, .inr (.inr ⟨rfl, idle_singleton (.inr rfl)⟩)⟩
        | cons c rest =>
          rw [List.length_cons, List.length_cons] at hlength
          exact (ih (c :: rest).length (by omega) (c :: rest) rfl).more ['.']
            (by simp) (by rw [dropTrailing, dropTrailing]) (.inr rfl)
      · refine ⟨[], ?_, .inl rfl⟩
        rw [List.append_nil, dropTrailing_eq_self (fun c rest heq => hslash ⟨c, rest, heq⟩)
          fun rest heq => hdot ⟨rest, heq⟩]

/-! ## File names -/

/-- The last name of a path, behind which nothing is but `Idle` names. -/
def lastName (path : String) : List Char :=
  ((dropTrailing path.toList.reverse).takeWhile (· != '/')).reverse

/-- What stands before the `lastName` of a path. -/
def directoryPart (path : String) : List Char :=
  ((dropTrailing path.toList.reverse).dropWhile (· != '/')).reverse

/-- Whether the `lastName` of a path is that of a file: it is neither empty nor `.` nor `..`. -/
def HasFileName (path : String) : Prop :=
  lastName path ≠ [] ∧ lastName path ≠ ['.'] ∧ lastName path ≠ ['.', '.']

instance (path : String) : Decidable (HasFileName path) :=
  inferInstanceAs (Decidable (_ ∧ _))

theorem slash_not_mem_lastName (path : String) : '/' ∉ lastName path := by
  intro hmem
  have hne := List.mem_takeWhile_imp (List.mem_reverse.1 hmem)
  simp at hne

theorem dropTrailing_reverse (path : String) :
    (dropTrailing path.toList.reverse).reverse = directoryPart path ++ lastName path := by
  rw [directoryPart, lastName, ← List.reverse_append, List.takeWhile_append_dropWhile]

/-- `directoryPart` is nothing or ends in a separator. -/
theorem directoryPart_eq (path : String) :
    directoryPart path = [] ∨ ∃ before, directoryPart path = before ++ ['/'] := by
  unfold directoryPart
  cases hrest : (dropTrailing path.toList.reverse).dropWhile (· != '/') with
  | nil => exact .inl rfl
  | cons c rest =>
    have hne : (dropTrailing path.toList.reverse).dropWhile (· != '/') ≠ [] := by
      rw [hrest]
      exact List.cons_ne_nil _ _
    have hhead := List.head_dropWhile_not _ hne
    obtain rfl : c = '/' := by simpa [hrest] using hhead
    exact .inr ⟨rest.reverse, List.reverse_cons⟩

/-- A path with a file name is `directoryPart`, `lastName` and what means nothing. -/
theorem exists_parts {path : String} (h : HasFileName path) :
    ∃ trail, path.toList = directoryPart path ++ lastName path ++ trail
      ∧ (trail = [] ∨ ∃ tail, trail = '/' :: tail ∧ Idle (split tail)) := by
  obtain ⟨trail, htrail, hshape⟩ := dropsIdle path.toList.reverse
  rw [List.reverse_reverse, dropTrailing_reverse] at htrail
  refine ⟨trail, htrail, ?_⟩
  rcases hshape with hnil | htail | ⟨hroot, -⟩
  · exact .inl hnil
  · exact .inr htail
  · refine absurd ?_ h.1
    rw [lastName, hroot]
    rfl

/-- The pieces of the `directoryPart` of a path. -/
def directoryNames (path : String) : List (List Char) :=
  (split (directoryPart path)).dropLast

/-- A name in the directory of a path comes behind its `directoryNames`. -/
theorem split_directoryPart_append (path : String) {name : List Char} (h : '/' ∉ name) :
    split (directoryPart path ++ name) = directoryNames path ++ [name] := by
  unfold directoryNames
  rcases directoryPart_eq path with hnil | ⟨before, hbefore⟩
  · rw [hnil, List.nil_append, split_of_not_mem h]
    rfl
  · rw [hbefore, List.append_assoc, List.singleton_append, split_append, split_append,
      split_of_not_mem h]
    simp [split]

/-- The pieces of a path with a file name are `directoryNames`, `lastName` and `Idle` ones. -/
theorem exists_split {path : String} (h : HasFileName path) :
    ∃ idle, split path.toList = directoryNames path ++ lastName path :: idle ∧ Idle idle := by
  obtain ⟨trail, hpath, hshape⟩ := exists_parts h
  have hname := split_directoryPart_append path (slash_not_mem_lastName path)
  rcases hshape with rfl | ⟨tail, rfl, hidle⟩
  · refine ⟨[], ?_, fun name hname => by simp at hname⟩
    rw [hpath, List.append_nil, hname]
  · refine ⟨split tail, ?_, hidle⟩
    rw [hpath, split_append, hname, List.append_assoc, List.singleton_append]

/-! ## Another extension -/

/-- The name that `withExtension` makes of the `lastName` of a path. -/
def newName (path : String) (extension : List Char) : List Char :=
  match Text.cutAtLast? '.' (lastName path) with
  | some (['.'], _) =>
    if (dropTrailing path.toList.reverse).length == path.length then ['.', '.']
    else '.' :: '.' :: extension
  | some ([], _) => lastName path ++ '.' :: extension
  | some (stem, _) => stem ++ '.' :: extension
  | none => lastName path ++ '.' :: extension

theorem toList_withExtension {path : String} (h : HasFileName path) (extension : String) :
    (withExtension path extension).toList = directoryPart path ++ newName path extension.toList := by
  have hdef : withExtension path extension
      = if (lastName path).isEmpty || lastName path == ['.'] || lastName path == ['.', '.'] then path
        else match Text.cutAtLast? '.' (lastName path) with
        | some (['.'], _) =>
          if (dropTrailing path.toList.reverse).length == path.length then
            String.ofList (directoryPart path ++ ['.', '.'])
          else String.ofList (directoryPart path ++ ['.'] ++ '.' :: extension.toList)
        | some ([], _) =>
          String.ofList (directoryPart path ++ lastName path ++ '.' :: extension.toList)
        | some (stem, _) => String.ofList (directoryPart path ++ stem ++ '.' :: extension.toList)
        | none => String.ofList (directoryPart path ++ lastName path ++ '.' :: extension.toList) := rfl
  obtain ⟨hempty, hdot, hdots⟩ := h
  rw [hdef, newName, if_neg (by simp [hempty, hdot, hdots])]
  split
  · split <;> simp
  · simp
  · simp
  · simp

/-- `newName` is another name where the extension has a dot in it: what is left of the new name before its
    last dot is longer than the stem that was kept. -/
theorem newName_ne {path : String} {first last : List Char} (hlast : '.' ∉ last)
    (h : HasFileName path) : newName path (first ++ '.' :: last) ≠ lastName path := by
  have hlonger : ∀ stem : List Char, Text.cutAtLast? '.' (stem ++ '.' :: (first ++ '.' :: last))
      = some (stem ++ '.' :: first, last) := by
    intro stem
    have hcut := Text.cutAtLast?_append hlast (stem ++ '.' :: first)
    rwa [List.append_assoc, List.cons_append] at hcut
  intro heq
  unfold newName at heq
  split at heq
  · next hcut =>
    split at heq
    · exact h.2.2 heq.symm
    · have hlong := hlonger ['.']
      rw [List.singleton_append, heq, hcut] at hlong
      simp at hlong
  · simp at heq
  · next stem after _ _ hcut =>
    rw [← heq, hlonger] at hcut
    simp at hcut
  · simp at heq

theorem newName_shape (path : String) {extension : List Char} (hslash : '/' ∉ extension)
    (hne : extension ≠ []) :
    '/' ∉ newName path extension ∧ newName path extension ≠ [] ∧ newName path extension ≠ ['.'] := by
  have hname := slash_not_mem_lastName path
  have hlonger : ∀ {stem : List Char}, '/' ∉ stem → '/' ∉ stem ++ '.' :: extension
      ∧ stem ++ '.' :: extension ≠ [] ∧ stem ++ '.' :: extension ≠ ['.'] := by
    intro stem hstem
    refine ⟨by simp [hstem, hslash], by simp, fun heq => ?_⟩
    have hlength := congrArg List.length heq
    have hpos := List.length_pos_iff.2 hne
    simp at hlength
    omega
  unfold newName
  split
  · split
    · decide
    · have hdot : '/' ∉ ['.'] := by decide
      exact hlonger hdot
  · exact hlonger hname
  · next stem after _ _ hcut =>
    refine hlonger fun hmem => hname ?_
    rw [Text.eq_of_cutAtLast? hcut]
    exact List.mem_append_left _ hmem
  · exact hlonger hname

/-- `withExtension` gives another path where the extension has a dot in it. -/
theorem withExtension_ne {path : String} (h : HasFileName path) {extension : String}
    {first last : List Char} (hextension : extension.toList = first ++ '.' :: last)
    (hlast : '.' ∉ last) (hslash : '/' ∉ extension.toList) : withExtension path extension ≠ path := by
  intro heq
  obtain ⟨trail, hpath, hshape⟩ := exists_parts h
  have hnew := toList_withExtension h extension
  rw [heq, hpath, List.append_assoc, List.append_cancel_left_eq] at hnew
  have hno := (newName_shape path hslash (by rw [hextension]; simp)).1
  rcases hshape with rfl | ⟨tail, rfl, -⟩
  · rw [List.append_nil, hextension] at hnew
    exact newName_ne hlast h hnew.symm
  · rw [← hnew] at hno
    simp at hno

/-! ## The directory -/

/-- The `parent?` of a path with a file name is its `directoryPart` without what means nothing at its
    end. -/
theorem parent?_eq {path : String} (h : HasFileName path) :
    parent? path = some (String.ofList (dropTrailing (directoryPart path).reverse).reverse) := by
  have hdef : parent? path
      = if (dropTrailing path.toList.reverse).isEmpty || dropTrailing path.toList.reverse == ['/']
        then none
        else some (String.ofList (dropTrailing (directoryPart path).reverse).reverse) := by
    rw [directoryPart, List.reverse_reverse]
    rfl
  rw [hdef, if_neg]
  have hne := h.1
  unfold lastName at hne
  intro hcond
  rw [Bool.or_eq_true, List.isEmpty_iff, beq_iff_eq] at hcond
  rcases hcond with hnil | hroot
  · rw [hnil] at hne
    exact hne rfl
  · rw [hroot] at hne
    exact hne rfl

/-- What `dropTrailing` leaves of a path ends in a separator only where it is the root. -/
theorem dropTrailing_eq_root {r rest : List Char} (h : dropTrailing r = '/' :: rest) : rest = [] := by
  induction r using dropTrailing.induct with
  | case1 c more ih => exact ih (by rwa [dropTrailing] at h)
  | case2 more ih => exact ih (by rwa [dropTrailing] at h)
  | case3 r hslash hdot =>
    rw [dropTrailing_eq_self (fun c more heq => hslash c more heq) fun more heq => hdot more heq] at h
    cases rest with
    | nil => rfl
    | cons c rest => exact absurd h (hslash c rest)

/-- The `directoryNames` of a path are those of its `parent?` and `Idle` ones; where the parent is the root,
    all of them are `Idle`. -/
theorem directoryNames_parent {path : String} (hne : directoryPart path ≠ []) :
    ∃ rest, directoryPart path = (dropTrailing (directoryPart path).reverse).reverse ++ rest
      ∧ ((∃ idle, directoryNames path
            = split (dropTrailing (directoryPart path).reverse).reverse ++ idle ∧ Idle idle)
        ∨ dropTrailing (directoryPart path).reverse = ['/'] ∧ Idle (directoryNames path)) := by
  obtain ⟨trail, htrail, hshape⟩ := dropsIdle (directoryPart path).reverse
  rw [List.reverse_reverse] at htrail
  have hdropLast : ∀ {names : List (List Char)}, Idle names → Idle names.dropLast :=
    fun h name hname => h name (List.dropLast_subset _ hname)
  refine ⟨trail, htrail, ?_⟩
  -- Where only the root is left, nothing but idle names was before it or after it.
  have hroot : dropTrailing (directoryPart path).reverse = ['/'] → Idle (split trail) →
      Idle (directoryNames path) := by
    intro hroot hidle
    rw [directoryNames, htrail, hroot]
    refine hdropLast ?_
    have hsplit : split (['/'].reverse ++ trail) = split [] ++ split trail := split_append [] trail
    rw [hsplit]
    exact (idle_singleton (.inl rfl)).append hidle
  rcases hshape with rfl | ⟨tail, rfl, hidle⟩ | ⟨hleft, hidle⟩
  · -- Nothing was dropped, although the directory ends in a separator: it is the root.
    obtain ⟨before, hbefore⟩ := (directoryPart_eq path).resolve_left hne
    rw [List.append_nil] at htrail
    have hleft : dropTrailing (directoryPart path).reverse = '/' :: before.reverse := by
      rw [← List.reverse_inj, ← htrail, hbefore]
      simp
    rw [dropTrailing_eq_root hleft] at hleft
    exact .inr ⟨hleft, hroot hleft (idle_singleton (.inl rfl))⟩
  · refine .inl ⟨(split tail).dropLast, ?_, hdropLast hidle⟩
    rw [directoryNames, htrail, split_append,
      List.dropLast_append_of_ne_nil (Text.pieces_ne_nil _ tail), ← htrail]
  · exact .inr ⟨hleft, hroot hleft hidle⟩

end PageRisk.Files
