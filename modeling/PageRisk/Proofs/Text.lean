import Mathlib.Data.List.TakeWhile
import Mathlib.Tactic.Common
import PageRisk.Text.Basic

set_option autoImplicit false

/-! # Laws of text

How a text falls into pieces at its separators: at each separator the pieces before it and those after it
stand by themselves (`pieces_append_cons`). A text is cut at the last of its marks and at no other
(`cutAtLast?_append`). What trimming leaves is a part of the text, and all of it if there is no white space
at its ends (`trim_eq_self_iff`). -/

namespace PageRisk.Text

variable {p : Char → Bool}

theorem pieces_append_cons {separator : Char} (h : p separator = true) (before after : List Char) :
    pieces p (before ++ separator :: after) = pieces p before ++ pieces p after := by
  induction before with
  | nil => rw [List.nil_append, pieces_cons, if_pos h]; rfl
  | cons c before ih =>
    rw [List.cons_append, pieces_cons, pieces_cons, ih]
    obtain ⟨piece, pieces', hpieces⟩ := List.exists_cons_of_ne_nil (pieces_ne_nil p before)
    rw [hpieces]
    split <;> rfl

theorem pieces_of_forall {cs : List Char} (h : ∀ c ∈ cs, p c = false) : pieces p cs = [cs] := by
  induction cs with
  | nil => rfl
  | cons c cs ih =>
    rw [pieces_cons, ih fun d hd => h d (List.mem_cons_of_mem _ hd),
      if_neg (by rw [h c List.mem_cons_self]; simp)]
    rfl

theorem dropLastWhile_append_singleton {α : Type} {q : α → Bool} {a : α} (h : q a = false)
    (before : List α) : dropLastWhile q (before ++ [a]) = before ++ [a] := by
  rw [dropLastWhile, List.reverse_append, List.reverse_singleton, List.singleton_append,
    List.dropWhile_cons_of_neg (by simp [h])]
  simp

/-! ## Trimming -/

theorem dropLastWhile_isPrefix {α : Type} (q : α → Bool) (cs : List α) : dropLastWhile q cs <+: cs := by
  have hsuffix : cs.reverse.dropWhile q <:+ cs.reverse := List.dropWhile_suffix q
  rwa [dropLastWhile, ← List.reverse_suffix, List.reverse_reverse]

/-- What `dropLastWhile` leaves does not end with anything that was to be dropped. -/
theorem getLast?_dropLastWhile {α : Type} {q : α → Bool} {cs : List α} {a : α}
    (h : (dropLastWhile q cs).getLast? = some a) : q a = false := by
  rw [dropLastWhile, List.getLast?_reverse] at h
  have hfirst := List.head?_dropWhile_not q cs.reverse
  rw [h] at hfirst
  exact hfirst

theorem dropLastWhile_eq_self_iff {α : Type} (q : α → Bool) (cs : List α) :
    dropLastWhile q cs = cs ↔ ∀ a, cs.getLast? = some a → q a = false := by
  constructor
  · intro h a ha
    rw [← h] at ha
    exact getLast?_dropLastWhile ha
  · intro h
    rcases List.eq_nil_or_concat cs with rfl | ⟨before, a, rfl⟩
    · rfl
    · rw [List.concat_eq_append] at h ⊢
      exact dropLastWhile_append_singleton (h a List.getLast?_concat) before

theorem trim_isInfix (cs : List Char) : trim cs <:+: cs :=
  (dropLastWhile_isPrefix isBlank _).isInfix.trans (List.dropWhile_suffix isBlank).isInfix

/-- `trim` leaves a text as it is just if there is no white space at its ends. -/
theorem trim_eq_self_iff (cs : List Char) :
    trim cs = cs ↔ ∀ c, cs.head? = some c ∨ cs.getLast? = some c → isBlank c = false := by
  have hfirst : cs.dropWhile isBlank = cs ↔ ∀ c, cs.head? = some c → isBlank c = false := by
    cases cs with
    | nil => simp
    | cons c cs => simp [List.dropWhile_eq_self_iff]
  constructor
  · intro h
    -- Nothing was dropped at either end, or the text would be shorter.
    have hstart : cs.dropWhile isBlank = cs := by
      apply (List.dropWhile_suffix isBlank).eq_of_length_le
      calc cs.length = (trim cs).length := by rw [h]
        _ ≤ (cs.dropWhile isBlank).length := (dropLastWhile_isPrefix isBlank _).length_le
    rw [trim, hstart, dropLastWhile_eq_self_iff] at h
    rintro c (hc | hc)
    · exact hfirst.1 hstart c hc
    · exact h c hc
  · intro h
    rw [trim, hfirst.2 fun c hc => h c (.inl hc), dropLastWhile_eq_self_iff]
    intro c hc
    exact h c (.inr hc)

/-! ## The last piece -/

/-- A text is its last piece with the text up to the last separator before it. -/
theorem exists_last_piece (p : Char → Bool) (cs : List Char) :
    ∃ before last, cs = before ++ last ∧ (∀ c ∈ last, p c = false)
      ∧ (before = [] ∨ ∃ before' separator, p separator = true ∧ before = before' ++ [separator]) := by
  refine ⟨(cs.reverse.dropWhile fun c => !p c).reverse, (cs.reverse.takeWhile fun c => !p c).reverse,
    ?_, ?_, ?_⟩
  · rw [← List.reverse_append, List.takeWhile_append_dropWhile, List.reverse_reverse]
  · intro c hc
    simpa using List.mem_takeWhile_imp (List.mem_reverse.1 hc)
  · cases hrest : cs.reverse.dropWhile fun c => !p c with
    | nil => exact .inl rfl
    | cons separator rest =>
      refine .inr ⟨rest.reverse, separator, ?_, List.reverse_cons⟩
      have hne : cs.reverse.dropWhile (fun c => !p c) ≠ [] := by
        rw [hrest]
        exact List.cons_ne_nil _ _
      have hhead := List.head_dropWhile_not _ hne
      simpa [hrest] using hhead

/-! ## Joining -/

/-- What stands in `intercalate`d texts stands in one of them or in what joins them. -/
theorem mem_intercalate {α : Type} {separator : List α} {parts : List (List α)} {a : α}
    (h : a ∈ List.intercalate separator parts) : a ∈ separator ∨ ∃ part ∈ parts, a ∈ part := by
  obtain ⟨part, hpart, hmem⟩ := List.mem_flatten.1 h
  have hcases : part = separator ∨ part ∈ parts := by
    clear h hmem
    induction parts with
    | nil => exact absurd hpart List.not_mem_nil
    | cons first rest ih =>
      cases rest with
      | nil => exact .inr hpart
      | cons second rest =>
        rw [List.intersperse_cons_cons] at hpart
        rcases List.mem_cons.1 hpart with rfl | hpart
        · exact .inr List.mem_cons_self
        · rcases List.mem_cons.1 hpart with rfl | hpart
          · exact .inl rfl
          · exact (ih hpart).imp id (List.mem_cons_of_mem _)
  rcases hcases with rfl | hpart
  · exact .inl hmem
  · exact .inr ⟨part, hpart, hmem⟩

/-! ## Cutting -/

theorem cutAtLast?_eq_none {mark : Char} {cs : List Char} (h : mark ∉ cs) :
    cutAtLast? mark cs = none := by
  induction cs with
  | nil => rfl
  | cons c cs ih =>
    have hne : c ≠ mark := (List.ne_of_not_mem_cons h).symm
    rw [cutAtLast?, ih (List.not_mem_of_not_mem_cons h)]
    simp only [beq_iff_eq, hne, if_false]

theorem not_mem_of_cutAtLast?_eq_none {mark : Char} {cs : List Char} (h : cutAtLast? mark cs = none) :
    mark ∉ cs := by
  induction cs with
  | nil => exact List.not_mem_nil
  | cons c cs ih =>
    rw [cutAtLast?] at h
    split at h
    · exact absurd h nofun
    · next hrest =>
      split_ifs at h with hc
      rw [List.mem_cons, not_or]
      constructor
      · rintro rfl
        exact hc (beq_self_eq_true _)
      · exact ih hrest

theorem cutAtLast?_append {mark : Char} {after : List Char} (h : mark ∉ after)
    (before : List Char) : cutAtLast? mark (before ++ mark :: after) = some (before, after) := by
  induction before with
  | nil =>
    rw [List.nil_append, cutAtLast?, cutAtLast?_eq_none h]
    simp only [beq_self_eq_true, if_true]
  | cons c before ih =>
    rw [List.cons_append, cutAtLast?, ih]

theorem eq_of_cutAtLast? {mark : Char} {cs before after : List Char}
    (h : cutAtLast? mark cs = some (before, after)) : cs = before ++ mark :: after := by
  induction cs generalizing before after with
  | nil => exact absurd h (by simp [cutAtLast?])
  | cons c cs ih =>
    rw [cutAtLast?] at h
    split at h
    · next before' after' hrest =>
      simp only [Option.some.injEq, Prod.mk.injEq] at h
      obtain ⟨rfl, rfl⟩ := h
      rw [ih hrest, List.cons_append]
    · split_ifs at h with hc
      simp only [Option.some.injEq, Prod.mk.injEq] at h
      obtain ⟨rfl, rfl⟩ := h
      rw [beq_iff_eq.1 hc, List.nil_append]

/-- What stands after the last mark (`cutAtLast?`) has no mark. -/
theorem not_mem_of_cutAtLast? {mark : Char} {cs before after : List Char}
    (h : cutAtLast? mark cs = some (before, after)) : mark ∉ after := by
  induction cs generalizing before after with
  | nil => exact absurd h (by simp [cutAtLast?])
  | cons c cs ih =>
    rw [cutAtLast?] at h
    split at h
    · next before' after' hrest =>
      obtain ⟨-, rfl⟩ := Prod.mk.inj (Option.some.inj h)
      exact ih hrest
    · next hrest =>
      split_ifs at h
      obtain ⟨-, rfl⟩ := Prod.mk.inj (Option.some.inj h)
      exact not_mem_of_cutAtLast?_eq_none hrest

/-! ## Texts without some character -/

theorem isPrefixOf_eq_false {needle cs : List Char} {c : Char} (hneedle : c ∈ needle) (h : c ∉ cs) :
    needle.isPrefixOf cs = false := by
  rw [← Bool.not_eq_true, List.isPrefixOf_iff_prefix]
  intro hstart
  exact h (hstart.subset hneedle)

/-- `cutAt?` does not cut a text at a mark with a character that the text does not have. -/
theorem cutAt?_eq_none {mark cs : List Char} {c : Char} (hmark : c ∈ mark) (h : c ∉ cs) :
    cutAt? mark cs = none := by
  induction cs with
  | nil =>
    cases mark with
    | nil => exact absurd hmark List.not_mem_nil
    | cons m mark => rfl
  | cons d cs ih =>
    rw [cutAt?, isPrefixOf_eq_false hmark h, ih (List.not_mem_of_not_mem_cons h)]
    rfl

theorem occursIn_eq_false {needle cs : List Char} {c : Char} (hneedle : c ∈ needle) (h : c ∉ cs) :
    occursIn needle cs = false := by
  induction cs with
  | nil =>
    cases needle with
    | nil => exact absurd hneedle List.not_mem_nil
    | cons n needle => rfl
  | cons d cs ih =>
    rw [occursIn, isPrefixOf_eq_false hneedle h, ih (List.not_mem_of_not_mem_cons h)]
    rfl

end PageRisk.Text
