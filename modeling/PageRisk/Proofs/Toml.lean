import Mathlib.Tactic.Common
import PageRisk.ConfigFile
import PageRisk.Proofs.Except
import PageRisk.Store.JsonFile

set_option autoImplicit false

/-! # Configuration files that could be stores

A text that a store's file may hold is blank, or starts with an opening brace after some white space
(`Hollow`). As a configuration file such a text sets nothing, if it is one at all
(`ConfigFile.eq_default_of_hollow`). -/

namespace PageRisk

/-- Whether a text is blank up to its end or up to an opening brace. -/
inductive Hollow : List Char → Prop
  | nil : Hollow []
  | brace (rest : List Char) : Hollow ('\x7b' :: rest)
  | blank {c : Char} {rest : List Char} (hc : Text.isBlank c = true) (hrest : Hollow rest) :
    Hollow (c :: rest)

/-! ## Texts of stores -/

theorem hollow_of_allBlank {cs : List Char} (h : Text.allBlank cs = true) : Hollow cs := by
  induction cs with
  | nil => exact .nil
  | cons c rest ih =>
    rw [Text.allBlank, List.all_cons, Bool.and_eq_true] at h
    exact .blank h.1 (ih h.2)

namespace Json

theorem isBlank_of_isSpace {c : Char} (h : isSpace c = true) : Text.isBlank c = true := by
  simp only [isSpace, Bool.or_eq_true, beq_iff_eq] at h
  rcases h with ((rfl | rfl) | rfl) | rfl <;> rfl

theorem hollow_of_skipSpace {cs rest : List Char} (h : skipSpace cs = '\x7b' :: rest) : Hollow cs := by
  induction cs with
  | nil => exact absurd h (by simp [skipSpace])
  | cons c cs ih =>
    rw [skipSpace, List.dropWhile_cons] at h
    split at h
    · next hc => exact .blank (isBlank_of_isSpace hc) (ih h)
    · rw [h]
      exact .brace rest

theorem hollow_of_value {fuel depth : Nat} {cs rest : List Char} {ms : List (String × Json)}
    (h : value fuel depth cs = .ok (.object ms, rest)) : Hollow cs := by
  have hvalue : ∃ inner, valueWith fuel inner cs = .ok (.object ms, rest) := by
    cases depth with
    | zero => exact ⟨_, h⟩
    | succ depth => exact ⟨_, h⟩
  obtain ⟨inner, hinner⟩ := hvalue
  have hkind : ∀ {α : Type} {result : Except Fault (α × List Char)} {f : α → Json},
      (result.map fun found => (f found.1, found.2)) = .ok (.object ms, rest) →
      ∃ a, f a = .object ms := fun hmap => by
    obtain ⟨found, -, heq⟩ := map_eq_ok_iff.1 hmap
    exact ⟨found.1, congrArg Prod.fst heq⟩
  unfold valueWith at hinner
  split at hinner
  · exact absurd hinner nofun
  · obtain ⟨a, ha⟩ := hkind (f := fun _ : Unit => null) hinner
    exact absurd ha nofun
  · obtain ⟨a, ha⟩ := hkind (f := fun _ : Unit => bool true) hinner
    exact absurd ha nofun
  · obtain ⟨a, ha⟩ := hkind (f := fun _ : Unit => bool false) hinner
    exact absurd ha nofun
  · obtain ⟨a, ha⟩ := hkind (f := string) hinner
    exact absurd ha nofun
  · split at hinner
    · exact absurd hinner nofun
    · obtain ⟨a, ha⟩ := hkind (f := array) hinner
      exact absurd ha nofun
  · next hbrace => exact hollow_of_skipSpace hbrace
  · split_ifs at hinner
    obtain ⟨a, ha⟩ := hkind (f := number) hinner
    exact absurd ha nofun

theorem hollow_of_parse {text : String} {ms : List (String × Json)} (h : parse text = .ok (.object ms)) :
    Hollow text.toList := by
  unfold parse at h
  split at h
  · next v hdocument =>
    -- Only an object is an object in canonical form.
    obtain ⟨members, rfl⟩ : ∃ members, v = .object members := by
      cases v with
      | object members => exact ⟨members, rfl⟩
      | _ => exact absurd (Except.ok.inj h) nofun
    unfold readDocument readAll at hdocument
    split at hdocument
    · exact absurd hdocument nofun
    · next found rest hvalue =>
      split at hdocument
      · rw [Except.ok.inj hdocument] at hvalue
        exact hollow_of_value hvalue
      · exact absurd hdocument nofun
  · exact absurd h nofun

end Json

theorem hollow_of_entriesOf {path : String} {contents : ByteArray} {t : Table Json} {text : String}
    (htext : String.fromUTF8? contents = some text) (h : Store.entriesOf path contents = .ok t) :
    Hollow text.toList := by
  unfold Store.entriesOf at h
  simp only [htext] at h
  split_ifs at h with hblank
  · exact hollow_of_allBlank hblank
  · split at h
    · exact absurd h nofun
    · next hparse => exact Json.hollow_of_parse hparse
    · exact absurd h nofun

/-! ## Texts of configuration files -/

namespace Toml

theorem not_isBareChar_of_isBlank {c : Char} (h : Text.isBlank c = true) : isBareChar c = false := by
  by_contra hbare
  rw [Bool.not_eq_false] at hbare
  have hrange : 65 ≤ c.toNat ∧ c.toNat ≤ 122 ∨ 48 ≤ c.toNat ∧ c.toNat ≤ 57 ∨ c.toNat = 45 := by
    delta isBareChar Char.isAlphanum Char.isAlpha Char.isUpper Char.isLower Char.isDigit at hbare
    simp only [Bool.or_eq_true, Bool.and_eq_true, decide_eq_true_eq, beq_iff_eq, ge_iff_le,
      UInt32.le_iff_toNat_le] at hbare
    have hval : c.toNat = c.val.toNat := rfl
    rcases hbare with (((h | h) | h) | rfl) | rfl
    · exact .inl ⟨hval ▸ h.1, Nat.le_trans (hval ▸ h.2) (by decide)⟩
    · exact .inl ⟨Nat.le_trans (by decide) (hval ▸ h.1), hval ▸ h.2⟩
    · exact .inr (.inl ⟨hval ▸ h.1, hval ▸ h.2⟩)
    · decide
    · decide
  simp only [Text.isBlank, Bool.or_eq_true, Bool.and_eq_true, decide_eq_true_eq, beq_iff_eq] at h
  omega

theorem hollow_skipBlanks {cs : List Char} (h : Hollow cs) : Hollow (skipBlanks cs) := by
  induction h with
  | nil => exact .nil
  | brace rest => exact .brace rest
  | blank hc hrest ih =>
    rw [skipBlanks, List.dropWhile_cons]
    split
    · exact ih
    · exact .blank hc hrest

/-- What `skipBlanks` leaves does not start with a blank. -/
theorem head_skipBlanks {cs rest : List Char} {c : Char} (h : skipBlanks cs = c :: rest) :
    c ≠ ' ' ∧ c ≠ '\t' := by
  have hhead := List.head?_dropWhile_not (fun c => c == ' ' || c == '\t') cs
  rw [skipBlanks] at h
  rw [h] at hhead
  simpa using hhead

/-- Whether a line cannot start with the character, and no blank is before it. -/
def NoStart (c : Char) : Prop :=
  isBareChar c = false ∧ c ∉ ['"', '\'', '[', '#', '\n', '\r', ' ', '\t']

theorem lineContent_of_noStart {c : Char} (h : NoStart c) (rest : List Char) :
    lineContent (c :: rest) = none := by
  obtain ⟨hbare, hne⟩ := h
  simp only [List.mem_cons, List.not_mem_nil, or_false, not_or] at hne
  obtain ⟨hquote, hsingle, hbracket, hcomment, hfeed, hreturn, hspace, htab⟩ := hne
  have hskip : skipBlanks (c :: rest) = c :: rest := by
    rw [skipBlanks, List.dropWhile_cons, if_neg (by simp [hspace, htab])]
  have hpart : keyPart (c :: rest) = none := by
    unfold keyPart
    split
    · next heq => exact absurd (List.cons.inj heq).1 hquote
    · next heq => exact absurd (List.cons.inj heq).1 hsingle
    · simp [hbare]
  have hkey : keyParts depthLimit (c :: rest) = none := by
    rw [depthLimit, keyParts, hskip, hpart]
  unfold lineContent
  split
  · next heq => exact absurd (List.cons.inj heq).1 hbracket
  · next heq => exact absurd (List.cons.inj heq).1 hbracket
  · next heq => exact absurd heq nofun
  · next heq => exact absurd (List.cons.inj heq).1 hcomment
  · next heq => exact absurd (List.cons.inj heq).1 hfeed
  · next heq => exact absurd (List.cons.inj heq).1 hreturn
  · rw [keyValue, hkey]
    rfl

/-- A line of a `Hollow` text says nothing, or is none. -/
theorem lineContent_of_hollow {cs rest : List Char} {line : Line} (h : Hollow cs)
    (hline : lineContent (skipBlanks cs) = some (line, rest)) :
    line = .blank ∧ rest = skipBlanks cs
      ∧ (rest = [] ∨ ∃ more, rest = '\n' :: more ∨ rest = '\r' :: more) := by
  have hhollow := hollow_skipBlanks h
  have hhead := @head_skipBlanks cs
  generalize skipBlanks cs = left at hline hhollow hhead ⊢
  cases hhollow with
  | nil =>
    obtain ⟨rfl, rfl⟩ := Prod.mk.inj (Option.some.inj hline)
    exact ⟨rfl, rfl, .inl rfl⟩
  | brace more =>
    rw [lineContent_of_noStart ⟨by decide, by decide⟩] at hline
    exact absurd hline nofun
  | @blank c more hc _ =>
    by_cases hend : c = '\n' ∨ c = '\r'
    · rcases hend with rfl | rfl
      · obtain ⟨rfl, rfl⟩ := Prod.mk.inj (Option.some.inj hline)
        exact ⟨rfl, rfl, .inr ⟨more, .inl rfl⟩⟩
      · obtain ⟨rfl, rfl⟩ := Prod.mk.inj (Option.some.inj hline)
        exact ⟨rfl, rfl, .inr ⟨more, .inr rfl⟩⟩
    · obtain ⟨hspace, htab⟩ := hhead rfl
      have hstart : NoStart c := by
        refine ⟨not_isBareChar_of_isBlank hc, fun hmem => ?_⟩
        simp only [List.mem_cons, List.not_mem_nil, or_false] at hmem
        -- The other characters are no blanks.
        rcases hmem with rfl | rfl | rfl | rfl | rfl | rfl | rfl | rfl
        all_goals first | exact absurd hc (by decide) | simp at hend hspace htab
      rw [lineContent_of_noStart hstart] at hline
      exact absurd hline nofun

/-- All `lines` of a `Hollow` text are blank. -/
theorem lines_of_hollow {fuel : Nat} {read ls : List Line} {cs : List Char} (h : Hollow cs)
    (hlines : lines fuel read cs = some ls) :
    ∃ n, ls = read.reverse ++ List.replicate n .blank := by
  have oneMore : ∀ {read : List Line}, (∃ n, ls = (.blank :: read).reverse ++ List.replicate n .blank) →
      ∃ n, ls = read.reverse ++ List.replicate n .blank := fun ⟨n, hn⟩ =>
    ⟨n + 1, by rw [hn, List.reverse_cons, List.append_assoc, List.replicate_succ]; rfl⟩
  induction fuel generalizing read cs with
  | zero => exact absurd hlines nofun
  | succ fuel ih =>
    rw [lines] at hlines
    split at hlines
    · exact absurd hlines nofun
    · next line rest hline =>
      have hhollow := hollow_skipBlanks h
      obtain ⟨rfl, hrest, hshape⟩ := lineContent_of_hollow h hline
      rw [← hrest] at hhollow
      rcases hshape with rfl | ⟨more, rfl | rfl⟩
      · exact ⟨1, by rw [← Option.some.inj hlines]; simp⟩
      · cases hhollow with
        | blank _ hmore => exact oneMore (ih hmore hlines)
      · cases hhollow with
        | blank _ hmore =>
          -- A carriage return ends a line only before a line feed.
          cases hmore with
          | nil => exact absurd hlines nofun
          | brace => exact absurd hlines nofun
          | @blank c last _ hlast =>
            by_cases hc : c = '\n'
            · subst hc
              exact oneMore (ih hlast hlines)
            · have hend : lineEnd? ('\r' :: c :: last) = none := by
                unfold lineEnd?
                split
                · next heq => exact absurd (List.cons.inj heq).1 (by decide)
                · next heq => exact absurd (List.cons.inj (List.cons.inj heq).2).1 hc
                · rfl
              have hskip : skipComment ('\r' :: c :: last) = '\r' :: c :: last := rfl
              simp [hskip, hend] at hlines

theorem takePairs_replicate_blank (n : Nat) : takePairs (List.replicate n .blank) = ([], []) := by
  induction n with
  | zero => rfl
  | succ n ih => exact ih

/-- A `Hollow` text has no entries, or is no document. -/
theorem eq_nil_of_hollow {text : String} {entries : Entries} (h : Hollow text.toList)
    (hparse : parse text = some entries) : entries = [] := by
  have hmark : ∀ {rest}, text.toList ≠ '\ufeff' :: rest := fun heq => by
    rw [heq] at h
    cases h with
    | blank hc _ => exact absurd hc (by decide)
  unfold parse at hparse
  simp only at hparse
  split at hparse
  · exact absurd hparse nofun
  · next ls hlines =>
    obtain ⟨n, rfl⟩ := lines_of_hollow h hlines
    rw [List.reverse_nil, List.nil_append, takePairs_replicate_blank] at hparse
    exact (Option.some.inj hparse).symm

end Toml

/-- A `Hollow` text sets nothing, or is no configuration file. -/
theorem ConfigFile.eq_default_of_hollow {text : String} {config : Config} (h : Hollow text.toList)
    (hparse : parse text = .ok config) : config = {} := by
  unfold parse at hparse
  split at hparse
  · next found hfound =>
    obtain ⟨entries, hentries, hdocument⟩ := Option.bind_eq_some_iff.1 hfound
    rw [Toml.eq_nil_of_hollow h hentries] at hdocument
    rw [← Except.ok.inj hparse]
    exact (Option.some.inj hdocument).symm
  · exact absurd hparse nofun

end PageRisk
