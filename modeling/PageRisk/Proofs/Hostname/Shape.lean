import PageRisk.Proofs.Hostname.Decoration

set_option autoImplicit false

/-! # The shape of keys

A text is the key of something just if it has no delimiters, does not end with a full stop and is its own
lower case (`exists_normalize_eq_iff`). The key of such a text is found without looking for a URL in it, and
is the text itself just if no white space, no port and no `www.` stands at its ends (`normalize_shape`). -/

namespace PageRisk.Hostname

open Url (Clear isDelimiter isDelimiter_iff)

/-! ## What keys look like -/

theorem keyLike_iff {cs : List Char} :
    KeyLike cs
      ↔ (∀ c ∈ ['/', '?', '#', '@'], c ∉ cs) ∧ cs.getLast? ≠ some '.' ∧ Unicode.lowercase cs = cs := by
  rw [← clear_iff]
  constructor
  · rintro ⟨hclear, hlower, hend⟩
    exact ⟨hclear, hend, Unicode.lowercase_eq_self hlower⟩
  · rintro ⟨hclear, hend, hlower⟩
    refine ⟨hclear, ?_, hend⟩
    intro c hc
    rw [← hlower] at hc
    exact Unicode.isLower_of_mem_lowercase hc

/-- Nothing in a text that is `Clear` is taken for a URL, whether it is trimmed or not. -/
theorem occursIn_trim_of_clear {cs : List Char} (h : Clear cs) :
    Text.occursIn "://".toList (Text.trim cs) = false := by
  apply Text.occursIn_eq_false (c := '/') (by decide)
  intro hmem
  exact clear_iff.1 h '/' (by decide) ((Text.trim_isInfix cs).subset hmem)

/-- `Bare` with the port told by the last colon. -/
theorem bare_iff {cs : List Char} :
    Bare cs
      ↔ (∀ c, cs.head? = some c ∨ cs.getLast? = some c → Text.isBlank c = false)
        ∧ (∀ name port, cs = name ++ ':' :: port → ':' ∉ port → ∃ c ∈ port, c.isDigit = false)
        ∧ ∀ c rest, cs ≠ "www.".toList ++ c :: rest := by
  constructor
  · rintro ⟨hblank, hport, hwww⟩
    refine ⟨hblank, ?_, ?_⟩
    · intro name port heq _
      exact hport name port heq
    · intro c rest heq
      exact List.cons_ne_nil c rest (hwww _ heq)
  · rintro ⟨hblank, hport, hwww⟩
    refine ⟨hblank, ?_, ?_⟩
    · intro name port heq
      by_cases hcolon : ':' ∈ port
      · exact ⟨':', hcolon, by decide⟩
      · exact hport name port heq hcolon
    · intro rest heq
      cases rest with
      | nil => rfl
      | cons c rest => exact absurd heq (hwww c rest)

/-! ## What every such text is the key of -/

/-- A text with an `@` at its start and `Clear` behind it is a host behind empty user information. -/
theorem hostPart_at {cs : List Char} (h : Clear cs) : hostPart ('@' :: cs) = withoutPort cs := by
  have hdelimiters := clear_iff.1 h
  have hslash : '/' ∉ '@' :: cs := by
    simpa using hdelimiters '/' (by decide)
  have hoccurs : Text.occursIn "://".toList ('@' :: cs) = false :=
    Text.occursIn_eq_false (by decide) hslash
  have hwhole : authority ('@' :: cs) = '@' :: cs := by
    apply authority_eq_self
    have hends : ∀ c ∈ ['/', '?', '#'], c ∈ ['/', '?', '#', '@'] ∧ c ≠ '@' :=
      List.all_iff_forall_prop.1 (by decide)
    intro c hc hmem
    exact hdelimiters c (hends c hc).1 (List.mem_of_ne_of_mem (hends c hc).2 hmem)
  rw [hostPart, hoccurs, if_neg Bool.false_ne_true, stripManually_eq, hwhole]
  exact congrArg withoutPort (withoutUser_append [] (hdelimiters '@' (by decide)))

/-- A text with a mark at each end is left as it is by trimming. -/
theorem trim_at_colon (cs : List Char) : Text.trim ('@' :: (cs ++ [':'])) = '@' :: (cs ++ [':']) := by
  rw [Text.trim_eq_self_iff, ← List.cons_append, List.getLast?_concat]
  rintro c (hc | hc)
  · obtain rfl := Option.some.inj hc
    decide
  · obtain rfl := Option.some.inj hc
    decide

/-- Every text that is `KeyLike` is a key: of itself behind an `@` and a `www.` and before a colon, which
    keep all that is at its ends from being taken off. -/
theorem KeyLike.exists_normalizeChars_eq {cs : List Char} (h : KeyLike cs) :
    ∃ text, normalizeChars text = cs := by
  have hwww : "www.".toList = ['w', 'w', 'w', '.'] := by decide
  rcases cs with - | ⟨c, rest⟩
  · exact ⟨[], rfl⟩
  · refine ⟨'@' :: (("www.".toList ++ c :: rest) ++ [':']), ?_⟩
    have hclear : Clear (("www.".toList ++ c :: rest) ++ [':']) := by
      have hmarks : ∀ c ∈ "www.".toList ++ [':'], isDelimiter c = false :=
        List.all_iff_forall_prop.1 (by decide)
      intro e he
      rw [List.append_assoc, List.mem_append, List.mem_append] at he
      rcases he with he | he | he
      · exact hmarks e (List.mem_append_left _ he)
      · exact h.clear e he
      · exact hmarks e (List.mem_append_right _ he)
    have hlower : ∀ e ∈ "www.".toList ++ c :: rest, Unicode.IsLower e := by
      have hletters : ∀ e ∈ "www.".toList, Unicode.IsLower e := List.all_iff_forall_prop.1 (by decide)
      intro e he
      rcases List.mem_append.1 he with he | he
      · exact hletters e he
      · exact h.lower e he
    have hend : Text.dropLastWhile (· == '.') ("www.".toList ++ c :: rest) = "www.".toList ++ c :: rest := by
      rw [Text.dropLastWhile_eq_self_iff, List.getLast?_append_of_ne_nil _ (List.cons_ne_nil c rest)]
      intro e he
      rw [beq_eq_false_iff_ne]
      rintro rfl
      exact h.end_ne he
    have hport : withoutPort (("www.".toList ++ c :: rest) ++ [':']) = "www.".toList ++ c :: rest :=
      withoutPort_append (List.forall_mem_nil _)
    rw [normalizeChars, trim_at_colon, hostPart_at hclear, hport, hend, Unicode.lowercase_eq_self hlower,
      hwww]
    rfl

theorem exists_normalize_eq_iff (key : String) :
    (∃ text, normalize text = key) ↔ KeyLike key.toList := by
  constructor
  · rintro ⟨text, rfl⟩
    exact keyLike_normalize text
  · intro h
    obtain ⟨text, htext⟩ := h.exists_normalizeChars_eq
    refine ⟨String.ofList text, ?_⟩
    rw [← String.toList_inj, toList_normalize, String.toList_ofList, htext]

/-! ## Keys of keys -/

/-- Keys are just the texts without delimiters that do not end with a full stop and are their own
    `Unicode.lowercase`. None of them is taken for a URL again, and one is its own key just if it neither
    starts nor ends with white space, has more than digits behind its last colon, and does not start with a
    `www.` before anything else. -/
theorem normalize_shape :
    (∀ key : String, (∃ text, normalize text = key)
        ↔ (∀ c ∈ ['/', '?', '#', '@'], c ∉ key.toList)
          ∧ key.toList.getLast? ≠ some '.'
          ∧ Unicode.lowercase key.toList = key.toList)
      ∧ ∀ text : String,
        Text.occursIn "://".toList (Text.trim (normalize text).toList) = false
          ∧ (normalize (normalize text) = normalize text
            ↔ (∀ c, (normalize text).toList.head? = some c ∨ (normalize text).toList.getLast? = some c →
                Text.isBlank c = false)
              ∧ (∀ name port, (normalize text).toList = name ++ ':' :: port → ':' ∉ port →
                  ∃ c ∈ port, c.isDigit = false)
              ∧ ∀ c rest, (normalize text).toList ≠ "www.".toList ++ c :: rest) := by
  constructor
  · intro key
    rw [exists_normalize_eq_iff, keyLike_iff]
  · intro text
    have hkey := keyLike_normalize text
    refine ⟨occursIn_trim_of_clear hkey.clear, ?_⟩
    rw [← String.toList_inj, toList_normalize (normalize text), hkey.normalizeChars_eq_self_iff, bare_iff]

end PageRisk.Hostname
