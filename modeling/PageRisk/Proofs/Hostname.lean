import Mathlib.Data.Finset.Max
import Mathlib.Data.List.Infix
import PageRisk.Hostname
import PageRisk.Proofs.Unicode.Lowercase
import PageRisk.Proofs.Url.Host

set_option autoImplicit false

/-! # Keys of keys

Hosts are brought to their keys again where they are keys already, and that is no idle step: it takes off
what stands at the ends of a key like white space, a port or a `www.`. A key is its own key just if it has
none of these (`normalize_normalize_eq_iff`); in any case its key is a part of it, so that keys only get
shorter (`normalize_normalize_isInfix`). -/

namespace PageRisk.Hostname

open Url (Clear isDelimiter isDelimiter_iff)

/-! ## The parts of a host -/

/-- What stands behind the scheme of a text, before a path, query or fragment. -/
def authority (cs : List Char) : List Char :=
  let afterScheme := match Text.cutAt? "://".toList cs with
    | some (_, rest) => rest
    | none => cs
  afterScheme.takeWhile fun c => !(c == '/' || c == '?' || c == '#')

/-- What stands behind the last `@`. -/
def withoutUser (cs : List Char) : List Char :=
  match Text.cutAtLast? '@' cs with
  | some (_, rest) => rest
  | none => cs

theorem withoutUser_suffix (cs : List Char) : withoutUser cs <:+ cs := by
  unfold withoutUser
  split
  · next before place hcut =>
    rw [Text.eq_of_cutAtLast? hcut]
    exact (List.suffix_cons '@' place).trans (List.suffix_append before _)
  · exact List.suffix_rfl

theorem not_mem_withoutUser (cs : List Char) : '@' ∉ withoutUser cs := by
  unfold withoutUser
  split
  · next before place hcut => exact Text.not_mem_of_cutAtLast? hcut
  · next hcut => exact Text.not_mem_of_cutAtLast?_eq_none hcut

/-- The host without a port, which is a colon with nothing but digits behind it. -/
def withoutPort (host : List Char) : List Char :=
  match Text.cutAtLast? ':' host with
  | some (name, port) => if port.all Char.isDigit then name else host
  | none => host

theorem withoutPort_isPrefix (host : List Char) : withoutPort host <+: host := by
  unfold withoutPort
  split
  · next name port hcut =>
    split_ifs
    · rw [Text.eq_of_cutAtLast? hcut]
      exact List.prefix_append _ _
    · exact List.prefix_rfl
  · exact List.prefix_rfl

theorem withoutPort_eq_self_iff (host : List Char) :
    withoutPort host = host
      ↔ ∀ name digits, host = name ++ ':' :: digits → ∃ c ∈ digits, c.isDigit = false := by
  constructor
  · rintro h name digits rfl
    by_contra hdigits
    push Not at hdigits
    have hall : digits.all Char.isDigit = true := by
      rw [List.all_eq_true]
      intro c hc
      simpa using hdigits c hc
    have hcolon : ':' ∉ digits := by
      intro hmem
      exact absurd (List.all_eq_true.1 hall ':' hmem) (by decide)
    rw [withoutPort, Text.cutAtLast?_append hcolon] at h
    simp only [hall, if_true] at h
    have hlength := congrArg List.length h
    simp at hlength
  · intro h
    unfold withoutPort
    split
    · next name port hcut =>
      obtain ⟨c, hc, hdigit⟩ := h name port (Text.eq_of_cutAtLast? hcut)
      rw [if_neg]
      intro hall
      rw [List.all_eq_true.1 hall c hc] at hdigit
      exact Bool.noConfusion hdigit
    · rfl

theorem dropWww_suffix (host : List Char) : dropWww host <:+ host := by
  unfold dropWww
  split
  · exact List.suffix_append ['w', 'w', 'w', '.'] _
  · exact List.suffix_rfl

theorem dropWww_eq_self_iff (host : List Char) :
    dropWww host = host ↔ ∀ rest, host = "www.".toList ++ rest → rest = [] := by
  have hwww : "www.".toList = ['w', 'w', 'w', '.'] := by decide
  rw [hwww]
  constructor
  · rintro h rest rfl
    cases rest with
    | nil => rfl
    | cons c rest =>
      have hlength := congrArg List.length h
      simp [dropWww] at hlength
  · intro h
    unfold dropWww
    split
    · next c rest => exact absurd (h (c :: rest) rfl) (List.cons_ne_nil _ _)
    · rfl

/-- `dropWww` does not change how a host ends. -/
theorem getLast?_dropWww (host : List Char) : (dropWww host).getLast? = host.getLast? := by
  unfold dropWww
  split <;> simp [List.getLast?_cons_cons]

/-! ## Hosts in texts -/

theorem stripManually_eq (cs : List Char) :
    stripManually cs = withoutPort (withoutUser (authority cs)) := rfl

theorem clear_stripManually (cs : List Char) : Clear (stripManually cs) := by
  rw [stripManually_eq]
  intro c hc
  have hplace : c ∈ withoutUser (authority cs) := (withoutPort_isPrefix _).subset hc
  have hend : (c == '/' || c == '?' || c == '#') = false := by
    simpa using List.mem_takeWhile_imp ((withoutUser_suffix _).subset hplace)
  rw [isDelimiter, hend, Bool.false_or, beq_eq_false_iff_ne]
  rintro rfl
  exact not_mem_withoutUser _ hplace

theorem clear_hostPart (cs : List Char) : Clear (hostPart cs) := by
  unfold hostPart
  split
  · next host hlocate =>
    split_ifs at hlocate
    exact Url.clear_of_locateHost? hlocate
  · exact clear_stripManually cs

theorem clear_iff {cs : List Char} : Clear cs ↔ ∀ c ∈ ['/', '?', '#', '@'], c ∉ cs := by
  have hdelimiter : ∀ c, c ∈ ['/', '?', '#', '@'] ↔ isDelimiter c = true := by
    intro c
    rw [isDelimiter_iff]
    simp
  simp only [hdelimiter]
  constructor
  · intro h c hc hmem
    rw [h c hmem] at hc
    exact Bool.noConfusion hc
  · intro h c hmem
    rw [← Bool.not_eq_true]
    intro hc
    exact h c hc hmem

/-- A text in which nothing sets off a path is its own `authority`. -/
theorem authority_eq_self {cs : List Char} (h : ∀ c ∈ ['/', '?', '#'], c ∉ cs) : authority cs = cs := by
  rw [authority, Text.cutAt?_eq_none (by decide) (h '/' (by decide)), List.takeWhile_eq_self_iff]
  intro c hc
  have hnot : c ∉ ['/', '?', '#'] := fun hmem => h c hmem hc
  simpa [and_assoc] using hnot

/-- A text that is `Clear` of delimiters is no URL, and `hostPart` takes all of it for the host. -/
theorem hostPart_of_clear {cs : List Char} (h : Clear cs) : hostPart cs = withoutPort cs := by
  obtain ⟨hslash, hquery, hfragment, hat⟩ : '/' ∉ cs ∧ '?' ∉ cs ∧ '#' ∉ cs ∧ '@' ∉ cs := by
    simpa using clear_iff.1 h
  have hoccurs : Text.occursIn "://".toList cs = false := Text.occursIn_eq_false (by decide) hslash
  have hwhole : authority cs = cs := authority_eq_self (by simp [hslash, hquery, hfragment])
  have huser : withoutUser cs = cs := by
    rw [withoutUser, Text.cutAtLast?_eq_none hat]
  rw [hostPart, hoccurs, if_neg Bool.false_ne_true, stripManually_eq, hwhole, huser]

/-! ## Keys -/

/-- What all keys have in common: they are `Clear` of delimiters, in lower case, and do not end with a full
    stop. -/
structure KeyLike (cs : List Char) : Prop where
  clear : Clear cs
  lower : ∀ c ∈ cs, Unicode.IsLower c
  end_ne : cs.getLast? ≠ some '.'

theorem keyLike_normalizeChars (cs : List Char) : KeyLike (normalizeChars cs) where
  clear := by
    intro c hc
    rw [← Bool.not_eq_true]
    intro hdelimiter
    have hpoint : c.toNat ≤ 0x40 := by
      rcases isDelimiter_iff.1 hdelimiter with rfl | rfl | rfl | rfl <;> decide
    -- A delimiter would have come through all the way from the host.
    have hlower := Unicode.mem_of_mem_lowercase hpoint ((dropWww_suffix _).subset hc)
    have hhost := (Text.dropLastWhile_isPrefix _ _).subset hlower
    rw [clear_hostPart _ c hhost] at hdelimiter
    exact Bool.noConfusion hdelimiter
  lower := by
    intro c hc
    exact Unicode.isLower_of_mem_lowercase ((dropWww_suffix _).subset hc)
  end_ne := by
    intro hend
    rw [normalizeChars, getLast?_dropWww] at hend
    have hhost := Unicode.getLast?_of_lowercaseFrom (by decide) hend
    exact absurd (Text.getLast?_dropLastWhile hhost) (by decide)

theorem KeyLike.of_isInfix {cs ds : List Char} (h : KeyLike cs) (hpart : ds <:+: cs) :
    Clear ds ∧ ∀ c ∈ ds, Unicode.IsLower c :=
  ⟨fun c hc => h.clear c (hpart.subset hc), fun c hc => h.lower c (hpart.subset hc)⟩

/-- What `normalizeChars` does to a key: it is trimmed, and a port, full stops and a `www.` are taken
    off. -/
theorem KeyLike.normalizeChars_eq {cs : List Char} (h : KeyLike cs) :
    normalizeChars cs
      = dropWww (Text.dropLastWhile (· == '.') (withoutPort (Text.trim cs))) := by
  have htrim := Text.trim_isInfix cs
  have hpart : Text.dropLastWhile (· == '.') (withoutPort (Text.trim cs)) <:+: cs :=
    ((Text.dropLastWhile_isPrefix _ _).isInfix.trans (withoutPort_isPrefix _).isInfix).trans htrim
  rw [normalizeChars, hostPart_of_clear (h.of_isInfix htrim).1,
    Unicode.lowercase_eq_self (h.of_isInfix hpart).2]

theorem KeyLike.normalizeChars_isInfix {cs : List Char} (h : KeyLike cs) : normalizeChars cs <:+: cs := by
  rw [h.normalizeChars_eq]
  exact (((dropWww_suffix _).isInfix.trans (Text.dropLastWhile_isPrefix _ _).isInfix).trans
    (withoutPort_isPrefix _).isInfix).trans (Text.trim_isInfix cs)

/-- Whether there is nothing at the ends of a text that is taken off a host: no white space, no port and no
    `www.` before anything else. -/
structure Bare (cs : List Char) : Prop where
  not_blank : ∀ c, cs.head? = some c ∨ cs.getLast? = some c → Text.isBlank c = false
  no_port : ∀ name digits, cs = name ++ ':' :: digits → ∃ c ∈ digits, c.isDigit = false
  no_www : ∀ rest, cs = "www.".toList ++ rest → rest = []

/-- A key is its own key just if it is `Bare`. -/
theorem KeyLike.normalizeChars_eq_self_iff {cs : List Char} (h : KeyLike cs) :
    normalizeChars cs = cs ↔ Bare cs := by
  have hend : Text.dropLastWhile (· == '.') cs = cs := by
    rw [Text.dropLastWhile_eq_self_iff]
    intro c hc
    rw [beq_eq_false_iff_ne]
    rintro rfl
    exact h.end_ne hc
  constructor
  · intro heq
    rw [h.normalizeChars_eq] at heq
    -- What is left at the end is the whole text, so it is inside what each step leaves.
    have htrimmed : Text.trim cs = cs := by
      have hinside : dropWww (Text.dropLastWhile (· == '.') (withoutPort (Text.trim cs))) <:+: Text.trim cs :=
        ((dropWww_suffix _).isInfix.trans (Text.dropLastWhile_isPrefix _ _).isInfix).trans
          (withoutPort_isPrefix _).isInfix
      rw [heq] at hinside
      exact antisymm (Text.trim_isInfix cs) hinside
    rw [htrimmed] at heq
    have hportless : withoutPort cs = cs := by
      have hinside : dropWww (Text.dropLastWhile (· == '.') (withoutPort cs)) <:+: withoutPort cs :=
        (dropWww_suffix _).isInfix.trans (Text.dropLastWhile_isPrefix _ _).isInfix
      rw [heq] at hinside
      exact antisymm (withoutPort_isPrefix cs).isInfix hinside
    rw [hportless, hend] at heq
    exact ⟨(Text.trim_eq_self_iff cs).1 htrimmed, (withoutPort_eq_self_iff cs).1 hportless,
      (dropWww_eq_self_iff cs).1 heq⟩
  · rintro ⟨hblank, hport, hwww⟩
    rw [h.normalizeChars_eq, (Text.trim_eq_self_iff cs).2 hblank, (withoutPort_eq_self_iff cs).2 hport,
      hend, (dropWww_eq_self_iff cs).2 hwww]

/-! ## Keys as texts -/

theorem toList_normalize (text : String) : (normalize text).toList = normalizeChars text.toList :=
  String.toList_ofList

theorem keyLike_normalize (text : String) : KeyLike (normalize text).toList := by
  rw [toList_normalize]
  exact keyLike_normalizeChars text.toList

/-- The key of a key is a part of it. -/
theorem normalize_normalize_isInfix (text : String) :
    (normalize (normalize text)).toList <:+: (normalize text).toList := by
  rw [toList_normalize (normalize text)]
  exact (keyLike_normalize text).normalizeChars_isInfix

/-- A key is its own key or longer than it. -/
theorem length_normalize_lt {text : String} (h : normalize (normalize text) ≠ normalize text) :
    (normalize (normalize text)).toList.length < (normalize text).toList.length := by
  have hpart := normalize_normalize_isInfix text
  refine Nat.lt_of_le_of_ne hpart.length_le ?_
  intro hlength
  exact h (String.toList_inj.1 (hpart.eq_of_length hlength))

/-- Where every one of some keys is the key of one of them, each is its own key: else the longest that is
    not could only be the key of a longer one. -/
theorem normalize_eq_self_of_onto {names : List String}
    (honto : ∀ name ∈ names, ∃ other ∈ names, normalize other = name) :
    ∀ name ∈ names, normalize name = name := by
  by_contra hsome
  push Not at hsome
  obtain ⟨name, hmem, hne⟩ := hsome
  let moved := names.toFinset.filter fun name => normalize name ≠ name
  have hmoved : moved.Nonempty := ⟨name, by simp [moved, hmem, hne]⟩
  obtain ⟨longest, hlongest, hmax⟩ := moved.exists_max_image (fun name => name.toList.length) hmoved
  obtain ⟨hmemLongest, hneLongest⟩ : longest ∈ names ∧ normalize longest ≠ longest := by
    simpa [moved] using hlongest
  obtain ⟨other, hother, hkey⟩ := honto longest hmemLongest
  have hneOther : normalize other ≠ other := by
    intro heq
    rw [← hkey, heq] at hneLongest
    exact hneLongest heq
  have hle : other.toList.length ≤ longest.toList.length := hmax other (by simp [moved, hother, hneOther])
  obtain ⟨source, -, hsource⟩ := honto other hother
  have hlt : (normalize other).toList.length < other.toList.length := by
    rw [← hsource] at hneOther ⊢
    exact length_normalize_lt hneOther
  rw [hkey] at hlt
  omega

/-- A key is its own key just if it is `Bare`: there is no white space, no port and no `www.` at its ends.
    Otherwise its key is a shorter part of it. -/
theorem normalize_normalize_eq_iff (text : String) :
    (normalize (normalize text) = normalize text ↔ Bare (normalize text).toList)
      ∧ (normalize (normalize text)).toList <:+: (normalize text).toList := by
  refine ⟨?_, normalize_normalize_isInfix text⟩
  rw [← String.toList_inj, toList_normalize (normalize text)]
  exact (keyLike_normalize text).normalizeChars_eq_self_iff

/-- One `www.` is taken off at a time, so the key of a host with two of them is not its own key. -/
theorem normalize_www_www :
    normalize "www.www.example.com" = "www.example.com"
      ∧ normalize (normalize "www.www.example.com") ≠ normalize "www.www.example.com" := by
  decide +kernel

end PageRisk.Hostname
