import PageRisk.Proofs.Hostname.Decoration
import PageRisk.Proofs.Idna.Domain
import PageRisk.Proofs.Url.Ipv4

set_option autoImplicit false

/-! # A host and its URL

Only the host of a URL is brought to its lookup form: percent encodings are undone, characters beyond ASCII
are encoded and addresses are written out. A host by itself is taken as it stands. So both have the same key
just if there is nothing of the kind to do (`normalize_url_eq_iff`). -/

namespace PageRisk.Hostname

open Text (isBlank dropLastWhile)
open Unicode (lowercase lowercaseChar)

/-- A host as it is given by itself: not empty, and without marks and backslashes. -/
structure HostText (host : List Char) : Prop where
  ne_nil : host ≠ []
  no_mark : ∀ c ∈ host, isMark c = false ∧ c ≠ '\\'

/-- The URL of the first page of a host. -/
def rootUrl (host : List Char) : List Char :=
  ['h', 't', 't', 'p', 's'] ++ ':' :: '/' :: '/' :: (host ++ ['/'])

variable {host : List Char}

/-! ## The host in its URL -/

theorem HostText.not_mem (h : HostText host) {c : Char} (hc : isMark c = true ∨ c = '\\') : c ∉ host := by
  intro hmem
  obtain ⟨hmark, hback⟩ := h.no_mark c hmem
  rcases hc with hc | hc
  · rw [hmark] at hc
    exact Bool.noConfusion hc
  · exact hback hc

theorem HostText.clear (h : HostText host) : Url.Clear host := by
  intro c hc
  rw [← Bool.not_eq_true, Url.isDelimiter_iff]
  intro hdelimiter
  have hmark : isMark c = true := by rcases hdelimiter with rfl | rfl | rfl | rfl <;> decide
  exact h.not_mem (.inl hmark) hc

theorem HostText.isBlank_eq_false (h : HostText host) : ∀ c ∈ host, isBlank c = false := by
  intro c hc
  have hmark := (h.no_mark c hc).1
  rw [isMark, Bool.or_eq_false_iff] at hmark
  exact hmark.1

theorem isBlank_rootUrl (h : HostText host) : ∀ c ∈ rootUrl host, isBlank c = false := by
  intro c hc
  have hplace : c ∈ host ∨ c ∈ ['h', 't', 't', 'p', 's', ':', '/'] := by
    simp only [rootUrl, List.mem_append, List.mem_cons, List.not_mem_nil] at hc ⊢
    tauto
  have hparts : ∀ d ∈ ['h', 't', 't', 'p', 's', ':', '/'], isBlank d = false :=
    List.all_iff_forall_prop.1 (by decide)
  rcases hplace with hhost | hpart
  · exact h.isBlank_eq_false c hhost
  · exact hparts c hpart

theorem significant_rootUrl (h : HostText host) : Url.significant (rootUrl host) = rootUrl host := by
  have hstart : (rootUrl host).dropWhile (fun c => c.toNat ≤ 0x20) = rootUrl host :=
    List.dropWhile_cons_of_neg (by decide)
  have hend : dropLastWhile (fun c : Char => decide (c.toNat ≤ 0x20)) (rootUrl host) = rootUrl host := by
    have hlast : rootUrl host = (['h', 't', 't', 'p', 's', ':', '/', '/'] ++ host) ++ ['/'] := by
      simp [rootUrl]
    rw [hlast]
    exact Text.dropLastWhile_append_singleton (by decide) _
  rw [Url.significant, hstart, hend, List.filter_eq_self]
  intro c hc
  rw [Bool.not_eq_true', ← Bool.not_eq_true]
  simp only [Bool.or_eq_true, beq_iff_eq, or_assoc]
  rintro (rfl | rfl | rfl) <;> exact absurd (isBlank_rootUrl h _ hc) (by decide)

theorem hostInAuthority?_eq (h : HostText host) :
    Url.hostInAuthority? true (host ++ ['/']) = Url.host? host := by
  have hauthority : (host ++ ['/']).takeWhile (fun c => !Url.endsAuthority true c) = host := by
    rw [List.takeWhile_append_of_pos]
    · simp [Url.endsAuthority]
    · intro c hc
      rw [Bool.not_eq_true', ← Bool.not_eq_true]
      simp only [Url.endsAuthority, Bool.true_and, Bool.or_eq_true, beq_iff_eq, or_assoc]
      rintro (rfl | rfl | rfl | rfl) <;> exact h.not_mem (by decide) hc
  have huser : Text.cutAtLast? '@' host = none := Text.cutAtLast?_eq_none (h.not_mem (by decide))
  have hport : Url.beforePort false host = host := Url.beforePort_eq_self (h.not_mem (by decide)) false
  have hne : host.isEmpty = false := by simpa using h.ne_nil
  simp [Url.hostInAuthority?, hauthority, huser, hport, hne, Url.isPort]

theorem locateHost?_rootUrl (h : HostText host) : Url.locateHost? (rootUrl host) = Url.host? host := by
  have hscheme : Url.scheme? (rootUrl host)
      = some (['h', 't', 't', 'p', 's'], '/' :: '/' :: (host ++ ['/'])) :=
    rfl
  have hslashes : ('/' :: '/' :: (host ++ ['/'])).dropWhile (fun c => c == '/' || c == '\\')
      = host ++ ['/'] := by
    obtain ⟨c, rest, rfl⟩ := List.exists_cons_of_ne_nil h.ne_nil
    have hc : (c == '/' || c == '\\') = false := by
      rw [← Bool.not_eq_true]
      simp only [Bool.or_eq_true, beq_iff_eq]
      rintro (rfl | rfl) <;> exact h.not_mem (by decide) List.mem_cons_self
    simp [hc]
  have hkind : Url.SchemeKind.ofName ['h', 't', 't', 'p', 's'] = .special := by decide
  rw [Url.locateHost?, significant_rootUrl h, hscheme]
  dsimp only
  rw [hkind]
  dsimp only
  rw [hslashes, hostInAuthority?_eq h]

/-! ## What is made of the host of a URL -/

/-- What `Url.host?` gives: the lookup form of the host, or the address that this form is. -/
theorem exists_of_host? (h : HostText host) {found : List Char} (hfound : Url.host? host = some found) :
    ∃ text name, Url.decodedText? host = some text ∧ Idna.toAscii text = some name
      ∧ (Url.endsInNumber name = true → ∃ address, Url.ipv4Address? name = some address
          ∧ found = Url.ipv4Text address)
      ∧ (Url.endsInNumber name = false → found = name) := by
  rw [Url.host?] at hfound
  split_ifs at hfound with hbracket
  · have hcolon : ':' ∉ host.tail.dropLast := fun hmem =>
      h.not_mem (by decide) (List.mem_of_mem_tail (List.dropLast_subset _ hmem))
    rw [Url.bracketed?, Url.ipv6Address?_eq_none hcolon] at hfound
    split_ifs at hfound
    exact absurd hfound nofun
  · split at hfound
    · exact absurd hfound nofun
    · next name hname =>
      obtain ⟨text, htext, hascii⟩ := Option.bind_eq_some_iff.1 hname
      refine ⟨text, name, htext, hascii, ?_, ?_⟩
      · intro hnumber
        rw [if_pos hnumber] at hfound
        split_ifs at hfound
        obtain ⟨address, haddress, rfl⟩ := Option.map_eq_some_iff.1 hfound
        exact ⟨address, haddress, rfl⟩
      · intro hnumber
        rw [hnumber, if_neg Bool.false_ne_true] at hfound
        split_ifs at hfound
        exact (Option.some.inj hfound).symm

/-- `Url.host?` gives a host that is in ASCII and has no percent sign in lower case, or as the address that
    it is. -/
theorem exists_of_host?_of_ascii (h : HostText host) (hascii : ∀ d ∈ lowercase host, d.toNat < 128)
    (hpercent : '%' ∉ host) {found : List Char} (hfound : Url.host? host = some found) :
    (Url.endsInNumber (lowercase host) = true →
        ∃ address, Url.ipv4Address? (lowercase host) = some address ∧ found = Url.ipv4Text address)
      ∧ (Url.endsInNumber (lowercase host) = false → found = lowercase host) := by
  obtain ⟨text, name, htext, hname, hresult⟩ := exists_of_host? h hfound
  rw [Url.decodedText?, if_neg (by simpa using hpercent)] at htext
  obtain rfl := Option.some.inj htext
  rwa [Idna.toAscii_eq_lowercase hascii hname] at hresult

/-- What `Url.host?` gives is in ASCII and has no percent sign. -/
theorem host?_ascii (h : HostText host) {found : List Char} (hfound : Url.host? host = some found) :
    (∀ c ∈ found, c.toNat < 128) ∧ '%' ∉ found := by
  obtain ⟨text, name, -, hname, haddress, hwhole⟩ := exists_of_host? h hfound
  cases hnumber : Url.endsInNumber name with
  | true =>
    obtain ⟨address, -, rfl⟩ := haddress hnumber
    constructor
    · intro c hc
      rcases Url.isDigit_or_dot hc with hdigit | rfl
      · exact Unicode.ascii_of_isDigit hdigit
      · decide
    · intro hmem
      exact absurd (Url.isDigit_or_dot hmem) (by decide)
  | false =>
    rw [hwhole hnumber]
    constructor
    · intro c hc
      exact (Url.allowed_of_toAscii hname c hc).1
    · intro hmem
      exact (Url.allowed_of_toAscii hname '%' hmem).2 (by decide)

/-! ## The two keys -/

theorem normalizeChars_host (h : HostText host) :
    normalizeChars host = dropWww (lowercase (dropLastWhile (· == '.') host)) := by
  have htrim : Text.trim host = host := by
    rw [Text.trim_eq_self_iff]
    intro c hc
    exact h.isBlank_eq_false c (hc.elim List.mem_of_mem_head? List.mem_of_getLast?)
  rw [normalizeChars, htrim, hostPart_of_clear h.clear, withoutPort_of_not_mem (h.not_mem (by decide))]

theorem normalizeChars_rootUrl (h : HostText host) {found : List Char} (hfound : Url.host? host = some found) :
    normalizeChars (rootUrl host) = dropWww (lowercase (dropLastWhile (· == '.') found)) := by
  have htrim : Text.trim (rootUrl host) = rootUrl host := by
    rw [Text.trim_eq_self_iff]
    intro c hc
    have hmem : c ∈ rootUrl host := hc.elim List.mem_of_mem_head? List.mem_of_getLast?
    exact isBlank_rootUrl h c hmem
  have hscheme : Text.occursIn "://".toList (rootUrl host) = true := by
    rw [Text.occursIn_iff_isInfix]
    exact ⟨['h', 't', 't', 'p', 's'], host ++ ['/'], rfl⟩
  rw [normalizeChars, htrim, hostPart, hscheme, if_pos rfl, locateHost?_rootUrl h, hfound]

theorem dropWww_ipv4Text (address : Nat) : dropWww (Url.ipv4Text address) = Url.ipv4Text address := by
  rw [dropWww_eq_self_iff]
  intro rest hrest
  have hmem : 'w' ∈ Url.ipv4Text address := by
    rw [hrest]
    exact List.mem_append_left rest (by decide)
  exact absurd (Url.isDigit_or_dot hmem) (by decide)

/-- An address does not start with a `www.`, in whatever form it is written. -/
theorem dropWww_of_address {name : List Char} {address : Nat} (h : Url.ipv4Address? name = some address) :
    dropWww (dropLastWhile (· == '.') name) = dropLastWhile (· == '.') name := by
  rw [dropWww_eq_self_iff]
  intro rest hrest
  obtain ⟨dots, heq, -⟩ := Text.exists_dropLastWhile (· == '.') name
  rw [heq, hrest, List.append_assoc, Url.ipv4Address?_www] at h
  exact absurd h nofun

/-- `Url.ipv4Text` of an address is its own key. -/
theorem key_ipv4Text (address : Nat) :
    dropWww (lowercase (dropLastWhile (· == '.') (Url.ipv4Text address))) = Url.ipv4Text address := by
  rw [Url.dropLastWhile_ipv4Text, Unicode.lowercase_eq_self, dropWww_ipv4Text]
  intro c hc
  rcases Url.isDigit_or_dot hc with hdigit | rfl
  · exact Unicode.forall_ascii (motive := fun c => c.isDigit = true → Unicode.IsLower c) (by decide +kernel)
      (Unicode.ascii_of_isDigit hdigit) hdigit
  · decide +kernel

/-! ## When they are the same -/

/-- A host whose key is that of its URL: its lower case is in ASCII, it has no percent encoding, and if it
    ends in a number it is an address as `Url.ipv4Text` writes it, full stops at its end aside. -/
structure SameInUrl (host : List Char) : Prop where
  ascii : ∀ d ∈ lowercase host, d.toNat < 128
  no_percent : '%' ∉ host
  dotted : Url.endsInNumber (lowercase host) = true →
    ∃ address < 2 ^ 32, dropLastWhile (· == '.') (lowercase host) = Url.ipv4Text address

/-- Full stops at the end are dropped from a host or from its `lowercase` alike. -/
theorem dropLastWhile_lowercase (h : ∀ d ∈ lowercase host, d.toNat < 128) :
    dropLastWhile (· == '.') (lowercase host) = lowercase (dropLastWhile (· == '.') host) := by
  obtain ⟨dots, heq, hdots⟩ := Text.exists_dropLastWhile (· == '.') host
  have hstart : ∀ d ∈ lowercase (dropLastWhile (· == '.') host), d.toNat < 128 := by
    rw [Unicode.lowercase_ascii_iff] at h ⊢
    intro c hc
    exact h c ((Text.dropLastWhile_isPrefix _ _).subset hc)
  have hrest : dots.flatMap lowercaseChar = dots := by
    have hdot : ∀ c ∈ dots, lowercaseChar c = [c] := by
      intro c hc
      rw [beq_iff_eq.1 (hdots c hc)]
      decide
    rw [List.flatMap_congr hdot]
    simp
  have hwhole : lowercase host = lowercase (dropLastWhile (· == '.') host) ++ dots := by
    rw [Unicode.lowercase_eq_flatMap h, Unicode.lowercase_eq_flatMap hstart]
    conv_lhs => rw [heq]
    rw [List.flatMap_append, hrest]
  rw [hwhole, Text.dropLastWhile_append hdots, Text.dropLastWhile_eq_self_iff]
  intro c hc
  rw [beq_eq_false_iff_ne]
  rintro rfl
  exact absurd (Text.getLast?_dropLastWhile (Unicode.getLast?_of_lowercaseFrom (by decide) hc)) (by decide)

/-- What `dropWww` leaves or takes off is all that the host is made of. -/
theorem mem_dropWww {c : Char} (h : c ∈ host) : c ∈ "www.".toList ∨ c ∈ dropWww host := by
  unfold dropWww
  split
  · next c' rest =>
    have hwww : "www.".toList = ['w', 'w', 'w', '.'] := by decide
    rw [hwww]
    simpa [or_assoc] using h
  · exact .inr h

/-- The key of a host is in ASCII and has no percent sign only if the `lowercase` of the host is so. -/
theorem ascii_of_key (hascii : ∀ c ∈ dropWww (lowercase (dropLastWhile (· == '.') host)), c.toNat < 128)
    (hpercent : '%' ∉ dropWww (lowercase (dropLastWhile (· == '.') host))) :
    (∀ d ∈ lowercase host, d.toNat < 128) ∧ '%' ∉ host := by
  obtain ⟨dots, heq, hdots⟩ := Text.exists_dropLastWhile (· == '.') host
  have hstart : ∀ d ∈ lowercase (dropLastWhile (· == '.') host), d.toNat < 128 := by
    intro d hd
    rcases mem_dropWww hd with hwww | hkey
    · have hletters : ∀ d ∈ "www.".toList, d.toNat < 128 := List.all_iff_forall_prop.1 (by decide)
      exact hletters d hwww
    · exact hascii d hkey
  constructor
  · rw [Unicode.lowercase_ascii_iff] at hstart ⊢
    intro c hc
    rw [heq, List.mem_append] at hc
    rcases hc with hc | hc
    · exact hstart c hc
    · rw [beq_iff_eq.1 (hdots c hc)]
      exact List.all_iff_forall_prop.1 (by decide)
  · intro hmem
    rw [heq, List.mem_append] at hmem
    rcases hmem with hmem | hmem
    · have hlower : '%' ∈ lowercase (dropLastWhile (· == '.') host) := by
        rw [Unicode.lowercase_eq_flatMap hstart]
        exact List.mem_flatMap.2 ⟨'%', hmem, by decide⟩
      rcases mem_dropWww hlower with hwww | hkey
      · exact absurd hwww (by decide)
      · exact hpercent hkey
    · exact absurd (hdots '%' hmem) (by decide)

theorem normalizeChars_rootUrl_eq_iff (h : HostText host) {found : List Char}
    (hfound : Url.host? host = some found) :
    normalizeChars (rootUrl host) = normalizeChars host ↔ SameInUrl host := by
  rw [normalizeChars_rootUrl h hfound, normalizeChars_host h]
  constructor
  · intro hkeys
    obtain ⟨hfoundAscii, hfoundPercent⟩ := host?_ascii h hfound
    have hsubset : ∀ c ∈ dropWww (lowercase (dropLastWhile (· == '.') found)),
        c ∈ lowercase (dropLastWhile (· == '.') found) := fun c hc => (dropWww_suffix _).subset hc
    have hascii : ∀ c ∈ dropWww (lowercase (dropLastWhile (· == '.') found)), c.toNat < 128 := by
      intro c hc
      apply Unicode.ascii_of_mem_lowercase _ (hsubset c hc)
      intro d hd
      exact hfoundAscii d ((Text.dropLastWhile_isPrefix _ _).subset hd)
    have hpercent : '%' ∉ dropWww (lowercase (dropLastWhile (· == '.') found)) := by
      intro hmem
      have hfound' := Unicode.mem_of_mem_lowercase (by decide) (hsubset '%' hmem)
      exact hfoundPercent ((Text.dropLastWhile_isPrefix _ _).subset hfound')
    rw [hkeys] at hascii hpercent
    obtain ⟨hhostAscii, hhostPercent⟩ := ascii_of_key hascii hpercent
    refine ⟨hhostAscii, hhostPercent, ?_⟩
    intro hnumber
    obtain ⟨address, haddress, rfl⟩ := (exists_of_host?_of_ascii h hhostAscii hhostPercent hfound).1 hnumber
    rw [key_ipv4Text, ← dropLastWhile_lowercase hhostAscii, dropWww_of_address haddress] at hkeys
    refine ⟨address % 2 ^ 32, Nat.mod_lt _ (by decide), ?_⟩
    rw [Url.ipv4Text_mod, hkeys]
  · rintro ⟨hascii, hpercent, hdotted⟩
    obtain ⟨haddress, hwhole⟩ := exists_of_host?_of_ascii h hascii hpercent hfound
    rw [← dropLastWhile_lowercase hascii]
    cases hnumber : Url.endsInNumber (lowercase host) with
    | true =>
      obtain ⟨address, hlt, htext⟩ := hdotted hnumber
      obtain ⟨found', hfound', rfl⟩ := haddress hnumber
      rw [Url.ipv4Address?_eq_some hlt htext hnumber] at hfound'
      obtain rfl := Option.some.inj hfound'
      rw [key_ipv4Text, htext, dropWww_ipv4Text]
    | false =>
      rw [hwhole hnumber]
      have hlower : lowercase (dropLastWhile (· == '.') (lowercase host))
          = dropLastWhile (· == '.') (lowercase host) := by
        apply Unicode.lowercase_eq_self
        intro c hc
        exact Unicode.isLower_of_mem_lowercase ((Text.dropLastWhile_isPrefix _ _).subset hc)
      rw [hlower]

theorem toList_rootUrl (host : String) : ("https://" ++ host ++ "/").toList = rootUrl host.toList := by
  have hscheme : "https://".toList = ['h', 't', 't', 'p', 's', ':', '/', '/'] := by decide
  rw [String.toList_append, String.toList_append, hscheme, rootUrl]
  simp

/-- A host and its URL have the same key just if the host is `SameInUrl`, so that the URL standard leaves it
    as it is but for letter case: everywhere else the lookup form of the host is a key, and the host as it
    stands is another. -/
theorem normalize_url_eq_iff {host : String} (h : HostText host.toList)
    (hurl : (Url.locateHost? ("https://" ++ host ++ "/").toList).isSome = true) :
    normalize ("https://" ++ host ++ "/") = normalize host ↔ SameInUrl host.toList := by
  rw [toList_rootUrl, locateHost?_rootUrl h] at hurl
  obtain ⟨found, hfound⟩ := Option.isSome_iff_exists.1 hurl
  rw [← String.toList_inj, toList_normalize, toList_normalize, toList_rootUrl]
  exact normalizeChars_rootUrl_eq_iff h hfound

/-- `normalize_url_eq_iff` for a name in capitals, which is its own lookup form in lower case. -/
theorem normalize_url_capitals :
    HostText "WWW.Example.com.".toList
      ∧ (Url.locateHost? ("https://" ++ "WWW.Example.com." ++ "/").toList).isSome = true
      ∧ normalize ("https://" ++ "WWW.Example.com." ++ "/") = normalize "WWW.Example.com."
      ∧ normalize "WWW.Example.com." = "example.com" := by
  have htext : HostText "WWW.Example.com.".toList :=
    ⟨by decide, List.all_iff_forall_prop.1 (by decide)⟩
  have hurl : (Url.locateHost? ("https://" ++ "WWW.Example.com." ++ "/").toList).isSome = true := by
    decide +kernel
  have hsame : SameInUrl "WWW.Example.com.".toList :=
    ⟨List.all_iff_forall_prop.1 (by decide +kernel), by decide, by decide +kernel⟩
  exact ⟨htext, hurl, (normalize_url_eq_iff htext hurl).2 hsame, by decide +kernel⟩

/-- An address in short form is written out in a URL and not by itself. -/
theorem normalize_url_short_address :
    HostText "0x7f.1".toList
      ∧ (Url.locateHost? ("https://" ++ "0x7f.1" ++ "/").toList).isSome = true
      ∧ normalize ("https://" ++ "0x7f.1" ++ "/") = "127.0.0.1"
      ∧ normalize ("https://" ++ "0x7f.1" ++ "/") ≠ normalize "0x7f.1" :=
  ⟨⟨by decide, List.all_iff_forall_prop.1 (by decide)⟩, by decide +kernel, by decide +kernel,
    by decide +kernel⟩

end PageRisk.Hostname
