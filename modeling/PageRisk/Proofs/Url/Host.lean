import PageRisk.Proofs.Json.Scalar
import PageRisk.Proofs.Text
import PageRisk.Url.Locate

set_option autoImplicit false

/-! # What hosts are made of

The host of a URL has none of the characters that separate it from the rest (`clear_of_locateHost?`),
whatever kind of host it is: they are refused in names and in opaque hosts, also behind a percent encoding,
and no address is written with them. A text without colons has no port and is no IPv6 address. -/

namespace PageRisk.Url

/-- The characters that end the host in a URL or what stands before it. -/
def isDelimiter (c : Char) : Bool :=
  c == '/' || c == '?' || c == '#' || c == '@'

theorem isDelimiter_iff {c : Char} : isDelimiter c = true ↔ c = '/' ∨ c = '?' ∨ c = '#' ∨ c = '@' := by
  simp only [isDelimiter, Bool.or_eq_true, beq_iff_eq, or_assoc]

/-- A character is no `isDelimiter` if it has no property that all delimiters have. -/
theorem isDelimiter_eq_false (p : Char → Bool)
    (hall : p '/' = true ∧ p '?' = true ∧ p '#' = true ∧ p '@' = true) {c : Char} (h : ¬ p c = true) :
    isDelimiter c = false := by
  obtain ⟨hslash, hquestion, hhash, hat⟩ := hall
  rw [← Bool.not_eq_true, isDelimiter_iff]
  rintro (rfl | rfl | rfl | rfl)
  · exact h hslash
  · exact h hquestion
  · exact h hhash
  · exact h hat

/-- Whether a text has no `isDelimiter` in it. -/
def Clear (cs : List Char) : Prop :=
  ∀ c ∈ cs, isDelimiter c = false

/-! ## Addresses -/

theorem clear_of_isDigit {cs : List Char} (h : ∀ c ∈ cs, c.isDigit = true) : Clear cs := by
  intro c hc
  apply isDelimiter_eq_false (fun d => !d.isDigit) (by decide)
  simp [h c hc]

theorem clear_ipv4Text (address : Nat) : Clear (ipv4Text address) := by
  intro c hc
  rcases Text.mem_intercalate hc with hpoint | ⟨part, hpart, hmem⟩
  · obtain rfl := List.mem_singleton.1 hpoint
    rfl
  · obtain ⟨unit, -, rfl⟩ := List.mem_map.1 hpart
    exact clear_of_isDigit (fun d hd => Json.isDigit_of_mem_natText hd) c hmem

theorem exists_of_mem_toDigitsCore {base : Nat} (hbase : 0 < base) {fuel n : Nat} {digits : List Char}
    {c : Char} (h : c ∈ Nat.toDigitsCore base fuel n digits) :
    c ∈ digits ∨ ∃ d < base, c = Nat.digitChar d := by
  induction fuel generalizing n digits with
  | zero => exact .inl h
  | succ fuel ih =>
    have hdigit : n % base < base := Nat.mod_lt _ hbase
    have hcons : c ∈ Nat.digitChar (n % base) :: digits → c ∈ digits ∨ ∃ d < base, c = Nat.digitChar d := by
      intro hmem
      rcases List.mem_cons.1 hmem with rfl | hmem
      · exact .inr ⟨_, hdigit, rfl⟩
      · exact .inl hmem
    rw [Nat.toDigitsCore] at h
    split_ifs at h
    · exact hcons h
    · rcases ih h with hmem | hmem
      · exact hcons hmem
      · exact .inr hmem

theorem digitChar_not_isDelimiter : ∀ d < 16, isDelimiter (Nat.digitChar d) = false
    ∧ isDelimiter (Nat.digitChar d).toUpper = false := by
  decide

theorem clear_piecesText (pieces : List Nat) : Clear (piecesText pieces) := by
  intro c hc
  rcases Text.mem_intercalate hc with hcolon | ⟨part, hpart, hmem⟩
  · obtain rfl := List.mem_singleton.1 hcolon
    rfl
  · obtain ⟨piece, -, rfl⟩ := List.mem_map.1 hpart
    rcases exists_of_mem_toDigitsCore (by decide) hmem with hnone | ⟨d, hd, rfl⟩
    · exact absurd hnone List.not_mem_nil
    · exact (digitChar_not_isDelimiter d hd).1

theorem clear_ipv6Text (pieces : List Nat) : Clear (ipv6Text pieces) := by
  intro c hc
  unfold ipv6Text at hc
  simp only [List.mem_cons, List.mem_append, List.not_mem_nil, or_false] at hc
  rcases hc with rfl | hbody | rfl
  · rfl
  · split_ifs at hbody
    · exact clear_piecesText _ c hbody
    · simp only [List.mem_append, List.mem_cons] at hbody
      rcases hbody with hbefore | rfl | rfl | hafter
      · exact clear_piecesText _ c hbefore
      · rfl
      · rfl
      · exact clear_piecesText _ c hafter
  · rfl

theorem clear_of_bracketed? {cs host : List Char} (h : bracketed? cs = some host) : Clear host := by
  unfold bracketed? at h
  split_ifs at h
  obtain ⟨pieces, -, rfl⟩ := Option.map_eq_some_iff.1 h
  exact clear_ipv6Text pieces

/-! ## Names and opaque hosts -/

/-- What `Idna.toAscii` gives is in ASCII, and no character of it is forbidden. -/
theorem allowed_of_toAscii {name host : List Char} (h : Idna.toAscii name = some host) :
    ∀ c ∈ host, c.toNat < 128 ∧ ¬ Idna.isForbidden c = true := by
  unfold Idna.toAscii at h
  dsimp only at h
  split at h
  · exact absurd h nofun
  · next result _ =>
    split_ifs at h with hallowed
    obtain rfl := Option.some.inj h
    simp only [Bool.and_eq_true, Bool.not_eq_true', List.any_eq_false, Idna.isAscii, List.all_eq_true,
      decide_eq_true_eq] at hallowed
    intro c hc
    exact ⟨hallowed.1 c hc, hallowed.2 c hc⟩

theorem clear_of_toAscii {name host : List Char} (h : Idna.toAscii name = some host) : Clear host := by
  intro c hc
  exact isDelimiter_eq_false Idna.isForbidden (by decide) (allowed_of_toAscii h c hc).2

theorem clear_of_host? {cs host : List Char} (h : host? cs = some host) : Clear host := by
  unfold host? at h
  split_ifs at h
  · exact clear_of_bracketed? h
  · split at h
    · exact absurd h nofun
    · next name hname =>
      obtain ⟨text, -, hascii⟩ := Option.bind_eq_some_iff.1 hname
      split_ifs at h
      · obtain ⟨address, -, rfl⟩ := Option.map_eq_some_iff.1 h
        exact clear_ipv4Text address
      · obtain rfl := Option.some.inj h
        exact clear_of_toAscii hascii

theorem clear_percentByte (b : UInt8) : Clear (percentByte b) := by
  intro c hc
  have hb : b.toNat < 256 := b.toNat_lt
  simp only [percentByte, List.mem_cons, List.not_mem_nil, or_false] at hc
  rcases hc with rfl | rfl | rfl
  · rfl
  · exact (digitChar_not_isDelimiter _ (by omega)).2
  · exact (digitChar_not_isDelimiter _ (by omega)).2

theorem clear_of_opaqueHost? {cs host : List Char} (h : opaqueHost? cs = some host) : Clear host := by
  unfold opaqueHost? at h
  split_ifs at h with hbracket hforbidden
  · exact clear_of_bracketed? h
  · obtain rfl := Option.some.inj h
    rw [Bool.or_eq_true, not_or, Bool.not_eq_true, Bool.not_eq_true, List.any_eq_false] at hforbidden
    intro c hc
    obtain ⟨d, hd, hmem⟩ := List.mem_flatMap.1 hc
    split_ifs at hmem
    · obtain rfl := List.mem_singleton.1 hmem
      exact isDelimiter_eq_false isForbiddenInOpaque (by decide) (hforbidden.2 c hd)
    · obtain ⟨b, -, hbyte⟩ := List.mem_flatMap.1 hmem
      exact clear_percentByte b c hbyte

/-! ## URLs -/

theorem clear_of_hostInAuthority? {special : Bool} {cs host : List Char}
    (h : hostInAuthority? special cs = some host) : Clear host := by
  unfold hostInAuthority? at h
  dsimp only at h
  split_ifs at h
  · exact clear_of_host? h
  · exact clear_of_opaqueHost? h

theorem clear_of_fileHost? {cs host : List Char} (h : fileHost? cs = some host) : Clear host := by
  unfold fileHost? at h
  dsimp only at h
  split at h
  · exact absurd h nofun
  · split at h
    · exact absurd h nofun
    · next found hfound =>
      split_ifs at h
      obtain rfl := Option.some.inj h
      exact clear_of_host? hfound

/-- The host that `locateHost?` finds in a URL is `Clear` of delimiters. -/
theorem clear_of_locateHost? {text host : List Char} (h : locateHost? text = some host) : Clear host := by
  unfold locateHost? at h
  split at h
  · exact absurd h nofun
  · dsimp only at h
    split at h
    · exact clear_of_hostInAuthority? h
    · exact clear_of_hostInAuthority? h
    · exact absurd h nofun
    · split_ifs at h
      exact clear_of_fileHost? h
    · exact absurd h nofun

/-! ## Texts without colons -/

/-- `beforePort` takes nothing off where there is no colon. -/
theorem beforePort_eq_self {cs : List Char} (h : ':' ∉ cs) (inBrackets : Bool) :
    beforePort inBrackets cs = cs := by
  induction cs generalizing inBrackets with
  | nil => rfl
  | cons c cs ih =>
    rw [List.mem_cons, not_or] at h
    rw [beforePort, if_neg (by simp [Ne.symm h.1]), ih h.2]

/-- Without colons `ipv6Pieces` reads no more than two pieces, those of an IPv4 address. -/
theorem ipv6Pieces_of_not_mem {fuel : Nat} {cs : List Char} (h : ':' ∉ cs) {reading : Ipv6Reading}
    (hread : ipv6Pieces fuel ⟨[], none⟩ cs = some reading) :
    reading.gap = none ∧ reading.pieces.length ≤ 2 := by
  rcases cs with - | ⟨c, cs⟩
  · cases fuel <;> (obtain rfl := Option.some.inj hread; simp)
  · cases fuel with
    | zero => exact absurd hread nofun
    | succ fuel =>
      have hc : (c == ':') = false := by
        rw [beq_eq_false_iff_ne]
        rintro rfl
        exact h List.mem_cons_self
      rw [ipv6Pieces] at hread
      simp only [List.length_nil, hc, Bool.false_eq_true, if_false] at hread
      rw [if_neg (by decide)] at hread
      split at hread
      · obtain rfl := Option.some.inj hread
        simp
      · rw [ite_eq_iff] at hread
        obtain ⟨-, hnone⟩ | ⟨-, hread⟩ := hread
        · exact absurd hnone nofun
        · obtain ⟨embedded, -, rfl⟩ := Option.map_eq_some_iff.1 hread
          simp
      · exact absurd hread nofun
      · next rest _ hdrop =>
        have hmem : ':' ∈ c :: cs := by
          apply List.mem_of_mem_drop
          rw [hdrop]
          exact List.mem_cons_self
        exact absurd hmem h
      · exact absurd hread nofun

/-- `ipv6Address?` finds no address without colons, as eight pieces are not reached. -/
theorem ipv6Address?_eq_none {cs : List Char} (h : ':' ∉ cs) : ipv6Address? cs = none := by
  have hnone : ∀ fuel reading, ipv6Pieces fuel ⟨[], none⟩ cs = some reading →
      reading.gap = none ∧ (reading.pieces.reverse.length == 8) = false := by
    intro fuel reading hread
    obtain ⟨hgap, hlength⟩ := ipv6Pieces_of_not_mem h hread
    refine ⟨hgap, ?_⟩
    rw [beq_eq_false_iff_ne, List.length_reverse]
    omega
  have hfirst : ∀ rest, cs ≠ ':' :: rest := by
    rintro rest rfl
    exact h List.mem_cons_self
  unfold ipv6Address?
  dsimp only
  split
  · rfl
  · next pieces gap hreading =>
    have hread : ipv6Pieces cs.length ⟨[], none⟩ cs = some ⟨pieces, gap⟩ := by
      split at hreading
      · exact absurd rfl (hfirst _)
      · exact absurd hreading nofun
      · exact absurd hreading nofun
      · exact absurd hreading nofun
      · exact hreading
    obtain ⟨hgap, hlength⟩ := hnone _ _ hread
    dsimp only at hgap hlength
    rw [hgap]
    dsimp only
    rw [hlength, if_neg Bool.false_ne_true]

end PageRisk.Url
