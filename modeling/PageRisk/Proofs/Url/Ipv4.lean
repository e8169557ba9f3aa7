import Mathlib.Algebra.Group.Nat.Defs
import PageRisk.Proofs.Json.Scalar
import PageRisk.Proofs.Text.Words
import PageRisk.Url.Ipv4

set_option autoImplicit false

/-! # Addresses that are read back

The text of an address stands for that address, also with a full stop behind it (`ipv4Address?_eq_some`). -/

namespace PageRisk.Url

/-- The four numbers of an address. -/
def octets (address : Nat) : List Nat :=
  [address / 16777216 % 256, address / 65536 % 256, address / 256 % 256, address % 256]

theorem octet_lt {address n : Nat} (h : n ∈ octets address) : n < 256 := by
  simp only [octets, List.mem_cons, List.not_mem_nil, or_false] at h
  omega

theorem ipv4Text_eq (address : Nat) :
    ipv4Text address = List.intercalate ['.'] ((octets address).map Decimal.natText) := by
  simp [ipv4Text, octets]

/-- `ipv4Text` writes the last 32 bits only. -/
theorem ipv4Text_mod (address : Nat) : ipv4Text (address % 2 ^ 32) = ipv4Text address := by
  have hoctets : octets (address % 2 ^ 32) = octets address := by
    simp only [octets, List.cons.injEq, and_true]
    omega
  rw [ipv4Text_eq, hoctets, ipv4Text_eq]

theorem pieces_ipv4Text (address : Nat) :
    Text.pieces (· == '.') (ipv4Text address) = (octets address).map Decimal.natText := by
  rw [ipv4Text_eq]
  apply Text.pieces_intercalate (by simp [octets])
  intro part hpart c hc
  obtain ⟨n, -, rfl⟩ := List.mem_map.1 hpart
  rw [beq_eq_false_iff_ne]
  rintro rfl
  exact absurd (Json.isDigit_of_mem_natText hc) (by decide)

theorem isDigit_or_dot {address : Nat} {c : Char} (h : c ∈ ipv4Text address) : c.isDigit = true ∨ c = '.' := by
  rcases Text.mem_intercalate h with hdot | ⟨part, hpart, hmem⟩
  · exact .inr (List.mem_singleton.1 hdot)
  · obtain ⟨unit, -, rfl⟩ := List.mem_map.1 hpart
    exact .inl (Json.isDigit_of_mem_natText hmem)

theorem ipv4Number?_natText : ∀ n < 256, ipv4Number? (Decimal.natText n) = some n := by
  decide +kernel

theorem mapM_ipv4Number? {numbers : List Nat} (h : ∀ n ∈ numbers, n < 256) :
    (numbers.map Decimal.natText).mapM ipv4Number? = some numbers := by
  induction numbers with
  | nil => rfl
  | cons n numbers ih =>
    obtain ⟨hn, hnumbers⟩ := List.forall_mem_cons.1 h
    rw [List.map_cons, List.mapM_cons, ipv4Number?_natText n hn, ih hnumbers]
    rfl

theorem ipv4OfNumbers?_octets {address : Nat} (h : address < 2 ^ 32) :
    ipv4OfNumbers? (octets address) = some address := by
  simp [ipv4OfNumbers?, octets]
  omega

/-! ## Labels -/

theorem pieces_append_dot (name : List Char) :
    Text.pieces (· == '.') (name ++ ['.']) = Text.pieces (· == '.') name ++ [[]] :=
  Text.pieces_append_cons (p := (· == '.')) (by decide) name []

/-- A full stop at the end is no part of a label, so that `labelsOf` drops it. -/
theorem labelsOf_append_dot (name : List Char) : labelsOf (name ++ ['.']) = Text.pieces (· == '.') name := by
  rw [labelsOf, pieces_append_dot]
  simp

theorem labelsOf_ipv4Text (address : Nat) :
    labelsOf (ipv4Text address) = (octets address).map Decimal.natText := by
  have hlast : Decimal.natText (address % 256) ≠ [] := Nat.toDigits_ne_nil
  rw [labelsOf, pieces_ipv4Text]
  simp [octets, hlast]

/-- No `ipv4Text` ends with a full stop. -/
theorem dropLastWhile_ipv4Text (address : Nat) :
    Text.dropLastWhile (· == '.') (ipv4Text address) = ipv4Text address := by
  rw [Text.dropLastWhile_eq_self_iff]
  intro c hc
  rw [beq_eq_false_iff_ne]
  rintro rfl
  obtain ⟨name, hname⟩ := List.getLast?_eq_some_iff.1 hc
  have hpieces := pieces_ipv4Text address
  rw [hname, pieces_append_dot] at hpieces
  have hlast := congrArg List.getLast? hpieces
  have hne : Decimal.natText (address % 256) ≠ [] := Nat.toDigits_ne_nil
  rw [List.getLast?_concat] at hlast
  simp [octets] at hlast
  exact hne hlast

theorem ipv4Address?_of_labels {name : List Char} {address : Nat} (haddress : address < 2 ^ 32)
    (h : labelsOf name = (octets address).map Decimal.natText) : ipv4Address? name = some address := by
  rw [ipv4Address?, h, mapM_ipv4Number? fun n hn => octet_lt hn]
  exact ipv4OfNumbers?_octets haddress

/-- A name that ends in two full stops does not end in a number. -/
theorem endsInNumber_append_dots (name : List Char) : endsInNumber (name ++ ['.'] ++ ['.']) = false := by
  rw [endsInNumber, labelsOf_append_dot, pieces_append_dot, List.getLast?_concat]
  rfl

/-- What is the `ipv4Text` of an address, full stops at its end aside, stands for that address if it ends in
    a number at all. -/
theorem ipv4Address?_eq_some {name : List Char} {address : Nat} (haddress : address < 2 ^ 32)
    (hname : Text.dropLastWhile (· == '.') name = ipv4Text address) (hnumber : endsInNumber name = true) :
    ipv4Address? name = some address := by
  obtain ⟨dots, heq, hdots⟩ := Text.exists_dropLastWhile (· == '.') name
  rw [hname] at heq
  obtain ⟨k, rfl⟩ : ∃ k, dots = List.replicate k '.' := by
    refine ⟨dots.length, List.eq_replicate_iff.2 ⟨rfl, ?_⟩⟩
    intro c hc
    exact beq_iff_eq.1 (hdots c hc)
  subst heq
  match k with
  | 0 =>
    rw [List.replicate_zero, List.append_nil]
    exact ipv4Address?_of_labels haddress (labelsOf_ipv4Text address)
  | 1 =>
    apply ipv4Address?_of_labels haddress
    rw [List.replicate_one, labelsOf_append_dot, pieces_ipv4Text]
  | k + 2 =>
    rw [List.replicate_succ', List.replicate_succ', ← List.append_assoc, ← List.append_assoc,
      endsInNumber_append_dots] at hnumber
    exact Bool.noConfusion hnumber

/-- A name with a label that is no `ipv4Number?` is no address. -/
theorem ipv4Address?_eq_none {name label : List Char} (hlabel : ipv4Number? label = none)
    (h : label ∈ labelsOf name) : ipv4Address? name = none := by
  have hall : (labelsOf name).mapM ipv4Number? = none := by
    generalize labelsOf name = labels at h
    induction labels with
    | nil => exact absurd h List.not_mem_nil
    | cons first labels ih =>
      rw [List.mapM_cons]
      rcases List.mem_cons.1 h with rfl | h
      · rw [hlabel]
        rfl
      · rw [ih h]
        cases ipv4Number? first <;> rfl
  rw [ipv4Address?, hall]

/-- No address starts with `www.`, as its first label is no `ipv4Number?`. -/
theorem ipv4Address?_www (rest : List Char) : ipv4Address? ("www.".toList ++ rest) = none := by
  apply @ipv4Address?_eq_none _ "www".toList (by decide)
  have hwww : "www.".toList ++ rest = "www".toList ++ '.' :: rest := by
    have hchars : "www.".toList = "www".toList ++ ['.'] := by decide
    rw [hchars, List.append_assoc, List.singleton_append]
  obtain ⟨piece, pieces, hpieces⟩ := List.exists_cons_of_ne_nil (Text.pieces_ne_nil (· == '.') rest)
  rw [hwww, labelsOf, Text.pieces_append_cons (p := (· == '.')) (by decide),
    Text.pieces_of_forall (List.all_iff_forall_prop.1 (by decide)), hpieces]
  split_ifs <;> simp

end PageRisk.Url
