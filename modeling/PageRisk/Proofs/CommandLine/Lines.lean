import PageRisk.CommandLine.Commands
import PageRisk.Proofs.Json.Scalar
import PageRisk.Proofs.Text

set_option autoImplicit false

/-! # Lines

The compact text of a value is on one line (`Json.unbroken_compact`), and texts on one line each that are
written as lines are read as these lines (`textLines_lines`). -/

namespace PageRisk

/-- Whether characters are on one line: neither a line feed nor a carriage return is among them. -/
def Unbroken (cs : List Char) : Prop :=
  ∀ c ∈ cs, c ≠ '\n' ∧ c ≠ '\r'

instance (cs : List Char) : Decidable (Unbroken cs) :=
  List.decidableBAll (fun c => c ≠ '\n' ∧ c ≠ '\r') cs

namespace Unbroken

variable {cs ds : List Char}

theorem append (hcs : Unbroken cs) (hds : Unbroken ds) : Unbroken (cs ++ ds) :=
  List.forall_mem_append.2 ⟨hcs, hds⟩

theorem cons {c : Char} (hc : c ≠ '\n' ∧ c ≠ '\r') (hcs : Unbroken cs) : Unbroken (c :: cs) :=
  List.forall_mem_cons.2 ⟨hc, hcs⟩

theorem of_subset (hcs : Unbroken cs) (h : ds ⊆ cs) : Unbroken ds :=
  fun c hc => hcs c (h hc)

theorem intercalate {separator : List Char} (hseparator : Unbroken separator) {parts : List (List Char)}
    (hparts : ∀ part ∈ parts, Unbroken part) : Unbroken (List.intercalate separator parts) := by
  intro c hc
  rcases Text.mem_intercalate hc with hseparated | ⟨part, hpart, hmem⟩
  · exact hseparator c hseparated
  · exact hparts part hpart c hmem

theorem of_isDigit (h : ∀ c ∈ cs, c.isDigit = true) : Unbroken cs := by
  intro c hc
  have hdigit := h c hc
  constructor <;> (rintro rfl; exact absurd hdigit (by decide))

end Unbroken

/-! ## Compact texts -/

namespace Json

theorem unbroken_natText (n : Nat) : Unbroken (Decimal.natText n) :=
  .of_isDigit fun _ => isDigit_of_mem_natText

theorem unbroken_intText (n : Int) : Unbroken (Decimal.intText n) := by
  unfold Decimal.intText
  split
  · exact .cons (by decide) (unbroken_natText _)
  · exact unbroken_natText _

theorem unbroken_layoutText (layout : Decimal.Layout) (d : Decimal.Digits) :
    Unbroken (layout.text d) := by
  have hdigits := unbroken_natText d.significand
  have hzeros : ∀ n, Unbroken (List.replicate n '0') := fun n c hc => by
    rw [List.eq_of_mem_replicate hc]
    decide
  unfold Decimal.Layout.text
  dsimp only
  split
  · refine .append (.append ?_ (.cons (by decide) ?_)) (unbroken_intText _)
    · split
      · decide
      · next h => exact h ▸ hdigits
      · next h =>
        rw [h] at hdigits
        exact .cons (hdigits _ List.mem_cons_self)
          (.cons (by decide) (hdigits.of_subset (List.subset_cons_self _ _)))
    · split <;> decide
  · split
    · exact .cons (by decide) (.cons (by decide) ((hzeros _).append hdigits))
    · split
      · exact (hdigits.append (hzeros _)).append (by decide)
      · exact (hdigits.of_subset (List.take_subset _ _)).append
          (.cons (by decide) (hdigits.of_subset (List.drop_subset _ _)))

theorem unbroken_shortestText? {x : Float} {text : List Char} (h : Decimal.shortestText? x = some text) :
    Unbroken text := by
  unfold Decimal.shortestText? at h
  split at h
  · next negative mantissa exponent _ =>
    have hbody : Unbroken (if mantissa == 0 then ['0', '.', '0']
        else Decimal.wireLayout.text (Decimal.shortest mantissa exponent)) := by
      split
      · decide
      · exact unbroken_layoutText _ _
    rw [← Option.some.inj h]
    cases negative with
    | true => exact .cons (by decide) hbody
    | false => exact hbody
  · exact absurd h nofun

theorem unbroken_numberText (n : Number) : Unbroken (numberText n) := by
  cases n with
  | integer n => exact unbroken_intText n.value
  | real x =>
    rw [numberText]
    cases htext : Decimal.shortestText? x with
    | some text => exact unbroken_shortestText? htext
    | none => decide

theorem unbroken_hexLetter : ∀ n < 16, Unbroken [hexLetter n] := by decide

theorem unbroken_escaped (c : Char) : Unbroken (escaped c) := by
  unfold escaped
  split_ifs with hquote hbackslash hback htab hfeed hpage hreturn hcontrol
  any_goals decide
  · have hlow : c.toNat / 16 < 16 := by
      have : c.toNat < ' '.toNat := hcontrol
      have : ' '.toNat = 32 := rfl
      omega
    exact .append (by decide : Unbroken ['\\', 'u', '0', '0'])
      (.append (unbroken_hexLetter _ hlow) (unbroken_hexLetter _ (Nat.mod_lt _ (by decide))))
  · exact .cons ⟨by simpa using hfeed, by simpa using hreturn⟩ (by decide)

theorem unbroken_stringText (s : String) : Unbroken (stringText s) := by
  refine .cons (by decide) (.append (fun c hc => ?_) (by decide))
  obtain ⟨d, -, hmem⟩ := List.mem_flatMap.1 hc
  exact unbroken_escaped d c hmem

mutual

/-- `Json.compact` is on one line. -/
theorem unbroken_compact : (v : Json) → Unbroken v.compact
  | .null => by decide
  | .bool b => by cases b <;> decide
  | .number n => unbroken_numberText n
  | .string s => unbroken_stringText s
  | .array items => .cons (by decide) (.append
      (.intercalate (by decide) (unbroken_compactItems items)) (by decide))
  | .object ms => .cons (by decide) (.append
      (.intercalate (by decide) (unbroken_compactMembers ms)) (by decide))

theorem unbroken_compactItems : (items : List Json) → ∀ part ∈ compactItems items, Unbroken part
  | [] => nofun
  | v :: vs => List.forall_mem_cons.2 ⟨unbroken_compact v, unbroken_compactItems vs⟩

theorem unbroken_compactMembers :
    (ms : List (String × Json)) → ∀ part ∈ compactMembers ms, Unbroken part
  | [] => nofun
  | (name, v) :: rest => List.forall_mem_cons.2
    ⟨.append (unbroken_stringText name) (.cons (by decide) (unbroken_compact v)),
      unbroken_compactMembers rest⟩

end

end Json

/-! ## Bytes -/

namespace CommandLine

theorem toList_bytes (bytes : ByteArray) : bytes.toList = bytes.data.toList := by
  have hloop : ∀ i read, ByteArray.toList.loop bytes i read
      = read.reverse ++ bytes.data.toList.drop i := by
    intro i read
    fun_induction ByteArray.toList.loop bytes i read with
    | case1 i read hlt ih =>
      have hlength : i < bytes.data.toList.length := hlt
      have hget : bytes.get! i = bytes.data.toList[i] := getElem!_pos bytes.data i hlt
      rw [ih, List.drop_eq_getElem_cons hlength, hget, List.reverse_cons, List.append_assoc]
      rfl
    | case2 i read hge =>
      have hlength : bytes.data.toList.length ≤ i := Nat.le_of_not_lt hge
      rw [List.drop_eq_nil_of_le hlength, List.append_nil]
  exact hloop 0 []

/-- The bytes of characters in UTF-8. -/
def encoded (cs : List Char) : List UInt8 :=
  cs.flatMap String.utf8EncodeChar

theorem toUTF8_eq (text : String) : text.toUTF8 = (encoded text.toList).toByteArray := by
  rw [String.toUTF8_eq_toByteArray, ← String.utf8Encode_toList]
  rfl

theorem toList_toUTF8 (text : String) : text.toUTF8.toList = encoded text.toList := by
  rw [toUTF8_eq, toList_bytes, List.toList_data_toByteArray]

/-- `String.fromUTF8?` reads the `encoded` characters of a text as that text. -/
theorem fromUTF8?_encoded (text : String) :
    String.fromUTF8? ⟨(encoded text.toList).toArray⟩ = some text := by
  have hbytes : (⟨(encoded text.toList).toArray⟩ : ByteArray) = text.toUTF8 := by
    rw [toUTF8_eq]
    exact ByteArray.ext (Array.toList_inj.1 List.toList_data_toByteArray.symm)
  rw [hbytes]
  exact dif_pos text.isValidUTF8

/-- A character is encoded as a single byte, or all of its bytes are beyond those of single characters. -/
theorem utf8EncodeChar_cases (c : Char) :
    (c.toNat < 128 ∧ String.utf8EncodeChar c = [UInt8.ofNat c.toNat])
      ∨ ∀ b ∈ String.utf8EncodeChar c, 128 ≤ b.toNat := by
  have hbyte : ∀ n : Nat, 128 ≤ n → n < 256 → 128 ≤ (UInt8.ofNat n).toNat := fun n hlow hhigh => by
    rw [UInt8.toNat_ofNat_of_lt' hhigh]
    exact hlow
  unfold String.utf8EncodeChar
  dsimp only
  split_ifs with h h' h''
  · exact .inl ⟨Nat.lt_succ_of_le h, rfl⟩
  all_goals
    right
    simp only [List.forall_mem_cons, List.not_mem_nil, false_imp_iff, implies_true, and_true]
    repeat' apply And.intro
    all_goals exact hbyte _ (by omega) (by omega)

/-- The bytes of an `Unbroken` text are not those of line ends. -/
theorem encoded_unbroken {cs : List Char} (h : Unbroken cs) : ∀ b ∈ encoded cs, b ≠ 10 ∧ b ≠ 13 := by
  intro b hb
  obtain ⟨c, hc, hmem⟩ := List.mem_flatMap.1 hb
  rcases utf8EncodeChar_cases c with ⟨hlow, hsingle⟩ | hhigh
  · rw [hsingle, List.mem_singleton] at hmem
    have hvalue : b.toNat = c.toNat := by
      rw [hmem, UInt8.toNat_ofNat_of_lt' (Nat.lt_trans hlow (by decide))]
    have hchar : ∀ d : Char, b.toNat = d.toNat → c = d := fun d hd =>
      Char.toNat_inj.1 (hvalue.symm.trans hd)
    constructor
    · rintro rfl
      exact (h c hc).1 (hchar '\n' rfl)
    · rintro rfl
      exact (h c hc).2 (hchar '\r' rfl)
  · have := hhigh b hmem
    constructor <;> (rintro rfl; exact absurd this (by decide))

/-! ## Lines -/

theorem byteLines_append {bytes : List UInt8} (h : ∀ b ∈ bytes, b ≠ 10 ∧ b ≠ 13) (rest : List UInt8) :
    byteLines (bytes ++ 10 :: rest) = bytes :: byteLines rest := by
  induction bytes with
  | nil => rw [List.nil_append, byteLines]; rfl; nofun
  | cons b bytes ih =>
    obtain ⟨⟨hfeed, hreturn⟩, hbytes⟩ := List.forall_mem_cons.1 h
    rw [List.cons_append, byteLines, ih hbytes]
    · simp [hfeed]
    · rintro _ rfl
      exact absurd rfl hreturn

/-- `textLines` reads the texts that `Report.lines` writes, if each is on one line. -/
theorem textLines_lines {texts : List String} (h : ∀ text ∈ texts, Unbroken text.toList) :
    textLines (Report.lines texts).toUTF8 = texts.map some := by
  rw [textLines, toList_toUTF8]
  induction texts with
  | nil => rfl
  | cons text rest ih =>
    obtain ⟨htext, hrest⟩ := List.forall_mem_cons.1 h
    have hbytes : encoded (Report.lines (text :: rest)).toList
        = encoded text.toList ++ 10 :: encoded (Report.lines rest).toList := by
      simp only [Report.lines, List.map_cons, String.join_cons, String.toList_append, encoded,
        List.flatMap_append, List.append_assoc]
      rfl
    rw [hbytes, byteLines_append (encoded_unbroken htext), List.map_cons, ih hrest,
      fromUTF8?_encoded, List.map_cons]

end CommandLine

end PageRisk
