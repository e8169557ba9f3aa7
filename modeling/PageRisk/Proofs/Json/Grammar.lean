import Mathlib.Data.List.DropRight
import PageRisk.Proofs.Json.Parts

set_option autoImplicit false

/-! # The grammar of JSON texts

What a text holds, told apart from how it is read. A `Tree` keeps all that the grammar tells apart: a
number as it is written, a string by its code units, the members of an object in their order and as often
as they stand. `Derives` relates what is left of a text before a part of it to what is left after that
part. A number may stop after any of its digits, so a part does not tell alone where it ends; where a
number would end (`NumberEnds`), it does. -/

namespace PageRisk.Json

/-! ## White space -/

theorem skipSpace_idem (cs : List Char) : skipSpace (skipSpace cs) = skipSpace cs :=
  List.dropWhile_idempotent isSpace cs

theorem length_skipSpace_le (cs : List Char) : (skipSpace cs).length ≤ cs.length :=
  (List.dropWhile_suffix _).length_le

/-- A number ends before a comma or a closing bracket, with white space before it or not. -/
theorem numberEnds_of_mark {c : Char} (hmark : c = ',' ∨ c = ']' ∨ c = '\x7d') {cs rest : List Char}
    (h : skipSpace cs = c :: rest) : NumberEnds cs := by
  cases cs with
  | nil => exact absurd h (by simp [skipSpace])
  | cons d cs =>
    by_cases hspace : isSpace d = true
    · exact numberEnds_space hspace cs
    · rw [skipSpace_of_bare (by simpa using hspace)] at h
      rw [h]
      exact numberEnds_mark hmark rest

theorem numberEnds_of_end {cs : List Char} (h : skipSpace cs = []) : NumberEnds cs := by
  cases cs with
  | nil => simp [NumberEnds]
  | cons d cs =>
    refine numberEnds_space (c := d) ?_ cs
    simp only [skipSpace, List.dropWhile_eq_nil_iff] at h
    exact h d List.mem_cons_self

/-! ## Numbers -/

/-- Digits, at least one. -/
def IsDigits (ds : List Char) : Prop :=
  ds ≠ [] ∧ ∀ c ∈ ds, c.isDigit = true

/-- Digits without a zero before others. -/
def IsIntegral (ds : List Char) : Prop :=
  IsDigits ds ∧ (ds.head? = some '0' → ds = ['0'])

/-- Nothing, or a point and digits. -/
def IsFraction (cs : List Char) : Prop :=
  cs = [] ∨ ∃ ds, cs = '.' :: ds ∧ IsDigits ds

/-- Nothing, or a letter, a sign that may be left out and digits. -/
def IsExponent (cs : List Char) : Prop :=
  cs = [] ∨ ∃ e sign ds, cs = e :: (sign ++ ds) ∧ (e = 'e' ∨ e = 'E')
    ∧ (sign = [] ∨ sign = ['+'] ∨ sign = ['-']) ∧ IsDigits ds

/-- The text of a number without its sign. -/
def IsUnsigned (cs : List Char) : Prop :=
  ∃ integral fraction exponent, cs = integral ++ (fraction ++ exponent) ∧ IsIntegral integral
    ∧ IsFraction fraction ∧ IsExponent exponent

/-- The text of a number. -/
def IsNumber (cs : List Char) : Prop :=
  IsUnsigned cs ∨ ∃ ds, cs = '-' :: ds ∧ IsUnsigned ds

theorem IsUnsigned.head {cs : List Char} (h : IsUnsigned cs) : ∃ c ds, cs = c :: ds ∧ c.isDigit = true := by
  obtain ⟨integral, fraction, exponent, rfl, ⟨⟨hne, hdigit⟩, -⟩, -, -⟩ := h
  obtain ⟨c, ds, rfl⟩ := List.exists_cons_of_ne_nil hne
  exact ⟨c, _, rfl, hdigit c List.mem_cons_self⟩

theorem IsNumber.head {cs : List Char} (h : IsNumber cs) :
    ∃ c ds, cs = c :: ds ∧ (c = '-' ∨ c.isDigit = true) := by
  obtain hunsigned | ⟨ds, rfl, -⟩ := h
  · obtain ⟨c, ds, rfl, hdigit⟩ := hunsigned.head
    exact ⟨c, ds, rfl, .inr hdigit⟩
  · exact ⟨_, _, rfl, .inl rfl⟩

theorem IsNumber.ne_nil {cs : List Char} (h : IsNumber cs) : cs ≠ [] := by
  obtain ⟨c, ds, rfl, -⟩ := h.head
  exact List.cons_ne_nil c ds

/-! ## Strings -/

/-- The rest of a string after its opening quote, by its code units: a character that stands for itself or
    after a backslash counts as one of its own, even beyond 16 bits. -/
inductive StringRest : List Char → List Nat → List Char → Prop
  | close (rest : List Char) : StringRest ('"' :: rest) [] rest
  | plain {c : Char} {cs rest : List Char} {us : List Nat} (hquote : c ≠ '"') (hslash : c ≠ '\\')
      (hcontrol : ¬ c < ' ') (hrest : StringRest cs us rest) :
      StringRest (c :: cs) (c.toNat :: us) rest
  | simple {e c : Char} {cs rest : List Char} {us : List Nat} (hescape : simpleEscape? e = some c)
      (hrest : StringRest cs us rest) : StringRest ('\\' :: e :: cs) (c.toNat :: us) rest
  | unicode {a b c d : Char} {n : Nat} {cs rest : List Char} {us : List Nat}
      (hhex : hex4? a b c d = some n) (hrest : StringRest cs us rest) :
      StringRest ('\\' :: 'u' :: a :: b :: c :: d :: cs) (n :: us) rest

/-- What is left after a `StringRest`, and its code units, are told by the text. -/
theorem StringRest.unique {cs rest rest' : List Char} {us us' : List Nat} (h : StringRest cs us rest)
    (h' : StringRest cs us' rest') : us' = us ∧ rest' = rest := by
  induction h generalizing us' rest' with
  | close rest =>
    cases h' with
    | close => exact ⟨rfl, rfl⟩
    | plain hquote => exact absurd rfl hquote
  | plain hquote hslash _ _ ih =>
    cases h' with
    | close => exact absurd rfl hquote
    | plain _ _ _ hrest =>
      obtain ⟨rfl, rfl⟩ := ih hrest
      exact ⟨rfl, rfl⟩
    | simple => exact absurd rfl hslash
    | unicode => exact absurd rfl hslash
  | simple hescape _ ih =>
    cases h' with
    | plain _ hslash => exact absurd rfl hslash
    | simple hescape' hrest =>
      obtain ⟨rfl, rfl⟩ := ih hrest
      obtain rfl := Option.some.inj (hescape.symm.trans hescape')
      exact ⟨rfl, rfl⟩
    | unicode => exact absurd hescape (by simp [simpleEscape?])
  | unicode hhex _ ih =>
    cases h' with
    | plain _ hslash => exact absurd rfl hslash
    | simple hescape => exact absurd hescape (by simp [simpleEscape?])
    | unicode hhex' hrest =>
      obtain ⟨rfl, rfl⟩ := ih hrest
      obtain rfl := Option.some.inj (hhex.symm.trans hhex')
      exact ⟨rfl, rfl⟩

/-- Whether a character stands for itself in a string. -/
def isPlain (c : Char) : Bool :=
  c != '"' && c != '\\' && decide (32 ≤ c.toNat)

theorem StringRest.of_plain {cs : List Char} (h : cs.all isPlain = true) (rest : List Char) :
    StringRest (cs ++ '"' :: rest) (cs.map Char.toNat) rest := by
  induction cs with
  | nil => exact .close rest
  | cons c cs ih =>
    obtain ⟨hplain, hcs⟩ := Bool.and_eq_true_iff.1 h
    simp only [isPlain, Bool.and_eq_true, bne_iff_ne, decide_eq_true_eq] at hplain
    obtain ⟨⟨hquote, hslash⟩, hcode⟩ := hplain
    have hcontrol : ¬ c < ' ' := by
      intro hlt
      have hcode' : c.toNat < 32 := UInt32.lt_iff_toNat_lt.1 hlt
      omega
    exact .plain hquote hslash hcontrol (ih hcs)

/-- Whether the code unit is the first of a pair. -/
def IsHigh (n : Nat) : Prop := 0xD800 ≤ n ∧ n ≤ 0xDBFF

/-- Whether the code unit is the second of a pair. -/
def IsLow (n : Nat) : Prop := 0xDC00 ≤ n ∧ n ≤ 0xDFFF

instance (n : Nat) : Decidable (IsHigh n) := inferInstanceAs (Decidable (_ ∧ _))

instance (n : Nat) : Decidable (IsLow n) := inferInstanceAs (Decidable (_ ∧ _))

/-- The text of some code units, if every surrogate in it is one of a pair (`IsHigh` before `IsLow`). -/
def textOf? : List Nat → Option (List Char)
  | [] => some []
  | [n] => if IsHigh n ∨ IsLow n then none else some [Char.ofNat n]
  | n :: m :: us =>
    if IsHigh n then
      if IsLow m then (textOf? us).map (pairValue n m :: ·) else none
    else if IsLow n then none
    else (textOf? (m :: us)).map (Char.ofNat n :: ·)

/-! ## Values -/

/-- What a text may hold. Strings and names are kept by their code units, as not all of them are texts, and
    numbers by how they are written. -/
inductive Tree where
  | null
  | bool (b : Bool)
  | number (digits : List Char)
  | string (units : List Nat)
  | list (items : List Tree)
  | object (members : List (List Nat × Tree))

/-- The parts of a text that the grammar names. -/
inductive Phrase where
  /-- A value, with the white space before it. -/
  | value (v : Tree)
  /-- Elements of a list and its closing bracket; `first` says whether they come right after the
      opening one. -/
  | items (first : Bool) (vs : List Tree)
  /-- Members of an object and its closing bracket. -/
  | members (first : Bool) (ms : List (List Nat × Tree))

/-- Whether the phrase stands where the first text begins, with the second one left after it. -/
inductive Derives : Phrase → List Char → List Char → Prop
  | nullWord {cs rest : List Char} (hword : skipSpace cs = 'n' :: 'u' :: 'l' :: 'l' :: rest) :
      Derives (.value .null) cs rest
  | trueWord {cs rest : List Char} (hword : skipSpace cs = 't' :: 'r' :: 'u' :: 'e' :: rest) :
      Derives (.value (.bool true)) cs rest
  | falseWord {cs rest : List Char} (hword : skipSpace cs = 'f' :: 'a' :: 'l' :: 's' :: 'e' :: rest) :
      Derives (.value (.bool false)) cs rest
  | number {cs digits rest : List Char} (hnumber : IsNumber digits)
      (htext : skipSpace cs = digits ++ rest) : Derives (.value (.number digits)) cs rest
  | string {cs t rest : List Char} {us : List Nat} (hopen : skipSpace cs = '"' :: t)
      (hstring : StringRest t us rest) : Derives (.value (.string us)) cs rest
  | list {cs t rest : List Char} {vs : List Tree} (hopen : skipSpace cs = '[' :: t)
      (hitems : Derives (.items true vs) t rest) : Derives (.value (.list vs)) cs rest
  | object {cs t rest : List Char} {ms : List (List Nat × Tree)} (hopen : skipSpace cs = '\x7b' :: t)
      (hmembers : Derives (.members true ms) t rest) : Derives (.value (.object ms)) cs rest
  | endItems {first : Bool} {cs rest : List Char} (hclose : skipSpace cs = ']' :: rest) :
      Derives (.items first []) cs rest
  | item {first : Bool} {cs t u rest : List Char} {v : Tree} {vs : List Tree}
      (hcomma : Separated first cs t) (hvalue : Derives (.value v) t u)
      (hmore : Derives (.items false vs) u rest) : Derives (.items first (v :: vs)) cs rest
  | endMembers {first : Bool} {cs rest : List Char} (hclose : skipSpace cs = '\x7d' :: rest) :
      Derives (.members first []) cs rest
  | member {first : Bool} {cs t u w x y rest : List Char} {name : List Nat} {v : Tree}
      {ms : List (List Nat × Tree)} (hcomma : Separated first cs t) (hopen : skipSpace t = '"' :: u)
      (hname : StringRest u name w) (hcolon : skipSpace w = ':' :: x)
      (hvalue : Derives (.value v) x y) (hmore : Derives (.members false ms) y rest) :
      Derives (.members first ((name, v) :: ms)) cs rest

/-- Whether a text is a value, with white space around it. -/
def Holds (text : String) (v : Tree) : Prop :=
  ∃ rest, Derives (.value v) text.toList rest ∧ skipSpace rest = []

/-! ## Where phrases begin -/

/-- Whether the text of the value begins with the character. -/
def Tree.Opens : Tree → Char → Prop
  | .null, c => c = 'n'
  | .bool b, c => c = if b then 't' else 'f'
  | .number _, c => c = '-' ∨ c.isDigit = true
  | .string _, c => c = '"'
  | .list _, c => c = '['
  | .object _, c => c = '\x7b'

/-- Whether the second value is of the kind of the first one. True and false are two kinds. -/
def Tree.SameKind : Tree → Tree → Prop
  | .null, w => w = .null
  | .bool b, w => w = .bool b
  | .number _, w => ∃ digits, w = .number digits
  | .string _, w => ∃ us, w = .string us
  | .list _, w => ∃ vs, w = .list vs
  | .object _, w => ∃ ms, w = .object ms

/-- The first character of a value (`Tree.Opens`) tells its kind. -/
theorem Tree.Opens.sameKind {v w : Tree} {c : Char} (hv : v.Opens c) (hw : w.Opens c) :
    v.SameKind w := by
  rcases v with _ | ⟨_ | _⟩ | _ | _ | _ | _ <;> rcases w with _ | ⟨_ | _⟩ | _ | _ | _ | _ <;>
    simp_all [Opens, SameKind]

/-- No value begins with the bracket that closes a list. -/
theorem Tree.not_opens_closing (v : Tree) : ¬ v.Opens ']' := by
  cases v with
  | bool b => cases b <;> simp [Opens]
  | _ => simp [Opens]

theorem Derives.opens {v : Tree} {cs rest : List Char} (h : Derives (.value v) cs rest) :
    ∃ c t, skipSpace cs = c :: t ∧ v.Opens c := by
  cases h with
  | nullWord hword => exact ⟨_, _, hword, rfl⟩
  | trueWord hword => exact ⟨_, _, hword, rfl⟩
  | falseWord hword => exact ⟨_, _, hword, rfl⟩
  | number hnumber htext =>
    obtain ⟨c, ds, rfl, hc⟩ := hnumber.head
    exact ⟨c, _, htext, hc⟩
  | string hopen _ => exact ⟨_, _, hopen, rfl⟩
  | list hopen _ => exact ⟨_, _, hopen, rfl⟩
  | object hopen _ => exact ⟨_, _, hopen, rfl⟩

theorem Derives.not_closing {v : Tree} {cs rest t : List Char} (h : Derives (.value v) cs rest) :
    skipSpace cs ≠ ']' :: t := by
  obtain ⟨c, u, hspace, hopens⟩ := h.opens
  intro hclose
  obtain ⟨rfl, -⟩ := List.cons.inj (hspace.symm.trans hclose)
  exact v.not_opens_closing hopens

/-- The white space before a value does not matter (`skipSpace`). -/
theorem derives_skipSpace_iff {v : Tree} {cs rest : List Char} :
    Derives (.value v) (skipSpace cs) rest ↔ Derives (.value v) cs rest := by
  have hof {cs cs' : List Char} (heq : skipSpace cs = skipSpace cs')
      (h : Derives (.value v) cs rest) : Derives (.value v) cs' rest := by
    cases h with
    | nullWord hword => exact .nullWord (heq ▸ hword)
    | trueWord hword => exact .trueWord (heq ▸ hword)
    | falseWord hword => exact .falseWord (heq ▸ hword)
    | number hnumber htext => exact .number hnumber (heq ▸ htext)
    | string hopen hstring => exact .string (heq ▸ hopen) hstring
    | list hopen hitems => exact .list (heq ▸ hopen) hitems
    | object hopen hmembers => exact .object (heq ▸ hopen) hmembers
  exact ⟨hof (skipSpace_idem cs), hof (skipSpace_idem cs).symm⟩

/-- A number may end where more elements of an array, or its end, may come. -/
theorem Derives.numberEnds_items {vs : List Tree} {cs rest : List Char}
    (h : Derives (.items false vs) cs rest) : NumberEnds cs := by
  cases h with
  | endItems hclose => exact numberEnds_of_mark (.inr (.inl rfl)) hclose
  | item hcomma _ _ => exact numberEnds_of_mark (.inl rfl) hcomma

theorem Derives.numberEnds_members {ms : List (List Nat × Tree)} {cs rest : List Char}
    (h : Derives (.members false ms) cs rest) : NumberEnds cs := by
  cases h with
  | endMembers hclose => exact numberEnds_of_mark (.inr (.inr rfl)) hclose
  | member hcomma _ _ _ _ _ => exact numberEnds_of_mark (.inl rfl) hcomma

/-! ## Lengths -/

theorem length_lt_of_skipSpace {c : Char} {cs t : List Char} (h : skipSpace cs = c :: t) :
    t.length < cs.length := by
  have hle := length_skipSpace_le cs
  rw [h, List.length_cons] at hle
  omega

/-- What is left after some characters that follow white space. -/
theorem length_lt_of_taken (taken : List Char) {cs rest : List Char} (hne : taken ≠ [])
    (h : skipSpace cs = taken ++ rest) : rest.length < cs.length := by
  obtain ⟨c, more, rfl⟩ := List.exists_cons_of_ne_nil hne
  refine Nat.lt_of_le_of_lt ?_ (length_lt_of_skipSpace h)
  exact (List.suffix_append more rest).length_le

theorem Separated.length_le {first : Bool} {cs t : List Char} (h : Separated first cs t) :
    t.length ≤ cs.length := by
  cases first with
  | true => exact Nat.le_of_eq (congrArg List.length h)
  | false => exact Nat.le_of_lt (length_lt_of_skipSpace h)

theorem StringRest.length_lt {cs rest : List Char} {us : List Nat} (h : StringRest cs us rest) :
    rest.length < cs.length := by
  induction h with
  | close rest => simp
  | plain _ _ _ _ ih => exact Nat.lt_succ_of_lt ih
  | simple _ _ ih => simp only [List.length_cons]; omega
  | unicode _ _ ih => simp only [List.length_cons]; omega

/-- Every `Phrase` takes at least one character. -/
theorem Derives.length_lt {p : Phrase} {cs rest : List Char} (h : Derives p cs rest) :
    rest.length < cs.length := by
  induction h with
  | nullWord hword => exact length_lt_of_taken ['n', 'u', 'l', 'l'] (by simp) hword
  | trueWord hword => exact length_lt_of_taken ['t', 'r', 'u', 'e'] (by simp) hword
  | falseWord hword => exact length_lt_of_taken ['f', 'a', 'l', 's', 'e'] (by simp) hword
  | number hnumber htext => exact length_lt_of_taken _ hnumber.ne_nil htext
  | string hopen hstring => exact Nat.lt_trans hstring.length_lt (length_lt_of_skipSpace hopen)
  | list hopen _ ih => exact Nat.lt_trans ih (length_lt_of_skipSpace hopen)
  | object hopen _ ih => exact Nat.lt_trans ih (length_lt_of_skipSpace hopen)
  | endItems hclose => exact length_lt_of_skipSpace hclose
  | item hcomma _ _ hvalue hmore => exact Nat.lt_of_lt_of_le (Nat.lt_trans hmore hvalue) hcomma.length_le
  | endMembers hclose => exact length_lt_of_skipSpace hclose
  | member hcomma hopen hname hcolon _ _ hvalue hmore =>
    have := hcomma.length_le
    have := length_lt_of_skipSpace hopen
    have := hname.length_lt
    have := length_lt_of_skipSpace hcolon
    omega

end PageRisk.Json
