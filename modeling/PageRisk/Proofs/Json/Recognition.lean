import PageRisk.Proofs.Json.Decoder
import PageRisk.Proofs.Json.Passing

set_option autoImplicit false

/-! # What decoders read from texts

A decoder reads a value of the grammar and makes something of it. What it makes of which values is told
apart from the text by a relation (`Decoder.Reads`): the decoder succeeds on exactly the texts of the values
in this relation to some result. It is shown for strings, lists, values that may be null, and records of one
field that are open to other members. -/

namespace PageRisk.Json

/-! ## Strings -/

theorem IsHigh.not_isLow {n : Nat} (h : IsHigh n) : ¬ IsLow n := by
  unfold IsHigh IsLow at *
  omega

/-- No character is a surrogate. -/
theorem not_surrogate (c : Char) : ¬ IsHigh c.toNat ∧ ¬ IsLow c.toNat := by
  have hvalid : c.toNat < 0xD800 ∨ 0xDFFF < c.toNat ∧ c.toNat < 0x110000 := c.valid
  unfold IsHigh IsLow
  omega

theorem textOf?_cons {n : Nat} (hhigh : ¬ IsHigh n) (hlow : ¬ IsLow n) (us : List Nat) :
    textOf? (n :: us) = (textOf? us).map (Char.ofNat n :: ·) := by
  cases us with
  | nil => simp [textOf?, hhigh, hlow]
  | cons m us => simp [textOf?, hhigh, hlow]

theorem textOf?_pair {n m : Nat} (hhigh : IsHigh n) (hlow : IsLow m) (us : List Nat) :
    textOf? (n :: m :: us) = (textOf? us).map (pairValue n m :: ·) := by
  simp [textOf?, hhigh, hlow]

/-- A unit that is no surrogate is read by `readStringFrom` as its character. -/
theorem StringRest.readStringFrom_unit {cs rest : List Char} {n : Nat} {us : List Nat}
    (h : StringRest cs (n :: us) rest) (hhigh : ¬ IsHigh n) (hlow : ¬ IsLow n) :
    ∃ t, StringRest t us rest
      ∧ ∀ read, readStringFrom read cs = readStringFrom (Char.ofNat n :: read) t := by
  cases h with
  | plain hquote hslash hcontrol hrest =>
    refine ⟨_, hrest, fun read => ?_⟩
    rw [readStringFrom_plain hquote hslash hcontrol, Char.ofNat_toNat]
  | simple hescape hrest =>
    refine ⟨_, hrest, fun read => ?_⟩
    rw [readStringFrom_simple hescape, Char.ofNat_toNat]
  | unicode hhex hrest =>
    exact ⟨_, hrest, fun read => readStringFrom_unicode hhex hhigh hlow read _⟩

/-- A pair of surrogates is read by `readStringFrom` as one character, its `pairValue`. -/
theorem StringRest.readStringFrom_pair {cs rest : List Char} {n m : Nat} {us : List Nat}
    (h : StringRest cs (n :: m :: us) rest) (hhigh : IsHigh n) (hlow : IsLow m) :
    ∃ t, StringRest t us rest
      ∧ ∀ read, readStringFrom read cs = readStringFrom (pairValue n m :: read) t := by
  cases h with
  | plain => exact absurd hhigh (not_surrogate _).1
  | simple => exact absurd hhigh (not_surrogate _).1
  | unicode hhex hrest =>
    cases hrest with
    | plain => exact absurd hlow (not_surrogate _).2
    | simple => exact absurd hlow (not_surrogate _).2
    | unicode hhex' hrest =>
      refine ⟨_, hrest, fun read => ?_⟩
      have hnot := hhigh.not_isLow
      unfold IsHigh IsLow at *
      rw [readStringFrom, hhex]
      simp only [hhex']
      rw [if_neg (by simpa using hnot), if_pos (by simpa using hhigh), if_pos (by simpa using hlow)]

/-- A `StringRest` is read by `readStringFrom` as the `textOf?` its code units, where they have one. -/
theorem StringRest.readStringFrom_eq {us : List Nat} {cs rest text : List Char}
    (h : StringRest cs us rest) (htext : textOf? us = some text) (read : List Char) :
    readStringFrom read cs = .ok (read.reverse ++ text, rest) := by
  fun_induction textOf? us generalizing cs text read with
  | case1 =>
    obtain rfl := Option.some.inj htext
    cases h with
    | close => rw [readStringFrom_quote, List.append_nil]
  | case3 n hplain =>
    obtain rfl := Option.some.inj htext
    obtain ⟨t, hrest, hread⟩ := h.readStringFrom_unit (not_or.1 hplain).1 (not_or.1 hplain).2
    cases hrest with
    | close => rw [hread, readStringFrom_quote, List.reverse_cons]
  | case4 n m us hhigh hlow ih =>
    obtain ⟨more, hmore, rfl⟩ := Option.map_eq_some_iff.1 htext
    obtain ⟨t, hrest, hread⟩ := h.readStringFrom_pair hhigh hlow
    rw [hread, ih hrest hmore]
    simp
  | case7 n m us hhigh hlow ih =>
    obtain ⟨more, hmore, rfl⟩ := Option.map_eq_some_iff.1 htext
    obtain ⟨t, hrest, hread⟩ := h.readStringFrom_unit hhigh hlow
    rw [hread, ih hrest hmore]
    simp
  | _ => simp at htext

theorem exists_of_readStringFrom {read cs out rest : List Char}
    (h : readStringFrom read cs = .ok (out, rest)) :
    ∃ us text, StringRest cs us rest ∧ textOf? us = some text ∧ out = read.reverse ++ text := by
  fun_induction readStringFrom read cs with
  | case2 read cs =>
    obtain ⟨rfl, rfl⟩ := Prod.mk.inj (Except.ok.inj h)
    exact ⟨[], [], .close _, rfl, by simp⟩
  | case9 read a b c d n hhex _ hhigh e f g i cs m hhex' hlow ih =>
    obtain ⟨us, text, hus, htext, rfl⟩ := ih h
    refine ⟨n :: m :: us, pairValue n m :: text, .unicode hhex (.unicode hhex' hus), ?_, by simp⟩
    rw [textOf?_pair (by simpa [IsHigh] using hhigh) (by simpa [IsLow] using hlow), htext]
    rfl
  | case14 read a b c d cs n hhex hlow hhigh ih =>
    obtain ⟨us, text, hus, htext, rfl⟩ := ih h
    refine ⟨n :: us, Char.ofNat n :: text, .unicode hhex hus, ?_, by simp⟩
    rw [textOf?_cons (by simpa [IsHigh] using hhigh) (by simpa [IsLow] using hlow), htext]
    rfl
  | case16 read e cs _ _ c hescape ih =>
    obtain ⟨us, text, hus, htext, rfl⟩ := ih h
    refine ⟨c.toNat :: us, c :: text, .simple hescape hus, ?_, by simp⟩
    rw [textOf?_cons (not_surrogate c).1 (not_surrogate c).2, htext, Char.ofNat_toNat]
    rfl
  | case19 read c cs hquote hlast _ _ hslash hcontrol ih =>
    obtain ⟨us, text, hus, htext, rfl⟩ := ih h
    refine ⟨c.toNat :: us, c :: text, .plain hquote (fun hc => ?_) hcontrol hus, ?_, by simp⟩
    · cases cs with
      | nil => exact hlast hc rfl
      | cons e cs => exact hslash e cs hc rfl
    · rw [textOf?_cons (not_surrogate c).1 (not_surrogate c).2, htext, Char.ofNat_toNat]
      rfl
  | _ => simp at h

theorem readString_eq_ok_iff {cs rest : List Char} {s : String} :
    readString cs = .ok (s, rest) ↔ ∃ us, StringRest cs us rest ∧ textOf? us = some s.toList := by
  unfold readString
  constructor
  · intro h
    obtain ⟨⟨out, t⟩, hread, heq⟩ := map_eq_ok_iff.1 h
    obtain ⟨rfl, rfl⟩ := Prod.mk.inj heq
    obtain ⟨us, text, hus, htext, rfl⟩ := exists_of_readStringFrom hread
    exact ⟨us, hus, by simpa using htext⟩
  · rintro ⟨us, hus, htext⟩
    rw [hus.readStringFrom_eq htext]
    simp [Except.map]

theorem expecting_eq_ok_iff {α : Type} {expected : String}
    {read : Char → List Char → Option (Except Fault (α × List Char))} {cs rest : List Char} {a : α} :
    expecting expected read cs = .ok (a, rest)
      ↔ ∃ c t, skipSpace cs = c :: t ∧ read c t = some (.ok (a, rest)) := by
  unfold expecting
  split
  · next hspace => simp [hspace]
  · next c t hspace =>
    rw [hspace]
    cases hread : read c t with
    | none =>
      simp only [Option.getD_none, reduceCtorEq, false_iff, not_exists, not_and]
      intro d u heq
      obtain ⟨rfl, rfl⟩ := List.cons.inj heq
      simp [hread]
    | some r =>
      constructor
      · intro h
        exact ⟨c, t, rfl, by rw [hread, ← h]; rfl⟩
      · rintro ⟨d, u, heq, hsome⟩
        obtain ⟨rfl, rfl⟩ := List.cons.inj heq
        exact Option.some.inj (hread.symm.trans hsome)

/-! ## Readers -/

/-- Whether a reader takes, of texts up to a size, exactly the values that are `Made` of what the grammar
    derives, wherever a number would end. -/
structure Takes {α : Type} (read : Reader α) (size : Nat) (Made : Tree → α → Prop) : Prop where
  sound : ∀ {cs rest : List Char} {a : α}, read cs = .ok (a, rest) →
    ∃ v, Derives (.value v) cs rest ∧ Made v a
  complete : ∀ {cs rest : List Char} {v : Tree} {a : α}, cs.length ≤ size → Derives (.value v) cs rest →
    NumberEnds rest → Made v a → read cs = .ok (a, rest)

/-- Whether a `Decoder` reads from texts exactly the values that are `Made` of what they hold. -/
def Decoder.Reads {α : Type} (d : Decoder α) (Made : Tree → α → Prop) : Prop :=
  ∀ size, Takes (d.fromText size) size Made

namespace Decoder

variable {α : Type} {d : Decoder α} {Made : Tree → α → Prop}

theorem Reads.of_iff (h : d.Reads Made) {Made' : Tree → α → Prop}
    (hiff : ∀ v a, Made v a ↔ Made' v a) : d.Reads Made' := by
  have heq : Made = Made' := funext fun v => funext fun a => propext (hiff v a)
  exact heq ▸ h

/-- A decoder with `Reads` decodes a whole text just where it `Holds` something that a value is made of. -/
theorem Reads.decode_eq_ok_iff (h : d.Reads Made) (text : String) (a : α) :
    d.decode text = .ok a ↔ ∃ v, Holds text v ∧ Made v a := by
  unfold decode readAll
  constructor
  · intro hdecode
    split at hdecode
    · next hall =>
      obtain rfl := Except.ok.inj hdecode
      split at hall
      · exact absurd hall (by simp)
      · next b rest hread =>
        split at hall
        · next hend =>
          obtain rfl := Except.ok.inj hall
          obtain ⟨v, hvalue, hmade⟩ := (h _).sound hread
          exact ⟨v, ⟨rest, hvalue, hend⟩, hmade⟩
        · exact absurd hall (by simp)
    · exact absurd hdecode (by simp)
  · rintro ⟨v, ⟨rest, hvalue, hend⟩, hmade⟩
    simp only [(h _).complete (Nat.le_refl _) hvalue (numberEnds_of_end hend) hmade, hend]

end Decoder

section Elements

variable {α : Type} {element : Reader α} {size : Nat} {Made : Tree → α → Prop}

theorem Takes.of_elementsFrom (h : Takes element size Made) {fuel : Nat} {first : Bool}
    {read out : List α} {cs rest : List Char}
    (hread : elementsFrom element fuel first read cs = .ok (out, rest)) :
    ∃ vs more, Derives (.items first vs) cs rest ∧ List.Forall₂ Made vs more
      ∧ out = read.reverse ++ more := by
  induction fuel generalizing first read cs with
  | zero => exact absurd hread (by simp [elementsFrom])
  | succ fuel ih =>
    rw [elementsFrom] at hread
    split at hread
    · exact absurd hread (by simp)
    · next hend =>
      obtain ⟨u, rfl, hclose⟩ := nextElement_eq_false_iff.1 hend
      obtain ⟨⟨⟨⟩, t⟩, hlist, heq⟩ := map_eq_ok_iff.1 hread
      obtain ⟨rfl, rfl⟩ := Prod.mk.inj heq
      rw [endList_closing] at hlist
      obtain rfl := congrArg Prod.snd (Except.ok.inj hlist)
      exact ⟨[], [], .endItems hclose, .nil, by simp⟩
    · next hnext =>
      obtain ⟨u, c, t, hcomma, hspace, -, rfl⟩ := nextElement_eq_true_iff.1 hnext
      split at hread
      · exact absurd hread (by simp)
      · next a w helement =>
        obtain ⟨v, hvalue, hmade⟩ := h.sound helement
        rw [← hspace, derives_skipSpace_iff] at hvalue
        obtain ⟨vs, more, hitems, hmores, rfl⟩ := ih hread
        exact ⟨v :: vs, a :: more, .item hcomma hvalue hitems, .cons hmade hmores, by simp⟩

theorem Takes.elementsFrom_eq (h : Takes element size Made) {vs : List Tree} {as : List α}
    (hmade : List.Forall₂ Made vs as) {first : Bool} {cs rest : List Char}
    (hitems : Derives (.items first vs) cs rest) {fuel : Nat} (hfuel : cs.length < fuel)
    (hsize : cs.length ≤ size) (read : List α) :
    elementsFrom element fuel first read cs = .ok (read.reverse ++ as, rest) := by
  induction hmade generalizing first cs fuel read with
  | nil =>
    obtain ⟨fuel, rfl⟩ : ∃ k, fuel = k + 1 := ⟨fuel - 1, by omega⟩
    cases hitems with
    | endItems hclose =>
      rw [elementsFrom, nextElement_eq_false_iff.2 ⟨_, rfl, hclose⟩]
      simp [endList_closing, Except.map]
  | @cons v a vs as hvalueMade _ ih =>
    obtain ⟨fuel, rfl⟩ : ∃ k, fuel = k + 1 := ⟨fuel - 1, by omega⟩
    cases hitems with
    | @item _ _ u w _ _ _ hcomma hvalue hmore =>
      obtain ⟨c, t, hspace, hopens⟩ := hvalue.opens
      have hne : c ≠ ']' := fun heq => hvalue.not_closing (heq ▸ hspace)
      have hlength := hvalue.length_lt
      have hle := hcomma.length_le
      have hshort : (c :: t).length ≤ size := by
        have := length_skipSpace_le u
        rw [hspace] at this
        omega
      rw [← derives_skipSpace_iff, hspace] at hvalue
      rw [elementsFrom, nextElement_eq_true_iff.2 ⟨u, c, t, hcomma, hspace, hne, rfl⟩]
      simp only [h.complete hshort hvalue hmore.numberEnds_items hvalueMade]
      rw [ih hmore (by omega) (by omega)]
      simp

end Elements

namespace Decoder

/-! ## Strings, lists and optional values -/

theorem string_reads : string.Reads fun v s => ∃ us, v = .string us ∧ textOf? us = some s.toList :=
  fun _ => {
    sound := fun h => by
      obtain ⟨c, t, hspace, hread⟩ := expecting_eq_ok_iff.1 h
      split_ifs at hread with hquote
      obtain rfl : c = '"' := by simpa using hquote
      obtain ⟨us, hus, htext⟩ := readString_eq_ok_iff.1 (Option.some.inj hread)
      exact ⟨.string us, .string hspace hus, us, rfl, htext⟩
    complete := by
      rintro cs rest _ s - hvalue - ⟨us, rfl, htext⟩
      cases hvalue with
      | string hopen hstring =>
        refine expecting_eq_ok_iff.2 ⟨_, _, hopen, ?_⟩
        rw [if_pos (by rfl), readString_eq_ok_iff.2 ⟨us, hstring, htext⟩] }

variable {α : Type} {d : Decoder α} {Made : Tree → α → Prop}

theorem Reads.list (h : d.Reads Made) :
    (list d).Reads fun v as => ∃ vs, v = .list vs ∧ List.Forall₂ Made vs as := fun size => {
  sound := fun hread => by
    obtain ⟨c, t, hspace, hread⟩ := expecting_eq_ok_iff.1 hread
    split_ifs at hread with hbracket
    obtain rfl : c = '[' := by simpa using hbracket
    obtain ⟨vs, as, hitems, hmade, rfl⟩ := (h size).of_elementsFrom (Option.some.inj hread)
    exact ⟨.list vs, .list hspace hitems, vs, rfl, hmade⟩
  complete := by
    rintro cs rest _ as hsize hvalue - ⟨vs, rfl, hmade⟩
    cases hvalue with
    | list hopen hitems =>
      have := length_lt_of_skipSpace hopen
      refine expecting_eq_ok_iff.2 ⟨_, _, hopen, ?_⟩
      rw [if_pos (by rfl), elements,
        (h size).elementsFrom_eq hmade hitems (by omega) (by omega)]
      rfl }

theorem Reads.optional (h : d.Reads Made) :
    (optional d).Reads fun v o => v = .null ∧ o = none ∨ v ≠ .null ∧ ∃ a, Made v a ∧ o = some a :=
  fun size => {
    sound := by
      intro cs rest o hread
      simp only [Decoder.optional] at hread
      split at hread
      · next t hspace =>
        obtain ⟨⟨⟨⟩, u⟩, hword, heq⟩ := map_eq_ok_iff.1 hread
        obtain ⟨rfl, rfl⟩ := Prod.mk.inj heq
        rw [word_eq_ok_iff.1 hword] at hspace
        exact ⟨.null, .nullWord (by simpa using hspace), .inl ⟨rfl, rfl⟩⟩
      · next hnull =>
        obtain ⟨⟨a, u⟩, hinner, heq⟩ := map_eq_ok_iff.1 hread
        obtain ⟨rfl, rfl⟩ := Prod.mk.inj heq
        obtain ⟨v, hvalue, hmade⟩ := (h size).sound hinner
        refine ⟨v, derives_skipSpace_iff.1 hvalue, .inr ⟨?_, a, hmade, rfl⟩⟩
        rintro rfl
        cases hvalue with
        | nullWord hword => exact hnull _ (by rwa [skipSpace_idem] at hword)
    complete := by
      rintro cs rest v o hsize hvalue hends (⟨rfl, rfl⟩ | ⟨hne, a, hmade, rfl⟩)
      · cases hvalue with
        | nullWord hword =>
          simp only [Decoder.optional, hword]
          rfl
      · have hinner := (h size).complete (Nat.le_trans (length_skipSpace_le cs) hsize)
          (derives_skipSpace_iff.2 hvalue) hends hmade
        simp only [Decoder.optional]
        split
        · next t hspace =>
          -- Only null begins so.
          obtain ⟨c, u, hspace', hopens⟩ := hvalue.opens
          obtain ⟨rfl, -⟩ := List.cons.inj (hspace'.symm.trans hspace)
          exact absurd (Tree.Opens.sameKind (v := .null) rfl hopens) hne
        · rw [hinner]
          rfl }

end Decoder

/-! ## Records of one field -/

/-- The values of the members under a name, by the `textOf?` their names. -/
def Tree.column (name : String) (ms : List (List Nat × Tree)) : List Tree :=
  ms.filterMap fun m => if textOf? m.1 = some name.toList then some m.2 else none

theorem Tree.column_cons_self {name : String} {units : List Nat} (h : textOf? units = some name.toList)
    (v : Tree) (ms : List (List Nat × Tree)) :
    Tree.column name ((units, v) :: ms) = v :: Tree.column name ms := by
  simp [Tree.column, h]

theorem Tree.column_cons_of_ne {name : String} {units : List Nat}
    (h : textOf? units ≠ some name.toList) (v : Tree) (ms : List (List Nat × Tree)) :
    Tree.column name ((units, v) :: ms) = Tree.column name ms := by
  simp [Tree.column, h]

/-- Whether an optional field is read from its column, which holds one value at most, and the field is not
    read twice. -/
inductive ColumnRead {β : Type} (Made : Tree → β → Prop) : List Tree → Option β → Option β → Prop
  | skip (s : Option β) : ColumnRead Made [] s s
  | take {v : Tree} {b : β} (hmade : Made v b) : ColumnRead Made [v] none (some b)

theorem columnRead_none_iff {β : Type} {Made : Tree → β → Prop} {column : List Tree} :
    ColumnRead Made column none none ↔ column = [] := by
  constructor
  · intro h
    cases h
    rfl
  · rintro rfl
    exact .skip none

theorem columnRead_some_iff {β : Type} {Made : Tree → β → Prop} {column : List Tree} {b : β} :
    ColumnRead Made column none (some b) ↔ ∃ v, column = [v] ∧ Made v b := by
  constructor
  · intro h
    cases h with
    | take hmade => exact ⟨_, rfl, hmade⟩
  · rintro ⟨v, rfl, hmade⟩
    exact .take hmade

/-- What a `record` of one field is made of: an object whose names are texts, with a column of the field's
    name, or an array with the field as its only element. -/
def RecordMade {α β : Type} (name : String) (absence : Decoder.Absence) (Made : Tree → β → Prop)
    (finish : Option β → Except String α) (v : Tree) (a : α) : Prop :=
  ∃ s, finish s = .ok a ∧ match v with
    | .object ms => (∀ m ∈ ms, (textOf? m.1).isSome) ∧ ColumnRead Made (Tree.column name ms) none s
    | .list vs => (vs = [] → absence = .allowed) ∧ ColumnRead Made vs none s
    | _ => False

namespace Decoder

section Record

variable {α β : Type} {form : Form (Option β) α} {name : String} {absence : Absence} {d : Decoder β}
  {Made : Tree → β → Prop}
  (hfields : form.fields = [field name absence d id fun b _ => some b]) (hclosed : form.closed = false)

include hfields in
theorem field?_of_one (title : String) :
    form.field? title = if title = name then some (field name absence d id fun b _ => some b) else none := by
  rw [Form.field?, hfields]
  by_cases htitle : title = name
  · simp [field, htitle]
  · simp [field, htitle, Ne.symm htitle]

include hfields hclosed in
theorem memberFromText_eq_ok_iff {size : Nat} {s s' : Option β} {title : String} {cs rest : List Char} :
    form.memberFromText size s title cs = .ok (s', rest)
      ↔ ∃ t, skipSpace cs = ':' :: t
        ∧ (title = name ∧ s = none ∧ (∃ b, d.fromText size t = .ok (b, rest) ∧ s' = some b)
          ∨ title ≠ name ∧ skipValue t = .ok ((), rest) ∧ s' = s) := by
  rw [Form.memberFromText, field?_of_one hfields]
  by_cases htitle : title = name
  · cases s with
    | some b => simp [htitle, field]
    | none =>
      simp only [htitle, if_true, field, id, Option.isSome_none, Bool.false_eq_true, if_false, true_and,
        ne_eq, not_true_eq_false, false_and, or_false]
      rw [bind_eq_ok_iff]
      constructor
      · rintro ⟨⟨⟨⟩, t⟩, hcolon, hread⟩
        obtain ⟨⟨b, u⟩, hvalue, heq⟩ := map_eq_ok_iff.1 hread
        obtain ⟨rfl, rfl⟩ := Prod.mk.inj heq
        exact ⟨t, colon_eq_ok_iff.1 hcolon, b, hvalue, rfl⟩
      · rintro ⟨t, hcolon, b, hvalue, rfl⟩
        exact ⟨((), t), colon_eq_ok_iff.2 hcolon, map_eq_ok_iff.2 ⟨(b, rest), hvalue, rfl⟩⟩
  · simp only [htitle, if_false, hclosed, Bool.false_eq_true, false_and, false_or, ne_eq,
      not_false_eq_true, true_and]
    rw [bind_eq_ok_iff]
    constructor
    · rintro ⟨⟨⟨⟩, t⟩, hcolon, hread⟩
      obtain ⟨⟨⟨⟩, u⟩, hvalue, heq⟩ := map_eq_ok_iff.1 hread
      obtain ⟨rfl, rfl⟩ := Prod.mk.inj heq
      exact ⟨t, colon_eq_ok_iff.1 hcolon, hvalue, rfl⟩
    · rintro ⟨t, hcolon, hvalue, rfl⟩
      exact ⟨((), t), colon_eq_ok_iff.2 hcolon, map_eq_ok_iff.2 ⟨((), rest), hvalue, rfl⟩⟩

variable (hread : d.Reads Made)

include hfields hclosed hread in
theorem exists_of_membersFrom {size fuel : Nat} {first : Bool} {s s' : Option β} {cs rest : List Char}
    (h : membersFrom (form.memberFromText size) fuel first s cs = .ok (s', rest)) :
    ∃ ms, Derives (.members first ms) cs rest ∧ (∀ m ∈ ms, (textOf? m.1).isSome)
      ∧ ColumnRead Made (Tree.column name ms) s s' := by
  induction fuel generalizing first s cs with
  | zero => exact absurd h (by simp [membersFrom])
  | succ fuel ih =>
    rw [membersFrom] at h
    split at h
    · exact absurd h (by simp)
    · next hend =>
      obtain ⟨u, rfl, hclose⟩ := nextName_eq_none_iff.1 hend
      obtain ⟨rfl, rfl⟩ := Prod.mk.inj (Except.ok.inj h)
      rw [afterObject_closing]
      exact ⟨[], .endMembers hclose, by simp, .skip s⟩
    · next title t hname =>
      obtain ⟨u, w, hcomma, hopen, hstring⟩ := nextName_eq_some_iff.1 hname
      obtain ⟨units, hunits, htext⟩ := readString_eq_ok_iff.1 hstring
      split at h
      · exact absurd h (by simp)
      · next s₁ x hmember =>
        obtain ⟨ms, hms, htexts, hcolumn⟩ := ih h
        obtain ⟨y, hcolon, ⟨rfl, rfl, b, hvalue, rfl⟩ | ⟨hne, hskip, rfl⟩⟩ :=
          (memberFromText_eq_ok_iff hfields hclosed).1 hmember
        · obtain ⟨v, hderives, hmade⟩ := (hread size).sound hvalue
          refine ⟨(units, v) :: ms, .member hcomma hopen hunits hcolon hderives hms, ?_, ?_⟩
          · simpa [htext] using htexts
          · rw [Tree.column_cons_self htext]
            generalize Tree.column _ ms = column at hcolumn
            cases hcolumn with
            | skip => exact .take hmade
        · obtain ⟨v, hderives⟩ := exists_derives_of_skipValue hskip
          refine ⟨(units, v) :: ms, .member hcomma hopen hunits hcolon hderives hms, ?_, ?_⟩
          · simpa [htext] using htexts
          · rw [Tree.column_cons_of_ne]
            · exact hcolumn
            · rw [htext]
              exact fun heq => hne (String.toList_injective (Option.some.inj heq))

include hfields hclosed hread in
theorem membersFrom_eq {size : Nat} {ms : List (List Nat × Tree)} {first : Bool} {s s' : Option β}
    {cs rest : List Char} (hmembers : Derives (.members first ms) cs rest)
    (htexts : ∀ m ∈ ms, (textOf? m.1).isSome) (hcolumn : ColumnRead Made (Tree.column name ms) s s')
    {fuel : Nat} (hfuel : cs.length < fuel) (hsize : cs.length ≤ size) :
    membersFrom (form.memberFromText size) fuel first s cs = .ok (s', rest) := by
  induction ms generalizing first s cs fuel with
  | nil =>
    obtain ⟨fuel, rfl⟩ : ∃ k, fuel = k + 1 := ⟨fuel - 1, by omega⟩
    cases hcolumn with
    | skip =>
      cases hmembers with
      | endMembers hclose =>
        rw [membersFrom, nextName_eq_none_iff.2 ⟨_, rfl, hclose⟩]
        simp [afterObject_closing]
  | cons m ms ih =>
    obtain ⟨fuel, rfl⟩ : ∃ k, fuel = k + 1 := ⟨fuel - 1, by omega⟩
    cases hmembers with
    | @member _ _ t u w x y _ units v _ hcomma hopen hname hcolon hvalue hmore =>
      rw [List.forall_mem_cons] at htexts
      obtain ⟨text, htext⟩ := Option.isSome_iff_exists.1 htexts.1
      have hstring : readString u = .ok (String.ofList text, w) :=
        readString_eq_ok_iff.2 ⟨units, hname, by simpa using htext⟩
      have h₁ := hcomma.length_le
      have h₂ := length_lt_of_skipSpace hopen
      have h₃ := hname.length_lt
      have h₄ := length_lt_of_skipSpace hcolon
      have h₅ := hvalue.length_lt
      rw [membersFrom, nextName_eq_some_iff.2 ⟨t, u, hcomma, hopen, hstring⟩]
      by_cases htitle : String.ofList text = name
      · subst htitle
        rw [Tree.column_cons_self (by simpa using htext)] at hcolumn
        generalize hrest : Tree.column _ ms = column at hcolumn
        cases hcolumn with
        | @take _ b hmade =>
          have hfield := (hread size).complete (by omega) hvalue hmore.numberEnds_members hmade
          have hmember : form.memberFromText size none (String.ofList text) w = .ok (some b, y) :=
            (memberFromText_eq_ok_iff hfields hclosed).2 ⟨x, hcolon, .inl ⟨rfl, rfl, b, hfield, rfl⟩⟩
          simp only [hmember]
          exact ih hmore htexts.2 (hrest ▸ .skip _) (by omega) (by omega)
      · have hskip := hvalue.skipValue_eq hmore.numberEnds_members
        have hmember : form.memberFromText size s (String.ofList text) w = .ok (s, y) :=
          (memberFromText_eq_ok_iff hfields hclosed).2 ⟨x, hcolon, .inr ⟨htitle, hskip, rfl⟩⟩
        rw [Tree.column_cons_of_ne] at hcolumn
        · simp only [hmember]
          exact ih hmore htexts.2 hcolumn (by omega) (by omega)
        · rw [htext]
          exact fun heq => htitle (by rw [Option.some.inj heq, String.ofList_toList])

include hfields hread in
theorem exists_of_fieldsFromText {size : Nat} {s : Option β} {cs t rest : List Char}
    (h : form.fieldsFromText size 0 none form.fields cs = .ok (s, t))
    (hend : endList t = .ok ((), rest)) :
    ∃ vs, Derives (.items true vs) cs rest ∧ (vs = [] → absence = .allowed)
      ∧ ColumnRead Made vs none s := by
  rw [hfields, Form.fieldsFromText] at h
  split at h
  · exact absurd h (by simp)
  · next hnext =>
    obtain ⟨u, rfl, hclose⟩ := nextElement_eq_false_iff.1 hnext
    split at h
    · next hlacking =>
      obtain ⟨rfl, rfl⟩ := Prod.mk.inj (Except.ok.inj h)
      obtain rfl := congrArg Prod.snd (Except.ok.inj ((endList_closing u).symm.trans hend))
      refine ⟨[], .endItems hclose, fun _ => ?_, .skip none⟩
      exact (Form.lacking_eq_ok_iff 0 _).1 hlacking _ List.mem_cons_self
    · exact absurd h (by simp)
  · next hnext =>
    obtain ⟨u, c, w, hcomma, hspace, -, rfl⟩ := nextElement_eq_true_iff.1 hnext
    split at h
    · exact absurd h (by simp)
    · next s₁ x hfield =>
      obtain ⟨⟨b, y⟩, hvalue, heq⟩ := map_eq_ok_iff.1 hfield
      obtain ⟨rfl, rfl⟩ := Prod.mk.inj heq
      obtain ⟨rfl, rfl⟩ := Prod.mk.inj (Except.ok.inj h)
      obtain ⟨v, hderives, hmade⟩ := (hread size).sound hvalue
      rw [← hspace, derives_skipSpace_iff] at hderives
      exact ⟨[v], .item hcomma hderives (.endItems (endList_eq_ok_iff.1 hend)), by simp, .take hmade⟩

include hfields hread in
theorem fieldsFromText_eq {size : Nat} {s : Option β} {vs : List Tree} {cs rest : List Char}
    (hitems : Derives (.items true vs) cs rest) (habsence : vs = [] → absence = .allowed)
    (hcolumn : ColumnRead Made vs none s) (hsize : cs.length ≤ size) :
    ∃ t, form.fieldsFromText size 0 none form.fields cs = .ok (s, t) ∧ endList t = .ok ((), rest) := by
  rw [hfields, Form.fieldsFromText]
  cases hcolumn with
  | skip =>
    cases hitems with
    | endItems hclose =>
      have hlacking : form.lacking 0 [field name absence d id fun b _ => some b] = .ok () :=
        (Form.lacking_eq_ok_iff 0 _).2 (by simp [field, habsence rfl])
      refine ⟨_, ?_, endList_closing rest⟩
      simp [nextElement_eq_false_iff.2 ⟨_, rfl, hclose⟩, hlacking]
  | @take v b hmade =>
    cases hitems with
    | @item _ _ t u _ _ _ hcomma hvalue hmore =>
      obtain rfl := hcomma
      obtain ⟨c, w, hspace, -⟩ := hvalue.opens
      have hne : c ≠ ']' := fun heq => hvalue.not_closing (heq ▸ hspace)
      have hshort : (c :: w).length ≤ size :=
        hspace ▸ Nat.le_trans (length_skipSpace_le t) hsize
      rw [← derives_skipSpace_iff, hspace] at hvalue
      have hfield := (hread size).complete hshort hvalue hmore.numberEnds_items hmade
      cases hmore with
      | endItems hclose =>
        have hnext : nextElement true t = .ok (true, c :: w) :=
          nextElement_eq_true_iff.2 ⟨t, c, w, rfl, hspace, hne, rfl⟩
        refine ⟨u, ?_, endList_eq_ok_iff.2 hclose⟩
        simp only [beq_self_eq_true, hnext, field, hfield, Except.map, Form.fieldsFromText]

/-- An open `record` of one field is read from objects and from arrays just as `RecordMade` says. -/
theorem Reads.record (hfields : form.fields = [field name absence d id fun b _ => some b])
    (hclosed : form.closed = false) (hstart : form.start = none) (hread : d.Reads Made) :
    (record form).Reads (RecordMade name absence Made form.finish) := fun size => {
  sound := by
    intro cs rest a h
    obtain ⟨c, t, hspace, h⟩ := expecting_eq_ok_iff.1 h
    split_ifs at h with hbracket hbrace
    · obtain rfl : c = '[' := by simpa using hbracket
      rw [Option.some.injEq, hstart] at h
      split at h
      · exact absurd h (by simp)
      · next s u hlist =>
        split at h
        · exact absurd h (by simp)
        · next hcomplete =>
          obtain ⟨⟨⟨⟩, w⟩, hend, heq⟩ := map_eq_ok_iff.1 h
          obtain ⟨rfl, rfl⟩ := Prod.mk.inj heq
          obtain ⟨vs, hitems, habsence, hcolumn⟩ := exists_of_fieldsFromText hfields hread hlist hend
          exact ⟨.list vs, .list hspace hitems, s, (Form.complete_eq_ok_iff s _).1 hcomplete, habsence,
            hcolumn⟩
    · obtain rfl : c = '\x7b' := by simpa using hbrace
      rw [Option.some.injEq, hstart] at h
      split at h
      · exact absurd h (by simp)
      · next s u hobject =>
        split at h
        · exact absurd h (by simp)
        · next hcomplete =>
          obtain ⟨rfl, rfl⟩ := Prod.mk.inj (Except.ok.inj h)
          obtain ⟨ms, hmembers, htexts, hcolumn⟩ := exists_of_membersFrom hfields hclosed hread hobject
          exact ⟨.object ms, .object hspace hmembers, s, (Form.complete_eq_ok_iff s _).1 hcomplete,
            htexts, hcolumn⟩
  complete := by
    rintro cs rest v a hsize hvalue - ⟨s, hfinish, hmade⟩
    have hcomplete := (Form.complete_eq_ok_iff s a).2 hfinish
    cases hvalue with
    | list hopen hitems =>
      obtain ⟨habsence, hcolumn⟩ := hmade
      have hsize' := Nat.le_trans (Nat.le_of_lt (length_lt_of_skipSpace hopen)) hsize
      obtain ⟨t, hlist, hend⟩ := fieldsFromText_eq hfields hread hitems habsence hcolumn hsize'
      refine expecting_eq_ok_iff.2 ⟨_, _, hopen, ?_⟩
      simp only [beq_self_eq_true, if_true, hstart, hlist, hcomplete, hend]
      rfl
    | object hopen hmembers =>
      obtain ⟨htexts, hcolumn⟩ := hmade
      have hsize' := Nat.le_trans (Nat.le_of_lt (length_lt_of_skipSpace hopen)) hsize
      have hobject := membersFrom_eq hfields hclosed hread hmembers htexts hcolumn
        (Nat.lt_succ_of_le hsize') hsize'
      refine expecting_eq_ok_iff.2 ⟨_, _, hopen, ?_⟩
      simp [members, hstart, hobject, hcomplete]
    | _ => exact hmade.elim }

end Record

end Decoder

end PageRisk.Json
