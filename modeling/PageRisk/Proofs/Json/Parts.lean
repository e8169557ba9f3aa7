import PageRisk.Json.Container
import PageRisk.Proofs.Except
import PageRisk.Proofs.Json.Scalar

set_option autoImplicit false

/-! # Lists and objects read back

What stands between the parts of a list or an object is told by what the readers of commas, colons, names
and closing brackets take (`nextElement_eq_true_iff`, `nextName_eq_some_iff`). Parts that are read back
one by one are read back between their commas and brackets, whatever white space stands around them: the
elements of a list (`elements_parts`), and the members of an object, whatever is made of them
(`members_parts`). -/

namespace PageRisk.Json

/-! ## Places between parts -/

/-- A number ends before white space. -/
theorem numberEnds_space {c : Char} (h : isSpace c = true) (rest : List Char) :
    NumberEnds (c :: rest) := by
  simp only [isSpace, Bool.or_eq_true, beq_iff_eq, or_assoc] at h
  intro d hd
  cases Option.some.inj hd
  obtain rfl | rfl | rfl | rfl := h <;> decide

theorem numberEnds_mark {c : Char} (h : c = ',' ∨ c = ']' ∨ c = '\x7d') (rest : List Char) :
    NumberEnds (c :: rest) := by
  intro d hd
  cases Option.some.inj hd
  obtain rfl | rfl | rfl := h <;> decide

theorem numberEnds_closing {ws : List Char} (hws : ∀ c ∈ ws, isSpace c = true) {c : Char}
    (h : c = ']' ∨ c = '\x7d') (rest : List Char) : NumberEnds (ws ++ c :: rest) := by
  cases ws with
  | nil => exact numberEnds_mark (.inr h) rest
  | cons s ws => exact numberEnds_space (hws s List.mem_cons_self) _

/-- Parts after the first one, each on its line after a comma. -/
def joined (ws : List Char) (parts : List (List Char)) : List Char :=
  parts.flatMap fun part => ',' :: (ws ++ part)

theorem joined_cons (ws part : List Char) (parts : List (List Char)) :
    joined ws (part :: parts) = ',' :: (ws ++ (part ++ joined ws parts)) := by
  simp [joined]

theorem numberEnds_joined (ws : List Char) {closingSpace : List Char}
    (hclosing : ∀ c ∈ closingSpace, isSpace c = true) {c : Char} (h : c = ']' ∨ c = '\x7d')
    (parts : List (List Char)) (rest : List Char) :
    NumberEnds (joined ws parts ++ (closingSpace ++ c :: rest)) := by
  cases parts with
  | nil => exact numberEnds_closing hclosing h rest
  | cons part parts =>
    rw [joined_cons]
    exact numberEnds_mark (.inl rfl) _

/-! ## Commas, colons and closing brackets -/

/-- A comma goes before every part but the first. -/
def Separated (first : Bool) (cs rest : List Char) : Prop :=
  if first then rest = cs else skipSpace cs = ',' :: rest

theorem colon_eq_ok_iff {cs rest : List Char} :
    colon cs = .ok ((), rest) ↔ skipSpace cs = ':' :: rest := by
  refine ⟨fun h => ?_, fun h => by simp [colon, h]⟩
  unfold colon at h
  split at h
  · exact absurd h (by simp)
  · next hmark =>
    obtain rfl := congrArg Prod.snd (Except.ok.inj h)
    exact hmark
  · exact absurd h (by simp)

theorem endList_eq_ok_iff {cs rest : List Char} :
    endList cs = .ok ((), rest) ↔ skipSpace cs = ']' :: rest := by
  refine ⟨fun h => ?_, fun h => by simp [endList, h]⟩
  unfold endList at h
  split at h
  · exact absurd h (by simp)
  · next hmark =>
    obtain rfl := congrArg Prod.snd (Except.ok.inj h)
    exact hmark
  · split at h <;> exact absurd h (by simp)
  · exact absurd h (by simp)

/-- `nextElement` says that the array ends just where its closing bracket is next. -/
theorem nextElement_eq_false_iff {first : Bool} {cs t : List Char} :
    nextElement first cs = .ok (false, t) ↔ ∃ rest, t = ']' :: rest ∧ skipSpace cs = ']' :: rest := by
  constructor
  · intro h
    unfold nextElement at h
    split at h
    · exact absurd h (by simp)
    · next rest hmark =>
      obtain rfl := congrArg Prod.snd (Except.ok.inj h)
      exact ⟨rest, rfl, hmark⟩
    · split_ifs at h
      · exact absurd h (by simp)
      · split at h <;> exact absurd h (by simp)
  · rintro ⟨rest, rfl, hmark⟩
    simp [nextElement, hmark]

theorem nextElement_eq_true_iff {first : Bool} {cs t : List Char} :
    nextElement first cs = .ok (true, t)
      ↔ ∃ u c rest, Separated first cs u ∧ skipSpace u = c :: rest ∧ c ≠ ']' ∧ t = c :: rest := by
  constructor
  · intro h
    unfold nextElement at h
    split at h
    · exact absurd h (by simp)
    · exact absurd h (by simp)
    · next c rest hbracket hspace =>
      split_ifs at h with hfirst hcomma
      · obtain rfl := congrArg Prod.snd (Except.ok.inj h)
        exact ⟨cs, c, rest, by simp [Separated, hfirst], hspace, hbracket, rfl⟩
      · obtain rfl : c = ',' := by simpa using hcomma
        split at h
        · exact absurd h (by simp)
        · exact absurd h (by simp)
        · next u hempty hclose =>
          obtain rfl := congrArg Prod.snd (Except.ok.inj h)
          obtain ⟨d, more, hmore⟩ := List.exists_cons_of_ne_nil hempty
          refine ⟨rest, d, more, by simpa [Separated, hfirst] using hspace, hmore, ?_, hmore⟩
          rintro rfl
          exact hclose more hmore
  · rintro ⟨u, c, rest, hcomma, hspace, hne, rfl⟩
    cases first with
    | true =>
      obtain rfl := hcomma
      simp [nextElement, hspace]
    | false =>
      have hmark : skipSpace cs = ',' :: u := hcomma
      simp [nextElement, hmark, hspace, hne]

theorem nextName_eq_none_iff {first : Bool} {cs t : List Char} :
    nextName first cs = .ok (none, t)
      ↔ ∃ rest, t = '\x7d' :: rest ∧ skipSpace cs = '\x7d' :: rest := by
  have hnone {r : Except Fault (String × List Char)} :
      (r.map fun read => (some read.1, read.2)) ≠ .ok (none, t) := by
    cases r <;> simp [Except.map]
  constructor
  · intro h
    unfold nextName at h
    split at h
    · exact absurd h (by simp)
    · next rest hmark =>
      obtain rfl := congrArg Prod.snd (Except.ok.inj h)
      exact ⟨rest, rfl, hmark⟩
    · split_ifs at h
      · exact absurd h hnone
      · split at h
        · exact absurd h (by simp)
        · exact absurd h hnone
        · exact absurd h (by simp)
        · exact absurd h (by simp)
  · rintro ⟨rest, rfl, hmark⟩
    simp [nextName, hmark]

theorem nextName_eq_some_iff {first : Bool} {cs t : List Char} {name : String} :
    nextName first cs = .ok (some name, t)
      ↔ ∃ u w, Separated first cs u ∧ skipSpace u = '"' :: w ∧ readString w = .ok (name, t) := by
  have hname {r : Except Fault (String × List Char)}
      (h : (r.map fun read => (some read.1, read.2)) = .ok (some name, t)) : r = .ok (name, t) := by
    obtain ⟨⟨name', t'⟩, rfl, heq⟩ := map_eq_ok_iff.1 h
    simpa using heq
  constructor
  · intro h
    unfold nextName at h
    split at h
    · exact absurd h (by simp)
    · exact absurd h (by simp)
    · next c rest hbracket hspace =>
      split_ifs at h with hfirst hquote hcomma
      · obtain rfl : c = '"' := by simpa using hquote
        exact ⟨cs, rest, by simp [Separated, hfirst], hspace, hname h⟩
      · obtain rfl : c = ',' := by simpa using hcomma
        split at h
        · exact absurd h (by simp)
        · next w hopen =>
          exact ⟨rest, w, by simpa [Separated, hfirst] using hspace, hopen, hname h⟩
        · exact absurd h (by simp)
        · exact absurd h (by simp)
  · rintro ⟨u, w, hcomma, hspace, hname⟩
    cases first with
    | true =>
      obtain rfl := hcomma
      simp [nextName, hspace, hname, Except.map]
    | false =>
      have hmark : skipSpace cs = ',' :: u := hcomma
      simp [nextName, hmark, hspace, hname, Except.map]

/-! ## Lists -/

section Parts

variable {ws closingSpace : List Char} (hws : ∀ c ∈ ws, isSpace c = true)
  (hclosing : ∀ c ∈ closingSpace, isSpace c = true)

/-- Whether a text can stand as an element of a list: it begins with neither white space nor the
    closing bracket. -/
def StartsElement (text : List Char) : Prop :=
  ∃ c cs, text = c :: cs ∧ isSpace c = false ∧ c ≠ ']'

include hws in
theorem nextElement_first {text : List Char} (h : StartsElement text) (rest : List Char) :
    nextElement true (ws ++ (text ++ rest)) = .ok (true, text ++ rest) := by
  obtain ⟨c, cs, rfl, hspace, hne⟩ := h
  refine nextElement_eq_true_iff.2 ⟨_, c, cs ++ rest, rfl, ?_, hne, rfl⟩
  rw [skipSpace_append hws, List.cons_append, skipSpace_of_bare hspace]

include hws in
theorem nextElement_comma {text : List Char} (h : StartsElement text) (rest : List Char) :
    nextElement false (',' :: (ws ++ (text ++ rest))) = .ok (true, text ++ rest) := by
  obtain ⟨c, cs, rfl, hspace, hne⟩ := h
  refine nextElement_eq_true_iff.2 ⟨_, c, cs ++ rest, skipSpace_of_bare (by decide) _, ?_, hne, rfl⟩
  rw [skipSpace_append hws, List.cons_append, skipSpace_of_bare hspace]

include hclosing in
theorem nextElement_closing (first : Bool) (rest : List Char) :
    nextElement first (closingSpace ++ ']' :: rest) = .ok (false, ']' :: rest) := by
  refine nextElement_eq_false_iff.2 ⟨rest, rfl, ?_⟩
  rw [skipSpace_append hclosing, skipSpace_of_bare (by decide)]

theorem endList_closing (rest : List Char) : endList (']' :: rest) = .ok ((), rest) :=
  endList_eq_ok_iff.2 (skipSpace_of_bare (by decide) rest)

/-- Whether a reader reads a text as a value, wherever a number would end (`NumberEnds`). -/
def ReadsAs {β : Type} (element : Reader β) (text : List Char) (b : β) : Prop :=
  ∀ rest, NumberEnds rest → element (text ++ rest) = .ok (b, rest)

/-- Whether a reader reads back the `text` of a value (`ReadsAs`). -/
def ReadsBack {α : Type} (element : Reader α) (text : α → List Char) (a : α) : Prop :=
  ReadsAs element (text a) a

variable {α β : Type} {element : Reader β} {text : α → List Char} {f : α → β}

include hws hclosing in
/-- `elementsFrom` goes on from elements that were read with those that are `joined` behind them. -/
theorem elementsFrom_joined {items : List α}
    (hread : ∀ a ∈ items, ReadsAs element (text a) (f a))
    (hstart : ∀ a ∈ items, StartsElement (text a)) {fuel : Nat} (hfuel : items.length < fuel)
    (read : List β) (rest : List Char) :
    elementsFrom element fuel false read
        (joined ws (items.map text) ++ (closingSpace ++ ']' :: rest))
      = .ok (read.reverse ++ items.map f, rest) := by
  induction items generalizing fuel read with
  | nil =>
    obtain ⟨fuel, rfl⟩ := Nat.exists_eq_add_of_lt hfuel
    simp [joined, elementsFrom, nextElement_closing hclosing, endList_closing, Except.map]
  | cons a items ih =>
    obtain ⟨fuel, rfl⟩ : ∃ k, fuel = k + 1 := ⟨fuel - 1, by omega⟩
    -- A number would go on with what follows it, were that not a comma, a space or a bracket.
    have ha := hread a List.mem_cons_self
      (joined ws (items.map text) ++ (closingSpace ++ ']' :: rest))
      (numberEnds_joined ws hclosing (.inl rfl) _ rest)
    rw [List.length_cons] at hfuel
    rw [List.map_cons, joined_cons, List.cons_append, List.append_assoc, List.append_assoc,
      elementsFrom, nextElement_comma hws (hstart a List.mem_cons_self)]
    simp only [ha]
    rw [ih (fun b hb => hread b (List.mem_cons_of_mem _ hb))
      (fun b hb => hstart b (List.mem_cons_of_mem _ hb)) (by omega)]
    simp

include hws hclosing in
/-- Elements with `ReadsAs` are read by `elements` as a list, in whatever white space. -/
theorem elements_parts {a : α} {items : List α}
    (hread : ∀ b ∈ a :: items, ReadsAs element (text b) (f b))
    (hstart : ∀ b ∈ a :: items, StartsElement (text b)) {fuel : Nat}
    (hfuel : (a :: items).length ≤ fuel) (rest : List Char) :
    elements fuel element
        (ws ++ (text a ++ (joined ws (items.map text) ++ (closingSpace ++ ']' :: rest))))
      = .ok ((a :: items).map f, rest) := by
  have ha := hread a List.mem_cons_self
    (joined ws (items.map text) ++ (closingSpace ++ ']' :: rest))
    (numberEnds_joined ws hclosing (.inl rfl) _ rest)
  rw [elements, elementsFrom, nextElement_first hws (hstart a List.mem_cons_self)]
  simp only [ha]
  rw [elementsFrom_joined hws hclosing (fun b hb => hread b (List.mem_cons_of_mem _ hb))
    (fun b hb => hstart b (List.mem_cons_of_mem _ hb)) hfuel]
  rfl

end Parts

/-! ## Objects -/

section Members

variable {ws gap closingSpace : List Char} (hws : ∀ c ∈ ws, isSpace c = true)
  (hclosing : ∀ c ∈ closingSpace, isSpace c = true)

include hws in
theorem nextName_first (name : String) (rest : List Char) :
    nextName true (ws ++ (stringText name ++ rest)) = .ok (some name, rest) := by
  refine nextName_eq_some_iff.2 ⟨_, _, rfl, ?_, readString_body name rest⟩
  rw [skipSpace_append hws, stringText, List.cons_append, skipSpace_of_bare (by decide),
    List.append_assoc, List.singleton_append]

include hws in
theorem nextName_comma (name : String) (rest : List Char) :
    nextName false (',' :: (ws ++ (stringText name ++ rest))) = .ok (some name, rest) := by
  refine nextName_eq_some_iff.2 ⟨_, _, skipSpace_of_bare (by decide) _, ?_, readString_body name rest⟩
  rw [skipSpace_append hws, stringText, List.cons_append, skipSpace_of_bare (by decide),
    List.append_assoc, List.singleton_append]

include hclosing in
theorem nextName_closing (first : Bool) (rest : List Char) :
    nextName first (closingSpace ++ '\x7d' :: rest) = .ok (none, '\x7d' :: rest) := by
  refine nextName_eq_none_iff.2 ⟨rest, rfl, ?_⟩
  rw [skipSpace_append hclosing, skipSpace_of_bare (by decide)]

theorem afterObject_closing (rest : List Char) : afterObject ('\x7d' :: rest) = rest := by
  rw [afterObject, skipSpace_of_bare (by decide)]
  rfl

theorem colon_cons (rest : List Char) : colon (':' :: rest) = .ok ((), rest) := rfl

/-- A member with white space after its colon. -/
def memberText (gap : List Char) (text : Json → List Char) (m : String × Json) : List Char :=
  stringText m.1 ++ ':' :: (gap ++ text m.2)

/-- Whether members are read one after the other by `member` from one state to another, wherever a number
    would end. -/
inductive MembersRead {σ : Type} (member : σ → String → Reader σ) (gap : List Char)
    (text : Json → List Char) : List (String × Json) → σ → σ → Prop
  | nil (s : σ) : MembersRead member gap text [] s s
  | cons {m : String × Json} {ms : List (String × Json)} {s t u : σ}
      (hread : ∀ rest, NumberEnds rest →
        member s m.1 (':' :: (gap ++ (text m.2 ++ rest))) = .ok (t, rest))
      (hrest : MembersRead member gap text ms t u) : MembersRead member gap text (m :: ms) s u

variable {σ : Type} {member : σ → String → Reader σ} {text : Json → List Char}

include hws hclosing in
/-- `membersFrom` goes on from members that were read with those that are `joined` behind them. -/
theorem membersFrom_joined {ms : List (String × Json)} {s u : σ}
    (h : MembersRead member gap text ms s u) {fuel : Nat} (hfuel : ms.length < fuel)
    (rest : List Char) :
    membersFrom member fuel false s
        (joined ws (ms.map (memberText gap text)) ++ (closingSpace ++ '\x7d' :: rest))
      = .ok (u, rest) := by
  induction h generalizing fuel with
  | nil s =>
    obtain ⟨fuel, rfl⟩ := Nat.exists_eq_add_of_lt hfuel
    simp [joined, membersFrom, nextName_closing hclosing, afterObject_closing]
  | @cons m ms s t u hread hrest ih =>
    obtain ⟨fuel, rfl⟩ : ∃ k, fuel = k + 1 := ⟨fuel - 1, by omega⟩
    have hm := hread _ (numberEnds_joined ws hclosing (.inr rfl) (ms.map (memberText gap text)) rest)
    rw [List.length_cons] at hfuel
    rw [List.map_cons, joined_cons, memberText, List.cons_append, List.append_assoc,
      List.append_assoc, List.append_assoc, membersFrom, nextName_comma hws, List.cons_append,
      List.append_assoc]
    simp only [hm]
    exact ih (by omega)

include hws hclosing in
/-- Members with `MembersRead` are read by `members` as those of an object, in whatever white space. -/
theorem members_parts {m : String × Json} {ms : List (String × Json)} {s u : σ}
    (h : MembersRead member gap text (m :: ms) s u) {fuel : Nat} (hfuel : (m :: ms).length ≤ fuel)
    (rest : List Char) :
    members fuel member s
        (ws ++ (memberText gap text m
          ++ (joined ws (ms.map (memberText gap text)) ++ (closingSpace ++ '\x7d' :: rest))))
      = .ok (u, rest) := by
  cases h with
  | cons hread hrest =>
    have hm := hread _ (numberEnds_joined ws hclosing (.inr rfl) (ms.map (memberText gap text)) rest)
    rw [members, membersFrom, memberText, List.append_assoc, nextName_first hws, List.cons_append,
      List.append_assoc]
    simp only [hm]
    exact membersFrom_joined hws hclosing hrest hfuel rest

end Members

/-! ## Lengths, for the fuel -/

theorem length_le_joined (ws : List Char) (parts : List (List Char)) :
    parts.length ≤ (joined ws parts).length := by
  induction parts with
  | nil => simp
  | cons part parts ih =>
    rw [joined_cons]
    simp only [List.length_cons, List.length_append]
    omega

theorem length_le_joined_of_mem (ws : List Char) {part : List Char} {parts : List (List Char)}
    (h : part ∈ parts) : part.length ≤ (joined ws parts).length := by
  induction parts with
  | nil => simp at h
  | cons other parts ih =>
    rw [joined_cons]
    simp only [List.length_cons, List.length_append]
    rcases List.mem_cons.1 h with rfl | h
    · omega
    · have := ih h
      omega

end PageRisk.Json
