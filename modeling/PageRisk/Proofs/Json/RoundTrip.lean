import PageRisk.Json.Document
import PageRisk.Proofs.Json.Parts
import PageRisk.Proofs.Json.Real
import PageRisk.Proofs.Table

set_option autoImplicit false

/-! # Values read back

The text of a value is read as the value with each floating-point number in it read anew (`reread`). This
holds in any `Layout` (`readDocument_text`): the compact form and the pretty one differ in the white space
between parts only, and white space is skipped. A value without floating-point numbers (`Legible`) is so read
back as it is (`readDocument_compactText`). The induction over values is one over the depth of their
brackets, which is also what the reader counts down. -/

namespace PageRisk.Json

/-! ## Values read anew -/

/-- What the `numberText` of a number is read as: an integer as it is, a floating-point number as one near
    it, and null where it is not finite. -/
def rereadNumber : Number → Json
  | .integer n => .number (.integer n)
  | .real x => match Decimal.shortestText? x with
    | none => .null
    | some text => match readNumber text with
      | .ok (n, _) => .number n
      | .error _ => .null

mutual

/-- What the text of a value is read as. -/
def reread : Json → Json
  | .array items => .array (rereadItems items)
  | .object members => .object (rereadMembers members)
  | .number n => rereadNumber n
  | .null => .null
  | .bool b => .bool b
  | .string s => .string s

/-- What the texts of some values are read as. -/
def rereadItems : List Json → List Json
  | [] => []
  | item :: rest => reread item :: rereadItems rest

/-- What the texts of some members are read as. -/
def rereadMembers : List (String × Json) → List (String × Json)
  | [] => []
  | (name, v) :: rest => (name, reread v) :: rereadMembers rest

end

theorem rereadItems_eq_map (items : List Json) : rereadItems items = items.map reread := by
  induction items with
  | nil => rfl
  | cons v items ih => rw [rereadItems, ih, List.map_cons]

/-- A member with its value read anew. -/
def rereadMember (m : String × Json) : String × Json :=
  (m.1, reread m.2)

theorem rereadMembers_eq_map (ms : List (String × Json)) :
    rereadMembers ms = ms.map rereadMember := by
  induction ms with
  | nil => rfl
  | cons m ms ih =>
    rw [rereadMembers, ih, List.map_cons]
    rfl

/-- Whether the brackets of a value are at most `depth` deep. -/
def Fits : (depth : Nat) → Json → Prop
  | 0, .array _ => False
  | 0, .object _ => False
  | depth + 1, .array items => ∀ v ∈ items, Fits depth v
  | depth + 1, .object ms => ∀ m ∈ ms, Fits depth m.2
  | _, _ => True

/-! ## Values that are read back -/

/-- Whether a value is read back from its text: there is no floating-point number in it, and its
    brackets are at most `depth` deep. -/
def Legible : (depth : Nat) → Json → Prop
  | _, .null => True
  | _, .bool _ => True
  | _, .string _ => True
  | _, .number (.integer _) => True
  | _, .number (.real _) => False
  | 0, .array _ => False
  | 0, .object _ => False
  | depth + 1, .array items => ∀ v ∈ items, Legible depth v
  | depth + 1, .object ms => ∀ m ∈ ms, Legible depth m.2

/-- Whether a value is kept as it is by printing and reading: there is no floating-point number in it,
    the members of each object in it are in order, and its brackets are at most `depth` deep. -/
def Exact : (depth : Nat) → Json → Prop
  | _, .null => True
  | _, .bool _ => True
  | _, .string _ => True
  | _, .number (.integer _) => True
  | _, .number (.real _) => False
  | 0, .array _ => False
  | 0, .object _ => False
  | depth + 1, .array items => ∀ v ∈ items, Exact depth v
  | depth + 1, .object ms => Ascending ms ∧ ∀ m ∈ ms, Exact depth m.2

theorem Exact.mono {depth deeper : Nat} (h : depth ≤ deeper) {v : Json} (hv : Exact depth v) :
    Exact deeper v := by
  induction depth generalizing deeper v with
  | zero =>
    cases v with
    | number n => cases n with
      | integer n => simp [Exact]
      | real x => exact absurd hv (by simp [Exact])
    | array items => exact absurd hv (by simp [Exact])
    | object ms => exact absurd hv (by simp [Exact])
    | _ => simp [Exact]
  | succ depth ih =>
    obtain ⟨deeper, rfl⟩ := Nat.exists_eq_add_of_le' (Nat.lt_of_lt_of_le (Nat.succ_pos _) h)
    have hle : depth ≤ deeper := by omega
    cases v with
    | number n => cases n with
      | integer n => simp [Exact]
      | real x => exact absurd hv (by simp [Exact])
    | array items =>
      simp only [Exact] at hv ⊢
      exact fun v hmem => ih hle (hv v hmem)
    | object ms =>
      simp only [Exact] at hv ⊢
      exact ⟨hv.1, fun m hmem => ih hle (hv.2 m hmem)⟩
    | _ => simp [Exact]

/-- A value without brackets is `Legible` at any depth. -/
theorem Legible.of_zero {v : Json} (hv : Legible 0 v) (depth : Nat) : Legible depth v := by
  cases v with
  | number n => cases n with
    | integer n => simp [Legible]
    | real x => exact absurd hv (by simp [Legible])
  | array items => exact absurd hv (by simp [Legible])
  | object ms => exact absurd hv (by simp [Legible])
  | _ => simp [Legible]

theorem Exact.legible {depth : Nat} {v : Json} (hv : Exact depth v) : Legible depth v := by
  induction depth generalizing v with
  | zero =>
    cases v with
    | number n => cases n with
      | integer n => simp [Legible]
      | real x => exact absurd hv (by simp [Exact])
    | array items => exact absurd hv (by simp [Exact])
    | object ms => exact absurd hv (by simp [Exact])
    | _ => simp [Legible]
  | succ depth ih =>
    cases v with
    | number n => cases n with
      | integer n => simp [Legible]
      | real x => exact absurd hv (by simp [Exact])
    | array items =>
      simp only [Exact, Legible] at hv ⊢
      exact fun v hmem => ih (hv v hmem)
    | object ms =>
      simp only [Exact, Legible] at hv ⊢
      exact fun m hmem => ih (hv.2 m hmem)
    | _ => simp [Legible]

/-- A `Legible` value fits, and reading it anew changes nothing. -/
theorem Legible.fits {depth : Nat} {v : Json} (hv : Legible depth v) : Fits depth v ∧ reread v = v := by
  induction depth generalizing v with
  | zero =>
    cases v with
    | number n => cases n with
      | integer n => exact ⟨trivial, rfl⟩
      | real x => exact absurd hv (by simp [Legible])
    | array items => exact absurd hv (by simp [Legible])
    | object ms => exact absurd hv (by simp [Legible])
    | _ => exact ⟨trivial, rfl⟩
  | succ depth ih =>
    cases v with
    | number n => cases n with
      | integer n => exact ⟨trivial, rfl⟩
      | real x => exact absurd hv (by simp [Legible])
    | array items =>
      simp only [Legible] at hv
      refine ⟨fun v hmem => (ih (hv v hmem)).1, ?_⟩
      rw [reread, rereadItems_eq_map, List.map_congr_left fun v hmem => (ih (hv v hmem)).2, List.map_id']
    | object ms =>
      simp only [Legible] at hv
      refine ⟨fun m hmem => (ih (hv m hmem)).1, ?_⟩
      have hkept : ∀ m ∈ ms, rereadMember m = m := fun m hmem => by
        rw [rereadMember, (ih (hv m hmem)).2]
      rw [reread, rereadMembers_eq_map, List.map_congr_left hkept, List.map_id']
    | _ => exact ⟨trivial, rfl⟩

/-! ## Layouts -/

/-- White space for the printer: before a part and before a closing bracket, by the depth, and after the
    colon of a member. -/
structure Layout where
  line : Nat → List Char
  gap : List Char
  line_isSpace : ∀ depth, ∀ c ∈ line depth, isSpace c = true
  gap_isSpace : ∀ c ∈ gap, isSpace c = true

namespace Layout

variable (l : Layout)

/-- Parts between brackets, the first one by itself. -/
def enclosed (opening closing : Char) (place : Nat) (part : List Char) (parts : List (List Char)) :
    List Char :=
  opening :: (l.line (place + 1) ++ (part ++ (joined (l.line (place + 1)) parts
    ++ (l.line place ++ [closing]))))

/-- The members of an object at a place. -/
def member (text : Nat → Json → List Char) (place : Nat) (m : String × Json) : List Char :=
  memberText l.gap (text place) m

/-- Whether a printer, by the depth that it writes at, uses the `Layout`. -/
structure Prints (text : Nat → Json → List Char) : Prop where
  scalar : ∀ place v, Fits 0 v → text place v = v.compact
  emptyArray : ∀ place, text place (.array []) = "[]".toList
  array : ∀ place v items, text place (.array (v :: items))
    = l.enclosed '[' ']' place (text (place + 1) v) (items.map (text (place + 1)))
  emptyObject : ∀ place, text place (.object []) = "\x7b\x7d".toList
  object : ∀ place m ms, text place (.object (m :: ms))
    = l.enclosed '\x7b' '\x7d' place (l.member text (place + 1) m)
      (ms.map (l.member text (place + 1)))

variable {l}

theorem length_parts_le_enclosed (opening closing : Char) (place : Nat) (part : List Char)
    (parts : List (List Char)) :
    (part :: parts).length ≤ (l.enclosed opening closing place part parts).length := by
  have := length_le_joined (l.line (place + 1)) parts
  simp only [enclosed, List.length_cons, List.length_append]
  omega

theorem length_part_le_enclosed (opening closing : Char) (place : Nat) {part other : List Char}
    {parts : List (List Char)} (h : part ∈ other :: parts) :
    part.length ≤ (l.enclosed opening closing place other parts).length := by
  simp only [enclosed, List.length_cons, List.length_append]
  rcases List.mem_cons.1 h with rfl | h
  · omega
  · have := length_le_joined_of_mem (l.line (place + 1)) h
    omega

theorem length_le_member (text : Nat → Json → List Char) (place : Nat) (m : String × Json) :
    (text place m.2).length ≤ (l.member text place m).length := by
  simp only [member, memberText, List.length_append, List.length_cons]
  omega

end Layout

/-! ## First characters -/

/-- `intText` begins with a sign or a digit. -/
theorem intText_head (n : Int) :
    ∃ c rest, Decimal.intText n = c :: rest ∧ (c == '-' || c.isDigit) = true := by
  unfold Decimal.intText
  split
  · exact ⟨'-', _, rfl, rfl⟩
  · obtain ⟨c, rest, htext⟩ := exists_cons_natText n.natAbs
    have hdigit : c.isDigit = true := isDigit_of_mem_natText (htext ▸ List.mem_cons_self)
    exact ⟨c, rest, htext, by rw [hdigit, Bool.or_true]⟩

/-- What `readNumber` reads begins with a sign or a digit. -/
theorem readNumber_head {cs : List Char} {found : Number × List Char} (h : readNumber cs = .ok found) :
    ∃ c rest, cs = c :: rest ∧ (c == '-' || c.isDigit) = true := by
  unfold readNumber at h
  split at h
  · next rest => exact ⟨'-', rest, rfl, rfl⟩
  · cases cs with
    | nil => simp [readUnsigned] at h
    | cons c rest =>
      refine ⟨c, rest, rfl, ?_⟩
      by_contra hnot
      rw [Bool.or_eq_true, not_or] at hnot
      simp [readUnsigned, hnot.2] at h

/-- A floating-point number is written as null or as a number that `readNumber` can read. -/
theorem real_cases (x : Float) :
    (numberText (.real x) = "null".toList ∧ rereadNumber (.real x) = .null)
      ∨ ∃ y : Float, rereadNumber (.real x) = .number (.real y)
        ∧ ∀ rest, NumberEnds rest → readNumber (numberText (.real x) ++ rest) = .ok (.real y, rest) := by
  cases htext : Decimal.shortestText? x with
  | none => exact .inl (by simp [numberText, rereadNumber, htext])
  | some text =>
    obtain ⟨y, hy⟩ := exists_readNumber htext
    have hwhole := hy [] (by simp [NumberEnds])
    rw [List.append_nil] at hwhole
    refine .inr ⟨y, by simp [rereadNumber, htext, hwhole], fun rest hrest => ?_⟩
    simpa [numberText, htext] using hy rest hrest

/-- What a number begins with is no white space, no bracket and no letter. -/
theorem numberStart_ne {c : Char} (h : (c == '-' || c.isDigit) = true) {d : Char}
    (hd : (d == '-' || d.isDigit) = false) : c ≠ d := by
  rintro rfl
  rw [h] at hd
  exact Bool.noConfusion hd

theorem isSpace_numberStart {c : Char} (h : (c == '-' || c.isDigit) = true) : isSpace c = false := by
  simp only [isSpace, Bool.or_eq_false_iff, beq_eq_false_iff_ne]
  exact ⟨⟨⟨numberStart_ne h (by decide), numberStart_ne h (by decide)⟩, numberStart_ne h (by decide)⟩,
    numberStart_ne h (by decide)⟩

section Printed

variable {l : Layout} {text : Nat → Json → List Char}

theorem startsElement_text (hprints : l.Prints text) {depth : Nat} {v : Json}
    (hv : Fits depth v) (place : Nat) : StartsElement (text place v) := by
  cases v with
  | null =>
    rw [hprints.scalar place .null trivial]
    exact ⟨'n', _, rfl, by decide, by decide⟩
  | bool b =>
    rw [hprints.scalar place (.bool b) trivial]
    cases b with
    | true => exact ⟨'t', _, rfl, by decide, by decide⟩
    | false => exact ⟨'f', _, rfl, by decide, by decide⟩
  | string s =>
    rw [hprints.scalar place (.string s) trivial]
    exact ⟨'"', _, rfl, by decide, by decide⟩
  | number n =>
    cases n with
    | integer n =>
      obtain ⟨c, rest, htext, hstart⟩ := intText_head n.value
      rw [hprints.scalar place (.number (.integer n)) trivial]
      exact ⟨c, rest, htext, isSpace_numberStart hstart, numberStart_ne hstart (by decide)⟩
    | real x =>
      rw [hprints.scalar place (.number (.real x)) trivial, compact]
      rcases real_cases x with ⟨htext, -⟩ | ⟨y, -, hy⟩
      · rw [htext]
        exact ⟨'n', _, rfl, by decide, by decide⟩
      · have hwhole := hy [] (by simp [NumberEnds])
        rw [List.append_nil] at hwhole
        obtain ⟨c, rest, htext, hstart⟩ := readNumber_head hwhole
        exact ⟨c, rest, htext, isSpace_numberStart hstart, numberStart_ne hstart (by decide)⟩
  | array items =>
    have hopen : ∃ rest, text place (.array items) = '[' :: rest := by
      cases items with
      | nil => exact ⟨_, hprints.emptyArray place⟩
      | cons v items => exact ⟨_, hprints.array place v items⟩
    obtain ⟨rest, htext⟩ := hopen
    exact ⟨'[', rest, htext, by decide, by decide⟩
  | object ms =>
    have hopen : ∃ rest, text place (.object ms) = '\x7b' :: rest := by
      cases ms with
      | nil => exact ⟨_, hprints.emptyObject place⟩
      | cons m ms => exact ⟨_, hprints.object place m ms⟩
    obtain ⟨rest, htext⟩ := hopen
    exact ⟨'\x7b', rest, htext, by decide, by decide⟩

/-! ## Values -/

variable {fuel : Nat} {inner : Option (Reader Json)}

theorem valueWith_space {ws : List Char} (hws : ∀ c ∈ ws, isSpace c = true) (cs : List Char) :
    valueWith fuel inner (ws ++ cs) = valueWith fuel inner cs := by
  rw [valueWith, valueWith, skipSpace_append hws]

theorem valueWith_number {c : Char} (h : (c == '-' || c.isDigit) = true) (rest : List Char) :
    valueWith fuel inner (c :: rest)
      = (readNumber (c :: rest)).map fun (n, rest) => (number n, rest) := by
  rw [valueWith, skipSpace_of_bare (isSpace_numberStart h)]
  split
  · next heq => exact absurd heq (by simp)
  · next heq => exact absurd (List.cons.inj heq).1 (numberStart_ne h (by decide))
  · next heq => exact absurd (List.cons.inj heq).1 (numberStart_ne h (by decide))
  · next heq => exact absurd (List.cons.inj heq).1 (numberStart_ne h (by decide))
  · next heq => exact absurd (List.cons.inj heq).1 (numberStart_ne h (by decide))
  · next heq => exact absurd (List.cons.inj heq).1 (numberStart_ne h (by decide))
  · next heq => exact absurd (List.cons.inj heq).1 (numberStart_ne h (by decide))
  · next heq =>
    obtain ⟨rfl, rfl⟩ := List.cons.inj heq
    rw [if_pos h]

theorem valueWith_null (rest : List Char) :
    valueWith fuel inner ("null".toList ++ rest) = .ok (null, rest) :=
  congrArg (Except.map fun found : Unit × List Char => (null, found.2)) (word_append "ull".toList rest)

/-- `valueWith` reads a number from a text wherever `readNumber` does. -/
theorem valueWith_of_readNumber {text rest : List Char} {n : Number}
    (h : readNumber (text ++ rest) = .ok (n, rest)) :
    valueWith fuel inner (text ++ rest) = .ok (number n, rest) := by
  obtain ⟨c, more, htext, hstart⟩ := readNumber_head h
  rw [htext] at h ⊢
  rw [valueWith_number hstart, h]
  rfl

/-- A value without brackets is read by `valueWith`, whatever may stand inside brackets. -/
theorem valueWith_scalar {v : Json} (hv : Fits 0 v) :
    ReadsAs (valueWith fuel inner) v.compact (reread v) := by
  intro rest hrest
  cases v with
  | null => exact valueWith_null rest
  | bool b =>
    cases b with
    | true =>
      have hword := word_append "rue".toList rest
      exact congrArg (Except.map fun found => (bool true, found.2)) hword
    | false =>
      have hword := word_append "alse".toList rest
      exact congrArg (Except.map fun found => (bool false, found.2)) hword
  | string s =>
    have hbody := readString_body s rest
    rw [compact, stringText, List.cons_append, List.append_assoc, List.singleton_append]
    exact congrArg (Except.map fun found => (string found.1, found.2)) hbody
  | number n =>
    cases n with
    | integer n => exact valueWith_of_readNumber (readNumber_intText n hrest)
    | real x =>
      rw [compact, reread]
      rcases real_cases x with ⟨htext, hreread⟩ | ⟨y, hreread, hy⟩
      · rw [htext, hreread]
        exact valueWith_null rest
      · rw [hreread]
        exact valueWith_of_readNumber (hy rest hrest)
  | array items => exact absurd hv (by simp [Fits])
  | object ms => exact absurd hv (by simp [Fits])

/-- An array is read by `valueWith` where its elements are. -/
theorem valueWith_array (hprints : l.Prints text) {read : Reader Json} {items : List Json}
    {place : Nat} (hread : ∀ v ∈ items, ReadsAs read (text (place + 1) v) (reread v))
    (hstart : ∀ v ∈ items, StartsElement (text (place + 1) v))
    (hfuel : (text place (.array items)).length ≤ fuel) :
    ReadsAs (valueWith fuel (some read)) (text place (.array items)) (.array (items.map reread)) := by
  intro rest _
  cases items with
  | nil =>
    rw [hprints.emptyArray]
    rfl
  | cons v items =>
    rw [hprints.array] at hfuel ⊢
    have hcount : (v :: items).length ≤ fuel := by
      have hparts := Layout.length_parts_le_enclosed (l := l) '[' ']' place (text (place + 1) v)
        (items.map (text (place + 1)))
      rw [List.length_cons, List.length_map] at hparts
      exact Nat.le_trans hparts hfuel
    have helements := elements_parts (l.line_isSpace (place + 1)) (l.line_isSpace place) hread hstart
      hcount rest
    rw [Layout.enclosed, List.cons_append]
    simp only [List.append_assoc, List.singleton_append]
    exact congrArg (Except.map fun found => (array found.1, found.2)) helements

/-- Reads the colon and the value of a member, and puts the member before those that were read. -/
def readMember (read : Reader Json) (before : List (String × Json)) (name : String) :
    Reader (List (String × Json)) := fun cs =>
  (colon cs).bind fun (_, rest) =>
    (read rest).map fun (value, rest) => ((name, value) :: before, rest)

theorem membersRead_readMember {read : Reader Json} {gap : List Char} {text : Json → List Char}
    {ms : List (String × Json)}
    (hread : ∀ m ∈ ms, ReadsAs (fun cs => read (gap ++ cs)) (text m.2) (reread m.2))
    (before : List (String × Json)) :
    MembersRead (readMember read) gap text ms before ((ms.map rereadMember).reverse ++ before) := by
  induction ms generalizing before with
  | nil => exact .nil before
  | cons m ms ih =>
    have hlater := ih (fun n hn => hread n (List.mem_cons_of_mem _ hn)) (rereadMember m :: before)
    rw [List.map_cons, List.reverse_cons, List.append_assoc, List.singleton_append]
    refine .cons (fun rest hrest => ?_) hlater
    have hvalue : read (gap ++ (text m.2 ++ rest)) = .ok (reread m.2, rest) :=
      hread m List.mem_cons_self rest hrest
    rw [readMember, colon_cons]
    simp only [Except.bind, hvalue, Except.map, rereadMember]

/-- An object is read by `valueWith` where its values are. -/
theorem valueWith_object (hprints : l.Prints text) {read : Reader Json}
    {ms : List (String × Json)} {place : Nat}
    (hread : ∀ m ∈ ms, ReadsAs (fun cs => read (l.gap ++ cs)) (text (place + 1) m.2) (reread m.2))
    (hfuel : (text place (.object ms)).length ≤ fuel) :
    ReadsAs (valueWith fuel (some read)) (text place (.object ms))
      (.object (ms.map rereadMember)) := by
  intro rest _
  cases ms with
  | nil =>
    rw [hprints.emptyObject]
    rfl
  | cons m ms =>
    rw [hprints.object] at hfuel ⊢
    have hcount : (m :: ms).length ≤ fuel := by
      have hparts := Layout.length_parts_le_enclosed (l := l) '\x7b' '\x7d' place
        (l.member text (place + 1) m) (ms.map (l.member text (place + 1)))
      rw [List.length_cons, List.length_map] at hparts
      exact Nat.le_trans hparts hfuel
    have hmembers := members_parts (l.line_isSpace (place + 1)) (l.line_isSpace place)
      (membersRead_readMember hread []) hcount rest
    rw [Layout.enclosed, List.cons_append]
    simp only [List.append_assoc, List.singleton_append]
    have hobject := congrArg (Except.map fun found => (object found.1.reverse, found.2)) hmembers
    exact hobject.trans (by simp [Except.map])

theorem value_scalar (hprints : l.Prints text) (depth : Nat) {place : Nat} {v : Json}
    (hv : Fits 0 v) : ReadsAs (value fuel depth) (text place v) (reread v) := by
  intro rest hrest
  rw [hprints.scalar place v hv]
  cases depth <;> exact valueWith_scalar hv rest hrest

/-- Any value that `Fits` is read from its text at any place, with as much fuel as the text has
    characters. -/
theorem value_text (hprints : l.Prints text) (place : Nat) {depth : Nat} {v : Json}
    (hv : Fits depth v) (hfuel : (text place v).length ≤ fuel) :
    ReadsAs (value fuel depth) (text place v) (reread v) := by
  induction depth generalizing place v with
  | zero => exact value_scalar hprints 0 hv
  | succ depth ih =>
    cases v with
    | array items =>
      simp only [Fits] at hv
      rw [reread, rereadItems_eq_map]
      -- Every element is a part of the text, so that the fuel is enough for it as well.
      refine valueWith_array hprints (fun v hmem => ih (place + 1) (hv v hmem) ?_)
        (fun v hmem => startsElement_text hprints (hv v hmem) _) hfuel
      cases items with
      | nil => exact absurd hmem List.not_mem_nil
      | cons first items =>
        rw [hprints.array] at hfuel
        have hpart := Layout.length_part_le_enclosed (l := l) '[' ']' place
          (List.mem_map_of_mem (f := text (place + 1)) hmem)
        exact Nat.le_trans hpart hfuel
    | object ms =>
      simp only [Fits] at hv
      rw [reread, rereadMembers_eq_map]
      refine valueWith_object hprints (fun m hmem => ?_) hfuel
      have hlength : (text (place + 1) m.2).length ≤ fuel := by
        cases ms with
        | nil => exact absurd hmem List.not_mem_nil
        | cons first ms =>
          rw [hprints.object] at hfuel
          have hpart := Layout.length_part_le_enclosed (l := l) '\x7b' '\x7d' place
            (List.mem_map_of_mem (f := l.member text (place + 1)) hmem)
          exact Nat.le_trans (Layout.length_le_member text (place + 1) m) (Nat.le_trans hpart hfuel)
      have hvalue := ih (place + 1) (hv m hmem) hlength
      intro rest hrest
      -- What stands between the colon and the value is skipped.
      have hgap : value fuel depth (l.gap ++ (text (place + 1) m.2 ++ rest))
          = value fuel depth (text (place + 1) m.2 ++ rest) := by
        cases depth <;> exact valueWith_space l.gap_isSpace _
      exact hgap.trans (hvalue rest hrest)
    | null => exact value_scalar hprints _ trivial
    | bool b => exact value_scalar hprints _ trivial
    | string s => exact value_scalar hprints _ trivial
    | number n => exact value_scalar hprints _ trivial

end Printed

/-! ## The two forms -/

theorem intercalate_cons (part : List Char) (parts : List (List Char)) :
    List.intercalate [','] (part :: parts) = part ++ parts.flatMap fun p => ',' :: p := by
  induction parts generalizing part with
  | nil => simp [List.intercalate]
  | cons next parts ih =>
    rw [List.intercalate_cons_cons, ih, List.flatMap_cons]
    simp

/-- The layout of `prettyText`. -/
def Layout.pretty : Layout where
  line := newLine
  gap := [' ']
  line_isSpace depth c h := by
    rcases List.mem_cons.1 h with rfl | h
    · decide
    · rw [List.eq_of_mem_replicate h]
      decide
  gap_isSpace c h := by
    obtain rfl := List.mem_singleton.1 h
    decide

/-- The layout of `compactText`: no white space anywhere. -/
def Layout.compact : Layout where
  line _ := []
  gap := []
  line_isSpace _ _ h := absurd h List.not_mem_nil
  gap_isSpace _ h := absurd h List.not_mem_nil

theorem block_cons (opening closing : Char) (place : Nat) (part : List Char)
    (parts : List (List Char)) :
    block opening closing place (part :: parts)
      = Layout.pretty.enclosed opening closing place part parts := by
  simp [block, Layout.enclosed, Layout.pretty, joined, intercalate_cons, List.flatMap_map]

theorem prettyItems_eq_map (depth : Nat) (items : List Json) :
    prettyItems depth items = items.map (prettyAt depth) := by
  induction items with
  | nil => rfl
  | cons v items ih => rw [prettyItems, ih, List.map_cons]

theorem prettyMembers_eq_map (depth : Nat) (ms : List (String × Json)) :
    prettyMembers depth ms = ms.map (Layout.pretty.member prettyAt depth) := by
  induction ms with
  | nil => rfl
  | cons m ms ih =>
    rw [prettyMembers, ih, List.map_cons]
    rfl

theorem prettyAt_prints : Layout.pretty.Prints prettyAt where
  scalar place v hv := by
    cases v with
    | array items => exact absurd hv (by simp [Fits])
    | object ms => exact absurd hv (by simp [Fits])
    | _ => rfl
  emptyArray place := rfl
  array place v items := by
    rw [prettyAt, prettyItems_eq_map, List.map_cons, block_cons]
  emptyObject place := rfl
  object place m ms := by
    rw [prettyAt, prettyMembers_eq_map, List.map_cons, block_cons]

theorem compactItems_eq_map (items : List Json) : compactItems items = items.map compact := by
  induction items with
  | nil => rfl
  | cons v items ih => rw [compactItems, ih, List.map_cons]

theorem compactMembers_eq_map (place : Nat) (ms : List (String × Json)) :
    compactMembers ms = ms.map (Layout.compact.member (fun _ => compact) place) := by
  induction ms with
  | nil => rfl
  | cons m ms ih =>
    rw [compactMembers, ih, List.map_cons]
    rfl

theorem compact_prints : Layout.compact.Prints fun _ => compact where
  scalar _ _ _ := rfl
  emptyArray _ := rfl
  array place v items := by
    rw [compact, compactItems_eq_map, List.map_cons, intercalate_cons]
    simp [Layout.enclosed, Layout.compact, joined]
  emptyObject _ := rfl
  object place m ms := by
    rw [compact, compactMembers_eq_map (place + 1), List.map_cons, intercalate_cons]
    simp [Layout.enclosed, Layout.compact, joined]

theorem startsElement_compact {depth : Nat} {v : Json} (hv : Legible depth v) :
    StartsElement v.compact :=
  startsElement_text compact_prints hv.fits.1 0

theorem value_compact {fuel depth : Nat} {v : Json} (hv : Legible depth v)
    (hfuel : v.compact.length ≤ fuel) : ReadsBack (value fuel depth) compact v := by
  have hvalue := value_text compact_prints 0 hv.fits.1 hfuel
  rwa [hv.fits.2] at hvalue

/-! ## Whole texts -/

theorem canonicalItems_eq_map (items : List Json) :
    canonicalItems items = items.map canonical := by
  induction items with
  | nil => rfl
  | cons v items ih => rw [canonicalItems, ih, List.map_cons]

theorem canonicalMembers_of_ascending {placed ms : List (String × Json)}
    (horder : Ascending (placed ++ ms)) (hvalues : ∀ m ∈ ms, canonical m.2 = m.2) :
    canonicalMembers placed ms = placed ++ ms := by
  induction ms generalizing placed with
  | nil => rw [canonicalMembers, List.append_nil]
  | cons m ms ih =>
    have hlast : ∀ p ∈ placed, p.1 < m.1 := fun p hp =>
      (List.pairwise_append.1 horder).2.2 p hp m List.mem_cons_self
    rw [canonicalMembers, hvalues m List.mem_cons_self, Table.place_of_last _ hlast,
      ih (by simpa using horder) fun n hn => hvalues n (List.mem_cons_of_mem _ hn)]
    simp

/-- `readDocument` reads a text that is printed in a layout to its end, also where white space follows
    it. -/
theorem readDocument_text_append {l : Layout} {text : Nat → Json → List Char} (hprints : l.Prints text)
    {v : Json} (hv : Fits depthLimit v) (place : Nat) {space : List Char} (hends : NumberEnds space)
    (hspace : skipSpace space = []) :
    readDocument (String.ofList (text place v ++ space)) = .ok (reread v) := by
  have hlength : (text place v).length ≤ (text place v ++ space).length := by
    rw [List.length_append]
    exact Nat.le_add_right _ _
  rw [readDocument, readAll, String.toList_ofList, value_text hprints place hv hlength space hends]
  simp only [hspace]

theorem readDocument_text {l : Layout} {text : Nat → Json → List Char} (hprints : l.Prints text)
    {v : Json} (hv : Fits depthLimit v) (place : Nat) :
    readDocument (String.ofList (text place v)) = .ok (reread v) := by
  have hdocument : readDocument (String.ofList (text place v ++ [])) = .ok (reread v) :=
    readDocument_text_append hprints hv place (by simp [NumberEnds]) rfl
  rwa [List.append_nil] at hdocument

/-- `prettyText` is read back also from its line. -/
theorem readDocument_prettyLine {v : Json} (hv : Fits depthLimit v) :
    readDocument (v.prettyText ++ "\n") = .ok (reread v) := by
  have hline : v.prettyText ++ "\n" = String.ofList (prettyAt 0 v ++ ['\n']) := by
    rw [String.ofList_append]
    rfl
  rw [hline]
  exact readDocument_text_append prettyAt_prints hv 0 (by simp [NumberEnds]) rfl

/-- `compactText` is read back as the value it was written for, its members as they stand. -/
theorem readDocument_compactText {v : Json} (hv : Legible depthLimit v) :
    readDocument v.compactText = .ok v :=
  (readDocument_text compact_prints hv.fits.1 0).trans (congrArg Except.ok hv.fits.2)

end PageRisk.Json
