import PageRisk.Json.Decoder
import PageRisk.Proofs.Json.RoundTrip

set_option autoImplicit false

/-! # Decoding what was encoded

A decoder undoes an encoding (`Undoes`) where it reads back what was encoded from its compact text,
whatever comes after that. Decoders of lists and records do so where those of their parts do
(`undoes_list`, `undoes_record`). -/

namespace PageRisk.Json

variable {α β σ : Type}

/-! ## Compact lists and objects -/

/-- The values in an `object` are parts of its text. -/
theorem length_compact_le_object {ms : List (String × Json)} {m : String × Json} (h : m ∈ ms) :
    m.2.compact.length ≤ (object ms).compact.length := by
  cases ms with
  | nil => exact absurd h List.not_mem_nil
  | cons first ms =>
    rw [compact_prints.object 0]
    have hpart := Layout.length_part_le_enclosed (l := .compact) '\x7b' '\x7d' 0
      (List.mem_map_of_mem (f := Layout.compact.member (fun _ => compact) 1) h)
    exact Nat.le_trans (Layout.length_le_member (fun _ => compact) 1 m) hpart

/-- Members with `MembersRead` are read by `members` from the `compact` text of an object. -/
theorem members_compact {member : σ → String → Reader σ} {ms : List (String × Json)} {s u : σ}
    (h : MembersRead member [] compact ms s u) {fuel : Nat}
    (hfuel : (object ms).compact.length ≤ fuel) (rest : List Char) :
    ∃ body, (object ms).compact ++ rest = '\x7b' :: body ∧ members fuel member s body = .ok (u, rest) := by
  cases ms with
  | nil =>
    cases h
    exact ⟨_, rfl, rfl⟩
  | cons m ms =>
    rw [compact_prints.object 0] at hfuel ⊢
    have hparts := Layout.length_parts_le_enclosed (l := .compact) '\x7b' '\x7d' 0
      (Layout.compact.member (fun _ => compact) 1 m) (ms.map (Layout.compact.member (fun _ => compact) 1))
    have hcount : (m :: ms).length ≤ fuel := by simpa using Nat.le_trans hparts hfuel
    have hmembers := members_parts (Layout.compact.line_isSpace 1) (Layout.compact.line_isSpace 0) h
      hcount rest
    rw [Layout.enclosed, List.cons_append]
    simp only [List.append_assoc, List.singleton_append]
    exact ⟨_, rfl, hmembers⟩

/-- The values in an `array` are parts of its text. -/
theorem length_compact_le_array {items : List Json} {v : Json} (h : v ∈ items) :
    v.compact.length ≤ (array items).compact.length := by
  cases items with
  | nil => exact absurd h List.not_mem_nil
  | cons first items =>
    rw [compact_prints.array 0]
    exact Layout.length_part_le_enclosed (l := .compact) '[' ']' 0 (List.mem_map_of_mem h)

/-- Elements with `ReadsBack` are read by `elements` from the `compact` text of an array. -/
theorem elements_compact {element : Reader α} {encode : α → Json} {l : List α}
    (hread : ∀ a ∈ l, ReadsBack element (fun a => (encode a).compact) a)
    (hstart : ∀ a ∈ l, StartsElement (encode a).compact) {fuel : Nat}
    (hfuel : (array (l.map encode)).compact.length ≤ fuel) (rest : List Char) :
    ∃ body, (array (l.map encode)).compact ++ rest = '[' :: body
      ∧ elements fuel element body = .ok (l, rest) := by
  cases l with
  | nil => exact ⟨_, rfl, rfl⟩
  | cons a l =>
    rw [List.map_cons, compact_prints.array 0, List.map_map] at hfuel ⊢
    have hparts := Layout.length_parts_le_enclosed (l := .compact) '[' ']' 0 (encode a).compact
      (l.map (compact ∘ encode))
    have hcount : (a :: l).length ≤ fuel := by simpa using Nat.le_trans hparts hfuel
    have helements := elements_parts (f := id) (Layout.compact.line_isSpace 1)
      (Layout.compact.line_isSpace 0) hread hstart hcount rest
    rw [List.map_id] at helements
    rw [Layout.enclosed, List.cons_append]
    simp only [List.append_assoc, List.singleton_append]
    exact ⟨_, rfl, helements⟩

namespace Decoder

/-! ## Decoders -/

/-- Whether a `Decoder` reads back a value from the `compact` text of what it is encoded as, with as much
    fuel as that has characters and wherever a number would end. -/
structure Undoes (d : Decoder α) (encode : α → Json) (a : α) : Prop where
  starts : StartsElement (encode a).compact
  reads : ∀ {fuel : Nat}, (encode a).compact.length ≤ fuel →
    ReadsBack (d.fromText fuel) (fun a => (encode a).compact) a

/-- A decoder that `Undoes` an encoding decodes the whole `compactText`. -/
theorem Undoes.decode {d : Decoder α} {encode : α → Json} {a : α} (h : d.Undoes encode a) :
    d.decode (encode a).compactText = .ok a := by
  have hread := h.reads (Nat.le_refl _) [] (by simp [NumberEnds])
  rw [List.append_nil] at hread
  rw [Decoder.decode, readAll, compactText, String.toList_ofList, hread]
  rfl

/-- A decoder whose `fromText` reads any value and looks at it `Undoes` what is made of the value. -/
theorem undoes_of_value {d : Decoder α} {encode : α → Json} {a : α}
    (hlegible : Legible depthLimit (encode a))
    (hread : ∀ fuel cs rest, value fuel depthLimit cs = .ok (encode a, rest) →
      d.fromText fuel cs = .ok (a, rest)) : d.Undoes encode a where
  starts := startsElement_compact hlegible
  reads hfuel rest hends := hread _ _ rest (value_compact hlegible hfuel rest hends)

/-! ### Scalars -/

theorem string_fromText (fuel : Nat) (rest : List Char) :
    string.fromText fuel ('"' :: rest) = readString rest := rfl

theorem undoes_string (s : String) : string.Undoes .string s where
  starts := ⟨'"', _, rfl, by decide, by decide⟩
  reads _ rest _ := by
    have hbody := readString_body s rest
    simp only [compact, stringText, List.cons_append, List.append_assoc, List.nil_append]
    rw [string_fromText, hbody]

theorem nameFromText_quote (names : List (String × α)) (body : List Char) :
    nameFromText names ('"' :: body)
      = match readString body with
        | .error fault => .error fault
        | .ok (name, rest) => match named names name with
          | .ok a => .ok (a, rest)
          | .error cause => .error (.here cause rest) := rfl

/-- `nameFromText` reads one of some names from its string. -/
theorem nameFromText_compact {names : List (String × α)} {name : String} {a : α}
    (h : named names name = .ok a) (rest : List Char) :
    nameFromText names (compact (.string name) ++ rest) = .ok (a, rest) := by
  simp only [compact, stringText, List.cons_append, List.append_assoc, List.nil_append]
  rw [nameFromText_quote, readString_body]
  simp only [h]

/-- A text or null is read back by `optional string`: no text begins as null does. -/
theorem undoes_optional_string (o : Option String) : (optional string).Undoes .ofString? o where
  starts := by
    cases o with
    | none => exact ⟨'n', _, rfl, by decide, by decide⟩
    | some s => exact (undoes_string s).starts
  reads hfuel rest hends := by
    cases o with
    | none =>
      have hword := word_append "ull".toList rest
      exact congrArg (Except.map fun found => (none, found.2)) hword
    | some s =>
      have hstring := (undoes_string s).reads hfuel rest hends
      exact congrArg (Except.map fun found => (some found.1, found.2)) hstring

/-! ### Lists -/

theorem list_fromText (d : Decoder α) (fuel : Nat) (body : List Char) :
    (list d).fromText fuel ('[' :: body) = elements fuel (d.fromText fuel) body := rfl

/-- A `list` is read back where its elements are. -/
theorem undoes_list {d : Decoder α} {encode : α → Json} {l : List α}
    (h : ∀ a ∈ l, d.Undoes encode a) :
    (list d).Undoes (fun l => .array (l.map encode)) l where
  starts := by
    cases l with
    | nil => exact ⟨'[', _, rfl, by decide, by decide⟩
    | cons a l =>
      rw [List.map_cons, compact_prints.array 0]
      exact ⟨'[', _, rfl, by decide, by decide⟩
  reads {fuel} hfuel rest _ := by
    have hread : ∀ a ∈ l, ReadsBack (d.fromText fuel) (fun a => (encode a).compact) a := fun a ha =>
      (h a ha).reads (Nat.le_trans (length_compact_le_array (List.mem_map_of_mem ha)) hfuel)
    obtain ⟨body, htext, hbody⟩ := elements_compact hread (fun a ha => (h a ha).starts) hfuel rest
    rw [htext, list_fromText, hbody]

/-! ### Records -/

/-- A `field` is read from its member. -/
theorem membersRead_field {form : Form σ α} {name : String} {absence : Absence} {d : Decoder β}
    {get : σ → Option β} {put : β → σ → σ}
    (hfield : form.field? name = some (field name absence d get put)) {encode : β → Json} {b : β}
    (h : d.Undoes encode b) {fuel : Nat} (hfuel : (encode b).compact.length ≤ fuel) {s u : σ}
    (hunread : get s = none) {ms : List (String × Json)}
    (hrest : MembersRead (form.memberFromText fuel) [] compact ms (put b s) u) :
    MembersRead (form.memberFromText fuel) [] compact ((name, encode b) :: ms) s u := by
  refine .cons (fun rest hends => ?_) hrest
  have hread : d.fromText fuel ((encode b).compact ++ rest) = .ok (b, rest) :=
    h.reads hfuel rest hends
  have hnot : (field name absence d get put).isRead s = false := congrArg Option.isSome hunread
  rw [Form.memberFromText, hfield, List.nil_append, colon_cons]
  simp only [hnot, Bool.false_eq_true, if_false, Except.bind]
  simp only [field, hread, Except.map]

theorem record_fromText (form : Form σ α) (fuel : Nat) (body : List Char) :
    (record form).fromText fuel ('\x7b' :: body)
      = match members fuel (form.memberFromText fuel) form.start body with
        | .error fault => .error fault
        | .ok (s, rest) => match form.complete s with
          | .error cause => .error (.here cause rest)
          | .ok a => .ok (a, rest) := rfl

/-- A `record` is read back where its members are. -/
theorem undoes_record {form : Form σ α} {encode : α → Json} {a : α} {ms : List (String × Json)}
    (hencode : encode a = .object ms) {s : σ}
    (hread : ∀ fuel, (∀ m ∈ ms, m.2.compact.length ≤ fuel) →
      MembersRead (form.memberFromText fuel) [] compact ms form.start s)
    (hfinish : form.finish s = .ok a) : (record form).Undoes encode a where
  starts := by
    rw [hencode]
    cases ms with
    | nil => exact ⟨'\x7b', _, rfl, by decide, by decide⟩
    | cons m ms =>
      rw [compact_prints.object 0]
      exact ⟨'\x7b', _, rfl, by decide, by decide⟩
  reads {fuel} hfuel rest _ := by
    simp only [hencode] at hfuel ⊢
    have hmembers := hread fuel fun m hm => Nat.le_trans (length_compact_le_object hm) hfuel
    obtain ⟨body, htext, hbody⟩ := members_compact hmembers hfuel rest
    have hcomplete : form.complete s = .ok a := by rw [Form.complete, hfinish]
    rw [htext, record_fromText, hbody]
    simp only [hcomplete]

end Decoder

end PageRisk.Json
