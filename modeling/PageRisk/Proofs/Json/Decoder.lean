import Mathlib.Data.List.Nodup
import Mathlib.Tactic.Common
import PageRisk.Json.Decoder
import PageRisk.Proofs.Except
import PageRisk.Proofs.Table

set_option autoImplicit false

/-! # What records are read from

A record is read from the values that its fields have, be it by their names from an object or by their
places from a list. For every field these values are a *column*: nothing where the field is left out, more
than one value where a name is repeated. Where the fields are kept apart from one another (`Separate`),
what is read depends on the columns alone and not on the order of the members (`Regular.fromValue_object`,
`Regular.fromValue_array`). -/

namespace PageRisk.Json

/-! ## Columns -/

/-- The values under a name. -/
def valuesOf (name : String) (ms : List (String × Json)) : List Json :=
  ms.filterMap fun m => if m.1 = name then some m.2 else none

@[simp] theorem valuesOf_nil (name : String) : valuesOf name [] = [] := rfl

theorem valuesOf_cons_self (name : String) (v : Json) (ms : List (String × Json)) :
    valuesOf name ((name, v) :: ms) = v :: valuesOf name ms := by
  simp [valuesOf]

theorem valuesOf_cons_of_ne {name other : String} (h : other ≠ name) (v : Json)
    (ms : List (String × Json)) : valuesOf name ((other, v) :: ms) = valuesOf name ms := by
  simp [valuesOf, h]

theorem valuesOf_eq_nil_iff (name : String) (ms : List (String × Json)) :
    valuesOf name ms = [] ↔ ∀ m ∈ ms, m.1 ≠ name := by
  simp [valuesOf]

theorem valuesOf_filter_ne {name other : String} (h : name ≠ other) (ms : List (String × Json)) :
    valuesOf name (ms.filter (·.1 != other)) = valuesOf name ms := by
  unfold valuesOf
  rw [List.filterMap_filter]
  refine List.filterMap_congr fun m _ => ?_
  by_cases hname : m.1 = name
  · simp [hname, h]
  · simp [hname]

/-- The columns of `count` fields, from the elements of an array. -/
def inOrder (count : Nat) (items : List Json) : List (List Json) :=
  items.map (fun v => [v]) ++ List.replicate (count - items.length) []

namespace Decoder

variable {σ α : Type}

/-- Whether fields are read from their columns, in the order of the fields: a state before them and the
    state after them. -/
inductive FieldsRead : List (Field σ) → List (List Json) → σ → σ → Prop
  | nil (s : σ) : FieldsRead [] [] s s
  | skip {f : Field σ} {fields : List (Field σ)} {columns : List (List Json)} {s s' : σ}
      (hrest : FieldsRead fields columns s s') : FieldsRead (f :: fields) ([] :: columns) s s'
  | take {f : Field σ} {fields : List (Field σ)} {v : Json} {columns : List (List Json)} {s t s' : σ}
      (hunread : f.isRead s = false) (hvalue : f.fromValue s v = .ok t)
      (hrest : FieldsRead fields columns t s') : FieldsRead (f :: fields) ([v] :: columns) s s'

/-! ## Scalars -/

theorem string_fromValue_eq_ok_iff (v : Json) (s : String) :
    string.fromValue v = .ok s ↔ v = .string s := by
  cases v <;> simp [string]

theorem bool_fromValue_eq_ok_iff (v : Json) (b : Bool) : bool.fromValue v = .ok b ↔ v = .bool b := by
  cases v <;> simp [bool]

theorem uint32_fromValue_eq_ok_iff (v : Json) (n : UInt32) :
    uint32.fromValue v = .ok n ↔ v = .ofUInt32 n := by
  have hlt : n.toNat < 4294967296 := n.toNat_lt
  have hinteger (m : WireInt) :
      uint32.fromValue (.number (.integer m)) = .ok n ↔ m.value = (n.toNat : Int) := by
    by_cases hfits : 0 ≤ m.value ∧ m.value < 4294967296
    · have hread : uint32.fromValue (.number (.integer m)) = .ok (UInt32.ofNat m.value.toNat) := by
        simp [uint32, integer, number, hfits]
      rw [hread, Except.ok.injEq]
      constructor
      · rintro rfl
        rw [UInt32.toNat_ofNat_of_lt' (by change m.value.toNat < 4294967296; omega)]
        omega
      · intro hvalue
        rw [hvalue, Int.toNat_natCast, UInt32.ofNat_toNat]
    · have hread : ∃ cause, uint32.fromValue (.number (.integer m)) = .error cause := by
        simp [uint32, integer, number, hfits]
      obtain ⟨cause, hread⟩ := hread
      rw [hread]
      exact iff_of_false (by simp) fun hvalue => hfits ⟨by omega, by omega⟩
  cases v with
  | number m =>
    cases m with
    | integer m =>
      rw [hinteger, ofUInt32, Json.number.injEq, Number.integer.injEq]
      constructor
      · intro hvalue
        cases m
        simpa using hvalue
      · rintro rfl
        rfl
    | real x => simp [uint32, integer, number, ofUInt32]
  | _ => simp [uint32, integer, number, ofUInt32]

theorem optional_fromValue_eq_ok_iff {β : Type} (d : Decoder β) (v : Json) (o : Option β) :
    (optional d).fromValue v = .ok o
      ↔ v = .null ∧ o = none ∨ v ≠ .null ∧ ∃ b, d.fromValue v = .ok b ∧ some b = o := by
  cases v with
  | null => simp [optional, eq_comm]
  | _ => simp [optional, map_eq_ok_iff]

/-! ## Names -/

/-- `named` finds the constant of a name, where no name stands twice. -/
theorem named_eq_ok_iff {names : List (String × α)} (h : (names.map Prod.fst).Nodup) (name : String)
    (a : α) : named names name = .ok a ↔ (name, a) ∈ names := by
  have hlookup : names.lookup name = some a ↔ (name, a) ∈ names := by
    induction names with
    | nil => simp
    | cons first rest ih =>
      obtain ⟨other, b⟩ := first
      obtain ⟨hnot, hrest⟩ := List.nodup_cons.1 h
      rw [Table.lookup_cons_eq, List.mem_cons, Prod.mk.injEq]
      by_cases hname : name = other
      · subst hname
        have hout : (name, a) ∉ rest := fun hmem => hnot (List.mem_map.2 ⟨_, hmem, rfl⟩)
        simp [hout, eq_comm]
      · simp [hname, ih hrest]
  unfold named
  cases hfound : names.lookup name with
  | none =>
    rw [hfound] at hlookup
    simpa using hlookup
  | some b =>
    rw [hfound, Option.some.injEq] at hlookup
    rw [← hlookup, Except.ok.injEq]

/-! ## Fields that are kept apart -/

/-- Whether reading the field `f` leaves the field `g` as it is. -/
structure Apart (f g : Field σ) : Prop where
  isRead : ∀ {s s' : σ} {v : Json}, f.fromValue s v = .ok s' → g.isRead s' = g.isRead s
  comm : ∀ {s s' s'' : σ} {v w : Json}, f.fromValue s v = .ok s' → g.fromValue s' w = .ok s'' →
    ∃ t, g.fromValue s w = .ok t ∧ f.fromValue t v = .ok s''

/-- Whether fields have names of their own, know when they are read and are kept `Apart`. -/
structure Separate (fields : List (Field σ)) : Prop where
  nodup : (fields.map Field.name).Nodup
  isRead_self : ∀ f ∈ fields, ∀ {s s' : σ} {v : Json}, f.fromValue s v = .ok s' → f.isRead s' = true
  apart : ∀ f ∈ fields, ∀ g ∈ fields, f.name ≠ g.name → Apart f g

theorem Separate.tail {f : Field σ} {fields : List (Field σ)} (h : Separate (f :: fields)) :
    Separate fields where
  nodup := (List.nodup_cons.1 h.nodup).2
  isRead_self g hg := h.isRead_self g (List.mem_cons_of_mem f hg)
  apart g hg k hk := h.apart g (List.mem_cons_of_mem f hg) k (List.mem_cons_of_mem f hk)

theorem Separate.name_ne {f g : Field σ} {fields : List (Field σ)} (h : Separate (f :: fields))
    (hg : g ∈ fields) : f.name ≠ g.name := fun heq =>
  (List.nodup_cons.1 h.nodup).1 (heq ▸ List.mem_map_of_mem hg)

theorem Separate.singleton {f : Field σ}
    (h : ∀ {s s' : σ} {v : Json}, f.fromValue s v = .ok s' → f.isRead s' = true) : Separate [f] where
  nodup := List.nodup_singleton _
  isRead_self g hg := by
    obtain rfl := List.mem_singleton.1 hg
    exact h
  apart g hg k hk hne := by
    obtain rfl := List.mem_singleton.1 hg
    obtain rfl := List.mem_singleton.1 hk
    exact absurd rfl hne

theorem Separate.pair {f g : Field σ} (hname : f.name ≠ g.name)
    (hf : ∀ {s s' : σ} {v : Json}, f.fromValue s v = .ok s' → f.isRead s' = true)
    (hg : ∀ {s s' : σ} {v : Json}, g.fromValue s v = .ok s' → g.isRead s' = true)
    (hfg : Apart f g) (hgf : Apart g f) : Separate [f, g] where
  nodup := by simpa using hname
  isRead_self k hk := by
    rcases List.mem_pair.1 hk with rfl | rfl
    · exact hf
    · exact hg
  apart k hk l hl hne := by
    rcases List.mem_pair.1 hk with rfl | rfl <;> rcases List.mem_pair.1 hl with rfl | rfl
    · exact absurd rfl hne
    · exact hfg
    · exact hgf
    · exact absurd rfl hne

section Fields

variable {β γ : Type} {name other : String} {absence absence' : Absence} {d : Decoder β}
  {e : Decoder γ} {get : σ → Option β} {put : β → σ → σ} {get' : σ → Option γ} {put' : γ → σ → σ}

theorem field_fromValue_eq_ok_iff {s s' : σ} {v : Json} :
    (field name absence d get put).fromValue s v = .ok s'
      ↔ ∃ b, d.fromValue v = .ok b ∧ put b s = s' := by
  exact map_eq_ok_iff

theorem isRead_field {s s' : σ} {v : Json}
    (hread : (field name absence d get put).fromValue s v = .ok s')
    (h : ∀ b s, get (put b s) = some b) : (field name absence d get put).isRead s' = true := by
  obtain ⟨b, -, rfl⟩ := field_fromValue_eq_ok_iff.1 hread
  exact congrArg Option.isSome (h b s)

theorem fieldsRead_nil_iff {columns : List (List Json)} {s s' : σ} :
    FieldsRead [] columns s s' ↔ columns = [] ∧ s = s' := by
  refine ⟨fun h => ?_, ?_⟩
  · cases h
    exact ⟨rfl, rfl⟩
  · rintro ⟨rfl, rfl⟩
    exact .nil s

/-- A `field` is left out, or read from the one value in its column. -/
theorem fieldsRead_field_iff {fields : List (Field σ)} {columns : List (List Json)} {s s' : σ} :
    FieldsRead (field name absence d get put :: fields) columns s s'
      ↔ (∃ rest, columns = [] :: rest ∧ FieldsRead fields rest s s')
        ∨ ∃ v b rest, columns = [v] :: rest ∧ get s = none ∧ d.fromValue v = .ok b
          ∧ FieldsRead fields rest (put b s) s' := by
  constructor
  · intro h
    cases h with
    | skip hrest => exact .inl ⟨_, rfl, hrest⟩
    | take hunread hvalue hrest =>
      obtain ⟨b, hb, rfl⟩ := field_fromValue_eq_ok_iff.1 hvalue
      exact .inr ⟨_, b, _, rfl, by simpa [field] using hunread, hb, hrest⟩
  · rintro (⟨rest, rfl, hrest⟩ | ⟨v, b, rest, rfl, hunread, hb, hrest⟩)
    · exact .skip hrest
    · exact .take (by simpa [field] using hunread) (field_fromValue_eq_ok_iff.2 ⟨b, hb, rfl⟩) hrest

theorem apart_field (hget : ∀ b s, get' (put b s) = get' s)
    (hput : ∀ b c s, put' c (put b s) = put b (put' c s)) :
    Apart (field name absence d get put) (field other absence' e get' put') where
  isRead hread := by
    obtain ⟨b, -, rfl⟩ := field_fromValue_eq_ok_iff.1 hread
    exact congrArg Option.isSome (hget b _)
  comm hread hread' := by
    obtain ⟨b, hb, rfl⟩ := field_fromValue_eq_ok_iff.1 hread
    obtain ⟨c, hc, rfl⟩ := field_fromValue_eq_ok_iff.1 hread'
    exact ⟨_, field_fromValue_eq_ok_iff.2 ⟨c, hc, rfl⟩,
      field_fromValue_eq_ok_iff.2 ⟨b, hb, (hput b c _).symm⟩⟩

end Fields

/-! ## Reading from a list -/

theorem fieldsRead_replicate {fields : List (Field σ)} {s s' : σ}
    (h : FieldsRead fields (List.replicate fields.length []) s s') : s' = s := by
  induction fields with
  | nil =>
    cases h
    rfl
  | cons f fields ih =>
    rw [List.length_cons, List.replicate_succ] at h
    cases h with
    | skip hrest => exact ih hrest

theorem fieldsRead_unread (fields : List (Field σ)) (s : σ) :
    FieldsRead fields (List.replicate fields.length []) s s := by
  induction fields with
  | nil => exact .nil s
  | cons f fields ih => exact .skip ih

theorem inOrder_cons (count : Nat) (v : Json) (items : List Json) :
    inOrder (count + 1) (v :: items) = [v] :: inOrder count items := by
  simp [inOrder]

/-- The fields that an array does not reach are as unread as before. -/
theorem FieldsRead.isRead_drop {fields : List (Field σ)} (h : Separate fields) {items : List Json}
    {s s' : σ} (hread : FieldsRead fields (inOrder fields.length items) s s') :
    ∀ f ∈ fields.drop items.length, f.isRead s' = f.isRead s := by
  induction fields generalizing items s with
  | nil => simp
  | cons f fields ih =>
    cases items with
    | nil =>
      rw [fieldsRead_replicate hread]
      exact fun _ _ => rfl
    | cons v items =>
      rw [List.length_cons, inOrder_cons] at hread
      cases hread with
      | take _ hvalue hrest =>
        intro g hg
        have hne : f.name ≠ g.name := h.name_ne (List.mem_of_mem_drop hg)
        have happart : Apart f g :=
          h.apart f List.mem_cons_self g (List.mem_cons_of_mem f (List.mem_of_mem_drop hg)) hne
        rw [ih h.tail hrest g hg, happart.isRead hvalue]

namespace Form

variable {form : Form σ α}

theorem lacking_eq_ok_iff (count : Nat) (more : List (Field σ)) :
    form.lacking count more = .ok () ↔ ∀ f ∈ more, f.absence = .allowed := by
  induction more generalizing count with
  | nil => simp [lacking]
  | cons f more ih =>
    rw [lacking]
    by_cases hallowed : f.absence = .allowed
    · simp [hallowed, ih]
    · simp [hallowed]

/-- `fieldsFromValues` succeeds where the array lacks no field that it may not lack and the others are
    `FieldsRead`. -/
theorem fieldsFromValues_eq_ok_iff {fields : List (Field σ)} (h : Separate fields) {s s' : σ}
    (hunread : ∀ f ∈ fields, f.isRead s = false) (count : Nat) (items : List Json) :
    form.fieldsFromValues count s fields items = .ok s'
      ↔ (∀ f ∈ fields.drop items.length, f.absence = .allowed)
        ∧ FieldsRead fields (inOrder fields.length items) s s' := by
  induction fields generalizing items s count with
  | nil =>
    cases items with
    | nil =>
      simp only [fieldsFromValues, Except.ok.injEq, List.drop_nil, List.not_mem_nil, false_implies,
        implies_true, true_and]
      exact ⟨fun heq => heq ▸ .nil s, fun hread => (fieldsRead_replicate hread).symm⟩
    | cons v items =>
      refine ⟨fun heq => absurd heq (by simp [fieldsFromValues]), fun hread => ?_⟩
      have hcolumns : FieldsRead [] ([v] :: inOrder 0 items) s s' := by simpa [inOrder] using hread.2
      cases hcolumns
  | cons f fields ih =>
    cases items with
    | nil =>
      rw [fieldsFromValues, List.length_nil, List.drop_zero]
      constructor
      · intro hok
        obtain ⟨u, hlacking, rfl⟩ := map_eq_ok_iff.1 hok
        exact ⟨(lacking_eq_ok_iff count _).1 hlacking, fieldsRead_unread _ s⟩
      · rintro ⟨hallowed, hread⟩
        rw [(lacking_eq_ok_iff count _).2 hallowed, fieldsRead_replicate hread]
        rfl
    | cons v items =>
      rw [fieldsFromValues, List.length_cons, List.length_cons, List.drop_succ_cons, inOrder_cons]
      cases hvalue : f.fromValue s v with
      | error cause =>
        simp only [reduceCtorEq, false_iff, not_and]
        intro _ hread
        cases hread with
        | take _ hok _ => exact absurd (hvalue.symm.trans hok) (by simp)
      | ok t =>
        have hunread' : ∀ g ∈ fields, g.isRead t = false := fun g hg => by
          rw [(h.apart f List.mem_cons_self g (List.mem_cons_of_mem f hg) (h.name_ne hg)).isRead hvalue]
          exact hunread g (List.mem_cons_of_mem f hg)
        simp only
        rw [ih h.tail hunread' (count + 1) items]
        refine and_congr_right fun _ => ⟨fun hread => ?_, fun hread => ?_⟩
        · exact .take (hunread f List.mem_cons_self) hvalue hread
        · cases hread with
          | take _ hok hrest =>
            obtain rfl := Except.ok.inj (hvalue.symm.trans hok)
            exact hrest

end Form

/-! ## Reading from an object -/

/-- One more value in the column of a field is read first as well as in its place: `FieldsRead` does not ask
    for an order between fields. -/
theorem fieldsRead_cons_iff {fields : List (Field σ)} (h : Separate fields) {f : Field σ}
    (hf : f ∈ fields) {before after : String → List Json} {v : Json}
    (hself : after f.name = v :: before f.name)
    (hother : ∀ name, name ≠ f.name → after name = before name) {s s' : σ} :
    FieldsRead fields (fields.map fun g => after g.name) s s'
      ↔ f.isRead s = false ∧ ∃ t, f.fromValue s v = .ok t
        ∧ FieldsRead fields (fields.map fun g => before g.name) t s' := by
  induction fields generalizing s with
  | nil => exact absurd hf (by simp)
  | cons g fields ih =>
    rw [List.map_cons, List.map_cons]
    rcases List.mem_cons.1 hf with rfl | hmem
    · have hrest : (fields.map fun g => after g.name) = fields.map fun g => before g.name :=
        List.map_congr_left fun g hg => hother g.name (h.name_ne hg).symm
      rw [hself, hrest]
      constructor
      · intro hread
        -- The column had room for one value only, so nothing else is in it.
        generalize hcolumn : before f.name = column at hread
        cases hread with
        | take hunread hvalue hrest => exact ⟨hunread, _, hvalue, .skip hrest⟩
      · rintro ⟨hunread, t, hvalue, hread⟩
        generalize before f.name = column at hread
        cases hread with
        | skip hrest => exact .take hunread hvalue hrest
        | take hunread' =>
          -- The field cannot be read twice.
          exact absurd ((h.isRead_self f List.mem_cons_self hvalue).symm.trans hunread') (by simp)
    · -- The field comes later: its reading is moved past that of the first one.
      have hne : g.name ≠ f.name := h.name_ne hmem
      have hgf : Apart g f := h.apart g List.mem_cons_self f hf hne
      have hfg : Apart f g := h.apart f hf g List.mem_cons_self hne.symm
      rw [hother g.name hne]
      generalize before g.name = column
      constructor
      · intro hread
        cases hread with
        | skip hrest =>
          obtain ⟨hunread, t, hvalue, hread⟩ := (ih h.tail hmem).1 hrest
          exact ⟨hunread, t, hvalue, .skip hread⟩
        | take hunread hvalue hrest =>
          obtain ⟨hunread', t, hvalue', hread⟩ := (ih h.tail hmem).1 hrest
          obtain ⟨u, hfirst, hsecond⟩ := hgf.comm hvalue hvalue'
          refine ⟨(hgf.isRead hvalue).symm.trans hunread', u, hfirst, .take ?_ hsecond hread⟩
          rw [hfg.isRead hfirst, hunread]
      · rintro ⟨hunread, t, hvalue, hread⟩
        cases hread with
        | skip hrest => exact .skip ((ih h.tail hmem).2 ⟨hunread, t, hvalue, hrest⟩)
        | take hunread' hvalue' hrest =>
          obtain ⟨u, hfirst, hsecond⟩ := hfg.comm hvalue hvalue'
          refine .take ((hfg.isRead hvalue).symm.trans hunread') hfirst
            ((ih h.tail hmem).2 ⟨?_, _, hsecond, hrest⟩)
          rw [hgf.isRead hfirst, hunread]

namespace Form

variable {form : Form σ α}

/-- `Form.field?` finds nothing just under a name that is none of the form's. -/
theorem field?_eq_none_iff (name : String) :
    form.field? name = none ↔ name ∉ form.fields.map Field.name := by
  simp [field?, List.find?_eq_none]

theorem field?_eq_some {name : String} {f : Field σ} (h : form.field? name = some f) :
    f ∈ form.fields ∧ f.name = name := by
  unfold field? at h
  exact ⟨List.mem_of_find?_eq_some h, by simpa using List.find?_some h⟩

theorem record_fromValue_object (form : Form σ α) (ms : List (String × Json)) :
    (record form).fromValue (.object ms) = (form.fieldsFromMembers form.start ms).bind form.complete :=
  rfl

/-- A member under the name of a `field` that was not read yet is read by the decoder of the field. -/
theorem fieldsFromMembers_cons_field {β : Type} {name : String} {absence : Absence} {d : Decoder β}
    {get : σ → Option β} {put : β → σ → σ}
    (hfield : form.field? name = some (field name absence d get put)) {s : σ} (hunread : get s = none)
    (v : Json) (ms : List (String × Json)) :
    form.fieldsFromMembers s ((name, v) :: ms)
      = (d.fromValue v).bind fun b => form.fieldsFromMembers (put b s) ms := by
  rw [fieldsFromMembers, hfield]
  simp only [field, hunread, Option.isSome_none, Bool.false_eq_true, if_false]
  cases d.fromValue v <;> rfl

/-- `fieldsFromMembers` reads fields from the members of an object by their names, in whatever order these
    stand. -/
theorem fieldsFromMembers_eq_ok_iff (h : Separate form.fields) (ms : List (String × Json)) (s s' : σ) :
    form.fieldsFromMembers s ms = .ok s'
      ↔ (form.closed = true → ∀ m ∈ ms, m.1 ∈ form.fields.map Field.name)
        ∧ FieldsRead form.fields (form.fields.map fun f => valuesOf f.name ms) s s' := by
  induction ms generalizing s with
  | nil =>
    rw [fieldsFromMembers]
    have hcolumns : (form.fields.map fun f => valuesOf f.name [])
        = List.replicate form.fields.length [] := by simp
    rw [hcolumns, Except.ok.injEq]
    refine ⟨fun heq => ⟨by simp, heq ▸ fieldsRead_unread _ s⟩, fun hread => ?_⟩
    exact (fieldsRead_replicate hread.2).symm
  | cons m rest ih =>
    obtain ⟨name, v⟩ := m
    rw [fieldsFromMembers]
    cases hfield : form.field? name with
    | none =>
      -- The member is in no column; it matters only where the form is closed.
      have hname := (field?_eq_none_iff name).1 hfield
      have hcolumns : (form.fields.map fun f => valuesOf f.name ((name, v) :: rest))
          = form.fields.map fun f => valuesOf f.name rest := by
        refine List.map_congr_left fun f hf => valuesOf_cons_of_ne ?_ v rest
        rintro rfl
        exact hname (List.mem_map_of_mem hf)
      rw [hcolumns]
      cases hclosed : form.closed with
      | true =>
        exact iff_of_false (by simp) fun hread => hname (hread.1 rfl _ List.mem_cons_self)
      | false =>
        simp only [Bool.false_eq_true, if_false]
        rw [ih s, hclosed]
        simp
    | some f =>
      obtain ⟨hf, rfl⟩ := field?_eq_some hfield
      have hknown : (form.closed = true → ∀ m ∈ (f.name, v) :: rest, m.1 ∈ form.fields.map Field.name)
          ↔ (form.closed = true → ∀ m ∈ rest, m.1 ∈ form.fields.map Field.name) := by
        simp only [List.forall_mem_cons, List.mem_map_of_mem hf, true_and]
      have hcolumns := @fieldsRead_cons_iff σ form.fields h f hf (valuesOf · rest)
        (valuesOf · ((f.name, v) :: rest)) v (valuesOf_cons_self f.name v rest)
        (fun name hne => valuesOf_cons_of_ne hne.symm v rest) s s'
      rw [hknown, hcolumns]
      simp only
      cases hunread : f.isRead s with
      | true => simp
      | false =>
        cases hvalue : f.fromValue s v with
        | error cause => simp
        | ok t => simp [ih t]

end Form

/-! ## Whole records -/

/-- Whether some columns make a record: the fields of the form are `FieldsRead` from its start, and `finish`
    gives the record. -/
def Form.Makes (form : Form σ α) (columns : List (List Json)) (a : α) : Prop :=
  ∃ s, FieldsRead form.fields columns form.start s ∧ form.finish s = .ok a

/-- Whether the fields of a form are `Separate`, unread at the start, and read at the end unless an array
    may lack them. -/
structure Form.Regular (form : Form σ α) : Prop extends Separate form.fields where
  unread : ∀ f ∈ form.fields, f.isRead form.start = false
  needed : ∀ s a, form.finish s = .ok a → ∀ f ∈ form.fields, f.absence ≠ .allowed → f.isRead s = true

/-- A form with one field that is always needed is `Regular`. -/
theorem Form.regular_of_one {β : Type} {form : Form (Option β) α} {name : String} {d : Decoder β}
    (hfields : form.fields = [field name .refused d id fun b _ => some b])
    (hstart : form.start = none) (hneeded : ∀ a, form.finish none ≠ .ok a) : form.Regular where
  toSeparate := by
    rw [hfields]
    exact .singleton fun hread => isRead_field hread fun _ _ => rfl
  unread f hf := by
    rw [hfields] at hf
    obtain rfl := List.mem_singleton.1 hf
    rw [hstart]
    rfl
  needed s a hfinish f hf _ := by
    rw [hfields] at hf
    obtain rfl := List.mem_singleton.1 hf
    cases s with
    | none => exact absurd hfinish (hneeded a)
    | some b => rfl

theorem Form.makes_of_one {β : Type} {form : Form (Option β) α} {name : String} {d : Decoder β}
    (hfields : form.fields = [field name .refused d id fun b _ => some b])
    (hstart : form.start = none) (hneeded : ∀ a, form.finish none ≠ .ok a)
    (columns : List (List Json)) (a : α) :
    form.Makes columns a
      ↔ ∃ v b, columns = [[v]] ∧ d.fromValue v = .ok b ∧ form.finish (some b) = .ok a := by
  unfold Form.Makes
  rw [hfields, hstart]
  simp only [fieldsRead_field_iff, fieldsRead_nil_iff]
  constructor
  · rintro ⟨s, ⟨rest, -, -, rfl⟩ | ⟨v, b, rest, rfl, -, hb, rfl, rfl⟩, hfinish⟩
    · exact absurd hfinish (hneeded a)
    · exact ⟨v, b, rfl, hb, hfinish⟩
  · rintro ⟨v, b, rfl, hb, hfinish⟩
    exact ⟨some b, .inr ⟨v, b, [], rfl, rfl, hb, rfl, rfl⟩, hfinish⟩

namespace Form

variable {form : Form σ α}

theorem complete_eq_ok_iff (s : σ) (a : α) : form.complete s = .ok a ↔ form.finish s = .ok a := by
  unfold complete
  cases form.finish s <;> simp

/-- A `Regular` form reads a record from an object by the columns of its fields' names (`valuesOf`). -/
theorem Regular.fromValue_object (h : form.Regular) (ms : List (String × Json)) (a : α) :
    form.fromValue (.object ms) = .ok a
      ↔ (form.closed = true → ∀ m ∈ ms, m.1 ∈ form.fields.map Field.name)
        ∧ form.Makes (form.fields.map fun f => valuesOf f.name ms) a := by
  rw [fromValue, bind_eq_ok_iff]
  simp only [fieldsFromMembers_eq_ok_iff h.toSeparate, complete_eq_ok_iff]
  constructor
  · rintro ⟨s, ⟨hknown, hfields⟩, hfinish⟩
    exact ⟨hknown, s, hfields, hfinish⟩
  · rintro ⟨hknown, s, hfields, hfinish⟩
    exact ⟨s, ⟨hknown, hfields⟩, hfinish⟩

/-- A `Regular` form reads a record from an array by the columns of its elements (`inOrder`). -/
theorem Regular.fromValue_array (h : form.Regular) (items : List Json) (a : α) :
    form.fromValue (.array items) = .ok a ↔ form.Makes (inOrder form.fields.length items) a := by
  rw [fromValue, bind_eq_ok_iff]
  simp only [fieldsFromValues_eq_ok_iff h.toSeparate h.unread, complete_eq_ok_iff]
  constructor
  · rintro ⟨s, ⟨-, hfields⟩, hfinish⟩
    exact ⟨s, hfields, hfinish⟩
  · rintro ⟨s, hfields, hfinish⟩
    refine ⟨s, ⟨fun f hf => ?_, hfields⟩, hfinish⟩
    -- A field that the list does not reach is unread at the end, so it is none that is needed.
    by_contra hne
    have hmem := List.mem_of_mem_drop hf
    have hunread := (hfields.isRead_drop h.toSeparate f hf).trans (h.unread f hmem)
    exact absurd (h.needed s a hfinish f hmem hne) (by simp [hunread])

end Form

end Decoder

end PageRisk.Json
