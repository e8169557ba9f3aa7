import PageRisk.Message.Request
import PageRisk.Proofs.Json.Decoder

set_option autoImplicit false

/-! # The grammar of requests

Which values are requests, and which request each of them is. A client is told of objects with the name of
their type under `type`, and of page reports, which have no type and nothing but their own fields
(`Documented`). More is taken: an object may have the number of its type, and a list may stand for an
object, without names (`Undocumented`). Together these are all values that are taken
(`ofValue_eq_ok_iff`). -/

namespace PageRisk.Message.Request

open Json (Decoder Cause valuesOf inOrder valuesOf_cons_self valuesOf_cons_of_ne
  valuesOf_filter_ne valuesOf_eq_nil_iff)
open Json.Decoder

/-! ## Fields -/

/-- The names of the fields of a type, in their order. -/
def Kind.fieldNames : Kind → List String
  | .analyze => ["hostname", "cspMeta"]
  | .toggle => ["enabled"]
  | .toggleAllowlist => ["hostname", "enabled"]
  | .setThreshold => ["threshold"]
  | .clearCache => []

theorem Kind.tag_not_mem_fieldNames (kind : Kind) : tag ∉ kind.fieldNames := by
  cases kind <;> decide

/-- The column of a page's policy, and the policy: it may be left out or null. -/
inductive PolicyText : List Json → Option String → Prop
  | absent : PolicyText [] none
  | null : PolicyText [.null] none
  | text (csp : String) : PolicyText [.string csp] (some csp)

/-- The request of a kind that the columns of its fields make. -/
inductive Fields : Kind → List (List Json) → Request → Prop
  | analyze (hostname : String) {column : List Json} {csp : Option String}
      (hcsp : PolicyText column csp) :
      Fields .analyze [[.string hostname], column] (.analyze hostname csp)
  | toggle (enabled : Bool) : Fields .toggle [[.bool enabled]] (.toggle enabled)
  | toggleAllowlist (hostname : String) (enabled : Bool) :
      Fields .toggleAllowlist [[.string hostname], [.bool enabled]] (.toggleAllowlist hostname enabled)
  | setThreshold (threshold : UInt32) :
      Fields .setThreshold [[.ofUInt32 threshold]] (.setThreshold threshold)
  | clearCache : Fields .clearCache [] .clearCache

/-- `PolicyText` is what the decoder of an optional text reads from a column of one value. -/
theorem policyText_of_optional {v : Json} {csp : Option String}
    (h : (optional string).fromValue v = .ok csp) : PolicyText [v] csp := by
  rcases (optional_fromValue_eq_ok_iff string v csp).1 h with ⟨rfl, rfl⟩ | ⟨-, text, htext, rfl⟩
  · exact .null
  · obtain rfl := (string_fromValue_eq_ok_iff v text).1 htext
    exact .text text

theorem pageForm_regular (title : String) (closed : Bool) : (pageForm title closed).Regular where
  toSeparate := .pair (by decide) (fun hread => isRead_field hread fun _ _ => rfl)
    (fun hread => isRead_field hread fun _ _ => rfl) (apart_field (fun _ _ => rfl) fun _ _ _ => rfl)
    (apart_field (fun _ _ => rfl) fun _ _ _ => rfl)
  unread f hf := by
    rcases List.mem_pair.1 hf with rfl | rfl <;> rfl
  needed := by
    rintro ⟨hostname, csp⟩ request hfinish f hf hneeded
    rcases List.mem_pair.1 hf with rfl | rfl
    · cases hostname with
      | none => exact absurd hfinish (by simp [pageForm])
      | some hostname => rfl
    · exact absurd rfl hneeded

theorem listingForm_regular : listingForm.Regular where
  toSeparate := .pair (by decide) (fun hread => isRead_field hread fun _ _ => rfl)
    (fun hread => isRead_field hread fun _ _ => rfl) (apart_field (fun _ _ => rfl) fun _ _ _ => rfl)
    (apart_field (fun _ _ => rfl) fun _ _ _ => rfl)
  unread f hf := by
    rcases List.mem_pair.1 hf with rfl | rfl <;> rfl
  needed := by
    rintro ⟨hostname, enabled⟩ request hfinish f hf hneeded
    cases hostname with
    | none => exact absurd hfinish (by simp [listingForm])
    | some hostname =>
      cases enabled with
      | none => exact absurd hfinish (by simp [listingForm])
      | some enabled => rcases List.mem_pair.1 hf with rfl | rfl <;> rfl

theorem toggleForm_regular : toggleForm.Regular :=
  Form.regular_of_one rfl rfl fun _ => by simp [toggleForm]

theorem thresholdForm_regular : thresholdForm.Regular :=
  Form.regular_of_one rfl rfl fun _ => by simp [thresholdForm]

theorem pageForm_makes_iff (title : String) (closed : Bool) (columns : List (List Json))
    (request : Request) :
    (pageForm title closed).Makes columns request ↔ Fields .analyze columns request := by
  constructor
  · rintro ⟨s, hread, hfinish⟩
    simp only [pageForm, fieldsRead_field_iff, fieldsRead_nil_iff] at hread
    rcases hread with ⟨rest, rfl, hrest⟩ | ⟨v, hostname, rest, rfl, -, hhostname, hrest⟩
    · rcases hrest with ⟨_, rfl, rfl, rfl⟩ | ⟨w, csp, _, rfl, -, -, rfl, rfl⟩
      · exact absurd hfinish (by simp [pageForm])
      · exact absurd hfinish (by simp [pageForm])
    · obtain rfl := (string_fromValue_eq_ok_iff v hostname).1 hhostname
      rcases hrest with ⟨_, rfl, rfl, rfl⟩ | ⟨w, csp, _, rfl, -, hcsp, rfl, rfl⟩
      · obtain rfl := Except.ok.inj hfinish
        exact .analyze hostname .absent
      · obtain rfl := Except.ok.inj hfinish
        exact .analyze hostname (policyText_of_optional hcsp)
  · intro hfields
    cases hfields with
    | analyze hostname hcsp =>
      cases hcsp with
      | absent => exact ⟨⟨some hostname, none⟩, .take rfl rfl (.skip (.nil _)), rfl⟩
      | null => exact ⟨⟨some hostname, some none⟩, .take rfl rfl (.take rfl rfl (.nil _)), rfl⟩
      | text csp => exact ⟨⟨some hostname, some (some csp)⟩, .take rfl rfl (.take rfl rfl (.nil _)), rfl⟩

theorem listingForm_makes_iff (columns : List (List Json)) (request : Request) :
    listingForm.Makes columns request ↔ Fields .toggleAllowlist columns request := by
  constructor
  · rintro ⟨s, hread, hfinish⟩
    simp only [listingForm, fieldsRead_field_iff, fieldsRead_nil_iff] at hread
    rcases hread with ⟨rest, rfl, hrest⟩ | ⟨v, hostname, rest, rfl, -, hhostname, hrest⟩
    · rcases hrest with ⟨_, rfl, rfl, rfl⟩ | ⟨w, enabled, _, rfl, -, -, rfl, rfl⟩
      · exact absurd hfinish (by simp [listingForm])
      · exact absurd hfinish (by simp [listingForm])
    · obtain rfl := (string_fromValue_eq_ok_iff v hostname).1 hhostname
      rcases hrest with ⟨_, rfl, rfl, rfl⟩ | ⟨w, enabled, _, rfl, -, henabled, rfl, rfl⟩
      · exact absurd hfinish (by simp [listingForm])
      · obtain rfl := (bool_fromValue_eq_ok_iff w enabled).1 henabled
        obtain rfl := Except.ok.inj hfinish
        exact .toggleAllowlist hostname enabled
  · intro hfields
    cases hfields with
    | toggleAllowlist hostname enabled =>
      exact ⟨⟨some hostname, some enabled⟩, .take rfl rfl (.take rfl rfl (.nil _)), rfl⟩

theorem toggleForm_makes_iff (columns : List (List Json)) (request : Request) :
    toggleForm.Makes columns request ↔ Fields .toggle columns request := by
  rw [Form.makes_of_one rfl rfl fun _ => by simp [toggleForm]]
  constructor
  · rintro ⟨v, enabled, rfl, henabled, hfinish⟩
    obtain rfl := (bool_fromValue_eq_ok_iff v enabled).1 henabled
    obtain rfl := Except.ok.inj hfinish
    exact .toggle enabled
  · intro hfields
    cases hfields with
    | toggle enabled => exact ⟨_, enabled, rfl, rfl, rfl⟩

theorem thresholdForm_makes_iff (columns : List (List Json)) (request : Request) :
    thresholdForm.Makes columns request ↔ Fields .setThreshold columns request := by
  rw [Form.makes_of_one rfl rfl fun _ => by simp [thresholdForm]]
  constructor
  · rintro ⟨v, threshold, rfl, hthreshold, hfinish⟩
    obtain rfl := (uint32_fromValue_eq_ok_iff v threshold).1 hthreshold
    obtain rfl := Except.ok.inj hfinish
    exact .setThreshold threshold
  · intro hfields
    cases hfields with
    | setThreshold threshold =>
      exact ⟨_, threshold, rfl, (uint32_fromValue_eq_ok_iff _ threshold).2 rfl, rfl⟩

/-- `ofFields` reads an object as the request whose `Fields` it holds under their names, among any other
    members. -/
theorem ofFields_object_iff (kind : Kind) (ms : List (String × Json)) (request : Request) :
    ofFields kind (.object ms) = .ok request
      ↔ Fields kind (kind.fieldNames.map (valuesOf · ms)) request := by
  cases kind with
  | analyze =>
    rw [ofFields, (pageForm_regular _ false).fromValue_object, pageForm_makes_iff]
    exact and_iff_right fun h => absurd h (by simp [pageForm])
  | toggle =>
    rw [ofFields, toggleForm_regular.fromValue_object, toggleForm_makes_iff]
    exact and_iff_right fun h => absurd h (by simp [toggleForm])
  | toggleAllowlist =>
    rw [ofFields, listingForm_regular.fromValue_object, listingForm_makes_iff]
    exact and_iff_right fun h => absurd h (by simp [listingForm])
  | setThreshold =>
    rw [ofFields, thresholdForm_regular.fromValue_object, thresholdForm_makes_iff]
    exact and_iff_right fun h => absurd h (by simp [thresholdForm])
  | clearCache =>
    refine ⟨fun h => ?_, fun h => ?_⟩
    · obtain rfl := Except.ok.inj h
      exact .clearCache
    · cases h
      rfl

/-- `ofFields` reads an array as the request whose `Fields` it holds in their order. -/
theorem ofFields_array_iff (kind : Kind) (items : List Json) (request : Request) :
    ofFields kind (.array items) = .ok request
      ↔ Fields kind (inOrder kind.fieldNames.length items) request := by
  cases kind with
  | analyze =>
    rw [ofFields, (pageForm_regular _ false).fromValue_array, pageForm_makes_iff]
    rfl
  | toggle =>
    rw [ofFields, toggleForm_regular.fromValue_array, toggleForm_makes_iff]
    rfl
  | toggleAllowlist =>
    rw [ofFields, listingForm_regular.fromValue_array, listingForm_makes_iff]
    rfl
  | setThreshold =>
    rw [ofFields, thresholdForm_regular.fromValue_array, thresholdForm_makes_iff]
    rfl
  | clearCache =>
    cases items with
    | nil =>
      refine ⟨fun h => ?_, fun h => ?_⟩
      · obtain rfl := Except.ok.inj h
        exact .clearCache
      · cases h
        rfl
    | cons v items =>
      -- This type has no fields: an object may have any members, but a list no elements.
      refine iff_of_false (by simp [ofFields]) fun h => ?_
      generalize hcolumns : inOrder Kind.clearCache.fieldNames.length (v :: items) = columns at h
      cases h
      exact absurd hcolumns (by simp [inOrder])

/-! ## Types -/

/-- Whether a value is the name of a type, by `kinds`. -/
def IsName (v : Json) (kind : Kind) : Prop :=
  ∃ name, v = .string name ∧ (name, kind) ∈ kinds

/-- Whether a value is the number of a type: its place in `kinds`. -/
def IsNumber (v : Json) (kind : Kind) : Prop :=
  ∃ (n : WireInt) (i : Nat), v = .number (.integer n) ∧ n.value = i
    ∧ (kinds.map Prod.snd)[i]? = some kind

theorem kindOfValue_eq_ok_iff (v : Json) (kind : Kind) :
    kindOfValue true v = .ok kind ↔ IsName v kind ∨ IsNumber v kind := by
  cases v with
  | string name =>
    rw [kindOfValue, Decoder.named_eq_ok_iff (by decide)]
    simp [IsName, IsNumber]
  | number n =>
    cases n with
    | integer n =>
      have hnumber : IsNumber (.number (.integer n)) kind
          ↔ 0 ≤ n.value ∧ (kinds.map Prod.snd)[n.value.toNat]? = some kind := by
        constructor
        · rintro ⟨_, i, heq, hi, hkind⟩
          obtain rfl := Number.integer.inj (Json.number.inj heq)
          rw [hi, Int.toNat_natCast]
          exact ⟨by omega, hkind⟩
        · rintro ⟨hpos, hkind⟩
          exact ⟨n, n.value.toNat, rfl, by omega, hkind⟩
      have hname : ¬ IsName (.number (.integer n)) kind := by simp [IsName]
      rw [or_iff_right hname, hnumber, kindOfValue]
      by_cases hpos : 0 ≤ n.value
      · simp only [hpos, decide_true, Bool.and_self, if_true, true_and]
        cases (kinds.map Prod.snd)[n.value.toNat]? <;> simp
      · simp [hpos]
    | real x => simp [kindOfValue, IsName, IsNumber]
  | _ => simp [kindOfValue, IsName, IsNumber]

/-- `draftOfMembers` gathers the type, which is given once at most, and all other members as fields. -/
theorem draftOfMembers_eq_ok_iff (d d' : Draft) (ms : List (String × Json)) :
    draftOfMembers true d ms = .ok d'
      ↔ d'.fields = (ms.filter (·.1 != tag)).reverse ++ d.fields
        ∧ (valuesOf tag ms = [] ∧ d'.kind = d.kind
          ∨ d.kind = none ∧ ∃ v kind, valuesOf tag ms = [v] ∧ kindOfValue true v = .ok kind
            ∧ d'.kind = some kind) := by
  induction ms generalizing d with
  | nil =>
    obtain ⟨kind, fields⟩ := d
    obtain ⟨kind', fields'⟩ := d'
    simp [draftOfMembers, eq_comm, and_comm]
  | cons m rest ih =>
    obtain ⟨name, v⟩ := m
    rw [draftOfMembers]
    by_cases htag : name = tag
    · subst htag
      rw [if_pos (by simp), valuesOf_cons_self]
      cases hkind : d.kind with
      | some kind => simp
      | none =>
        cases hvalue : kindOfValue true v with
        | error cause => simp [hvalue]
        | ok kind =>
          -- From here on the type is known, so that there may be no second one.
          simp only [Option.isSome_none, Bool.false_eq_true, if_false]
          rw [ih]
          refine and_congr (by simp) ⟨fun h => ?_, fun h => ?_⟩
          · rcases h with ⟨hnone, hsame⟩ | ⟨hfalse, -⟩
            · exact .inr ⟨trivial, v, kind, by rw [hnone], hvalue, hsame⟩
            · exact absurd hfalse (by simp)
          · rcases h with ⟨hnone, -⟩ | ⟨-, w, kind', hone, hvalue', hsame⟩
            · exact absurd hnone (by simp)
            · obtain ⟨rfl, hnone⟩ := List.cons.inj hone
              obtain rfl := Except.ok.inj (hvalue.symm.trans hvalue')
              exact .inl ⟨hnone, hsame⟩
    · rw [if_neg (by simpa using htag), valuesOf_cons_of_ne htag, ih]
      simp [htag]

/-! ## Requests with a type -/

/-- `fromValue` reads an object by its one type, a name or a number, and the `Fields` of that type. -/
theorem fromValue_object_iff (ms : List (String × Json)) (request : Request) :
    fromValue true (.object ms) = .ok request
      ↔ ∃ v kind, valuesOf tag ms = [v] ∧ (IsName v kind ∨ IsNumber v kind)
        ∧ Fields kind (kind.fieldNames.map (valuesOf · ms)) request := by
  have hothers (kind : Kind) : (kind.fieldNames.map (valuesOf · (ms.filter (·.1 != tag))))
      = kind.fieldNames.map (valuesOf · ms) := by
    refine List.map_congr_left fun name hname => valuesOf_filter_ne ?_ ms
    rintro rfl
    exact kind.tag_not_mem_fieldNames hname
  rw [fromValue, bind_eq_ok_iff]
  constructor
  · rintro ⟨d, hdraft, hok⟩
    obtain ⟨hfields, ⟨-, hnone⟩ | ⟨-, v, kind, hone, hvalue, hkind⟩⟩ :=
      (draftOfMembers_eq_ok_iff {} d ms).1 hdraft
    · exact absurd hok (by simp [hnone])
    · simp only [hkind, hfields, List.append_nil, List.reverse_reverse] at hok
      refine ⟨v, kind, hone, (kindOfValue_eq_ok_iff v kind).1 hvalue, ?_⟩
      rw [← hothers]
      exact (ofFields_object_iff kind _ request).1 hok
  · rintro ⟨v, kind, hone, hkind, hfields⟩
    refine ⟨⟨some kind, (ms.filter (·.1 != tag)).reverse⟩, ?_, ?_⟩
    · exact (draftOfMembers_eq_ok_iff {} _ ms).2 ⟨by simp, .inr ⟨rfl, v, kind, hone,
        (kindOfValue_eq_ok_iff v kind).2 hkind, rfl⟩⟩
    · simp only [List.reverse_reverse]
      rw [← hothers] at hfields
      exact (ofFields_object_iff kind _ request).2 hfields

/-- `fromValue` reads an array by its first element, a name or a number, and the `Fields` in their order. -/
theorem fromValue_array_iff (items : List Json) (request : Request) :
    fromValue true (.array items) = .ok request
      ↔ ∃ v fields kind, items = v :: fields ∧ (IsName v kind ∨ IsNumber v kind)
        ∧ Fields kind (inOrder kind.fieldNames.length fields) request := by
  cases items with
  | nil => simp [fromValue]
  | cons v fields =>
    rw [fromValue, bind_eq_ok_iff]
    simp only [kindOfValue_eq_ok_iff, ofFields_array_iff]
    constructor
    · rintro ⟨kind, hkind, hfields⟩
      exact ⟨v, fields, kind, rfl, hkind, hfields⟩
    · rintro ⟨w, others, kind, heq, hkind, hfields⟩
      obtain ⟨rfl, rfl⟩ := List.cons.inj heq
      exact ⟨kind, hkind, hfields⟩

/-! ## All requests -/

/-- The forms of requests that clients are told of. A `typed` object has the name of a type under `tag`,
    once, and the fields of that type among any other members. A `report` has no type and no members but the
    fields of a page. -/
inductive Documented : Json → Request → Prop
  | typed {ms : List (String × Json)} {v : Json} {kind : Kind} {request : Request}
      (htype : valuesOf tag ms = [v]) (hkind : IsName v kind)
      (hfields : Fields kind (kind.fieldNames.map (valuesOf · ms)) request) :
      Documented (.object ms) request
  | report {ms : List (String × Json)} {request : Request}
      (hnames : ∀ m ∈ ms, m.1 ∈ Kind.analyze.fieldNames)
      (hfields : Fields .analyze (Kind.analyze.fieldNames.map (valuesOf · ms)) request) :
      Documented (.object ms) request

/-- An array of a type, by its name or its number, and the `Fields` of that type in their order. -/
inductive TypedList : List Json → Request → Prop
  | intro {v : Json} {fields : List Json} {kind : Kind} {request : Request}
      (hkind : IsName v kind ∨ IsNumber v kind)
      (hfields : Fields kind (inOrder kind.fieldNames.length fields) request) :
      TypedList (v :: fields) request

/-- The forms that are taken for requests all the same: `numbered`, an object with the number of a type in
    place of its name; `typedList`, an array of a type and its fields; and `reportList`, an array of the
    fields of a page, which is tried where there is no type. -/
inductive Undocumented : Json → Request → Prop
  | numbered {ms : List (String × Json)} {v : Json} {kind : Kind} {request : Request}
      (htype : valuesOf tag ms = [v]) (hkind : IsNumber v kind)
      (hfields : Fields kind (kind.fieldNames.map (valuesOf · ms)) request) :
      Undocumented (.object ms) request
  | typedList {items : List Json} {request : Request} (hlist : TypedList items request) :
      Undocumented (.array items) request
  | reportList {items : List Json} {request : Request} (hlist : ∀ other, ¬ TypedList items other)
      (hfields : Fields .analyze (inOrder Kind.analyze.fieldNames.length items) request) :
      Undocumented (.array items) request

theorem fromValue_typedList_iff (items : List Json) (request : Request) :
    fromValue true (.array items) = .ok request ↔ TypedList items request := by
  rw [fromValue_array_iff]
  constructor
  · rintro ⟨v, fields, kind, rfl, hkind, hfields⟩
    exact .intro hkind hfields
  · rintro ⟨hkind, hfields⟩
    exact ⟨_, _, _, rfl, hkind, hfields⟩

/-- `ofValue` tries a request with a type first, and then a page report. -/
theorem ofValue_eq_ok_iff_or (v : Json) (request : Request) :
    ofValue v = .ok request
      ↔ fromValue true v = .ok request
        ∨ (∀ other, fromValue true v ≠ .ok other) ∧ reportForm.fromValue v = .ok request := by
  unfold ofValue
  cases htyped : fromValue true v with
  | ok other => simp
  | error cause =>
    cases hreport : reportForm.fromValue v with
    | ok other => simp
    | error cause' => simp

/-- Members with nothing but the names of a page's fields have no `tag`. -/
theorem valuesOf_tag_of_report {ms : List (String × Json)}
    (h : ∀ m ∈ ms, m.1 ∈ Kind.analyze.fieldNames) : valuesOf tag ms = [] := by
  rw [valuesOf_eq_nil_iff]
  intro m hm heq
  exact Kind.analyze.tag_not_mem_fieldNames (heq ▸ h m hm)

/-- `ofValue` reads a value as a request just in the forms of `Documented` and `Undocumented`. -/
theorem ofValue_eq_ok_iff (v : Json) (request : Request) :
    ofValue v = .ok request ↔ Documented v request ∨ Undocumented v request := by
  rw [ofValue_eq_ok_iff_or]
  cases v with
  | object ms =>
    rw [reportForm, (pageForm_regular _ true).fromValue_object, pageForm_makes_iff]
    simp only [fromValue_object_iff, ne_eq]
    constructor
    · rintro (⟨v, kind, htype, hkind | hkind, hfields⟩ | ⟨-, hnames, hfields⟩)
      · exact .inl (.typed htype hkind hfields)
      · exact .inr (.numbered htype hkind hfields)
      · exact .inl (.report (hnames rfl) hfields)
    · rintro (hdocumented | hundocumented)
      · cases hdocumented with
        | typed htype hkind hfields => exact .inl ⟨_, _, htype, .inl hkind, hfields⟩
        | report hnames hfields =>
          -- The first reading must have failed, and did for want of a type.
          refine .inr ⟨?_, fun _ => hnames, hfields⟩
          rintro other ⟨v, kind, htype, -⟩
          exact absurd ((valuesOf_tag_of_report hnames).symm.trans htype) (by simp)
      · cases hundocumented with
        | numbered htype hkind hfields => exact .inl ⟨_, _, htype, .inr hkind, hfields⟩
  | array items =>
    rw [reportForm, (pageForm_regular _ true).fromValue_array, pageForm_makes_iff]
    simp only [fromValue_typedList_iff, ne_eq]
    constructor
    · rintro (hlist | ⟨hlist, hfields⟩)
      · exact .inr (.typedList hlist)
      · exact .inr (.reportList hlist hfields)
    · rintro (hdocumented | hundocumented)
      · cases hdocumented
      · cases hundocumented with
        | typedList hlist => exact .inl hlist
        | reportList hlist hfields => exact .inr ⟨hlist, hfields⟩
  | _ =>
    refine iff_of_false (by simp [fromValue, reportForm, Form.fromValue]) ?_
    rintro (hdocumented | hundocumented)
    · cases hdocumented
    · cases hundocumented

/-- No value has both a `Documented` and an `Undocumented` form. -/
theorem Documented.not_undocumented {v : Json} {request other : Request} (h : Documented v request) :
    ¬ Undocumented v other := by
  intro hother
  cases hother with
  | numbered htype hkind =>
    cases h with
    | typed htype' hkind' =>
      obtain rfl := List.singleton_inj.1 (htype.symm.trans htype')
      obtain ⟨n, i, rfl, -⟩ := hkind
      obtain ⟨name, hname, -⟩ := hkind'
      exact absurd hname (by simp)
    | report hnames =>
      exact absurd ((valuesOf_tag_of_report hnames).symm.trans htype) (by simp)
  | typedList => cases h
  | reportList => cases h

/-! ## Lines -/

/-- `ofLine` reads a line as the request that the value in it is. -/
theorem ofLine_eq_ok_iff (line : String) (request : Request) :
    ofLine line = .ok request
      ↔ ∃ v, Json.readDocument line = .ok v ∧ ofValue v = .ok request := by
  unfold ofLine Decoder.decode Json.readDocument Json.readAll inbound
  simp only
  cases Json.value line.toList.length Json.depthLimit line.toList with
  | error fault => simp
  | ok found =>
    obtain ⟨v, rest⟩ := found
    simp only
    cases hvalue : ofValue v with
    | error cause => cases hspace : Json.skipSpace rest <;> simp [hvalue]
    | ok other => cases hspace : Json.skipSpace rest <;> simp [hvalue, hspace]

end PageRisk.Message.Request
