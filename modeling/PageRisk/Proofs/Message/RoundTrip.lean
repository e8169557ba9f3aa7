import PageRisk.Proofs.Message.Grammar
import PageRisk.Proofs.Message.Handling
import PageRisk.Proofs.Wire

set_option autoImplicit false

/-! # Messages decoded from what they are encoded as

The compact text of a request is read as that request, both where only requests with a type are taken
and where page reports are taken as well: no reading that is tried earlier takes it for another one. So
a line with the text of a request is answered like the request itself (`run_answerLine_toJson`), and a
page report like the request to analyze its page (`respond_report`). -/

namespace PageRisk.Message

open Json (Decoder Legible MembersRead NumberEnds compact valuesOf valuesOf_cons_self valuesOf_cons_of_ne)
open Json.Decoder
open Surroundings

namespace Request

/-! ## Requests with a type -/

/-- `Request.toJson` is the name of a type and its `Fields`, which are no arrays and no objects. -/
theorem exists_members (request : Request) :
    ∃ name kind fields, request.toJson = .object ((tag, .string name) :: fields)
      ∧ (name, kind) ∈ kinds ∧ (∀ m ∈ fields, m.1 ≠ tag ∧ Legible 0 m.2)
      ∧ Fields kind (kind.fieldNames.map (valuesOf · fields)) request := by
  cases request with
  | analyze hostname csp =>
    refine ⟨_, .analyze, _, rfl, by simp [kinds], ?_, ?_⟩
    · cases csp <;> simp [tag, Legible, Json.ofString?]
    · cases csp with
      | none => exact .analyze hostname .null
      | some csp => exact .analyze hostname (.text csp)
  | toggle enabled =>
    exact ⟨_, .toggle, _, rfl, by simp [kinds], by simp [tag, Legible], .toggle enabled⟩
  | toggleAllowlist hostname enabled =>
    exact ⟨_, .toggleAllowlist, _, rfl, by simp [kinds], by simp [tag, Legible],
      .toggleAllowlist hostname enabled⟩
  | setThreshold threshold =>
    exact ⟨_, .setThreshold, _, rfl, by simp [kinds], by simp [tag, Legible, Json.ofUInt32],
      .setThreshold threshold⟩
  | clearCache => exact ⟨_, .clearCache, [], rfl, by simp [kinds], by simp, .clearCache⟩

theorem legible_toJson (request : Request) : Legible Json.depthLimit request.toJson := by
  obtain ⟨name, kind, fields, htext, -, hplain, -⟩ := request.exists_members
  rw [htext, Json.depthLimit]
  simp only [Legible, List.forall_mem_cons]
  exact ⟨trivial, fun m hm => (hplain m hm).2.of_zero _⟩

/-- `Request.toJson` is a `Documented` form of the request. -/
theorem documented_toJson (request : Request) : Documented request.toJson request := by
  obtain ⟨name, kind, fields, htext, hkind, hplain, hfields⟩ := request.exists_members
  have hnone : valuesOf tag fields = [] :=
    (Json.valuesOf_eq_nil_iff tag fields).2 fun m hm => (hplain m hm).1
  have hcolumns : kind.fieldNames.map (valuesOf · ((tag, .string name) :: fields))
      = kind.fieldNames.map (valuesOf · fields) := by
    refine List.map_congr_left fun column hcolumn => valuesOf_cons_of_ne ?_ _ fields
    rintro rfl
    exact kind.tag_not_mem_fieldNames hcolumn
  have htype : valuesOf tag ((tag, .string name) :: fields) = [.string name] := by
    rw [valuesOf_cons_self, hnone]
  rw [htext]
  exact .typed htype ⟨name, rfl, hkind⟩ (hcolumns ▸ hfields)

/-- `memberFromText` reads the type from its name. -/
theorem memberFromText_tag (fuel : Nat) {name : String} {kind : Kind} (h : (name, kind) ∈ kinds)
    (rest : List Char) :
    memberFromText fuel {} tag (':' :: ([] ++ (compact (.string name) ++ rest)))
      = .ok (⟨some kind, []⟩, rest) := by
  have hname : named kinds name = .ok kind := (named_eq_ok_iff (by decide) name kind).2 h
  have hread := nameFromText_compact hname rest
  rw [memberFromText, if_pos (by decide), List.nil_append, Json.colon_cons]
  simp only [Except.bind, hread, Except.map]
  rfl

/-- `memberFromText` takes the other members as they are. -/
theorem membersRead_fields {fuel : Nat} {fields : List (String × Json)}
    (hplain : ∀ m ∈ fields, m.1 ≠ tag ∧ Legible 0 m.2)
    (hfuel : ∀ m ∈ fields, m.2.compact.length ≤ fuel) (d : Draft) :
    MembersRead (memberFromText fuel) [] compact fields d
      { d with fields := fields.reverse ++ d.fields } := by
  induction fields generalizing d with
  | nil => exact .nil d
  | cons m fields ih =>
    obtain ⟨⟨htag, hlegible⟩, hplain⟩ := List.forall_mem_cons.1 hplain
    obtain ⟨hlength, hfuel⟩ := List.forall_mem_cons.1 hfuel
    have hlater := ih hplain hfuel { d with fields := m :: d.fields }
    rw [List.reverse_cons, List.append_assoc, List.singleton_append]
    refine .cons (fun rest hends => ?_) hlater
    have hvalue : Json.value fuel (Json.depthLimit - 1) (compact m.2 ++ rest) = .ok (m.2, rest) :=
      Json.value_compact (hlegible.of_zero _) hlength rest hends
    rw [memberFromText, if_neg (by simpa using htag), List.nil_append, Json.colon_cons]
    simp only [Except.bind, hvalue, Except.map]

theorem fromText_object (fuel : Nat) (body : List Char) :
    fromText fuel ('\x7b' :: body)
      = match Json.members fuel (memberFromText fuel) {} body with
        | .error fault => .error fault
        | .ok (d, rest) => match d.kind with
          | none => .error (.here (.missingField tag) rest)
          | some kind => match ofFields kind (.object d.fields.reverse) with
            | .ok request => .ok (request, rest)
            | .error cause => .error ⟨cause, none⟩ := rfl

theorem undoes_toJson (request : Request) : decoder.Undoes toJson request where
  starts := Json.startsElement_compact request.legible_toJson
  reads {fuel} hfuel rest _ := by
    obtain ⟨name, kind, fields, htext, hkind, hplain, hfields⟩ := request.exists_members
    simp only [htext] at hfuel ⊢
    have hlengths : ∀ m ∈ fields, m.2.compact.length ≤ fuel := fun m hm =>
      Nat.le_trans (Json.length_compact_le_object (List.mem_cons_of_mem _ hm)) hfuel
    have hmembers : MembersRead (memberFromText fuel) [] compact ((tag, .string name) :: fields) {}
        ⟨some kind, fields.reverse ++ []⟩ :=
      .cons (fun rest _ => memberFromText_tag fuel hkind rest)
        (membersRead_fields hplain hlengths ⟨some kind, []⟩)
    obtain ⟨body, hbody, hread⟩ := Json.members_compact hmembers hfuel rest
    have hrequest : ofFields kind (.object fields) = .ok request :=
      (ofFields_object_iff kind fields request).2 hfields
    rw [hbody]
    change fromText fuel ('\x7b' :: body) = _
    rw [fromText_object, hread]
    simp only [List.append_nil, List.reverse_reverse, hrequest]

/-! ## Anything a client sends -/

theorem inbound_undoes_toJson (request : Request) : inbound.Undoes toJson request := by
  have hvalue : ofValue request.toJson = .ok request :=
    (ofValue_eq_ok_iff _ request).2 (.inl request.documented_toJson)
  refine undoes_of_value request.legible_toJson fun fuel cs rest hread => ?_
  simp only [inbound, hread, hvalue]

/-- The members of a page report: the host, and what stands under its policy, if anything does. -/
def reportMembers (hostname : String) (column : List Json) : List (String × Json) :=
  ("hostname", .string hostname) :: column.map fun v => ("cspMeta", v)

/-- A page report, its members in any order, is a `Documented` form of the request to analyze the page. -/
theorem documented_report {hostname : String} {column : List Json} {csp : Option String}
    (hcsp : PolicyText column csp) {ms : List (String × Json)}
    (hms : ms.Perm (reportMembers hostname column)) :
    Documented (.object ms) (.analyze hostname csp) := by
  have hnames : ∀ m ∈ ms, m.1 ∈ Kind.analyze.fieldNames := by
    intro m hm
    rcases List.mem_cons.1 (hms.mem_iff.1 hm) with rfl | hm
    · exact List.mem_cons_self
    · obtain ⟨v, -, rfl⟩ := List.mem_map.1 hm
      exact List.mem_cons_of_mem _ List.mem_cons_self
  have hhostname : valuesOf "hostname" (reportMembers hostname column) = [.string hostname] := by
    rw [reportMembers, valuesOf_cons_self, (Json.valuesOf_eq_nil_iff _ _).2 (by simp)]
  have hpolicy : valuesOf "cspMeta" (reportMembers hostname column) = column := by
    rw [reportMembers, valuesOf_cons_of_ne (by decide)]
    cases hcsp <;> rfl
  -- No column has more than one value, so that no order of the members can show in it.
  have hfirst : valuesOf "hostname" ms = [.string hostname] := by
    have hperm := hms.filterMap fun m => if m.1 = "hostname" then some m.2 else none
    exact List.perm_singleton.1 (hhostname ▸ hperm)
  have hsecond : valuesOf "cspMeta" ms = column := by
    have hperm := hms.filterMap fun m => if m.1 = "cspMeta" then some m.2 else none
    change (valuesOf "cspMeta" ms).Perm (valuesOf "cspMeta" (reportMembers hostname column)) at hperm
    rw [hpolicy] at hperm
    cases hcsp with
    | absent => exact List.perm_nil.1 hperm
    | null => exact List.perm_singleton.1 hperm
    | text csp => exact List.perm_singleton.1 hperm
  have hcolumns : Kind.analyze.fieldNames.map (valuesOf · ms) = [[.string hostname], column] := by
    rw [← hfirst, ← hsecond]
    rfl
  exact .report hnames (hcolumns ▸ .analyze hostname hcsp)

theorem legible_report {hostname : String} {column : List Json} {csp : Option String}
    (hcsp : PolicyText column csp) {ms : List (String × Json)}
    (hms : ms.Perm (reportMembers hostname column)) : Legible Json.depthLimit (.object ms) := by
  rw [Json.depthLimit]
  simp only [Legible]
  intro m hm
  rcases List.mem_cons.1 (hms.mem_iff.1 hm) with rfl | hm
  · trivial
  · obtain ⟨v, hv, rfl⟩ := List.mem_map.1 hm
    cases hcsp with
    | absent => exact absurd hv List.not_mem_nil
    | null =>
      obtain rfl := List.mem_singleton.1 hv
      trivial
    | text csp =>
      obtain rfl := List.mem_singleton.1 hv
      trivial

end Request

/-! ## Lines -/

/-- `answerLine` answers a line with the text of a request with the text of the response to the request. -/
theorem run_answerLine_toJson {σ : Type} (s : Surroundings σ) (config : ScoringConfig)
    (request : Request) (w : Situation σ) :
    s.run (answerLine config request.toJson.compactText) w
      = ((s.run (handle config request) w).1.toJson.compactText,
        (s.run (handle config request) w).2) := by
  rw [answerLine, respond_of_ofLine request.inbound_undoes_toJson.decode, run_andThen, run_done]

/-- `respond` answers a page report like the request to analyze the page. -/
theorem respond_report (config : ScoringConfig) {hostname : String} {column : List Json}
    {csp : Option String} (hcsp : Request.PolicyText column csp) {ms : List (String × Json)}
    (hms : ms.Perm (Request.reportMembers hostname column)) {line : String}
    (hline : Json.readDocument line = .ok (.object ms)) :
    respond config line = handle config (.analyze hostname csp) := by
  apply respond_of_ofLine
  exact (Request.ofLine_eq_ok_iff line _).2
    ⟨_, hline, (Request.ofValue_eq_ok_iff _ _).2 (.inl (Request.documented_report hcsp hms))⟩

/-! ## Responses -/

theorem Response.undoes_of_ofValue {response : Response}
    (hlegible : Legible Json.depthLimit response.toJson)
    (hvalue : ofValue response.toJson = .ok response) :
    Response.decoder.Undoes Response.toJson response := by
  refine undoes_of_value hlegible fun fuel cs rest hread => ?_
  simp only [Response.decoder, hread, hvalue]

/-- `Response.decoder` tries a marker first, so that none is taken for anything else. -/
theorem Response.undoes_marker (result : Marker) :
    Response.decoder.Undoes Response.toJson (.marker result) := by
  refine undoes_of_ofValue ?_ ?_
  · rw [Json.depthLimit]
    simp [Response.toJson, Legible]
  · cases result <;> rfl

/-- An error is neither a marker nor an assessment, for want of their fields. -/
theorem Response.undoes_error (text : String) :
    Response.decoder.Undoes Response.toJson (.error text) := by
  refine undoes_of_ofValue ?_ rfl
  rw [Json.depthLimit]
  simp [Response.toJson, Legible]

/-! ## All that is encoded -/

/-- Decoding undoes encoding. Every `Request` is read back from its `compactText`, as a request with a type
    and as anything a client sends, and a line with that text is answered with the text of the response to
    the request and leaves what the request leaves. A page report with its members in any order is handled
    like the request to analyze the page, be its policy a text, null or left out (`PolicyText`). A `Page`, a
    `Csp.Policy`, a marker and an error are read back as well. -/
theorem decode_encode :
    (∀ request : Request, Request.decoder.decode request.toJson.compactText = .ok request
      ∧ Request.inbound.decode request.toJson.compactText = .ok request
      ∧ ∀ (config : ScoringConfig) {σ : Type} (s : Surroundings σ) (w : Situation σ),
        s.run (answerLine config request.toJson.compactText) w
          = ((s.run (handle config request) w).1.toJson.compactText,
            (s.run (handle config request) w).2))
      ∧ (∀ hostname column csp, Request.PolicyText column csp →
        ∀ ms : List (String × Json), ms.Perm (Request.reportMembers hostname column) →
          Json.readDocument (Json.object ms).compactText = .ok (.object ms)
          ∧ ∀ config line, Json.readDocument line = .ok (.object ms) →
            respond config line = handle config (.analyze hostname csp))
      ∧ (∀ page : Page, Page.decoder.decode page.toJson.compactText = .ok page)
      ∧ (∀ policy : Csp.Policy, Csp.Policy.decoder.decode policy.toJson.compactText = .ok policy)
      ∧ (∀ result, Response.decoder.decode (Response.marker result).toJson.compactText
        = .ok (.marker result))
      ∧ ∀ text, Response.decoder.decode (Response.error text).toJson.compactText
        = .ok (.error text) := by
  refine ⟨fun request => ⟨request.undoes_toJson.decode, request.inbound_undoes_toJson.decode, ?_⟩,
    fun hostname column csp hcsp ms hms => ⟨?_, ?_⟩, fun page => page.undoes_toJson.decode,
    fun policy => policy.undoes_toJson.decode, fun result => (Response.undoes_marker result).decode,
    fun text => (Response.undoes_error text).decode⟩
  · intro config σ s w
    exact run_answerLine_toJson s config request w
  · exact Json.readDocument_compactText (Request.legible_report hcsp hms)
  · intro config line hline
    exact respond_report config hcsp hms hline

/-- A page report, its policy first and with white space and escapes. -/
def spacedReport : String :=
  "\x7b \"cspMeta\": null , \"hostname\" :\"a\\u000ab\"\x7d "

theorem spacedReport_respond :
    Request.PolicyText [.null] none
      ∧ (Json.readDocument spacedReport).toOption
        = some (.object [("cspMeta", .null), ("hostname", .string "a\nb")])
      ∧ respond {} spacedReport = handle {} (.analyze "a\nb" none) := by
  have hread : (Json.readDocument spacedReport).toOption
      = some (.object [("cspMeta", .null), ("hostname", .string "a\nb")]) := by decide +kernel
  have hline : Json.readDocument spacedReport
      = .ok (.object [("cspMeta", .null), ("hostname", .string "a\nb")]) := by
    cases hdocument : Json.readDocument spacedReport with
    | ok v =>
      rw [hdocument] at hread
      exact congrArg Except.ok (Option.some.inj hread)
    | error fault =>
      rw [hdocument] at hread
      exact nomatch hread
  have hreport := decode_encode.2.1 "a\nb" _ _ .null _ (.swap ..)
  exact ⟨.null, hread, hreport.2 {} spacedReport hline⟩

end PageRisk.Message
