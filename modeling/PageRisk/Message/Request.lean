import PageRisk.Json.Decoder

set_option autoImplicit false

/-! # Requests

What a client may ask for. A request is an object with its type under `type` and its fields beside it,
or a list of the type and the fields in their order. A page report is the request to analyze a page,
sent without a type and with nothing but its own fields. -/

namespace PageRisk.Message

open Json (Decoder Cause Fault Reader Found)

/-- What a client may ask for. -/
inductive Request where
  | analyze (hostname : String) (csp : Option String)
  /-- Switches analysis on or off. -/
  | toggle (enabled : Bool)
  /-- Takes a host off the allowlist (`enabled`), or puts it on. -/
  | toggleAllowlist (hostname : String) (enabled : Bool)
  | setThreshold (threshold : UInt32)
  | clearCache
  deriving DecidableEq, Repr

namespace Request

/-! ## The types of requests -/

/-- The type of a request. -/
inductive Kind where
  | analyze
  | toggle
  | toggleAllowlist
  | setThreshold
  | clearCache
  deriving DecidableEq, Repr

/-- The names of the types. -/
def kinds : List (String × Kind) :=
  [("analyze", .analyze), ("toggle", .toggle), ("toggle-allowlist", .toggleAllowlist),
    ("set-threshold", .setThreshold), ("clear-cache", .clearCache)]

/-! ## The fields of each type -/

/-- The fields of a page that were read. -/
structure PageDraft where
  hostname : Option String := none
  csp : Option (Option String) := none

/-- The fields of a request to analyze a page, in requests with a type and, `closed` against other members,
    in page reports. -/
def pageForm (title : String) (closed : Bool) : Decoder.Form PageDraft Request where
  title := title
  fields := [
    Decoder.field "hostname" .refused .string PageDraft.hostname fun hostname d =>
      { d with hostname := some hostname },
    Decoder.field "cspMeta" .allowed (.optional .string) PageDraft.csp fun csp d =>
      { d with csp := some csp }]
  closed := closed
  start := {}
  finish := fun
    | ⟨none, _⟩ => .error "hostname"
    | ⟨some hostname, csp⟩ => .ok (.analyze hostname (csp.getD none))

/-- The field of a request to switch analysis on or off. -/
def toggleForm : Decoder.Form (Option Bool) Request where
  title := "struct variant Request::Toggle"
  fields := [Decoder.field "enabled" .refused .bool id fun enabled _ => some enabled]
  closed := false
  start := none
  finish := fun
    | none => .error "enabled"
    | some enabled => .ok (.toggle enabled)

/-- The fields of a request about the allowlist that were read. -/
structure ListingDraft where
  hostname : Option String := none
  enabled : Option Bool := none

/-- The fields of a request about the allowlist. -/
def listingForm : Decoder.Form ListingDraft Request where
  title := "struct variant Request::ToggleAllowlist"
  fields := [
    Decoder.field "hostname" .refused .string ListingDraft.hostname fun hostname d =>
      { d with hostname := some hostname },
    Decoder.field "enabled" .refused .bool ListingDraft.enabled fun enabled d =>
      { d with enabled := some enabled }]
  closed := false
  start := {}
  finish := fun
    | ⟨none, _⟩ => .error "hostname"
    | ⟨_, none⟩ => .error "enabled"
    | ⟨some hostname, some enabled⟩ => .ok (.toggleAllowlist hostname enabled)

/-- The field of a request to set the threshold. -/
def thresholdForm : Decoder.Form (Option UInt32) Request where
  title := "struct variant Request::SetThreshold"
  fields := [Decoder.field "threshold" .refused .uint32 id fun threshold _ => some threshold]
  closed := false
  start := none
  finish := fun
    | none => .error "threshold"
    | some threshold => .ok (.setThreshold threshold)

/-- The request of a type with the given fields, by the form of the type: an object, or a list of them in
    their order. -/
def ofFields (kind : Kind) (fields : Json) : Except Cause Request :=
  match kind with
  | .analyze => (pageForm "struct variant Request::Analyze" false).fromValue fields
  | .toggle => toggleForm.fromValue fields
  | .toggleAllowlist => listingForm.fromValue fields
  | .setThreshold => thresholdForm.fromValue fields
  | .clearCache => match fields with
    | .array (v :: vs) => .error (.wrongLength (v :: vs).length "0 elements in sequence")
    | _ => .ok .clearCache

/-! ## Requests with a type -/

/-- The name of the member with the type. -/
def tag : String := "type"

/-- How a request is named in messages. -/
def title : String := "internally tagged enum Request"

/-- What was read of a request: its type, and its other members in reverse order. -/
structure Draft where
  kind : Option Kind := none
  fields : List (String × Json) := []

/-- Reads the value of one member. -/
def memberFromText (fuel : Nat) (d : Draft) (name : String) : Reader Draft := fun cs =>
  if name == tag then
    if d.kind.isSome then
      .error (.here (.duplicateField tag) (Json.afterObject cs))
    else (Json.colon cs).bind fun (_, rest) =>
      (Decoder.nameFromText kinds rest).map fun (kind, rest) => ({ d with kind := some kind }, rest)
  else (Json.colon cs).bind fun (_, rest) =>
    (Json.value fuel (Json.depthLimit - 1) rest).map fun (v, rest) =>
      ({ d with fields := (name, v) :: d.fields }, rest)

/-- Reads a request with its type. -/
def fromText (fuel : Nat) : Reader Request := fun cs =>
  let unplaced (result : Except Cause Request) (rest : List Char) :
      Except Fault (Request × List Char) :=
    match result with
    | .ok request => .ok (request, rest)
    | .error cause => .error ⟨cause, none⟩
  Json.expecting title (fun c rest =>
    if c == '[' then
      some (match Json.nextElement true rest with
        | .error fault => .error fault
        | .ok (false, rest) => .error (.here (.missingField tag) (Json.afterList rest))
        | .ok (true, rest) => match Decoder.nameFromText kinds rest with
          | .error fault => .error fault
          | .ok (kind, rest) =>
            match Json.elementsAfterFirst fuel (Json.value fuel (Json.depthLimit - 1)) rest with
            | .error fault => .error fault
            | .ok (fields, rest) => unplaced (ofFields kind (.array fields)) rest)
    else if c == '\x7b' then
      some (match Json.members fuel (memberFromText fuel) {} rest with
        | .error fault => .error fault
        | .ok (d, rest) => match d.kind with
          | none => .error (.here (.missingField tag) rest)
          | some kind => unplaced (ofFields kind (.object d.fields.reverse)) rest)
    else none) cs

/-- The type that a value names, by `kinds`. Where `byIndex`, it may also be the place of the type among
    all. -/
def kindOfValue (byIndex : Bool) : Json → Except Cause Kind
  | .string name => Decoder.named kinds name
  | .number (.integer n) =>
    match if byIndex && 0 ≤ n.value then (kinds.map Prod.snd)[n.value.toNat]? else none with
    | some kind => .ok kind
    | none => .error (.wrongType (.integer n.value) "variant identifier")
  | v => .error (.wrongType (Found.ofValue v) "variant identifier")

/-- Reads the members of a request. -/
def draftOfMembers (byIndex : Bool) (d : Draft) : List (String × Json) → Except Cause Draft
  | [] => .ok d
  | (name, v) :: rest =>
    if name == tag then
      if d.kind.isSome then .error (.duplicateField tag)
      else match kindOfValue byIndex v with
        | .error cause => .error cause
        | .ok kind => draftOfMembers byIndex { d with kind := some kind } rest
    else draftOfMembers byIndex { d with fields := (name, v) :: d.fields } rest

/-- Reads a request with its type from a value. -/
def fromValue (byIndex : Bool) : Json → Except Cause Request
  | .array [] => .error (.missingField tag)
  | .array (v :: fields) => (kindOfValue byIndex v).bind fun kind => ofFields kind (.array fields)
  | .object ms => (draftOfMembers byIndex {} ms).bind fun d => match d.kind with
    | none => .error (.missingField tag)
    | some kind => ofFields kind (.object d.fields.reverse)
  | v => .error (.wrongType (Found.ofValue v) title)

/-- Decodes requests with a type. -/
def decoder : Decoder Request where
  fromText := fromText
  fromValue := fromValue false

/-- A request, its type first. -/
def toJson : Request → Json
  | .analyze hostname csp =>
    .object [(tag, .string "analyze"), ("hostname", .string hostname), ("cspMeta", .ofString? csp)]
  | .toggle enabled => .object [(tag, .string "toggle"), ("enabled", .bool enabled)]
  | .toggleAllowlist hostname enabled =>
    .object [(tag, .string "toggle-allowlist"), ("hostname", .string hostname),
      ("enabled", .bool enabled)]
  | .setThreshold threshold =>
    .object [(tag, .string "set-threshold"), ("threshold", .ofUInt32 threshold)]
  | .clearCache => .object [(tag, .string "clear-cache")]

/-! ## Anything a client sends -/

/-- The form of a page report: a `pageForm` without a type or anything else. -/
def reportForm : Decoder.Form PageDraft Request :=
  pageForm "struct PageReport" true

/-- The request that a value is: one with a type (`fromValue`), or else a page report (`reportForm`). -/
def ofValue (v : Json) : Except Cause Request :=
  match fromValue true v with
  | .ok request => .ok request
  | .error _ => match reportForm.fromValue v with
    | .ok request => .ok request
    | .error _ => .error (.noVariant "Inbound")

/-- Decodes requests with a type and page reports, like `ofValue`. A value that is neither is refused before
    what may follow it is looked at. -/
def inbound : Decoder Request where
  fromText fuel cs := match Json.value fuel Json.depthLimit cs with
    | .error fault => .error fault
    | .ok (v, rest) => match ofValue v with
      | .ok request => .ok (request, rest)
      | .error cause => .error ⟨cause, none⟩
  fromValue := ofValue

/-- The request that a line is by `inbound`, or what is wrong with the line. -/
def ofLine (line : String) : Except String Request :=
  inbound.decode line

end Request

end PageRisk.Message
