import PageRisk.Gate

set_option autoImplicit false

/-! # Responses

What a client gets for a request: a marker, an assessment or an error, each an object by itself. -/

namespace PageRisk.Message

open Json (Decoder Cause)

/-- A result that is no score. -/
inductive Marker where
  | allowlisted
  | disabled
  | ok
  deriving DecidableEq, Repr

/-- The names of the markers. -/
def Marker.names : List (String × Marker) :=
  [("allowlisted", .allowlisted), ("disabled", .disabled), ("ok", .ok)]

/-- The name of a marker. -/
def Marker.name : Marker → String
  | allowlisted => "allowlisted"
  | disabled => "disabled"
  | ok => "ok"

/-- What a client gets: the mark of a page that was not scored or of a request that was done, a score, or an
    error. -/
inductive Response where
  | marker (result : Marker)
  | scored (assessment : Assessment)
  | error (text : String)
  deriving DecidableEq

namespace Response

/-- The response for an `Outcome` of the gate. -/
def ofOutcome : Outcome → Response
  | .allowlisted => marker .allowlisted
  | .disabled => marker .disabled
  | .scored assessment _ => scored assessment

/-- A response, its fields in the order of declaration. -/
def toJson : Response → Json
  | marker result => .object [("result", .string result.name)]
  | scored assessment => assessment.toJson
  | error text => .object [("error", .string text)]

/-- The form of a marker. -/
def markerForm : Decoder.Form (Option Marker) Response where
  title := "struct variant Response::Marker"
  fields := [Decoder.field "result" .refused (.choice Marker.names) id fun result _ => some result]
  closed := false
  start := none
  finish := fun
    | none => .error "result"
    | some result => .ok (.marker result)

/-- The form of an error. -/
def errorForm : Decoder.Form (Option String) Response where
  title := "struct variant Response::Error"
  fields := [Decoder.field "error" .refused .string id fun text _ => some text]
  closed := false
  start := none
  finish := fun
    | none => .error "error"
    | some text => .ok (.error text)

/-- The response that an object is: the first of the three forms that fits. A list is no response. -/
def ofValue (v : Json) : Except Cause Response :=
  match v with
  | .object _ =>
    match markerForm.fromValue v with
    | .ok response => .ok response
    | .error _ => match Assessment.decoder.fromValue v with
      | .ok assessment => .ok (.scored assessment)
      | .error _ => match errorForm.fromValue v with
        | .ok response => .ok response
        | .error _ => .error (.noVariant "Response")
  | _ => .error (.noVariant "Response")

/-- Decodes responses. -/
def decoder : Decoder Response where
  fromText fuel cs := match Json.value fuel Json.depthLimit cs with
    | .error fault => .error fault
    | .ok (v, rest) => match ofValue v with
      | .ok response => .ok (response, rest)
      | .error cause => .error ⟨cause, none⟩
  fromValue := ofValue

end Response

end PageRisk.Message
