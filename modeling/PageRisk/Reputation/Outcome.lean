import PageRisk.Json.Decoder

set_option autoImplicit false

/-! # Reputation of a site

A reputation service knows of threats on sites. A lookup always has an outcome: whatever keeps the
service from giving a usable answer makes it unavailable, and an unavailable service says nothing
against a site. -/

namespace PageRisk.Reputation

/-- What a lookup comes to. -/
inductive Outcome where
  /-- No usable answer. -/
  | unavailable
  /-- An answer; the score is zero where nothing is known against the site. -/
  | assessed (score : Float) (threats : List String)
  deriving DecidableEq

/-- The weight of one threat of the given type. -/
def threatWeight (threat : String) : UInt32 :=
  if threat = "MALWARE" then 50
  else if threat = "SOCIAL_ENGINEERING" then 40
  else if threat = "UNWANTED_SOFTWARE" then 30
  else if threat = "THREAT" then 20
  else 10

/-- The score of some threats: the sum of their `threatWeight`, in 32 bits. -/
def threatScore (threats : List String) : UInt32 :=
  threats.foldl (fun sum threat => sum + threatWeight threat) 0

open Json in
/-- Decodes a match in the body of an answer: the type of a threat. -/
def threatDecoder : Decoder String := .record {
  title := "struct ThreatMatch"
  fields := [Decoder.field "threatType" .refused .string id fun threat _ => some threat]
  closed := false
  start := none
  finish := fun threat => match threat with
    | some t => .ok t
    | none => .error "threatType" }

open Json in
/-- Decodes the body of an answer: its matches, none where they are left out or null. -/
def answerDecoder : Decoder (List String) := .record {
  title := "struct CheckResponse"
  fields := [Decoder.field "matches" .allowed (.optional (.list threatDecoder)) id
    fun threats _ => some threats]
  closed := false
  start := none
  finish := fun threats => .ok ((threats.getD none).getD []) }

/-- The outcome of a lookup that was answered with this body: its `threatScore`, or `unavailable` where
    `answerDecoder` cannot read it. -/
def scoreBody (body : String) : Outcome :=
  match answerDecoder.decode body with
  | .error _ => .unavailable
  | .ok threats => .assessed (Float.ofNat (threatScore threats).toNat) threats

end PageRisk.Reputation
