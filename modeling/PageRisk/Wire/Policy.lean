import PageRisk.Csp.Policy
import PageRisk.Json.Decoder

set_option autoImplicit false

/-! # Policies as JSON -/

namespace PageRisk.Csp

open Json (Decoder)

/-- The fields of a directive that were read. -/
structure Directive.Draft where
  text : Option String := none
  name : Option String := none
  sources : Option (List String) := none

/-- A directive: its text, name and sources. -/
def Directive.decoder : Decoder Directive := .record {
  title := "struct Directive"
  fields := [
    Decoder.field "text" .refused .string Directive.Draft.text fun text d =>
      { d with text := some text },
    Decoder.field "name" .refused .string Directive.Draft.name fun name d =>
      { d with name := some name },
    Decoder.field "sources" .refused (.list .string) Directive.Draft.sources fun sources d =>
      { d with sources := some sources }]
  closed := false
  start := {}
  finish := fun
    | ⟨none, _, _⟩ => .error "text"
    | ⟨_, none, _⟩ => .error "name"
    | ⟨_, _, none⟩ => .error "sources"
    | ⟨some text, some name, some sources⟩ => .ok ⟨text, name, sources⟩ }

/-- A policy: its directives. -/
def Policy.decoder : Decoder Policy := .record {
  title := "struct Policy"
  fields := [Decoder.field "directives" .refused (.list Directive.decoder) id fun ds _ => some ds]
  closed := false
  start := none
  finish := fun
    | none => .error "directives"
    | some ds => .ok ⟨ds⟩ }

/-- A directive, its fields in the order of declaration. -/
def Directive.toJson (d : Directive) : Json :=
  .object [("text", .string d.text), ("name", .string d.name), ("sources", .ofStrings d.sources)]

/-- A policy. -/
def Policy.toJson (p : Policy) : Json :=
  .object [("directives", .array (p.directives.map Directive.toJson))]

end PageRisk.Csp
