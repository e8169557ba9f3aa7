import PageRisk.Json.Decoder
import PageRisk.Unicode.Lowercase

set_option autoImplicit false

/-! # Output formats -/

namespace PageRisk

/-- How a decision is shown. -/
inductive OutputFormat where
  | console
  | json
  deriving DecidableEq, Repr

namespace OutputFormat

/-- The name of a format. -/
def name : OutputFormat → String
  | console => "console"
  | json => "json"

/-- The format that a user means; letter case does not matter. -/
def ofText? (text : String) : Option OutputFormat :=
  match String.ofList (Unicode.lowercase text.toList) with
  | "console" => some console
  | "text" => some console
  | "json" => some json
  | _ => none

/-- A format by its name as it is. -/
def decoder : Json.Decoder OutputFormat :=
  .choice [("console", console), ("json", json)]

end OutputFormat

end PageRisk
