import PageRisk.Config
import PageRisk.Error
import PageRisk.Toml.Document

set_option autoImplicit false

/-! # Configuration files

A configuration file is a TOML document with a section for each part of the configuration. A section
that is left out, or a key of one, keeps its default, and keys that mean nothing are ignored. A section
may also be an array of its values in the order of declaration. -/

namespace PageRisk

open Toml (Value Entries)

namespace ConfigFile

/-! ## Values of keys that are left out

They hold in a section that is there; a section that is left out has its defaults as a whole. -/

/-- The least local score for a lookup. -/
def defaultGate : UInt32 := 10

/-- The threshold where none is stored. -/
def defaultThreshold : UInt32 := 50

/-- The address of the reputation service. -/
def defaultEndpoint : String := "http://127.0.0.1:8787/check"

/-- The time that the reputation service is given, in milliseconds. -/
def defaultTimeout : UInt64 := 3000

/-- Whether the reputation service is asked. -/
def defaultEnabled : Bool := true

/-- The path of the store. -/
def defaultStorePath : String := ".cspguard/store.json"

/-! ## Values of keys -/

/-- A floating-point number; an integer counts as one. -/
def floatOf? : Value → Option Float
  | .real x => some x
  | .integer n => some (Float.ofInt n)
  | _ => none

/-- A number of 32 bits. -/
def uint32Of? : Value → Option UInt32
  | .integer n => if 0 ≤ n ∧ n < 4294967296 then some (UInt32.ofNat n.toNat) else none
  | _ => none

/-- A number of 64 bits. -/
def uint64Of? : Value → Option UInt64
  | .integer n => if 0 ≤ n ∧ n < 18446744073709551616 then some (UInt64.ofNat n.toNat) else none
  | _ => none

/-- A truth value. -/
def boolOf? : Value → Option Bool
  | .bool b => some b
  | _ => none

/-- A text. -/
def stringOf? : Value → Option String
  | .string s => some s
  | _ => none

/-! ## Sections -/

/-- The values of a section by their keys; those of an array get the keys in their order. A date or time
    is taken for a section without any of them. -/
def sectionEntries? (keys : List String) : Value → Option Entries
  | .table _ entries => some entries
  | .moment => some []
  | .array items => some (keys.zip items)
  | .tables items => some (keys.zip (items.map (.table .header)))
  | _ => none

/-- The value of a key if it is there, and `default` if not; nothing if it is there and `read` does not take
    it. -/
def value? {α : Type} (entries : Entries) (key : String) (read : Value → Option α) (default : α) :
    Option α :=
  match entries.lookup key with
  | none => some default
  | some v => read v

/-- A section if it is there, and `default` if not. -/
def section? {α : Type} (document : Entries) (key : String) (keys : List String)
    (read : Entries → Option α) (default : α) : Option α :=
  match document.lookup key with
  | none => some default
  | some v => (sectionEntries? keys v).bind read

/-- The section on scores. -/
def scoring? (entries : Entries) : Option ScoringConfig := do
  let weight ← value? entries "reputation_weight" floatOf? defaultWeight
  let gate ← value? entries "reputation_gate" uint32Of? defaultGate
  let threshold ← value? entries "default_threshold" uint32Of? defaultThreshold
  let maxAge ← value? entries "cache_max_age_secs" (fun v => (uint64Of? v).map some) none
  return ⟨weight, gate, threshold, maxAge⟩

/-- The keys of the section on scores. -/
def scoringKeys : List String :=
  ["reputation_weight", "reputation_gate", "default_threshold", "cache_max_age_secs"]

/-- The section on the reputation service. -/
def reputation? (entries : Entries) : Option ReputationConfig := do
  let endpoint ← value? entries "endpoint" stringOf? defaultEndpoint
  let secret ← value? entries "secret" stringOf? ""
  let timeout ← value? entries "timeout_ms" uint64Of? defaultTimeout
  let enabled ← value? entries "enabled" boolOf? defaultEnabled
  return ⟨endpoint, secret, timeout, enabled⟩

/-- The keys of the section on the reputation service. -/
def reputationKeys : List String :=
  ["endpoint", "secret", "timeout_ms", "enabled"]

/-- The section on the store. -/
def storage? (entries : Entries) : Option StorageConfig := do
  let path ← value? entries "path" stringOf? defaultStorePath
  return ⟨path⟩

/-- The keys of the section on the store. -/
def storageKeys : List String :=
  ["path"]

/-! ## Documents -/

/-- The configuration of a document; other sections and keys are not looked at. -/
def ofDocument? (document : Entries) : Option Config := do
  let scoring ← section? document "scoring" scoringKeys scoring? {}
  let reputation ← section? document "reputation" reputationKeys reputation? {}
  let storage ← section? document "storage" storageKeys storage? {}
  return ⟨scoring, reputation, storage⟩

/-- The configuration that a text holds, or `GuardError.toml`. -/
def parse (text : String) : Except GuardError Config :=
  match (Toml.parse text).bind ofDocument? with
  | some config => .ok config
  | none => .error .toml

end ConfigFile

end PageRisk
