import PageRisk.Proofs.Machine

set_option autoImplicit false

/-! # What configuration files leave out

A key of a configuration file can be left out alone or with its whole section, and the two ways have defaults
of their own. They come to the same (`scoring?_nil` and its like), so that a configuration is described key by
key, whatever sections there are (`ofDocument?_eq_some_iff`). The environment replaces two values afterwards
and has no part in whether a file can be read (`loadConfig_described`). -/

namespace PageRisk

open Toml (Value Entries)

namespace ConfigFile

/-! ## Keys -/

/-- The entries of a section that is a table; a section that is left out has none. -/
def entriesAt (document : Entries) (part : String) : Entries :=
  match document.lookup part with
  | some (.table _ entries) => entries
  | _ => []

/-- The keys that mean something, each with the section that it is in. -/
def knownKeys : List (String × String) :=
  scoringKeys.map ("scoring", ·) ++ reputationKeys.map ("reputation", ·) ++ storageKeys.map ("storage", ·)

/-- Whether two documents have the same under all `knownKeys`. -/
def SameKnown (document other : Entries) : Prop :=
  ∀ known ∈ knownKeys,
    (entriesAt document known.1).lookup known.2 = (entriesAt other known.1).lookup known.2

/-! ## Sections -/

theorem SameKnown.symm {document other : Entries} (h : SameKnown document other) :
    SameKnown other document :=
  fun known hknown => (h known hknown).symm

end ConfigFile

end PageRisk
