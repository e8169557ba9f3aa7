import PageRisk.Hostname
import PageRisk.Services

set_option autoImplicit false

/-! # Settings

What the user decides: whether analysis runs at all, which hosts it leaves alone, and from which score
on a page is reported. Settings are kept in the store. A setting that is missing, or is not what it
should be, has its default. -/

namespace PageRisk

/-- How a score is reported: at the threshold and above, or below it. -/
inductive RiskLevel where
  | low
  | high
  deriving DecidableEq, Repr

namespace RiskLevel

/-- A score is high from the threshold on. -/
def classify (score : Float) (threshold : UInt32) : RiskLevel :=
  if Float.ofNat threshold.toNat ≤ score then high else low

/-- The name of a level. -/
def name : RiskLevel → String
  | low => "low"
  | high => "high"

end RiskLevel

/-- Texts in strictly ascending order, so each at most once. -/
abbrev TextSet := Table Unit

namespace Settings

/-! ## Keys -/

/-- The key of the allowlist. -/
def allowlistKey : String := "allowlist"

/-- The key of the threshold. -/
def thresholdKey : String := "threshold"

/-- The key of the global switch. -/
def enabledKey : String := "enabled"

/-! ## The global switch -/

/-- What a stored value of the switch says; analysis runs unless it says otherwise. -/
def enabledOf : Option Json → Bool
  | some (.bool b) => b
  | _ => true

/-- Whether analysis runs at all. -/
def enabled : Task Bool :=
  return enabledOf (← Task.get? enabledKey)

/-- Switches analysis on or off. -/
def setEnabled (b : Bool) : Task Unit :=
  Task.put enabledKey (.bool b)

/-! ## The threshold -/

/-- What a stored value of the threshold says: an integer of 32 bits, or else the default. -/
def thresholdOf (default : UInt32) (stored : Option Json) : UInt32 :=
  match stored.bind Json.asNat? with
  | some n => if n < 4294967296 then UInt32.ofNat n else default
  | none => default

/-- The score from which a page is reported, by `thresholdOf` what is stored. -/
def threshold (default : UInt32) : Task UInt32 :=
  return thresholdOf default (← Task.get? thresholdKey)

/-- Sets the threshold. -/
def setThreshold (n : UInt32) : Task Unit :=
  Task.put thresholdKey (.ofUInt32 n)

/-! ## The allowlist -/

/-- The hosts that a stored allowlist names, each by its `Hostname.normalize`; values that are no text name
    none. -/
def allowlistOf : Option Json → TextSet
  | some (.array items) =>
    Table.ofList ((items.filterMap Json.asString?).map fun host => (Hostname.normalize host, ()))
  | _ => Table.empty

/-- An allowlist as it is stored, the names in ascending order. -/
def allowlistJson (hosts : TextSet) : Json :=
  .ofStrings hosts.keys

/-- The hosts that are left alone. -/
def allowlist : Task TextSet :=
  return allowlistOf (← Task.get? allowlistKey)

/-- Whether the allowlist names the host, by its key. -/
def isListed (hosts : TextSet) (host : String) : Bool :=
  (hosts.get? (Hostname.normalize host)).isSome

/-- Whether the host is left alone. -/
def isAllowlisted (host : String) : Task Bool :=
  return isListed (← allowlist) host

/-- Puts a host on the allowlist or takes it off, and says whether that changed anything; where it does not,
    nothing is written. -/
def setAllowlisted (host : String) (listed : Bool) : Task Bool := do
  let hosts ← allowlist
  let changed := isListed hosts host != listed
  if changed then
    let key := Hostname.normalize host
    Task.put allowlistKey (allowlistJson (if listed then hosts.insert key () else hosts.erase key))
  return changed

/-- The level of a score by the `threshold` in force. -/
def classify (default : UInt32) (score : Float) : Task RiskLevel :=
  return RiskLevel.classify score (← threshold default)

end Settings

end PageRisk
