import PageRisk.Hostname
import PageRisk.Services
import PageRisk.Wire.Assessment

set_option autoImplicit false

/-! # Cached assessments

An assessment is kept for its host, with the time at which it was made. Each host has its own key in the
store, so that writing one entry touches no other. An entry that cannot be read counts as missing, and
so does one that is too old where a greatest age is set. -/

namespace PageRisk

/-- A cached assessment. -/
structure CacheEntry where
  score : Float
  tags : List String
  /-- When it was made, in milliseconds since the epoch. -/
  timestamp : Int64
  deriving DecidableEq

namespace CacheEntry

open Json (Decoder)

/-! ## Entries as JSON -/

/-- The fields of an entry that were read. -/
structure Draft where
  score : Option Float := none
  tags : Option (List String) := none
  timestamp : Option Int64 := none

/-- Decodes an entry: an `Assessment` and its time. -/
def decoder : Decoder CacheEntry := .record {
  title := "struct CacheEntry"
  fields := [
    Decoder.field "score" .refused .float Draft.score fun score d => { d with score := some score },
    Decoder.field "reasonTags" .refused (.list .string) Draft.tags fun tags d =>
      { d with tags := some tags },
    Decoder.field "timestamp" .refused .int64 Draft.timestamp fun time d =>
      { d with timestamp := some time }]
  closed := false
  start := {}
  finish := fun
    | ⟨none, _, _⟩ => .error "score"
    | ⟨_, none, _⟩ => .error "reasonTags"
    | ⟨_, _, none⟩ => .error "timestamp"
    | ⟨some score, some tags, some timestamp⟩ => .ok ⟨score, tags, timestamp⟩ }

/-- An entry as JSON, its fields in the order of declaration. -/
def toJson (e : CacheEntry) : Json :=
  .object [("score", .ofFloat e.score), ("reasonTags", .ofStrings e.tags),
    ("timestamp", .ofInt64 e.timestamp)]

/-- An entry as it is stored; `ofStored?` reads it back where its score is finite. -/
def toStored (e : CacheEntry) : Json :=
  e.toJson.canonical

/-- The entry that a stored value is, if it is one. -/
def ofStored? (v : Json) : Option CacheEntry :=
  match decoder.fromValue v with
  | .ok e => some e
  | .error _ => none

/-! ## Entries and assessments -/

/-- The entry of an `Assessment` made at a time. -/
def ofAssessment (a : Assessment) (time : Int64) : CacheEntry :=
  ⟨a.score, a.tags, time⟩

/-- The assessment of an entry. -/
def assessment (e : CacheEntry) : Assessment :=
  ⟨e.score, e.tags⟩

end CacheEntry

namespace Cache

/-! ## Age -/

/-- The greatest number of milliseconds. -/
def millisMax : Int := 9223372036854775807

/-- The milliseconds from one time to another, as far as they fit into 64 bits. -/
def elapsed (since now : Int64) : Int :=
  max (-9223372036854775808) (min millisMax (now.toInt - since.toInt))

/-- A greatest age in milliseconds, as far as it fits into 64 bits. -/
def maxAgeMillis (seconds : UInt64) : Int :=
  min millisMax (1000 * (seconds.toNat : Int))

/-- Whether an entry of that time is too old now: `elapsed` since then are more than `maxAgeMillis`. -/
def isExpired (maxAge : Option UInt64) (timestamp now : Int64) : Bool :=
  match maxAge with
  | none => false
  | some seconds => maxAgeMillis seconds < elapsed timestamp now

/-! ## Operations -/

/-- What the keys of all entries start with. -/
def keyStart : String := "cache:"

/-- The key of a host: `keyStart` and its normalized name. -/
def key (host : String) : String :=
  keyStart ++ Hostname.normalize host

/-- Whether the key starts with `keyStart`, like those of entries. -/
def isKey (k : String) : Bool :=
  keyStart.toList.isPrefixOf k.toList

/-- The host of a key. -/
def hostOf (k : String) : String :=
  String.ofList (k.toList.drop keyStart.toList.length)

/-- The entry of a host, unless it `isExpired`. -/
def get (maxAge : Option UInt64) (host : String) : Task (Option CacheEntry) := do
  match (← Task.get? (key host)).bind CacheEntry.ofStored? with
  | none => return none
  | some entry =>
    if maxAge.isNone then return some entry
    else return if isExpired maxAge entry.timestamp (← Task.now) then none else some entry

/-- Writes the entry of a host, in place of the one before. -/
def put (host : String) (entry : CacheEntry) : Task Unit :=
  Task.put (key host) entry.toStored

/-- The keys of all entries. -/
def keys : Task (List String) :=
  return (← Task.store .keys).filter isKey

/-- The entries among stored values, by their hosts: what has `isKey` and is read by
    `CacheEntry.ofStored?`. -/
def entriesOf (stored : Table Json) : List (String × CacheEntry) :=
  stored.toList.filterMap fun (k, v) =>
    if isKey k then (CacheEntry.ofStored? v).map fun e => (hostOf k, e) else none

/-- All entries that can be read, by their hosts. -/
def entries : Task (List (String × CacheEntry)) := do
  return entriesOf (← Task.store (.get (← keys)))

/-- Removes all entries, readable or not, and says how many there were. -/
def clear : Task Nat := do
  let found ← keys
  Task.store (.remove found)
  return found.length

end Cache

end PageRisk
