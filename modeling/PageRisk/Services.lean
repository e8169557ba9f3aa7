import PageRisk.Error
import PageRisk.Json.Basic
import PageRisk.Program
import PageRisk.Reputation.Outcome

set_option autoImplicit false

/-! # The services of an analysis

An analysis works with a store of JSON values under text keys, with a source of reputation and with a
clock. Only the store can fail. -/

namespace PageRisk

/-- The operations of a store. Every one stands by itself: there are no transactions. -/
inductive StoreOp where
  /-- Fetches the values of those of the keys that are there. -/
  | get (keys : List String)
  /-- Writes every entry, in place of what was under its key. -/
  | set (entries : Table Json)
  /-- Deletes the keys; one that is not there is ignored. -/
  | remove (keys : List String)
  /-- Lists all keys. -/
  | keys

/-- What an operation of a store gives. -/
abbrev StoreOp.Result : StoreOp → Type
  | get _ => Table Json
  | set _ => Unit
  | remove _ => Unit
  | keys => List String

/-- What an operation of a store gives, or the `GuardError` by which it failed. -/
abbrev StoreOp.Answer (op : StoreOp) : Type :=
  Except GuardError op.Result

/-- The operations of the services. -/
inductive ServiceOp where
  | store (op : StoreOp)
  /-- Asks for the reputation of a URL. -/
  | lookup (url : String)
  /-- Reads the clock: milliseconds since the epoch. -/
  | now

/-- The answers of the services. -/
abbrev ServiceOp.Answer : ServiceOp → Type
  | store op => op.Answer
  | lookup _ => Reputation.Outcome
  | now => Int64

/-- The services as an interface. -/
def services : Interface :=
  ⟨ServiceOp, ServiceOp.Answer⟩

/-- A piece of work that needs the `services` and may fail. -/
abbrev Task (α : Type) : Type :=
  ExceptT GuardError (Program services) α

namespace Task

/-- One operation of the store. -/
def store (op : StoreOp) : Task op.Result :=
  ExceptT.mk (Program.ask (I := services) (.store op))

/-- The value under a key. -/
def get? (key : String) : Task (Option Json) :=
  return (← store (.get [key])).get? key

/-- Writes a value under a key. -/
def put (key : String) (value : Json) : Task Unit :=
  store (.set (Table.empty.insert key value))

/-- The outcome of a lookup. -/
def lookup (url : String) : Task Reputation.Outcome :=
  ExceptT.lift (Program.ask (I := services) (.lookup url))

/-- The time. -/
def now : Task Int64 :=
  ExceptT.lift (Program.ask (I := services) .now)

end Task

end PageRisk
