import PageRisk.ConfigFile
import PageRisk.Gate
import PageRisk.Reputation.Service
import PageRisk.Store.JsonFile
import PageRisk.Store.Memory

set_option autoImplicit false

/-! # The machine

A command works on the files of a machine, with its network and its clock. Here the services of an
analysis are built from these: a store in a file or in memory, and a source of reputation that asks the
configured service. -/

namespace PageRisk

open Files

/-! ## The interface -/

/-- The operations of the machine. -/
inductive MachineOp where
  | file (op : FileOp)
  /-- Sends a request to the reputation service; there may be no reply. -/
  | send (query : Reputation.Query)
  /-- Reads the clock: milliseconds since the epoch. -/
  | now

/-- The answers of the machine. -/
abbrev MachineOp.Answer : MachineOp → Type
  | file op => op.Answer
  | send _ => Option Reputation.Reply
  | now => Int64

/-- The machine as an interface. -/
def machine : Interface :=
  ⟨MachineOp, MachineOp.Answer⟩

/-- Work on the machine that may fail. -/
abbrev MachineTask (α : Type) : Type :=
  ExceptT GuardError (Program machine) α

/-- Work on `files`, on the files of the machine. -/
def onMachine {α : Type} (p : Program files α) : Program machine α :=
  p.runWith fun op => Program.ask (I := machine) (.file op)

/-! ## Services on the machine -/

/-- A store in use, by where it keeps its contents. -/
inductive OpenStore where
  /-- A store that is gone when the command ends. -/
  | memory (contents : Table Json)
  | file (path : String)

/-- The outcome of a lookup by the configured service. -/
def lookupOnMachine (config : ReputationConfig) (url : String) :
    Program machine Reputation.Outcome :=
  if config.enabled then
    (Program.ask (I := machine) (.send (Reputation.queryFor config url))).andThen fun reply =>
      .done (.ofReply reply)
  else .done .unavailable

/-- The answer of a store in use, and the store afterwards: `Store.jsonFile` on the files of the machine, or
    `Store.memory`. -/
def OpenStore.answer (store : OpenStore) (op : StoreOp) : Program machine (op.Answer × OpenStore) :=
  match store with
  | .memory contents =>
    let (result, contents) := Store.memory op contents
    .done (result, .memory contents)
  | .file path => (onMachine (Store.jsonFile path op)).andThen fun result => .done (result, .file path)

/-- The answers of the services on the machine. -/
def serviceAnswer (config : ReputationConfig) :
    (op : ServiceOp) → StateT OpenStore (Program machine) op.Answer
  | .store op => fun store => store.answer op
  | .lookup url => fun store =>
    (lookupOnMachine config url).andThen fun outcome => .done (outcome, store)
  | .now => fun store => (Program.ask (I := machine) .now).andThen fun time => .done (time, store)

/-- Runs a program over `services`, with a store in use. -/
def OpenStore.run {α : Type} (store : OpenStore) (config : ReputationConfig)
    (p : Program services α) : Program machine (α × OpenStore) :=
  (p.runWith (serviceAnswer config)).run store

/-- Performs a piece of work with a store in use; its state afterwards is not needed any more. -/
def OpenStore.perform {α : Type} (store : OpenStore) (config : ReputationConfig) (work : Task α) :
    MachineTask α :=
  ExceptT.mk ((store.run config work.run).andThen fun (result, _) => .done result)

/-! ## Configuration and store of a command -/

/-- What holds for every command. -/
structure Options where
  /-- The configuration file, if one is named. -/
  configPath : Option String := none
  /-- Whether the store is kept in memory. -/
  ephemeral : Bool := false
  deriving DecidableEq

/-- Reads the configuration. A file that is not there leaves the defaults of `Config`. -/
def loadConfig (options : Options) (env : Environment) : MachineTask Config := do
  let path := options.configPath.getD Config.defaultPath
  let found ← ExceptT.lift (onMachine (perform (.probe path)))
  if found then
    let contents ← ExceptT.mk (onMachine (Store.attempt (perform (.read path))).run)
    match String.fromUTF8? contents with
    | none => throw (.file .notText)
    | some text =>
      let config ← ExceptT.mk (.done (ConfigFile.parse text))
      return config.withEnvironment env
  else
    return ({} : Config).withEnvironment env

/-- Opens the store of a command, in memory if it is `ephemeral`. -/
def openStore (options : Options) (config : Config) : MachineTask OpenStore := do
  if options.ephemeral then return .memory Table.empty
  else
    ExceptT.mk (onMachine (Store.openFile config.storage.path).run)
    return .file config.storage.path

/-- Decides on one page, with a configuration and a store of its own. -/
def analyzePage (options : Options) (env : Environment) (page : Page) : MachineTask Outcome := do
  let config ← loadConfig options env
  let store ← openStore options config
  store.perform config.reputation (Gate.evaluate config.scoring page)

end PageRisk
