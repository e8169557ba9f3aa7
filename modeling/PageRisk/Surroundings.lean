import PageRisk.Machine

set_option autoImplicit false

/-! # Given surroundings

A program can be run on a value: everything outside it is then given as functions. The source of
reputation and the network answer by what they have been asked before, the clock by how often it has
been read, so that nothing is assumed of them. What was asked and how often is part of the result. -/

namespace PageRisk

/-! ## Around an analysis -/

/-- A store with states of a type, a source of reputation and a clock. -/
structure Surroundings (σ : Type) where
  store : (op : StoreOp) → StateM σ op.Answer
  /-- The outcome of a lookup, by the URLs that were asked before, the latest first. -/
  source : List String → String → Reputation.Outcome
  /-- The time, by the number of readings before. -/
  clock : Nat → Int64

/-- The state of the store, the URLs that were asked, the latest first, and the number of readings of the
    clock. -/
structure Situation (σ : Type) where
  stored : σ
  asked : List String := []
  readings : Nat := 0

namespace Surroundings

variable {σ α : Type}

/-- The answer to one `ServiceOp`. -/
def answer (s : Surroundings σ) : (op : ServiceOp) → StateM (Situation σ) op.Answer
  | .store op => fun w =>
    let (result, stored) := s.store op w.stored
    (result, { w with stored := stored })
  | .lookup url => fun w => (s.source w.asked url, { w with asked := url :: w.asked })
  | .now => fun w => (s.clock w.readings, { w with readings := w.readings + 1 })

/-- Runs a program over `services`. -/
def run (s : Surroundings σ) (p : Program services α) : StateM (Situation σ) α :=
  p.runWith s.answer

/-- Performs a piece of work. -/
def perform (s : Surroundings σ) (work : Task α) : StateM (Situation σ) (Except GuardError α) :=
  s.run work.run

end Surroundings

/-- The answer of a store in a file on a disk: `jsonFile`, run by `Files.Disk.answer`. -/
def Store.onDisk (path : String) (op : StoreOp) : StateM Files.Disk op.Answer :=
  (Store.jsonFile path op).runWith Files.Disk.answer

/-! ## Around a command -/

/-- A network and a clock. -/
structure Outside where
  /-- The reply to a request, by the requests before, the latest first. -/
  reply : List Reputation.Query → Reputation.Query → Option Reputation.Reply
  /-- The time, by the number of readings before. -/
  clock : Nat → Int64

/-- The disk, the requests that were sent, the latest first, and the number of readings of the clock. -/
structure MachineState where
  disk : Files.Disk
  sent : List Reputation.Query := []
  readings : Nat := 0

namespace Outside

variable {α : Type}

/-- The answer to one `MachineOp`. -/
def answer (o : Outside) : (op : MachineOp) → StateM MachineState op.Answer
  | .file op => fun w =>
    let (result, disk) := Files.Disk.answer op w.disk
    (result, { w with disk := disk })
  | .send query => fun w => (o.reply w.sent query, { w with sent := query :: w.sent })
  | .now => fun w => (o.clock w.readings, { w with readings := w.readings + 1 })

/-- Runs a program over `machine`. -/
def run (o : Outside) (p : Program machine α) : StateM MachineState α :=
  p.runWith o.answer

end Outside

end PageRisk
