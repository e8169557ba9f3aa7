import PageRisk.Proofs.Store.JsonFile

set_option autoImplicit false

/-! # Work on the machine

Work on files changes the disk alone (`run_onMachine`). Work that needs the services goes on the machine as it
goes over the store in use, with the network as its source of reputation (`run_held`): over the disk where the
store is in a file (`perform_openStore`), and without it where the store is in memory
(`perform_openStore_memory`). The configuration is a function of what is found at its path
(`perform_loadConfig_at`). -/

namespace PageRisk

open Files

namespace Outside

variable {α β : Type} (o : Outside)

/-! ## Sequences -/

theorem run_andThen (p : Program machine α) (f : α → Program machine β) (m : MachineState) :
    o.run (p.andThen f) m = o.run (f (o.run p m).1) (o.run p m).2 :=
  Program.runWith_andThen_apply (I := machine) o.answer p f m

@[simp] theorem run_done (a : α) (m : MachineState) : o.run (.done a) m = (a, m) := rfl

theorem run_mapM_cons (f : α → Program machine β) (a : α) (rest : List α) (m : MachineState) :
    o.run ((a :: rest).mapM f) m
      = ((o.run (f a) m).1 :: (o.run (rest.mapM f) (o.run (f a) m).2).1,
        (o.run (rest.mapM f) (o.run (f a) m).2).2) :=
  Program.runWith_mapM_cons (I := machine) o.answer f a rest m

theorem getElem?_run_mapM (f : α → Program machine β) (before : List α) (a : α) (after : List α)
    (m : MachineState) :
    (o.run ((before ++ a :: after).mapM f) m).1[before.length]?
      = some (o.run (f a) (o.run (before.mapM f) m).2).1 :=
  Program.getElem?_runWith_mapM (I := machine) o.answer f before a after m

/-- The result of a `MachineTask` and the state of the machine afterwards. -/
def perform (work : MachineTask α) (m : MachineState) : Except GuardError α × MachineState :=
  o.run work.run m

@[simp] theorem perform_pure (a : α) (m : MachineState) :
    o.perform (pure a : MachineTask α) m = (.ok a, m) := rfl

theorem perform_bind (work : MachineTask α) (next : α → MachineTask β) (m : MachineState) :
    o.perform (work >>= next) m
      = match o.perform work m with
        | (.ok a, m') => o.perform (next a) m'
        | (.error e, m') => (.error e, m') := by
  change o.run (work.run.andThen _) m = _
  rw [run_andThen]
  cases h : o.perform work m with
  | mk result m' =>
    have hrun : o.run work.run m = (result, m') := h
    rw [hrun]
    cases result <;> rfl

variable {o} in
theorem perform_bind_of_ok {work : MachineTask α} {m m' : MachineState} {a : α}
    (h : o.perform work m = (.ok a, m')) (next : α → MachineTask β) :
    o.perform (work >>= next) m = o.perform (next a) m' := by
  rw [perform_bind, h]

/-! ## Files -/

/-- A `Program` on files changes the disk of the machine alone. -/
theorem run_onMachine (p : Program files α) (m : MachineState) :
    o.run (onMachine p) m
      = ((p.runWith (I := files) (m := StateM Disk) Disk.answer m.disk).1,
        { m with disk := (p.runWith (I := files) (m := StateM Disk) Disk.answer m.disk).2 }) := by
  induction p generalizing m with
  | done a => rfl
  | call op next ih =>
    have hstep : o.run (onMachine (.call op next)) m
        = o.run (onMachine (next (Disk.answer op m.disk).1))
          { m with disk := (Disk.answer op m.disk).2 } := rfl
    exact hstep.trans (ih _ _)

theorem perform_onMachine (task : Store.FileTask α) (m : MachineState) :
    o.perform (ExceptT.mk (onMachine task.run)) m
      = ((Store.runOn m.disk task).1, { m with disk := (Store.runOn m.disk task).2 }) :=
  o.run_onMachine task.run m

/-! ## Services -/

/-- The outcomes of lookups over the network of `o`, where some requests were `sent` before. -/
def source (config : ReputationConfig) (sent : List Reputation.Query) (asked : List String)
    (url : String) : Reputation.Outcome :=
  if config.enabled then
    .ofReply (o.reply (asked.map (Reputation.queryFor config) ++ sent) (Reputation.queryFor config url))
  else .unavailable

end Outside

/-- The state of the machine in a situation, where some requests were `sent` before: each URL in `w.asked`
    is one more request, if the service is asked at all. -/
def Situation.onMachine (config : ReputationConfig) (sent : List Reputation.Query)
    (w : Situation Disk) : MachineState where
  disk := w.stored
  sent := (if config.enabled then w.asked.map (Reputation.queryFor config) else []) ++ sent
  readings := w.readings

/-- The situation with `f` of its store in place of the store. -/
def Situation.map {σ τ : Type} (f : σ → τ) (w : Situation σ) : Situation τ :=
  ⟨f w.stored, w.asked, w.readings⟩

section Held

variable {σ α : Type} (o : Outside) (config : ReputationConfig) (sent : List Reputation.Query)
  (store : (op : StoreOp) → StateM σ op.Answer) (held : σ → OpenStore) (disk : σ → Disk)

/-- Whether the store in use that is `held` for each state of `store` answers on the machine as `store`
    does, where `disk` is a part of the state. -/
def Outside.Answers : Prop :=
  ∀ (op : StoreOp) (x : σ) (m : MachineState), m.disk = disk x →
    o.run ((held x).answer op) m
      = (((store op x).1, held (store op x).2), { m with disk := disk (store op x).2 })

variable {o store held disk} (h : o.Answers store held disk)

include h

/-- `run_held` for one operation. -/
theorem run_serviceAnswer (op : ServiceOp) (w : Situation σ) :
    o.run (serviceAnswer config op (held w.stored)) ((w.map disk).onMachine config sent)
      = (((Surroundings.answer ⟨store, o.source config sent, o.clock⟩ op w).1,
          held (Surroundings.answer ⟨store, o.source config sent, o.clock⟩ op w).2.stored),
        ((Surroundings.answer ⟨store, o.source config sent, o.clock⟩ op w).2.map disk).onMachine
          config sent) := by
  cases op with
  | store op => exact h op w.stored _ rfl
  | now => rfl
  | lookup url =>
    change o.run ((lookupOnMachine config url).andThen _) _ = _
    rw [o.run_andThen, lookupOnMachine]
    simp only [Surroundings.answer, Outside.source, Situation.onMachine, Situation.map]
    cases config.enabled <;> rfl

/-- A `Program` on the services runs on the machine as it runs over the `store` whose `Answers` are the
    same. -/
theorem run_held (p : Program services α) (w : Situation σ) :
    o.run ((held w.stored).run config p) ((w.map disk).onMachine config sent)
      = (((Surroundings.run ⟨store, o.source config sent, o.clock⟩ p w).1,
          held (Surroundings.run ⟨store, o.source config sent, o.clock⟩ p w).2.stored),
        ((Surroundings.run ⟨store, o.source config sent, o.clock⟩ p w).2.map disk).onMachine
          config sent) := by
  induction p generalizing w with
  | done a => rfl
  | call op next ih =>
    have hstep : o.run ((held w.stored).run config (.call op next)) ((w.map disk).onMachine config sent)
        = o.run ((serviceAnswer config op (held w.stored)).andThen fun found =>
            found.2.run config (next found.1)) ((w.map disk).onMachine config sent) := rfl
    rw [hstep, o.run_andThen]
    have hanswer := congrArg (fun r => o.run (r.1.2.run config (next r.1.1)) r.2)
      (run_serviceAnswer config sent h op w)
    exact hanswer.trans (ih _ _)

theorem perform_held (work : Task α) (w : Situation σ) :
    o.perform ((held w.stored).perform config work) ((w.map disk).onMachine config sent)
      = ((Surroundings.perform ⟨store, o.source config sent, o.clock⟩ work w).1,
        ((Surroundings.perform ⟨store, o.source config sent, o.clock⟩ work w).2.map disk).onMachine
          config sent) := by
  change o.run (((held w.stored).run config work.run).andThen _) _ = _
  rw [o.run_andThen, run_held config sent h]
  rfl

end Held

section Services

variable {α : Type} (o : Outside) (config : ReputationConfig) (sent : List Reputation.Query)
  (path : String)

/-- What surrounds an analysis on a machine whose store is in a file. -/
def Outside.around : Surroundings Disk :=
  Surroundings.onDisk path (o.source config sent) o.clock

theorem answers_file : o.Answers (Store.onDisk path) (fun _ => .file path) id := by
  rintro op x m rfl
  change o.run ((onMachine (Store.jsonFile path op)).andThen _) m = _
  rw [o.run_andThen, o.run_onMachine]
  rfl

theorem perform_openStore (work : Task α) (w : Situation Disk) :
    o.perform ((OpenStore.file path).perform config work) (w.onMachine config sent)
      = (((o.around config sent path).perform work w).1,
        ((o.around config sent path).perform work w).2.onMachine config sent) :=
  perform_held config sent (answers_file o path) work w

/-- `OpenStore.memory` answers without the disk. -/
theorem answers_memory (d : Disk) : o.Answers Store.memory .memory fun _ => d := by
  rintro op x m rfl
  rfl

/-- With a store in memory, a `Task` goes as it goes over `inMemory`, and leaves the disk as it is. -/
theorem perform_openStore_memory (work : Task α) (d : Disk) (w : Situation (Table Json)) :
    o.perform ((OpenStore.memory w.stored).perform config work) ((w.map fun _ => d).onMachine config sent)
      = (((Surroundings.inMemory (o.source config sent) o.clock).perform work w).1,
        (((Surroundings.inMemory (o.source config sent) o.clock).perform work w).2.map
          fun _ => d).onMachine config sent) :=
  perform_held config sent (answers_memory o d) work w

end Services

section Holding

variable {α β : Type} (o : Outside) (config : ReputationConfig)

theorem OpenStore.run_andThen (store : OpenStore) (p : Program services α) (f : α → Program services β) :
    store.run config (p.andThen f)
      = (store.run config p).andThen fun done => done.2.run config (f done.1) :=
  congrFun (Program.runWith_andThen (I := services) (m := StateT OpenStore (Program machine))
    (serviceAnswer config) p f) store

/-- The answer to a `ServiceOp` where a store is in use on a machine, and both afterwards. -/
def Outside.holding (op : ServiceOp) : StateM (OpenStore × MachineState) op.Answer := fun held =>
  let answered := o.run (serviceAnswer config op held.1) held.2
  (answered.1.1, answered.1.2, answered.2)

/-- A `Program` on the services runs operation by operation as `holding` answers, whichever store is in
    use. -/
theorem run_holding (p : Program services α) (store : OpenStore) (m : MachineState) :
    o.run (store.run config p) m
      = (((p.runWith (I := services) (o.holding config) (store, m)).1,
          (p.runWith (I := services) (o.holding config) (store, m)).2.1),
        (p.runWith (I := services) (o.holding config) (store, m)).2.2) := by
  induction p generalizing store m with
  | done a => rfl
  | call op next ih =>
    have hstep : o.run (store.run config (.call op next)) m
        = o.run ((serviceAnswer config op store).andThen fun found =>
            found.2.run config (next found.1)) m := rfl
    rw [hstep, o.run_andThen]
    exact ih _ _ _

end Holding

/-! ## Configuration -/

/-- The configuration by what is found at its path. -/
def configOf (env : Environment) : Option Node → Except GuardError Config
  | none => .ok (({} : Config).withEnvironment env)
  | some .directory => .error (.file .isADirectory)
  | some (.file contents) =>
    match String.fromUTF8? contents with
    | none => .error (.file .notText)
    | some text => (ConfigFile.parse text).map (·.withEnvironment env)

/-- `loadConfig` gives `configOf` and leaves the machine as it is. -/
theorem perform_loadConfig_at (o : Outside) (options : Options) (env : Environment) (m : MachineState) :
    o.perform (loadConfig options env) m
      = (configOf env (m.disk.find? (options.configPath.getD Config.defaultPath)), m) := by
  rw [loadConfig]
  generalize options.configPath.getD Config.defaultPath = path
  have hprobe : o.perform (ExceptT.lift (onMachine (perform (.probe path)))) m
      = (.ok (m.disk.find? path).isSome, m) := rfl
  rw [Outside.perform_bind_of_ok hprobe]
  cases hfind : m.disk.find? path with
  | none => rfl
  | some node =>
    have hread : o.perform (ExceptT.mk (onMachine (Store.attempt (perform (.read path))).run)) m
        = (match m.disk.read path with
          | .ok contents => .ok contents
          | .error e => .error (.file e), m) := by
      rw [o.perform_onMachine, Store.runOn_attempt]
      have hanswer : Program.runWith (I := files) (m := StateM Disk) Disk.answer (perform (.read path)) m.disk
          = (m.disk.read path, m.disk) := rfl
      rw [hanswer]
      cases m.disk.read path <;> rfl
    rw [Option.isSome_some, if_pos rfl, Outside.perform_bind, hread]
    cases node with
    | directory => rw [Store.read_of_directory hfind]; rfl
    | file contents =>
      rw [(Disk.read_eq_ok_iff _ _ contents).2 hfind, configOf]
      simp only
      cases String.fromUTF8? contents with
      | none => rfl
      | some text => cases hparse : ConfigFile.parse text <;> simp [hparse] <;> rfl

theorem perform_loadConfig (o : Outside) (env : Environment) (m : MachineState) :
    o.perform (loadConfig {} env) m = (configOf env (m.disk.find? Config.defaultPath), m) :=
  perform_loadConfig_at o {} env m

end PageRisk
