import PageRisk.CommandLine.Commands
import PageRisk.Proofs.Machine

set_option autoImplicit false

/-! # Running a command

A command reads the configuration, opens a store and does its work with it. Where the configuration cannot be
read, it ends there (`perform_withStore_of_error`). With a store in a file, its work goes as it goes over the
disk on which the store was opened (`perform_withStore_file`), with one in memory as it goes over an empty
store (`perform_withStore_ephemeral`). -/

namespace PageRisk

open Files

/-- A machine is in the situation of one that has asked for nothing since. -/
theorem Situation.onMachine_start (config : ReputationConfig) (m : MachineState) :
    ({ stored := m.disk, readings := m.readings } : Situation Disk).onMachine config m.sent = m := by
  unfold Situation.onMachine
  cases config.enabled <;> rfl

namespace CommandLine

section Machine

variable (o : Outside) (env : Environment)

theorem run_of_parse {arguments : List String} {options : Options} {command : Command}
    (h : parse arguments = .run options command) (input : ByteArray) (m : MachineState) :
    o.run (run arguments env input) m
      = match o.perform (command.run options env input) m with
        | (.ok output, m') => (output.after command.warning, m')
        | (.error e, m') => ((Output.failed e "").after command.warning, m') := by
  rw [run, h]
  simp only
  rw [o.run_andThen]
  cases hperform : o.perform (command.run options env input) m with
  | mk result m' =>
    have hrun : o.run (command.run options env input).run m = (result, m') := hperform
    rw [hrun]
    cases result <;> rfl

variable {env} {options : Options} {config : Config} {α : Type}

/-- `withStore` ends with the error of the configuration where this cannot be read, and has done nothing. -/
theorem perform_withStore_of_error {m : MachineState} {e : GuardError}
    (hconfig : configOf env (m.disk.find? (options.configPath.getD Config.defaultPath)) = .error e)
    (work : ScoringConfig → Task α) : o.perform (withStore options env work) m = (.error e, m) := by
  rw [withStore, Outside.perform_bind, perform_loadConfig_at, hconfig]

/-- `openStore` runs `openFile` on the disk where the store is in a file. -/
theorem perform_openStore_of_file (hfile : options.ephemeral = false) (config : Config) (m : MachineState) :
    o.perform (openStore options config) m
      = ((Store.runOn m.disk (Store.openFile config.storage.path)).1.map fun _ => .file config.storage.path,
        { m with disk := (Store.runOn m.disk (Store.openFile config.storage.path)).2 }) := by
  rw [openStore, hfile, if_neg Bool.false_ne_true, Outside.perform_bind, o.perform_onMachine]
  cases (Store.runOn m.disk (Store.openFile config.storage.path)).1 <;> rfl

/-- `withStore` goes as its work goes over the disk on which the store was opened, where this is in a
    file. -/
theorem perform_withStore_file (hfile : options.ephemeral = false) {sent : List Reputation.Query}
    {w : Situation Disk} {opened : Disk}
    (hconfig : configOf env (w.stored.find? (options.configPath.getD Config.defaultPath)) = .ok config)
    (hopen : Store.runOn w.stored (Store.openFile config.storage.path) = (.ok (), opened))
    (work : ScoringConfig → Task α) :
    o.perform (withStore options env work) (w.onMachine config.reputation sent)
      = (((o.around config.reputation sent config.storage.path).perform (work config.scoring)
            { w with stored := opened }).1,
        ((o.around config.reputation sent config.storage.path).perform (work config.scoring)
            { w with stored := opened }).2.onMachine config.reputation sent) := by
  have hload : o.perform (loadConfig options env) (w.onMachine config.reputation sent)
      = (.ok config, w.onMachine config.reputation sent) := by
    rw [perform_loadConfig_at]
    exact congrArg (·, w.onMachine config.reputation sent) hconfig
  have hstore : o.perform (openStore options config) (w.onMachine config.reputation sent)
      = (.ok (.file config.storage.path),
        ({ w with stored := opened } : Situation Disk).onMachine config.reputation sent) := by
    have hdisk : (w.onMachine config.reputation sent).disk = w.stored := rfl
    rw [perform_openStore_of_file o hfile, hdisk, hopen]
    rfl
  rw [withStore, Outside.perform_bind_of_ok hload, Outside.perform_bind_of_ok hstore, perform_openStore]

/-- `withStore` ends with the error of `openFile` where the store cannot be opened, and has done nothing
    else. -/
theorem perform_withStore_of_unopened (hfile : options.ephemeral = false) {m : MachineState} {opened : Disk}
    {e : GuardError}
    (hconfig : configOf env (m.disk.find? (options.configPath.getD Config.defaultPath)) = .ok config)
    (hopen : Store.runOn m.disk (Store.openFile config.storage.path) = (.error e, opened))
    (work : ScoringConfig → Task α) :
    o.perform (withStore options env work) m = (.error e, { m with disk := opened }) := by
  have hload : o.perform (loadConfig options env) m = (.ok config, m) := by
    rw [perform_loadConfig_at, hconfig]
  rw [withStore, Outside.perform_bind_of_ok hload, Outside.perform_bind, perform_openStore_of_file o hfile,
    hopen]
  rfl

/-- `withStore` goes as its work goes over an empty store where this is in memory, and leaves the disk as it
    is. -/
theorem perform_withStore_ephemeral (hephemeral : options.ephemeral = true) {m : MachineState}
    (hconfig : configOf env (m.disk.find? (options.configPath.getD Config.defaultPath)) = .ok config)
    (work : ScoringConfig → Task α) :
    let done := (Surroundings.inMemory (o.source config.reputation m.sent) o.clock).perform
      (work config.scoring) { stored := Table.empty, readings := m.readings }
    o.perform (withStore options env work) m
      = (done.1, (done.2.map fun _ => m.disk).onMachine config.reputation m.sent) := by
  have hload : o.perform (loadConfig options env) m = (.ok config, m) := by
    rw [perform_loadConfig_at, hconfig]
  have hstore : o.perform (openStore options config) m = (.ok (.memory Table.empty), m) := by
    rw [openStore, hephemeral, if_pos rfl, Outside.perform_pure]
  have hstart : (({ stored := Table.empty, readings := m.readings } : Situation (Table Json)).map
      fun _ => m.disk).onMachine config.reputation m.sent = m := Situation.onMachine_start config.reputation m
  have hwork := perform_openStore_memory o config.reputation m.sent (work config.scoring) m.disk
    { stored := Table.empty, readings := m.readings }
  rw [hstart] at hwork
  rw [withStore, Outside.perform_bind_of_ok hload, Outside.perform_bind_of_ok hstore]
  exact hwork

end Machine

end CommandLine

end PageRisk
