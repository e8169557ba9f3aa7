import PageRisk.Proofs.CommandLine.Requests
import PageRisk.Proofs.CommandLine.Running
import PageRisk.Proofs.Store.Confinement

set_option autoImplicit false

/-! # What a command touches

Whatever a command does with its store, it touches no files but those of the store, and none at all where the
store is in memory or the configuration cannot be read (`touchesOwn_withStore`). All commands but the one that
writes a configuration work in this way or not at all, and so does the decision on one page
(`touches_only_own`). With a store in memory, a page is decided on as over an empty store. -/

namespace PageRisk.CommandLine

open Files Surroundings

/-! ## Work with the store -/

/-- What is left of the disk by a command that touches its own store at most: nothing is changed with
    `--ephemeral` or where `loadConfig` fails, and else the disk is `Store.Confined`. -/
structure TouchesOwn (o : Outside) (options : Options) (env : Environment) (m : MachineState) (disk : Disk) :
    Prop where
  ephemeral : options.ephemeral = true → disk = m.disk
  unloaded : ∀ e, (o.perform (loadConfig options env) m).1 = .error e → disk = m.disk
  confined : ∀ config, (o.perform (loadConfig options env) m).1 = .ok config →
    Store.Confined config.storage.path m.disk disk

section Touch

variable (o : Outside) (options : Options) (env : Environment) (m : MachineState)

theorem touchesOwn_unchanged : TouchesOwn o options env m m.disk :=
  ⟨fun _ => rfl, fun _ _ => rfl, fun config _ => .refl config.storage.path m.disk⟩

variable {α : Type} (work : ScoringConfig → Task α)

/-- With a store in a file, `withStore` leaves the disk `Store.Confined`, whether or not the store can be
    opened. -/
theorem confined_withStore (hfile : options.ephemeral = false) {config : Config}
    (hconfig : configOf env (m.disk.find? (options.configPath.getD Config.defaultPath)) = .ok config) :
    Store.Confined config.storage.path m.disk (o.perform (withStore options env work) m).2.disk := by
  have hopening := Store.opening_of_openFile config.storage.path m.disk
  cases hopen : Store.runOn m.disk (Store.openFile config.storage.path) with
  | mk result opened =>
    rw [hopen] at hopening
    cases result with
    | error e =>
      rw [perform_withStore_of_unopened o hfile hconfig hopen]
      exact hopening.confined (.refl _ opened)
    | ok u =>
      let start : Situation Disk := { stored := m.disk, readings := m.readings }
      have hstart : start.onMachine config.reputation m.sent = m :=
        Situation.onMachine_start config.reputation m
      rw [← hstart, perform_withStore_file o hfile hconfig hopen work]
      exact hopening.confined (Store.run_ownOnly _ _ _ { start with stored := opened })

theorem touchesOwn_withStore :
    TouchesOwn o options env m (o.perform (withStore options env work) m).2.disk := by
  cases hconfig : configOf env (m.disk.find? (options.configPath.getD Config.defaultPath)) with
  | error e =>
    rw [perform_withStore_of_error o hconfig]
    exact touchesOwn_unchanged o options env m
  | ok config =>
    by_cases hephemeral : options.ephemeral = true
    · rw [perform_withStore_ephemeral o hephemeral hconfig]
      exact touchesOwn_unchanged o options env m
    · have hload : (o.perform (loadConfig options env) m).1 = .ok config := by
        rw [perform_loadConfig_at, hconfig]
      refine ⟨fun h => absurd h hephemeral, ?_, ?_⟩
      · intro e he
        rw [hload] at he
        exact absurd he nofun
      · intro config' hconfig'
        obtain rfl : config = config' := Except.ok.inj (hload.symm.trans hconfig')
        exact confined_withStore o options env m work (Bool.eq_false_iff.2 hephemeral) hconfig

/-- A command uses its store through `withStore` or not at all, unless it is `init`. -/
theorem touchesOwn_command {command : Command} (hinit : ∀ force, command ≠ .init force) (input : ByteArray) :
    TouchesOwn o options env m (o.perform (command.run options env input) m).2.disk := by
  cases command with
  | rules format => exact touchesOwn_unchanged o options env m
  | init force => exact absurd rfl (hinit force)
  | serve => exact touchesOwn_withStore o options env m (serve input)
  | _ => exact touchesOwn_withStore o options env m (storeWork _)

end Touch

/-! ## Empty stores -/

section Empty

variable (source : List String → String → Reputation.Outcome) (clock : Nat → Int64)

/-- Over an empty store, `Gate.evaluate` assesses every page. -/
theorem perform_evaluate_empty (config : ScoringConfig) (page : Page) (readings : Nat) :
    ∃ w, (inMemory source clock).perform (Gate.evaluate config page)
        { stored := Table.empty, readings := readings }
      = (.ok (.scored
          (Gate.verdict config (source []) (Hostname.normalize page.hostname) page.csp) .fresh), w)
      ∧ w.stored.get? Settings.thresholdKey = none := by
  obtain ⟨readings', -, hperform⟩ := Gate.perform_evaluate
    (w := { stored := Table.empty, readings := readings }) (inMemory_reads source clock Table.empty)
    config page
  refine ⟨Gate.afterFresh (inMemory source clock) config (Hostname.normalize page.hostname) page.csp
    { stored := Table.empty, readings := readings' }, hperform, ?_⟩
  -- All that was written is the entry of the host.
  rw [Gate.afterFresh_inMemory]
  exact Table.get?_insert_of_ne _ _ (Cache.ne_keyStart_append Cache.settingKeys_not_isKey.2.1 _)

/-- Over an empty store, analyzing a page shows its `Gate.verdict` by the threshold of the configuration. -/
theorem perform_storeWork_analyze_empty (config : ScoringConfig) (hostname : String) (csp : Option String)
    (format : String) (readings : Nat) :
    let outcome : Outcome :=
      .scored (Gate.verdict config (source []) (Hostname.normalize hostname) csp) .fresh
    ((inMemory source clock).perform (storeWork (.analyze hostname csp format) config)
        { stored := Table.empty, readings := readings }).1
      = .ok ⟨exitCode outcome config.defaultThreshold,
          Report.render hostname outcome config.defaultThreshold
            ((OutputFormat.ofText? format).getD .console) ++ "\n", ""⟩ := by
  obtain ⟨w, hevaluate, hnone⟩ := perform_evaluate_empty source clock config ⟨hostname, csp⟩ readings
  have hthreshold := Settings.perform_threshold (inMemory_reads source clock w.stored) config.defaultThreshold
  rw [hnone] at hthreshold
  have hdecision : (inMemory source clock).perform (decision ⟨hostname, csp⟩ config)
      { stored := Table.empty, readings := readings }
      = (.ok (.scored (Gate.verdict config (source []) (Hostname.normalize hostname) csp) .fresh,
          config.defaultThreshold), w) := by
    rw [decision, perform_bind_of_ok hevaluate, perform_bind_of_ok hthreshold, perform_pure]
    rfl
  exact congrArg Prod.fst (perform_bind_of_ok hdecision _)

end Empty

/-! ## All commands -/

/-- A command but `init` touches no files but those of its store (`TouchesOwn`), whatever it is given to
    read, and so does `analyzePage`: with a store in memory or without a configuration the whole disk stays
    as it is. With a store in memory, a page is analyzed as over an empty store. -/
theorem touches_only_own (o : Outside) (options : Options) (env : Environment) (m : MachineState) :
    (∀ arguments command input, parse arguments = .run options command → (∀ force, command ≠ .init force) →
        TouchesOwn o options env m (o.run (run arguments env input) m).2.disk)
      ∧ (∀ page, TouchesOwn o options env m (o.perform (analyzePage options env page) m).2.disk)
      ∧ ∀ config, options.ephemeral = true → (o.perform (loadConfig options env) m).1 = .ok config →
        (∀ arguments hostname csp format input,
            parse arguments = .run options (.analyze hostname csp format) →
          ∃ output, ((inMemory (o.source config.reputation m.sent) o.clock).perform
                (storeWork (.analyze hostname csp format) config.scoring)
                { stored := Table.empty, readings := m.readings }).1 = .ok output
            ∧ (o.run (run arguments env input) m).1 = output.after (formatWarning format))
        ∧ ∀ page, (o.perform (analyzePage options env page) m).1
          = ((inMemory (o.source config.reputation m.sent) o.clock).perform
              (Gate.evaluate config.scoring page) { stored := Table.empty, readings := m.readings }).1 := by
  refine ⟨?_, ?_, ?_⟩
  · intro arguments command input hparse hinit
    have htouches := touchesOwn_command o options env m hinit input
    rw [run_of_parse o env hparse]
    generalize o.perform (command.run options env input) m = done at htouches ⊢
    rcases done with ⟨_ | _, m'⟩ <;> exact htouches
  · intro page
    exact touchesOwn_withStore o options env m fun scoring => Gate.evaluate scoring page
  · intro config hephemeral hload
    rw [perform_loadConfig_at] at hload
    constructor
    · intro arguments hostname csp format input hparse
      have hwork :=
        perform_withStore_ephemeral o hephemeral hload (storeWork (.analyze hostname csp format))
      have houtput := perform_storeWork_analyze_empty (o.source config.reputation m.sent) o.clock
        config.scoring hostname csp format m.readings
      have hcommand : Command.run (.analyze hostname csp format) options env input
          = withStore options env (storeWork (.analyze hostname csp format)) := rfl
      refine ⟨_, houtput, ?_⟩
      rw [run_of_parse o env hparse, hcommand, hwork, houtput]
      rfl
    · intro page
      exact congrArg Prod.fst
        (perform_withStore_ephemeral o hephemeral hload fun scoring => Gate.evaluate scoring page)

/-- `touches_only_own` for a page that is analyzed with a store in memory, and for a switch that is written
    to the store. -/
theorem someRuns_touch :
    parse ["--ephemeral", "analyze", "a.example"] = .run ⟨none, true⟩ (.analyze "a.example" none "console")
      ∧ (Outside.run ⟨fun _ _ => none, fun _ => 0⟩
          (run ["--ephemeral", "analyze", "a.example"] {} ByteArray.empty)
          ⟨Store.emptyDisk, [], 0⟩).2.disk = Store.emptyDisk
      ∧ parse ["disable"] = .run {} (.setEnabled false)
      ∧ Store.Confined ".cspguard/store.json" Store.emptyDisk
          (Outside.run ⟨fun _ _ => none, fun _ => 0⟩ (run ["disable"] {} ByteArray.empty)
            ⟨Store.emptyDisk, [], 0⟩).2.disk := by
  have hanalyze : parse ["--ephemeral", "analyze", "a.example"]
      = .run ⟨none, true⟩ (.analyze "a.example" none "console") := by decide +kernel
  have hdisable : parse ["disable"] = .run {} (.setEnabled false) := by decide +kernel
  have hload : (Outside.perform ⟨fun _ _ => none, fun _ => 0⟩ (loadConfig {} {})
      ⟨Store.emptyDisk, [], 0⟩).1 = .ok {} := by
    have hnone : Store.emptyDisk.find? Config.defaultPath = none := by decide +kernel
    rw [perform_loadConfig]
    simp only [hnone]
    rfl
  have hmemory := (touches_only_own ⟨fun _ _ => none, fun _ => 0⟩ ⟨none, true⟩ {}
    ⟨Store.emptyDisk, [], 0⟩).1 _ _ ByteArray.empty hanalyze nofun
  have hfile := (touches_only_own ⟨fun _ _ => none, fun _ => 0⟩ {} {}
    ⟨Store.emptyDisk, [], 0⟩).1 _ _ ByteArray.empty hdisable nofun
  exact ⟨hanalyze, hmemory.ephemeral rfl, hdisable, hfile.confined {} hload⟩

end PageRisk.CommandLine
