import PageRisk.Proofs.CommandLine.Requests
import PageRisk.Proofs.CommandLine.Running
import PageRisk.Proofs.CommandLine.Serving
import PageRisk.Proofs.Store.Configuration

set_option autoImplicit false

/-! # Single runs and serving

Work with the configuration and the store of a directory goes as it goes over the disk on which the store
was opened (`perform_withStore`). It leaves the configuration as it is and the store open
(`Prepared.after`), so that runs of the program are followed in one situation, as the requests are that
they ask for (`run_calls`). Serving the requests instead differs in the times of entries only
(`calls_agree_with_serving`). -/

namespace PageRisk

open Files

/-- The entries of a store once `openFile` was run. -/
def Store.openedEntries (d : Disk) (path : String) : Except GuardError (Table Json) :=
  match runOn d (openFile path) with
  | (.ok (), opened) => entriesIn opened path
  | (.error e, _) => .error e

theorem Store.openedEntries_eq_ok_iff {d : Disk} {path : String} {t : Table Json} :
    openedEntries d path = .ok t
      ↔ ∃ opened, runOn d (openFile path) = (.ok (), opened) ∧ entriesIn opened path = .ok t := by
  unfold openedEntries
  rcases runOn d (openFile path) with ⟨_ | _, opened⟩
  · simp
  · simp

namespace CommandLine

open Message Surroundings

/-! ## One run -/

section Machine

variable (o : Outside) (env : Environment)

/-- `withStore` goes on the machine as its work goes over the disk on which the store was opened, with the
    configuration at `Config.defaultPath`. -/
theorem perform_withStore {α : Type} {config : Config} {sent : List Reputation.Query} {w : Situation Disk}
    {opened : Disk} (hconfig : configOf env (w.stored.find? Config.defaultPath) = .ok config)
    (hopen : Store.runOn w.stored (Store.openFile config.storage.path) = (.ok (), opened))
    (work : ScoringConfig → Task α) :
    o.perform (withStore {} env work) (w.onMachine config.reputation sent)
      = (((o.around config.reputation sent config.storage.path).perform (work config.scoring)
            { w with stored := opened }).1,
        ((o.around config.reputation sent config.storage.path).perform (work config.scoring)
            { w with stored := opened }).2.onMachine config.reputation sent) :=
  perform_withStore_file o rfl hconfig hopen work

theorem Command.run_of_request? {command : Command} {request : Request}
    (h : command.request? = some request) (options : Options) (input : ByteArray) :
    command.run options env input = withStore options env (storeWork command) := by
  cases command with
  | rules format => exact absurd h nofun
  | serve => exact absurd h nofun
  | init force => exact absurd h nofun
  | _ => rfl

end Machine

/-! ## A store in use -/

/-- Whether a disk has the configuration at `Config.defaultPath`, and is `opened` by `openFile` as one whose
    store holds `t`. -/
structure Prepared (env : Environment) (config : Config) (d opened : Disk) (t : Table Json) : Prop where
  loads : configOf env (d.find? Config.defaultPath) = .ok config
  opens : Store.runOn d (Store.openFile config.storage.path) = (.ok (), opened)
  entries : Store.entriesIn opened config.storage.path = .ok t

namespace Prepared

variable {env : Environment} {config : Config} {d opened : Disk} {t : Table Json}

theorem openedEntries_eq (h : Prepared env config d opened t) :
    Store.openedEntries d config.storage.path = .ok t :=
  Store.openedEntries_eq_ok_iff.2 ⟨opened, h.opens, h.entries⟩

/-- Whatever a program does with a store that is `Prepared`, the disk is again, and the store is open. -/
theorem after {α : Type} (h : Prepared env config d opened t) {w w₁ : Situation Disk}
    {source : List String → String → Reputation.Outcome} {clock : Nat → Int64}
    {p : Program services α} {a : α} {t₁ : Table Json} (hw : w.stored = opened)
    (hrun : (onDisk config.storage.path source clock).run p w = (a, w₁))
    (ht₁ : Store.entriesIn w₁.stored config.storage.path = .ok t₁) :
    Prepared env config w₁.stored w₁.stored t₁ := by
  subst hw
  have hconfig := Store.find?_config_of_opened h.loads h.opens
  have hloads : configOf env (w.stored.find? Config.defaultPath) = .ok config := by
    rw [hconfig]
    exact h.loads
  have hkeeps := Store.run_keeps (Store.keepsConfig_of_loaded hloads h.entries) source clock p
  rw [hrun] at hkeeps
  have hready : Store.Ready w₁.stored config.storage.path :=
    (Store.ready_of_openFile h.opens).of_sameDirectories hkeeps.directories
  refine ⟨?_, hready.runOn_openFile, ht₁⟩
  rw [hkeeps.config]
  exact hloads

end Prepared

/-! ## Runs of the program -/

/-- A run of the program: its arguments and what there is to read. -/
structure Call where
  arguments : List String
  input : ByteArray

/-- The request that a run asks for, where it is about the store of its directory: neither `-c` nor
    `--ephemeral` is among its arguments. -/
def Call.request? (call : Call) : Option Request :=
  match parse call.arguments with
  | .run ⟨none, false⟩ command => command.request?
  | _ => none

theorem Call.exists_command {call : Call} {request : Request} (h : call.request? = some request) :
    ∃ command, parse call.arguments = .run {} command ∧ command.request? = some request := by
  unfold Call.request? at h
  split at h
  · next command hparse => exact ⟨command, hparse, h⟩
  · exact nomatch h

section Runs

variable (o : Outside) (env : Environment)

/-- The program that a `Call` runs. -/
def Call.run (call : Call) : Program machine Output :=
  CommandLine.run call.arguments env call.input

variable {env} {config : Config} {opened : Disk} {t : Table Json} {w : Situation Disk}

/-- What surrounds all runs on the store that a configuration names. -/
def session (config : Config) : Surroundings Disk :=
  o.around config.reputation [] config.storage.path

/-- After a request the store is still `Prepared`. -/
theorem exists_prepared (h : Prepared env config w.stored opened t)
    (hage : config.scoring.cacheMaxAge = none) (request : Request) :
    ∃ t₁, Prepared env config
      ((session o config).run (handle config.scoring request) { w with stored := opened }).2.stored
      ((session o config).run (handle config.scoring request) { w with stored := opened }).2.stored t₁ := by
  obtain ⟨t₁, ht₁⟩ := exists_entries_handle (o.source config.reputation []) o.clock hage request
    (w := { w with stored := opened }) h.entries
  exact ⟨t₁, h.after rfl rfl ht₁⟩

/-- A run leaves what its request leaves. If it analyzes a page, its output `Presents` the response. -/
theorem run_call (h : Prepared env config w.stored opened t) {call : Call} {request : Request}
    (hrequest : call.request? = some request) :
    (o.run (call.run env) (w.onMachine config.reputation [])).2
        = ((session o config).run (handle config.scoring request)
            { w with stored := opened }).2.onMachine config.reputation []
      ∧ ∀ hostname csp, request = .analyze hostname csp →
        Presents (Settings.thresholdOf config.scoring.defaultThreshold (t.get? Settings.thresholdKey))
          (o.run (call.run env) (w.onMachine config.reputation [])).1
          ((session o config).run (handle config.scoring request) { w with stored := opened }).1 := by
  obtain ⟨command, hparse, hcommand⟩ := Call.exists_command hrequest
  have hrun := run_of_parse o env hparse call.input (w.onMachine config.reputation [])
  rw [Command.run_of_request? env hcommand,
    perform_withStore o env h.loads h.opens (storeWork command)] at hrun
  have hsnd := snd_perform_storeWork (s := session o config) (w := { w with stored := opened })
    (fun key w => snd_perform_get?_onDisk _ _ key w) hcommand config.scoring
  constructor
  · rw [← hsnd, Call.run, hrun]
    simp only [session]
    cases (Surroundings.perform _ (storeWork command config.scoring) _).1 <;> rfl
  · rintro hostname csp rfl
    obtain ⟨format, rfl, hformat⟩ := Command.exists_of_request?_analyze hcommand
    obtain ⟨outcome, w₁, hwork, hhandle⟩ := exists_analysis (o.source config.reputation []) o.clock
      (w := { w with stored := opened }) h.entries config.scoring hostname csp hformat
    have hdisk : o.around config.reputation [] config.storage.path
        = onDisk config.storage.path (o.source config.reputation []) o.clock := rfl
    have hwarning : (Command.analyze hostname csp format).warning = "" := by
      rw [Command.warning, formatWarning, hformat]
    rw [hdisk, hwork] at hrun
    rw [Call.run, hrun, session, hdisk, hhandle, hwarning]
    exact presents_analysisOutput outcome _

/-- Runs do one after the other what their requests ask for. Only the first run may have to open the store,
    so the store that the requests leave is the one that the runs leave, once it is opened. -/
theorem run_calls (h : Prepared env config w.stored opened t)
    (hage : config.scoring.cacheMaxAge = none) {calls : List Call} {requests : List Request}
    (hrequests : calls.map Call.request? = requests.map some) :
    ∃ (w₁ : Situation Disk) (opened₁ : Disk) (t₁ : Table Json),
      (o.run (calls.mapM (Call.run env)) (w.onMachine config.reputation [])).2
        = w₁.onMachine config.reputation []
      ∧ ((session o config).run (requests.mapM (handle config.scoring)) { w with stored := opened }).2
        = { w₁ with stored := opened₁ }
      ∧ Prepared env config w₁.stored opened₁ t₁ := by
  induction calls generalizing w opened t requests with
  | nil =>
    obtain rfl : requests = [] := List.map_eq_nil_iff.1 hrequests.symm
    exact ⟨w, opened, t, rfl, rfl, h⟩
  | cons call rest ih =>
    cases requests with
    | nil => exact nomatch hrequests
    | cons request requests =>
      rw [List.map_cons, List.map_cons] at hrequests
      obtain ⟨hrequest, hrest⟩ := List.cons.inj hrequests
      obtain ⟨t₁, hprepared⟩ := exists_prepared o h hage request
      obtain ⟨w₂, opened₂, t₂, hruns, hhandled, hend⟩ := ih hprepared hrest
      refine ⟨w₂, opened₂, t₂, ?_, ?_, hend⟩
      · rw [o.run_mapM_cons, (run_call o h hrequest).1, hruns]
      · rw [run_mapM_cons]
        exact hhandled

/-- A run of `serve` answers the requests one after the other. -/
theorem run_serving (h : Prepared env config w.stored opened t) {serving : List String}
    (hserving : parse serving = .run {} .serve) (requests : List Request) :
    o.run (CommandLine.run serving env (inputOf requests)) (w.onMachine config.reputation [])
      = (⟨0, Report.lines (((session o config).run (requests.mapM (handle config.scoring))
            { w with stored := opened }).1.map (·.toJson.compactText)), ""⟩,
        ((session o config).run (requests.mapM (handle config.scoring))
          { w with stored := opened }).2.onMachine config.reputation []) := by
  rw [run_of_parse o env hserving, Command.run, perform_withStore o env h.loads h.opens, perform_serve]
  rfl

/-- A run that analyzes a page `Presents` the response that its request gets among all requests, by the
    threshold in force after the runs before it. -/
theorem presents_response (h : Prepared env config w.stored opened t)
    (hage : config.scoring.cacheMaxAge = none) {before after : List Call} {call : Call}
    {requests : List Request} (hrequests : (before ++ call :: after).map Call.request? = requests.map some)
    {hostname : String} {csp : Option String} (hcall : call.request? = some (.analyze hostname csp)) :
    ∃ output response threshold,
      (o.run ((before ++ call :: after).mapM (Call.run env))
        (w.onMachine config.reputation [])).1[before.length]? = some output
      ∧ ((session o config).run (requests.mapM (handle config.scoring))
        { w with stored := opened }).1[before.length]? = some response
      ∧ (∃ t₁, Store.openedEntries (o.run (before.mapM (Call.run env))
          (w.onMachine config.reputation [])).2.disk config.storage.path = .ok t₁
        ∧ threshold = Settings.thresholdOf config.scoring.defaultThreshold
          (t₁.get? Settings.thresholdKey))
      ∧ Presents threshold output response := by
  rw [List.map_append, List.map_cons] at hrequests
  obtain ⟨first, others, rfl, hfirst, hothers⟩ := List.map_eq_append_iff.1 hrequests.symm
  obtain ⟨request, last, rfl, hrequest, -⟩ := List.map_eq_cons_iff.1 hothers
  rw [hcall] at hrequest
  obtain rfl := Option.some.inj hrequest
  have hlength : before.length = first.length := by
    rw [← List.length_map (f := Call.request?), ← hfirst, List.length_map]
  obtain ⟨w₁, opened₁, t₁, hruns, hhandled, hprepared⟩ := run_calls o h hage hfirst.symm
  rw [o.getElem?_run_mapM, hruns, hlength, Surroundings.getElem?_run_mapM, hhandled]
  exact ⟨_, _, _, rfl, rfl, ⟨t₁, hprepared.openedEntries_eq, rfl⟩,
    (run_call o hprepared hcall).2 hostname csp rfl⟩

end Runs

/-! ## All runs -/

/-- Single runs and one process that serves the same requests are the same program, where entries do not age
    and the network gives the same replies: they leave stores with `Cache.SameButTimes`, serving prints a
    response for each request, and a run that analyzes a page `Presents` the response to its request by the
    threshold in force when it starts. All of them read the configuration at `Config.defaultPath`; a file
    named with `-c` is left out here (`Call.request?`). -/
theorem calls_agree_with_serving (env : Environment)
    (reply : List Reputation.Query → Reputation.Query → Option Reputation.Reply)
    (clock clock' : Nat → Int64) {disk : Disk} {config : Config} {t : Table Json}
    (hconfig : (Outside.perform ⟨reply, clock⟩ (loadConfig {} env) ⟨disk, [], 0⟩).1 = .ok config)
    (hage : config.scoring.cacheMaxAge = none)
    (hstore : Store.openedEntries disk config.storage.path = .ok t)
    {calls : List Call} {requests : List Request}
    (hrequests : calls.map Call.request? = requests.map some)
    {serving : List String} (hserving : parse serving = .run {} .serve) :
    ∃ (outputs : List Output) (m : MachineState) (responses : List Response) (m' : MachineState),
      Outside.run ⟨reply, clock⟩ (calls.mapM (Call.run env)) ⟨disk, [], 0⟩ = (outputs, m)
      ∧ Outside.run ⟨reply, clock'⟩ (CommandLine.run serving env (inputOf requests)) ⟨disk, [], 0⟩
        = (⟨0, Report.lines (responses.map (·.toJson.compactText)), ""⟩, m')
      ∧ responses.length = requests.length
      ∧ (∃ u u', Store.openedEntries m.disk config.storage.path = .ok u
        ∧ Store.openedEntries m'.disk config.storage.path = .ok u' ∧ Cache.SameButTimes u u')
      ∧ ∀ before call after hostname csp, calls = before ++ call :: after →
        call.request? = some (.analyze hostname csp) →
        ∃ output response threshold, outputs[before.length]? = some output
          ∧ responses[before.length]? = some response
          ∧ (∃ t₁, Store.openedEntries (Outside.run ⟨reply, clock⟩ (before.mapM (Call.run env))
              ⟨disk, [], 0⟩).2.disk config.storage.path = .ok t₁
            ∧ threshold = Settings.thresholdOf config.scoring.defaultThreshold
              (t₁.get? Settings.thresholdKey))
          ∧ Presents threshold output response := by
  obtain ⟨opened, hopen, hentries⟩ := Store.openedEntries_eq_ok_iff.1 hstore
  rw [perform_loadConfig] at hconfig
  have h : Prepared env config disk opened t := ⟨hconfig, hopen, hentries⟩
  -- Both sides start in one situation.
  let w : Situation Disk := { stored := disk }
  have hstart : w.onMachine config.reputation [] = ⟨disk, [], 0⟩ := by
    simp [w, Situation.onMachine]
  let o : Outside := ⟨reply, clock⟩
  let o' : Outside := ⟨reply, clock'⟩
  have hself : Alike config.storage.path { w with stored := opened } { w with stored := opened } :=
    ⟨⟨.refl _, t, t, hentries, hentries, .refl t⟩, rfl⟩
  obtain ⟨responses, v, v', hrun, hrun', halike⟩ := run_mapM_alike (o.source config.reputation [])
    clock clock' hage requests hself
  have hsession : (session o config).run (requests.mapM (handle config.scoring))
      { w with stored := opened } = (responses, v) := hrun
  have hsession' : (session o' config).run (requests.mapM (handle config.scoring))
      { w with stored := opened } = (responses, v') := hrun'
  obtain ⟨w₁, opened₁, t₁, hruns, hhandled, hend⟩ := run_calls o (w := w) h hage hrequests
  have hserved := run_serving o' (w := w) h hserving requests
  rw [hsession'] at hserved
  rw [hsession] at hhandled
  rw [hstart] at hruns hserved
  obtain ⟨u, u', hu, hu', hsame⟩ := halike.stored.entries
  cases hcalls : o.run (calls.mapM (Call.run env)) ⟨disk, [], 0⟩ with
  | mk outputs m =>
    rw [hcalls] at hruns
    obtain rfl : m = w₁.onMachine config.reputation [] := hruns
    obtain rfl : v = { w₁ with stored := opened₁ } := hhandled
    refine ⟨outputs, _, responses, _, rfl, hserved, ?_, ⟨u, u', ?_, ?_, hsame⟩, ?_⟩
    · have hlength := length_run_mapM (session o config) (handle config.scoring) requests
        { w with stored := opened }
      rwa [hsession] at hlength
    · exact Store.openedEntries_eq_ok_iff.2 ⟨opened₁, hend.opens, hu⟩
    · exact (h.after rfl hrun' hu').openedEntries_eq
    · rintro before call after hostname csp rfl hcall
      have hpresents := presents_response o (w := w) h hage hrequests hcall
      rw [hstart, hsession, hcalls] at hpresents
      exact hpresents

/-- Some runs on the store of a directory. -/
def someCalls : List Call :=
  [⟨["threshold", "0"], .empty⟩, ⟨["-v", "analyze", "a.example", "--format=JSON"], .empty⟩,
    ⟨["allowlist", "add", "A.example"], .empty⟩,
    ⟨["analyze", "--csp", "default-src 'self'", "-fjson", "--", "a.example"], "ignored".toUTF8⟩]

/-- The requests of `someCalls`. -/
def someRequests : List Request :=
  [.setThreshold 0, .analyze "a.example" none, .toggleAllowlist "A.example" false,
    .analyze "a.example" (some "default-src 'self'")]

theorem someCalls_agree :
    someCalls.map Call.request? = someRequests.map some ∧ parse ["serve"] = .run {} .serve
      ∧ ∃ (outputs : List Output) (m : MachineState) (responses : List Response) (m' : MachineState),
        Outside.run ⟨fun _ _ => none, fun n => .ofNat n⟩ (someCalls.mapM (Call.run {}))
            ⟨Store.emptyDisk, [], 0⟩ = (outputs, m)
        ∧ Outside.run ⟨fun _ _ => none, fun _ => 0⟩ (CommandLine.run ["serve"] {} (inputOf someRequests))
            ⟨Store.emptyDisk, [], 0⟩
          = (⟨0, Report.lines (responses.map (·.toJson.compactText)), ""⟩, m')
        ∧ ∃ output response threshold, outputs[3]? = some output ∧ responses[3]? = some response
          ∧ Presents threshold output response := by
  have hrequests : someCalls.map Call.request? = someRequests.map some := by decide +kernel
  have hserving : parse ["serve"] = .run {} .serve := by decide +kernel
  have hconfig : (Outside.perform ⟨fun _ _ => none, fun n => .ofNat n⟩ (loadConfig {} {})
      ⟨Store.emptyDisk, [], 0⟩).1 = .ok {} := by
    have hnone : Store.emptyDisk.find? Config.defaultPath = none := by decide +kernel
    rw [perform_loadConfig]
    simp only [hnone]
    rfl
  have hstore : Store.openedEntries Store.emptyDisk ".cspguard/store.json" = .ok Table.empty :=
    Store.openedEntries_eq_ok_iff.2
      ⟨⟨Table.ofList [("home", .directory), ("home/.cspguard", .directory)], ["home"]⟩,
        by decide +kernel, rfl⟩
  obtain ⟨outputs, m, responses, m', hruns, hserved, -, -, hpresents⟩ :=
    calls_agree_with_serving {} (fun _ _ => none) (fun n => .ofNat n) (fun _ => 0) hconfig rfl hstore
      hrequests hserving
  obtain ⟨output, response, threshold, houtput, hresponse, -, hshown⟩ :=
    hpresents (someCalls.take 3) ⟨["analyze", "--csp", "default-src 'self'", "-fjson", "--", "a.example"],
      "ignored".toUTF8⟩ [] "a.example" (some "default-src 'self'") rfl (by decide +kernel)
  exact ⟨hrequests, hserving, outputs, m, responses, m', hruns, hserved, output, response, threshold,
    houtput, hresponse, hshown⟩

end CommandLine

end PageRisk
