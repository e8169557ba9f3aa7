import PageRisk.CommandLine.Arguments
import PageRisk.Message.Dispatcher
import PageRisk.Report.Rendering

set_option autoImplicit false

/-! # Commands

What each command does and prints. A command ends with an exit code: zero, one for a page of high risk,
or that of an error. -/

namespace PageRisk.CommandLine

/-- What a command leaves behind for its user. -/
structure Output where
  code : UInt32 := 0
  stdout : String := ""
  stderr : String := ""
  deriving DecidableEq

/-- The output of a command that ends with an error, after what it has printed before. -/
def Output.failed (e : GuardError) (stdout : String) : Output :=
  ⟨errorExitCode, stdout, "Error: " ++ e.text ++ "\n"⟩

/-- The output with a warning before its errors. -/
def Output.after (output : Output) (warning : String) : Output :=
  { output with stderr := warning ++ output.stderr }

/-! ## Commands on the store -/

/-- Performs a piece of work with the configuration and the store of a command. -/
def withStore {α : Type} (options : Options) (env : Environment) (work : ScoringConfig → Task α) :
    MachineTask α := do
  let config ← loadConfig options env
  let store ← openStore options config
  store.perform config.reputation (work config.scoring)

/-- A decision with the threshold it is shown with. -/
def decision (page : Page) (scoring : ScoringConfig) : Task (Outcome × UInt32) := do
  let outcome ← Gate.evaluate scoring page
  let threshold ← Settings.threshold scoring.defaultThreshold
  return (outcome, threshold)

/-- The exit code for a decision: one where its score is of high risk by the threshold. -/
def exitCode (outcome : Outcome) (threshold : UInt32) : UInt32 :=
  match outcome with
  | .scored a _ => if RiskLevel.classify a.score threshold == .high then 1 else 0
  | _ => 0

/-- The warning about a format that nobody knows. -/
def formatWarning (format : String) : String :=
  match OutputFormat.ofText? format with
  | some _ => ""
  | none => "Warning: unknown format '" ++ format ++ "', using console\n"

/-- What a command on the store prints. -/
def storeWork : Command → ScoringConfig → Task Output
  | .analyze hostname csp format, scoring => do
    let (outcome, threshold) ← decision ⟨hostname, csp⟩ scoring
    let format := (OutputFormat.ofText? format).getD .console
    return ⟨exitCode outcome threshold, Report.render hostname outcome threshold format ++ "\n", ""⟩
  | .allow hostname, _ => do
    if ← Settings.setAllowlisted hostname true then return {}
    else return ⟨0, hostname ++ " is already allowlisted\n", ""⟩
  | .disallow hostname, _ => do
    if ← Settings.setAllowlisted hostname false then return {}
    else return ⟨0, hostname ++ " was not allowlisted\n", ""⟩
  | .listAllowed, _ => return ⟨0, Report.lines (← Settings.allowlist).keys, ""⟩
  | .showThreshold, scoring => do
    let threshold ← Settings.threshold scoring.defaultThreshold
    return ⟨0, String.ofList (Decimal.natText threshold.toNat) ++ "\n", ""⟩
  | .setThreshold n, _ => do
    Settings.setThreshold n
    return {}
  | .setEnabled enabled, _ => do
    Settings.setEnabled enabled
    return ⟨0, if enabled then "Analysis enabled\n" else "Analysis disabled\n", ""⟩
  | .showCache, _ => return ⟨0, Report.entriesTable (← Cache.entries), ""⟩
  | .clearCache, _ => do
    let removed ← Cache.clear
    return ⟨0, "Removed " ++ String.ofList (Decimal.natText removed) ++ " cached entr"
      ++ (if removed == 1 then "y\n" else "ies\n"), ""⟩
  | _, _ => return {}

/-! ## Serving -/

/-- The lines of some bytes, each without its line feed; what follows the last line feed is a line only if
    it is anything. A line that ends with a line feed loses a carriage return before it. -/
def byteLines : List UInt8 → List (List UInt8)
  | [] => []
  | 13 :: 10 :: rest => [] :: byteLines rest
  | b :: rest =>
    if b == 10 then [] :: byteLines rest
    else match byteLines rest with
      | [] => [[b]]
      | line :: lines => (b :: line) :: lines

/-- The `byteLines` of some bytes as texts; nothing for a line that is no text. -/
def textLines (bytes : ByteArray) : List (Option String) :=
  (byteLines bytes.toList).map fun line => String.fromUTF8? ⟨line.toArray⟩

/-- The response to a line (`Message.answerLine`), unless it is blank. -/
def serveLine (scoring : ScoringConfig) (line : String) : Program services (Option String) :=
  if Text.allBlank line.toList then .done none
  else (Message.answerLine scoring line).andThen fun answer => .done (some answer)

/-- The responses to some lines up to the first that is no text, and whether there was none such. -/
def serveLines (scoring : ScoringConfig) :
    List (Option String) → Program services (List String × Bool)
  | [] => .done ([], true)
  | none :: _ => .done ([], false)
  | some line :: rest =>
    (serveLine scoring line).andThen fun answer =>
      (serveLines scoring rest).andThen fun (answers, complete) =>
        .done (answer.toList ++ answers, complete)

/-- Serves all of the input: `serveLines` of its `textLines`. -/
def serve (input : ByteArray) (scoring : ScoringConfig) : Task Output :=
  ExceptT.lift ((serveLines scoring (textLines input)).andThen fun (answers, complete) =>
    .done (if complete then ⟨0, Report.lines answers, ""⟩
      else .failed (.file .notText) (Report.lines answers)))

/-! ## All commands -/

/-- Writes a configuration file to start from, unless there is a file that is to be kept. -/
def writeStarter (force : Bool) : MachineTask Output := do
  let found ← ExceptT.lift (onMachine (Files.perform (.probe Config.defaultPath)))
  if found && !force then
    return ⟨1, "", Config.defaultPath ++ " already exists. Use --force to overwrite.\n"⟩
  else
    ExceptT.mk (onMachine (Store.attempt
      (Files.perform (.write Config.defaultPath Config.starter.toUTF8))).run)
    return ⟨0, "Created " ++ Config.defaultPath ++ "\n", ""⟩

/-- The findings that there are, in a format. -/
def rulesText (format : String) : String :=
  if format == "json" then (Report.findingsJson Csp.allFindings).prettyText ++ "\n"
  else Report.findingsTable Csp.allFindings

/-- Runs a command: `storeWork` with its configuration and store, or what needs neither. -/
def Command.run (command : Command) (options : Options) (env : Environment) (input : ByteArray) :
    MachineTask Output :=
  match command with
  | .rules format => return ⟨0, rulesText format, ""⟩
  | .init force => writeStarter force
  | .serve => withStore options env (CommandLine.serve input)
  | command => withStore options env (storeWork command)

/-- The name and version of the program. -/
def versionText : String := "cspguard 0.1.0\n"

/-- How the program is used. -/
def helpText : String := Report.lines [
  "Page risk scoring from CSP posture and domain reputation",
  "",
  "Usage: cspguard [-c FILE] [--ephemeral] [-v] COMMAND",
  "",
  "Commands:",
  "  analyze HOSTNAME [--csp TEXT] [-f console|json]",
  "  allowlist add|remove HOSTNAME, allowlist list",
  "  threshold [VALUE]",
  "  enable, disable",
  "  cache show|clear",
  "  rules [-f table|json]",
  "  serve",
  "  init [--force]"]

/-- What is printed before a command may fail. -/
def Command.warning : Command → String
  | .analyze _ _ format => formatWarning format
  | _ => ""

/-- Does what the arguments ask for (`parse`): runs a command, or prints a text. -/
def run (arguments : List String) (env : Environment) (input : ByteArray) : Program machine Output :=
  match parse arguments with
  | .help => .done ⟨0, helpText, ""⟩
  | .version => .done ⟨0, versionText, ""⟩
  | .misuse error => .done ⟨2, "", error.message ++ "\n"⟩
  | .run options command =>
    (command.run options env input).run.andThen fun
      | .ok output => .done (output.after command.warning)
      | .error e => .done ((Output.failed e "").after command.warning)

end PageRisk.CommandLine
