import PageRisk.CommandLine.Commands
import Std.Time.DateTime.Timestamp

set_option autoImplicit false

/-! # The command

Runs a command on the files, the environment and the clock of the machine. There is no network: no request
to the reputation service gets a reply. -/

namespace PageRisk

/-- Why the machine could not do what it was asked for. -/
def fileErrorOf : IO.Error → FileError
  | .noFileOrDirectory .. => .notFound
  | .alreadyExists .. => .alreadyExists
  | .inappropriateType _ 20 _ => .notADirectory
  | .inappropriateType _ 21 _ => .isADirectory
  | .invalidArgument _ 36 _ => .nameTooLong
  | e => .other (toString e)

/-- Does something with the file of a path. -/
def tryFile {α : Type} (path : String) (action : IO α) : IO (Except FileError α) := do
  if path.toList.contains '\x00' then return .error .nulInPath
  else
    try return .ok (← action)
    catch e => return .error (fileErrorOf e)

/-- Performs an operation on files. -/
def performFile : (op : Files.FileOp) → IO op.Answer
  | .probe path => return (← tryFile path (IO.FS.realPath path)).isOk
  | .read path => tryFile path (IO.FS.readBinFile path)
  | .write path contents => tryFile path (IO.FS.writeBinFile path contents)
  | .rename source target => tryFile source (IO.FS.rename source target)
  | .makeDirectories path => tryFile path (IO.FS.createDirAll path)

/-- Performs an operation of the machine. -/
def performOp : (op : MachineOp) → IO op.Answer
  | .file op => performFile op
  | .send _ => return none
  | .now => return Int64.ofInt (← Std.Time.Timestamp.now).toMillisecondsSinceUnixEpoch.toInt

/-- The variables of the environment. -/
def environment : IO Environment := do
  let secret ← IO.getEnv Config.secretVariable
  let endpoint ← IO.getEnv Config.endpointVariable
  return ⟨secret, endpoint⟩

/-- Reads the bytes of a line; nothing at the end of the input. -/
partial def readLine (input : IO.FS.Stream) (line : ByteArray) : IO ByteArray := do
  let byte ← input.read 1
  let line := line ++ byte
  if byte.isEmpty || byte.toList == [10] then return line else readLine input line

/-- Serves line after line, every response written before the next line is read. -/
partial def serveInput (config : Config) (store : OpenStore) (input output : IO.FS.Stream) :
    IO UInt32 := do
  match CommandLine.textLines (← readLine input ByteArray.empty) with
  | [] => return 0
  | none :: _ =>
    IO.eprint (CommandLine.Output.failed (.file .notText) "").stderr
    return errorExitCode
  | some line :: _ =>
    let (answer, store) ←
      (store.run config.reputation (CommandLine.serveLine config.scoring line)).runWith performOp
    if let some text := answer then
      output.putStr (text ++ "\n")
      output.flush
    serveInput config store input output

/-- Opens the store and serves. -/
def serveStandardInput (options : Options) (env : Environment) : IO UInt32 := do
  let opening : MachineTask (Config × OpenStore) := do
    let config ← loadConfig options env
    return (config, ← openStore options config)
  match ← opening.run.runWith performOp with
  | .error e =>
    IO.eprint (CommandLine.Output.failed e "").stderr
    return errorExitCode
  | .ok (config, store) => serveInput config store (← IO.getStdin) (← IO.getStdout)

end PageRisk

open PageRisk in
/-- The command with its arguments. -/
def main (arguments : List String) : IO UInt32 := do
  let env ← environment
  match CommandLine.parse arguments with
  | .run options .serve => serveStandardInput options env
  | _ =>
    let output ← (CommandLine.run arguments env ByteArray.empty).runWith performOp
    IO.print output.stdout
    IO.eprint output.stderr
    return output.code
