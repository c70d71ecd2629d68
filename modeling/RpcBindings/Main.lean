import RpcBindings.Command.Run
import RpcBindings.Plugin

/-! The program: a command line, or a compiler plugin if the executable has a plugin's name. -/
namespace RpcBindings

def pluginName : String := "protoc-gen-klm"

/-- The variable that can hold the level of logging. -/
def logLevelVariable : String := "KALAMGEN_LOG_LEVEL"

/-- What an operation on the disk was refused for, if it is a reason that a run reports. The number
of an error comes with either sign. -/
def refusal? : IO.Error → Option DiskError
  | .noFileOrDirectory .. => some .notFound
  | .alreadyExists .. => some .occupied
  | .inappropriateType _ code _ =>
    [DiskError.notDirectory, .isDirectory].find? fun error =>
      error.code == code.toNat || error.code == (0 - code).toNat
  | _ => none

/-- An operation on the disk with the refusals that a run reports. -/
def attempt {α : Type} (action : IO α) : IO (Except DiskError α) := do
  try return .ok (← action)
  catch e =>
    match refusal? e with
    | some error => return .error error
    | none => throw e

def lookAt (p : Path) : IO Disk.Sight := attempt (IO.FS.readBinFile p.toString)

def lookAll (paths : List Path) : IO (Path → Disk.Sight) := do
  let sights ← paths.mapM fun p => return (p, ← lookAt p)
  return fun p => (sights.lookup p).getD (.error .notFound)

/-- Makes a directory unless it is there. -/
def ensureDirectory (p : Path) : IO (Except DiskFault Unit) := do
  match ← attempt (IO.FS.createDir p.toString) with
  | .ok () => return .ok ()
  | .error error =>
    match ← lookAt p with
    | .error .isDirectory => return .ok ()
    | _ => return .error ⟨error, p⟩

/-- Makes the directories that a row of components leads through, the missing ones above it first;
`later` is the row in reverse. -/
def makeDirectories (root : String) : (later : List String) → IO (Except DiskFault Unit)
  | [] => ensureDirectory ⟨root, []⟩
  | part :: above => do
    let here : Path := ⟨root, (part :: above).reverse⟩
    match ← ensureDirectory here with
    | .error ⟨.notFound, _⟩ =>
      match ← makeDirectories root above with
      | .ok () => ensureDirectory here
      | .error fault => return .error fault
    | made => return made

/-- Writes files one after the other up to the first refusal. -/
def writeAll : List (Path × ByteArray) → IO (Except DiskFault Unit)
  | [] => return .ok ()
  | (p, content) :: rest => do
    match ← makeDirectories p.parent.root p.parent.parts.reverse with
    | .error fault => return .error fault
    | .ok () =>
      match ← attempt (IO.FS.writeBinFile p.toString content) with
      | .error error => return .error ⟨error, p⟩
      | .ok () => writeAll rest

def logWarnings (choice : Option LogLevel.Choice) (warnings : List String) : IO Unit := do
  if LogLevel.showsWarnings (LogLevel.chosen choice (← IO.getEnv logLevelVariable)) then
    warnings.forM IO.eprintln

def inputs (arguments : List String) : List Path :=
  match Command.Arguments.read arguments with
  | .error _ => []
  | .ok a =>
    (a.descriptorSet.bind Options.path?).toList ++
      (a.config.bind fun config => Options.path? config.content).toList

def printReport (arguments : List String) (report : Command.Report) : IO UInt32 := do
  let choice := (Command.Arguments.read arguments).toOption.bind (·.logLevel)
  logWarnings choice report.warnings
  report.lines.forM IO.println
  report.misuse.forM IO.eprintln
  return UInt32.ofNat report.exitCode

def conclude (arguments : List String) : Except Breakdown Command.Report → IO UInt32
  | .ok report => printReport arguments report
  | .error cause => do IO.eprintln cause.message; return 1

def runCommand (arguments : List String) : IO UInt32 := do
  match Command.plan arguments (← lookAll (inputs arguments)) Schema.Stack.usual with
  | .error cause => conclude arguments (.error cause)
  | .ok (.finished report) => conclude arguments (.ok report)
  | .ok (.output o) => conclude arguments (o.report (← writeAll o.writes))

def requestInputs (b : List UInt8) : List Path :=
  match Plugin.Request.read b with
  | .error _ => []
  | .ok request => (Options.Request.ofParameter request.parameter).file.toList

def runPlugin : IO UInt32 := do
  let b := (← (← IO.getStdin).readBinToEnd).data.toList
  let (warnings, response) := Plugin.answer b (← lookAll (requestInputs b)) Schema.Stack.usual
  logWarnings none warnings
  match response with
  | .error e => IO.eprintln e.message; return 1
  | .ok response =>
    (← IO.getStdout).write ⟨response.toArray⟩
    return 0

end RpcBindings

def main (arguments : List String) : IO UInt32 := do
  let executable := RpcBindings.Path.ofString (toString (← IO.appPath))
  if executable.name = RpcBindings.pluginName then RpcBindings.runPlugin
  else RpcBindings.runCommand arguments
