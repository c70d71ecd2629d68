import RpcBindings.Command.Arguments
import RpcBindings.Command.Display
import RpcBindings.LogLevel
import RpcBindings.Wire.Descriptor

/-! A run of the command line. All that can fail without the output directory is done first, and
only then are files written, one after the other. -/
namespace RpcBindings.Command

/-- What a run shows: its lines, or the reason why its arguments make no sense. -/
structure Report where
  exitCode : Nat
  lines : List String := []
  misuse : Option String := none
  warnings : List String := []
  deriving DecidableEq, Repr

inductive RunFailure where
  | noDescriptorSet
  | unreadable (name : String) (fault : DiskFault)
  | malformed (name : String)
  | generation (cause : Failure)
  | unwritable (fault : DiskFault)

def RunFailure.message : RunFailure → String
  | noDescriptorSet => "A descriptor set file is required (see --help)"
  | unreadable name fault => s!"Cannot read descriptor set {name}: {fault.message}"
  | malformed name =>
    s!"Invalid descriptor set {name}: " ++
      "Error parsing message with type 'google.protobuf.FileDescriptorSet'"
  | generation cause => cause.message
  | unwritable fault => s!"Failed to write output: {fault.message}"

def RunFailure.report (failure : RunFailure) (warnings : List String) : Report :=
  { exitCode := 1, lines := Terminal.printed ("✗ Error: " ++ failure.message), warnings }

/-- What keeps a run from its output: a failure that it reports, or a breakdown. -/
inductive Trouble where
  | failure (cause : RunFailure)
  | breakdown (cause : Breakdown)

def Trouble.report (t : Trouble) (warnings : List String) : Except Breakdown Report :=
  match t with
  | failure cause => .ok (cause.report warnings)
  | breakdown cause => .error cause

/-- The level of logging that the arguments ask for. -/
def Arguments.logLevel (a : Arguments) : Option LogLevel.Choice :=
  if a.verbose then some (.number 10) else if a.quiet then some (.number 40) else none

/-- A fault of the disk as a failure of a run, unless it breaks the run down. -/
def diskFailure (fault : DiskFault) (failure : RunFailure) : Trouble :=
  if fault.error = .nulInPath then .breakdown (.disk fault) else .failure failure

def Arguments.descriptors (a : Arguments) (look : Path → Disk.Sight) :
    Except Trouble (List Schema.FileDescriptor) :=
  match a.descriptorSet.getD "" with
  | "" => .error (.failure .noDescriptorSet)
  | name =>
    let path := Path.ofString name
    match look path with
    | .error error => .error (diskFailure ⟨error, path⟩ (.unreadable name ⟨error, path⟩))
    | .ok bytes =>
      match Wire.readFileSet bytes.data.toList with
      | none => .error (.failure (.malformed name))
      | some files => .ok files

/-- The options of a run in a language, with the warnings about them. -/
def Arguments.options (a : Arguments) (language : String) (look : Path → Disk.Sight) :
    List String × Except OptionError Options :=
  let overrides : Settings := if a.noRuntime then [("bundle_runtime", .bool false)] else []
  let config := (a.config.map Operand.content).getD ""
  Options.load language overrides ((Options.path? config).map fun path => ⟨path, look path⟩)

/-- The names of the schema files that output is wanted for. -/
def Arguments.wanted (a : Arguments) : Except Trouble (Option (List String)) :=
  match a.files with
  | none => .ok none
  | some operands =>
    if operands.contains .nothing then .error (.breakdown .noFile)
    else .ok (some (operands.map Operand.content))

def generationTrouble (cause : Failure) : Trouble :=
  match cause.breakdown? with
  | some breakdown => .breakdown breakdown
  | none => .failure (.generation cause)

/-- The output of a run, its descriptors and options being known. -/
def Arguments.generate (a : Arguments) (language : String)
    (descriptors : List Schema.FileDescriptor) (options : Options) (stack : Schema.Stack) :
    Except Trouble RunResult := do
  let trouble {α : Type} (result : Except Failure α) := result.mapError generationTrouble
  let generator ←
    trouble ((Catalog.builtin.createWith language options).mapError Failure.catalog)
  let files ← trouble ((Schema.loadSet descriptors (← a.wanted) stack).mapError Failure.schema)
  trouble ((generator.runBuiltin files).mapError Failure.run)

def Arguments.directory (a : Arguments) : Except Trouble Path :=
  match a.output with
  | .text name => .ok (Path.ofString name)
  | .nothing => .error (.breakdown .noDirectory)

/-- A run whose output is complete and not yet written. -/
structure Output where
  arguments : Arguments
  directory : Path
  files : List OutputFile
  warnings : List String

namespace Output

/-- The path of a file by its name. -/
def path (o : Output) (name : String) : Path := o.directory.join (Path.ofString name)

/-- The files to write. Only the support file, the last one, can go by a name that is no string, and
nothing is written under such a name. -/
def writes (o : Output) : List (Path × ByteArray) :=
  if o.arguments.dryRun then []
  else o.files.filterMap fun file =>
    match file.name with
    | .string name => some (o.path name, file.content)
    | .broken _ => none

/-- Why a name that is no string names no file: the surrogates that it holds first, and their position
in the path. -/
def nameFault (o : Output) (codes : List Nat) : Text.EncodeFault :=
  let fault := Text.EncodeFault.ofCodes codes
  let start := String.ofList ((codes.take fault.position).map Char.ofNat)
  -- A letter in the place of the surrogates is the last character of the path up to them.
  { fault with position := (o.path (start ++ "x")).toString.length - 1 }

/-- The fault of the name under which a file cannot be written, if there is one. Names on a disk are
strings, so that this goes for all surrogates, also for those (U+DC80 to U+DCFF) that a file system whose
names are bytes takes as bytes. -/
def unnameable? (o : Output) : Option Text.EncodeFault :=
  if o.arguments.dryRun then none
  else o.files.findSome? fun file =>
    match file.name with
    | .string _ => none
    | .broken codes => some (o.nameFault codes)

/-- What is shown once all is written. -/
def lines (o : Output) : List String :=
  if o.arguments.quiet then []
  else
    (fileTable o.files o.directory o.arguments.dryRun).render ++
      if o.arguments.dryRun then []
      else Terminal.printed s!"✓ Wrote {o.files.length} file(s) to {o.directory}"

/-- The report of the run, given how the writing went. -/
def report (o : Output) (written : Except DiskFault Unit) : Except Breakdown Report :=
  match written, o.unnameable? with
  | .error fault, _ => (diskFailure fault (.unwritable fault)).report o.warnings
  | .ok (), some fault => .error (.notBytes fault)
  | .ok (), none => .ok { exitCode := 0, lines := o.lines, warnings := o.warnings }

end Output

/-- What a run comes to before anything is written. -/
inductive Plan where
  | finished (report : Report)
  | output (output : Output)

def languageReport (language : String) : Report :=
  match Catalog.builtin.info language with
  | .ok info => { exitCode := 0, lines := languageDetails info }
  | .error _ => {
      exitCode := 1
      lines := Terminal.printed s!"✗ Language '{language}' is not supported" ++
        [s!"Supported languages: {Text.commas Catalog.builtin.languages}"] }

def Arguments.planOutput (a : Arguments) (look : Path → Disk.Sight) (stack : Schema.Stack) :
    Except Breakdown Plan := do
  let finish (trouble : Trouble) (warnings : List String) : Except Breakdown Plan :=
    (trouble.report warnings).map .finished
  match a.descriptors look, a.language with
  | .error trouble, _ => finish trouble []
  | .ok _, .nothing => .error .noLanguage
  | .ok descriptors, .text language =>
    let (warnings, options) := a.options language look
    match options with
    | .error cause => finish (generationTrouble (.options cause)) warnings
    | .ok options =>
      match a.generate language descriptors options stack, a.directory with
      | .error trouble, _ | .ok _, .error trouble => finish trouble warnings
      | .ok result, .ok directory => .ok (.output ⟨a, directory, result.files, warnings⟩)

/-- Plans a run; requests for information go first. -/
def Arguments.plan (a : Arguments) (look : Path → Disk.Sight) (stack : Schema.Stack) :
    Except Breakdown Plan :=
  if a.listLanguages then
    .ok (.finished { exitCode := 0, lines := languageList Catalog.builtin })
  else match (a.languageInfo.map Operand.content).getD "" with
    | "" => a.planOutput look stack
    | language => .ok (.finished (languageReport language))

def versionLine : String := "kalamgen 0.1.0"

def helpLines : List String := [
  "usage: kalamgen [options] [descriptor_set]", "",
  "Generate kalam RPC bindings from a protobuf descriptor set", ""] ++
  Flag.all.map fun flag =>
    "  " ++ Text.commas flag.spellings ++ if flag.takesValue then " VALUE" else ""

/-- The report on arguments that say nothing to act on. -/
def Halt.report : Halt → Report
  | help => { exitCode := 0, lines := helpLines }
  | version => { exitCode := 0, lines := [versionLine] }
  | misuse error => { exitCode := 2, misuse := some ("kalamgen: error: " ++ error.message) }

/-- Plans a run from its arguments as they are given. -/
def plan (arguments : List String) (look : Path → Disk.Sight) (stack : Schema.Stack) :
    Except Breakdown Plan :=
  match Arguments.read arguments with
  | .error halt => .ok (.finished halt.report)
  | .ok a => a.plan look stack

def run (arguments : List String) (d : Disk) (stack : Schema.Stack) :
    Except Breakdown Report × Disk :=
  match plan arguments d.look stack with
  | .error cause => (.error cause, d)
  | .ok (.finished report) => (.ok report, d)
  | .ok (.output o) =>
    let (written, after) := d.storeAll o.writes
    (o.report written, after)

end RpcBindings.Command
