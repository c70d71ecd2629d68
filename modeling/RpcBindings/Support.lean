import RpcBindings.Breakdown
import RpcBindings.Target.Dart
import RpcBindings.Target.Kotlin
import RpcBindings.Target.Swift

/-! Support files, read from a directory and kept: once a file has been read its content stays the
same, whatever becomes of the directory. -/
namespace RpcBindings

/-- A file of a run: its name below the output directory, and its content. -/
structure OutputFile where
  name : Text.CodePoints
  content : ByteArray

/-- A copy of a support file: the value that it is named by, and its content. -/
structure SupportCopy where
  name : Value
  content : ByteArray

/-- Why a support file cannot be read, and which files could be. -/
structure SupportError where
  file : String
  directory : Path
  fault : DiskFault
  available : Disk.Listing
  deriving DecidableEq, Repr

/-- The breakdown behind an error, if it is one: a path that cannot be looked for, or a directory that
cannot be listed for the report. -/
def SupportError.breakdown? (e : SupportError) : Option Breakdown :=
  if e.fault.error = .nulInPath then some (.disk e.fault)
  else match e.available with
    | .names _ => none
    | .refused fault => some (.disk fault)

def SupportError.message (e : SupportError) : String :=
  let available := match e.available with
    | .names [] | .refused _ => "none"
    | .names files => Text.commas files
  s!"Cannot read runtime asset {e.file} from {e.directory}: {e.fault.message} " ++
    s!"(available: {available})"

/-- The directory of support files, and the contents read so far. -/
structure SupportStore where
  directory : Path
  contents : List (String × ByteArray) := []

namespace SupportStore

def available (s : SupportStore) (d : Disk) : Disk.Listing := d.list s.directory

/-- The content of a support file: what was read before, else what the disk holds now. -/
def read (s : SupportStore) (d : Disk) (file : String) :
    Except SupportError ByteArray × SupportStore :=
  match s.contents.lookup file with
  | some content => (.ok content, s)
  | none =>
    match d.read (s.directory.join (Path.ofString file)) with
    | .ok content => (.ok content, { s with contents := (file, content) :: s.contents })
    | .error fault => (.error ⟨file, s.directory, fault, s.available d⟩, s)

/-- A copy of a support file, under its own name unless a value that counts as true names it. -/
def bundle (s : SupportStore) (d : Disk) (file : String) (name : Value) :
    Except SupportError SupportCopy × SupportStore :=
  match s.read d file with
  | (.ok content, s) => (.ok ⟨if name.truthy then name else .text file, content⟩, s)
  | (.error e, s) => (.error e, s)

/-- The support files that come with the languages. -/
def builtinFiles : List SupportFile :=
  [Target.kotlin, Target.swift, Target.dart].filterMap (·.support)

def builtinDirectory : Path := ⟨"", ["runtime"]⟩

def builtinDisk : Disk where
  working := []
  entries := (["runtime"], .directory) ::
    builtinFiles.map fun file => (["runtime", file.name], .file file.text.toUTF8)

def builtin : SupportStore := { directory := builtinDirectory }

end SupportStore

end RpcBindings
