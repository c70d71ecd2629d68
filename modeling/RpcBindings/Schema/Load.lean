import RpcBindings.Breakdown
import RpcBindings.Schema.Link
import RpcBindings.Schema.View
import RpcBindings.Text.Split

/-! Loading: a row of descriptors linked in order, and the files of it that output is wanted for. -/
namespace RpcBindings.Schema

open Text (Raw)

inductive LoadError where
  | link (file : Raw) (cause : LinkError)
  /-- Files that are asked for and not there. -/
  | unknownFiles (names : List String)
  /-- A file that lacks a required part, or whose name cannot be read, or messages that refer to each
  other in a longer row than the stack has room for. -/
  | broken (cause : Breakdown)
  deriving DecidableEq, Repr

def LoadError.message : LoadError → String
  | link file cause =>
    file.literal ++ ": Couldn't build proto file into descriptor pool: " ++ cause.shown
  | unknownFiles names => s!"<descriptor set>: files not in the set: {Text.commas names}"
  | broken cause => cause.message

/-- The breakdown behind an error, if it is one. -/
def LoadError.breakdown? : LoadError → Option Breakdown
  | broken cause => some cause
  | link .. | unknownFiles _ => none

/-- Links files in order, each to those before it. -/
def linkAll (p : Pool) : List FileDescriptor → Except LoadError (List SchemaFile)
  | [] => .ok []
  | f :: rest =>
    if f.missing ≠ [] then .error (.broken (.missingParts f.missing))
    else match p.link f with
      | .error cause => .error (.link f.path cause)
      | .ok (file, p) => do return file :: (← linkAll p rest)

/-- How many messages can be looked into at once, each of them from the one before, while the objects
of linked files are made. Without a number there is no bound. -/
abbrev Stack := Option Nat

/-- The room on a stack of a thousand calls, of which a message with its field takes three. -/
def Stack.usual : Stack := some 329

/-- Whether there is room for making the objects of some files. -/
def Stack.fits (stack : Stack) (files : List SchemaFile) : Bool :=
  stack.all fun depth => (viewFiles depth files).isSome

/-- The linked files before the first one whose name cannot be read. -/
def readable (descriptors : List FileDescriptor) (files : List SchemaFile) : List SchemaFile :=
  files.take (descriptors.takeWhile (·.path.fault?.isNone)).length

/-- Links files and marks those whose names are wanted. Once all files are linked their names are read
and their objects are made, file by file. What refers to a file comes after it, so that a name that
cannot be read is first met in its own file. -/
def loadFiles (descriptors : List FileDescriptor) (wanted : List Raw) (stack : Stack := none) :
    Except LoadError (List SchemaFile) := do
  let files ← linkAll {} descriptors
  if !stack.fits (readable descriptors files) then throw (.broken .stack)
  if let some fault := descriptors.findSome? (·.path.fault?) then throw (.broken (.notText fault))
  return files.map fun file => { file with generate := .text file.name ∈ wanted }

/-- The files of a set that no file of the set depends on. -/
def topLevelNames (descriptors : List FileDescriptor) : List Raw :=
  let imported := descriptors.flatMap (·.dependencies)
  (descriptors.map (·.path)).filter (· ∉ imported)

/-- Loads a set of files; without names, output is wanted for the files that no other depends on. -/
def loadSet (descriptors : List FileDescriptor) (names : Option (List String))
    (stack : Stack := none) : Except LoadError (List SchemaFile) :=
  match names with
  | none => loadFiles descriptors (topLevelNames descriptors) stack
  | some names =>
    match names.filter (Raw.text · ∉ descriptors.map (·.path)) with
    | [] => loadFiles descriptors (names.map .text) stack
    | missing => .error (.unknownFiles missing)

end RpcBindings.Schema
