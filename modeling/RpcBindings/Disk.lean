import RpcBindings.Path
import RpcBindings.Text.Order

/-! A tree of files and directories with a working directory in it. Paths are followed component by
component, as the tree stands, so that a pair of dots goes up from where the path has led. -/
namespace RpcBindings

inductive DiskError where
  | notFound
  | occupied
  | notDirectory
  | isDirectory
  | nameTooLong
  /-- A path with the character of code zero in it. -/
  | nulInPath
  deriving DecidableEq, Repr

namespace DiskError

def code : DiskError → Nat
  | notFound => 2
  | occupied => 17
  | notDirectory => 20
  | isDirectory => 21
  | nameTooLong => 36
  | nulInPath => 0

def text : DiskError → String
  | notFound => "No such file or directory"
  | occupied => "File exists"
  | notDirectory => "Not a directory"
  | isDirectory => "Is a directory"
  | nameTooLong => "File name too long"
  | nulInPath => "embedded null byte"

def isAbsence : DiskError → Bool
  | notFound | notDirectory | nulInPath => true
  | occupied | isDirectory | nameTooLong => false

end DiskError

/-- A refused operation: the error and the path it happened on. -/
structure DiskFault where
  error : DiskError
  path : Path
  deriving DecidableEq, Repr

/-- The refusal in words; a path that is none has no number and is not repeated. -/
def DiskFault.message (f : DiskFault) : String :=
  if f.error = .nulInPath then f.error.text
  else s!"[Errno {f.error.code}] {f.error.text}: " ++ Text.quote f.path.toString

inductive Node where
  | file (content : ByteArray)
  | directory

/-- The tree: what stands at the places below the root, each given by the names that lead to it. -/
structure Disk where
  /-- The place that relative paths start from. -/
  working : List String
  entries : List (List String × Node)

namespace Disk

/-- A disk that holds nothing but an empty working directory. -/
def empty : Disk := ⟨["work"], [(["work"], .directory)]⟩

/-- What stands at a place; the root is a directory. -/
def node? (d : Disk) (place : List String) : Option Node :=
  if place.isEmpty then some .directory else d.entries.lookup place

def longestName : Nat := 255

def longestPath : Nat := 4095

/-- Follows components from a place on. Every place that is left must be a directory; the last one
reached need not exist. -/
def follow (d : Disk) (place : List String) : List String → Except DiskError (List String)
  | [] => .ok place
  | part :: rest =>
    match d.node? place with
    | none => .error .notFound
    | some (.file _) => .error .notDirectory
    | some .directory =>
      if part = ".." then d.follow place.dropLast rest
      else if longestName < part.utf8ByteSize then .error .nameTooLong
      else d.follow (place ++ [part]) rest

def locate (d : Disk) (p : Path) : Except DiskError (List String) :=
  let text := p.toString
  if text.contains '\x00' then .error .nulInPath
  else if longestPath < text.utf8ByteSize then .error .nameTooLong
  else d.follow (if p.root = "" then d.working else []) p.parts

def put (d : Disk) (place : List String) (node : Node) : Disk :=
  { d with entries := (place, node) :: d.entries.filter fun entry => entry.1 != place }

def find (d : Disk) (p : Path) : Except DiskError Node := do
  match d.node? (← d.locate p) with
  | some node => .ok node
  | none => .error .notFound

def holds (d : Disk) (p : Path) : Bool := (d.find p).isOk

def isDirectory (d : Disk) (p : Path) : Bool :=
  match d.find p with
  | .ok .directory => true
  | _ => false

/-- What a look at a path shows: the content of a file, or why there is none. -/
abbrev Sight := Except DiskError ByteArray

def look (d : Disk) (p : Path) : Sight :=
  match d.find p with
  | .ok (.file content) => .ok content
  | .ok .directory => .error .isDirectory
  | .error e => .error e

def read (d : Disk) (p : Path) : Except DiskFault ByteArray :=
  (d.look p).mapError fun error => ⟨error, p⟩

/-- Writes a file, new or over an old one, into a directory that exists. -/
def write (d : Disk) (p : Path) (content : ByteArray) : Except DiskFault Disk :=
  match d.locate p with
  | .error e => .error ⟨e, p⟩
  | .ok place =>
    match d.node? place, d.node? place.dropLast with
    | some .directory, _ => .error ⟨.isDirectory, p⟩
    | some (.file _), _ | none, some .directory => .ok (d.put place (.file content))
    | none, some (.file _) => .error ⟨.notDirectory, p⟩
    | none, none => .error ⟨.notFound, p⟩

def remove (d : Disk) (p : Path) : Except DiskFault Disk :=
  match d.locate p with
  | .error e => .error ⟨e, p⟩
  | .ok place =>
    match d.node? place with
    | none => .error ⟨.notFound, p⟩
    | some .directory => .error ⟨.isDirectory, p⟩
    | some (.file _) => .ok { d with entries := d.entries.filter fun entry => entry.1 != place }

/-- Makes one directory inside a directory that exists. -/
def makeDirectory (d : Disk) (p : Path) : Except DiskFault Disk :=
  match d.locate p with
  | .error e => .error ⟨e, p⟩
  | .ok place =>
    match d.node? place with
    | some _ => .error ⟨.occupied, p⟩
    | none => .ok (d.put place .directory)

/-- Makes a directory unless it is there. -/
def ensureDirectory (d : Disk) (p : Path) : Except DiskFault Disk :=
  match d.makeDirectory p with
  | .ok made => .ok made
  | .error fault => if d.isDirectory p then .ok d else .error fault

/-- Makes the directories that a row of components leads through, the missing ones above it first;
`later` is the row in reverse. The second part of the answer is the disk with all that was made. -/
def makeDirectories (d : Disk) (root : String) :
    (later : List String) → Except DiskFault Unit × Disk
  | [] =>
    match d.ensureDirectory ⟨root, []⟩ with
    | .ok made => (.ok (), made)
    | .error fault => (.error fault, d)
  | part :: above =>
    let here : Path := ⟨root, (part :: above).reverse⟩
    match d.ensureDirectory here with
    | .ok made => (.ok (), made)
    | .error ⟨.notFound, _⟩ =>
      match d.makeDirectories root above with
      | (.error fault, made) => (.error fault, made)
      | (.ok (), made) =>
        match made.ensureDirectory here with
        | .ok made => (.ok (), made)
        | .error fault => (.error fault, made)
    | .error fault => (.error fault, d)

/-- Writes a file after making the directories above it. What was made stays, also on failure. -/
def store (d : Disk) (p : Path) (content : ByteArray) : Except DiskFault Unit × Disk :=
  match d.makeDirectories p.parent.root p.parent.parts.reverse with
  | (.error fault, made) => (.error fault, made)
  | (.ok (), made) =>
    match made.write p content with
    | .ok written => (.ok (), written)
    | .error fault => (.error fault, made)

/-- Writes files one after the other up to the first failure. -/
def storeAll (d : Disk) : List (Path × ByteArray) → Except DiskFault Unit × Disk
  | [] => (.ok (), d)
  | (p, content) :: rest =>
    match d.store p content with
    | (.ok (), stored) => stored.storeAll rest
    | failed => failed

/-- What a look into a directory shows: the names of the files in it, or why they cannot be listed. -/
inductive Listing where
  | names (files : List String)
  | refused (fault : DiskFault)
  deriving DecidableEq, Repr

/-- What lies directly at a place, by name. -/
def children (d : Disk) (place : List String) : List (String × Node) :=
  d.entries.filterMap fun (spot, node) =>
    if spot.dropLast = place then spot.getLast?.map (·, node) else none

/-- The files that lie directly in a directory, in the order of their code points. A path that leads
nowhere has none; one that is too long is refused, be it that of the directory or of what lies in it. -/
def list (d : Disk) (p : Path) : Listing :=
  match d.locate p with
  | .error .nameTooLong => .refused ⟨.nameTooLong, p⟩
  | .error _ => .names []
  | .ok place =>
    let children := d.children place
    let paths := children.map fun (name, _) => p.join ⟨"", [name]⟩
    match paths.find? (longestPath < ·.toString.utf8ByteSize) with
    | some path => .refused ⟨.nameTooLong, path⟩
    | none => .names <| Text.sorted <| children.filterMap fun
      | (name, .file _) => some name
      | (_, .directory) => none

/-- Every file below the working directory, by its path from there. -/
def filesBelowWorking (d : Disk) : List (String × ByteArray) :=
  d.entries.filterMap fun
    | (spot, .file content) =>
      if d.working.isPrefixOf spot then
        some (String.intercalate "/" (spot.drop d.working.length), content)
      else none
    | (_, .directory) => none

end Disk

end RpcBindings
