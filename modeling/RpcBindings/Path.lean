import RpcBindings.Text.Quoted
import RpcBindings.Text.Split

/-! File paths with slashes. Empty components and single dots have no meaning and vanish when a path
is read; a pair of dots stays, since what it leads to depends on the disk. -/
namespace RpcBindings

/-- A path: its root, which is empty for a relative path, and its components. -/
structure Path where
  root : String
  parts : List String
  deriving DecidableEq, Repr

namespace Path

/-- The slashes that count as the root: exactly two stay two, any other number is one. -/
def rootOf (s : List Char) : String :=
  match (s.takeWhile (· == '/')).length with
  | 0 => ""
  | 2 => "//"
  | _ => "/"

def isMeaningful (part : List Char) : Bool := part != [] && part != ['.']

def components (s : List Char) : List String :=
  ((Text.split '/' s).filter isMeaningful).map String.ofList

def ofString (s : String) : Path := ⟨rootOf s.toList, components s.toList⟩

/-- The path as text; the empty path is a single dot. -/
def toString (p : Path) : String :=
  match p.root, p.parts with
  | "", [] => "."
  | root, parts => root ++ String.intercalate "/" parts

instance : ToString Path := ⟨Path.toString⟩

/-- The last component. -/
def name (p : Path) : String := p.parts.getLastD ""

/-- The path without its last component. -/
def parent (p : Path) : Path := { p with parts := p.parts.dropLast }

/-- A path seen from another one; a rooted path stands for itself. -/
def join (base p : Path) : Path :=
  if p.root = "" then { base with parts := base.parts ++ p.parts } else p

/-- How many components a path has, its root being one. -/
def depth (p : Path) : Nat := p.parts.length + if p.root = "" then 0 else 1

/-- What follows the last dot of the name, with that dot, if the dot is neither first nor last. -/
def suffix (p : Path) : String :=
  let reversed := p.name.toList.reverse
  let ending := reversed.takeWhile (· != '.')
  let stem := (reversed.drop (ending.length + 1))
  if ending.isEmpty || stem.isEmpty then "" else String.ofList ('.' :: ending.reverse)

/-- The text before the last slash, without slashes at its end unless it holds nothing else. -/
def directoryOf (s : List Char) : List Char :=
  let head := (s.reverse.dropWhile (· != '/')).reverse
  if head.all (· == '/') then head else (head.reverse.dropWhile (· == '/')).reverse

/-- A place in the file tree: how many directories above the working directory it starts from, and
the names from there on. A rooted place starts from the root. -/
structure Place where
  rooted : Bool
  above : Nat
  names : List String
  deriving DecidableEq, Repr

/-- Moves by one component; above the root there is only the root. -/
def Place.step (place : Place) (part : String) : Place :=
  if part = ".." then
    match place.names with
    | [] => if place.rooted then place else { place with above := place.above + 1 }
    | _ :: _ => { place with names := place.names.dropLast }
  else { place with names := place.names ++ [part] }

/-- The place that a path denotes if every name on its way is a directory. -/
def place (p : Path) : Place := p.parts.foldl Place.step ⟨p.root != "", 0, []⟩

/-- How many names two lists share from their start on. -/
def sharedLength : List String → List String → Nat
  | a :: as, b :: bs => if a = b then sharedLength as bs + 1 else 0
  | _, _ => 0

/-- The components that lead from one place to another: up to the last directory they share, then
down. The names of the directories above the working directory play no part. -/
def Place.route (start target : Place) : List String :=
  let ups (n : Nat) := List.replicate n ".."
  if start.rooted = target.rooted ∧ start.above = target.above then
    let shared := sharedLength start.names target.names
    ups (start.names.length - shared) ++ target.names.drop shared
  else ups (target.above - start.above + start.names.length) ++ target.names

/-- The relative path from a directory to a target, both read from the working directory. -/
def relative (target start : String) : String :=
  match (ofString start).place.route (ofString target).place with
  | [] => "."
  | parts => String.intercalate "/" parts

end Path

end RpcBindings
