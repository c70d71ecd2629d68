import RpcBindings.Schema.Descriptor
import RpcBindings.Schema.LinkError
import RpcBindings.Schema.Symbol

/-! What surrounds a declaration: its file with the dialect it is written in, the features in force
and the scope that names are looked up in. -/
namespace RpcBindings.Schema

inductive Dialect where
  | proto2 | proto3 | editions
  deriving DecidableEq, Repr

/-- The dialect with a name; a file that names none is in the oldest one. -/
def Dialect.ofName? : Option String → Option Dialect
  | none | some "proto2" => some proto2
  | some "proto3" => some proto3
  | some "editions" => some editions
  | some _ => none

/-- The edition that a file of a dialect belongs to. -/
def Dialect.edition (d : Dialect) (named : Option Nat) : Nat :=
  match d with
  | proto2 => earliestEdition
  | proto3 => secondEdition
  | editions => named.getD 0

structure Context where
  file : String
  package : String
  dialect : Dialect
  edition : Nat
  features : Features
  scope : String
  /-- The declaration belongs to the entries of a map. -/
  inMapEntry : Bool := false

namespace Context

/-- The surroundings under the options of a declaration. Only editions have features to change. -/
def under (c : Context) (options : Option DeclOptions) : Context :=
  match options.bind (·.features), c.dialect with
  | some own, .editions => { c with features := own.inside c.features }
  | _, _ => c

/-- The surroundings of what is declared inside a message. -/
def inside (c : Context) (m : MessageParts) : Context :=
  { c.under m.options with scope := qualify c.scope m.title, inMapEntry := m.isMapEntry }

/-- The surroundings of a field among the oneofs of its message: the features of its oneof hold, and
then its own. -/
def ofField (c : Context) (oneofs : List OneofDescriptor) (f : FieldDescriptor) : Context :=
  let oneof := f.oneofIndex.bind fun index => if 0 ≤ index then oneofs[index.toNat]? else none
  (c.under (oneof.bind (·.options))).under f.options

def checkFeatures (c : Context) (options : Option DeclOptions) : Except LinkError Unit :=
  if c.dialect ≠ .editions ∧ (options.bind (·.features)).isSome then
    .error .featuresOutsideEditions
  else .ok ()

end Context

/-- The surroundings of the declarations of a file. -/
def FileDescriptor.context (f : FileDescriptor) (dialect : Dialect) : Context :=
  let package := f.package.getD ""
  let edition := dialect.edition f.edition
  let base : Context := {
    file := f.path.shown
    package := package
    dialect := dialect
    edition := edition
    features := .ofEdition edition
    scope := package }
  base.under f.options

/-! ### Declarations -/

def EnumDescriptor.decl (e : EnumDescriptor) (c : Context) : EnumDecl where
  name := e.title
  fullName := qualify c.scope e.title
  file := c.file
  package := c.package
  values := e.values.map fun v => ⟨v.title, v.number.getD 0⟩

def MessageParts.ref (m : MessageParts) (c : Context) : MessageRef where
  name := m.title
  fullName := qualify c.scope m.title
  file := c.file
  package := c.package

/-- The first and the last bound of a range; a missing one is zero. -/
def RangeDescriptor.bounds (r : RangeDescriptor) : Int × Int := (r.first.getD 0, r.last.getD 0)

def MessageParts.symbol (m : MessageParts) (c : Context) : MessageSymbol where
  ref := m.ref c
  isMapEntry := m.isMapEntry
  extensionRanges := m.extensionRanges.map (·.bounds)

/-- The cardinality of a field in its surroundings. -/
def FieldDescriptor.cardinality (f : FieldDescriptor) (c : Context) : Cardinality :=
  match (f.label.bind Cardinality.ofNumber?).getD .optional with
  | .optional => if c.features.requiresFields then .required else .optional
  | other => other

end RpcBindings.Schema
