import RpcBindings.Schema.Features
import RpcBindings.Wire.Content

/-! Descriptors: schema files as a compiler hands them over, before names are resolved. A part that
may be missing is an option, since a missing part and an empty one are told apart. Names that have
to be identifiers are kept as far as they can be read; texts that need not be readable are kept as
they are. -/
namespace RpcBindings.Schema

open Text (Raw)

/-- The options of a declaration: those that linking asks for, and all of them as they are. -/
structure DeclOptions where
  features : Option Features := none
  isMapEntry : Bool := false
  isMessageSet : Bool := false
  /-- Fields may share a name in JSON documents. -/
  sharesJsonNames : Bool := false
  content : Wire.Content
  deriving DecidableEq, Repr

/-- A field of a message, or an extension if it names the message it extends. -/
structure FieldDescriptor where
  name : Option String := none
  extendee : Option String := none
  number : Option Int := none
  label : Option Nat := none
  type : Option Nat := none
  typeName : Option String := none
  defaultValue : Option Raw := none
  oneofIndex : Option Int := none
  jsonName : Option Raw := none
  isSynthetic : Option Bool := none
  options : Option DeclOptions := none
  /-- There is more than linking keeps. -/
  hasMore : Bool := false
  deriving DecidableEq, Repr

/-- A oneof: fields of which at most one is set. -/
structure OneofDescriptor where
  name : Option String := none
  options : Option DeclOptions := none
  hasMore : Bool := false
  deriving DecidableEq, Repr

structure RangeDescriptor where
  first : Option Int := none
  last : Option Int := none
  options : Option DeclOptions := none
  hasMore : Bool := false
  deriving DecidableEq, Repr

structure EnumValueDescriptor where
  name : Option String := none
  number : Option Int := none
  options : Option DeclOptions := none
  hasMore : Bool := false
  deriving DecidableEq, Repr

structure EnumDescriptor where
  name : Option String := none
  values : List EnumValueDescriptor := []
  reservedRanges : List RangeDescriptor := []
  reservedNames : List Raw := []
  options : Option DeclOptions := none
  hasMore : Bool := false
  deriving DecidableEq, Repr

/-- All of a message but the messages declared inside it. -/
structure MessageParts where
  name : Option String := none
  fields : List FieldDescriptor := []
  extensions : List FieldDescriptor := []
  enums : List EnumDescriptor := []
  extensionRanges : List RangeDescriptor := []
  oneofs : List OneofDescriptor := []
  options : Option DeclOptions := none
  reservedRanges : List RangeDescriptor := []
  reservedNames : List Raw := []
  hasMore : Bool := false
  deriving DecidableEq, Repr

structure MessageDescriptor extends MessageParts where
  messages : List MessageDescriptor := []

/-- A method; its messages are named as the schema writes them. -/
structure MethodDescriptor where
  name : Option String := none
  input : Option String := none
  output : Option String := none
  clientStreaming : Option Bool := none
  serverStreaming : Option Bool := none
  options : Option DeclOptions := none
  hasMore : Bool := false
  deriving DecidableEq, Repr

structure ServiceDescriptor where
  name : Option String := none
  methods : List MethodDescriptor := []
  options : Option DeclOptions := none
  hasMore : Bool := false
  deriving DecidableEq, Repr

structure FileDescriptor where
  name : Option Raw := none
  package : Option String := none
  dependencies : List Raw := []
  publicDependencies : List Int := []
  weakDependencies : List Int := []
  optionDependencies : List Raw := []
  messages : List MessageDescriptor := []
  enums : List EnumDescriptor := []
  services : List ServiceDescriptor := []
  extensions : List FieldDescriptor := []
  options : Option DeclOptions := none
  dialect : Option String := none
  edition : Option Nat := none
  hasMore : Bool := false
  /-- The paths to the parts that are required and missing. -/
  missing : List String := []

def FileDescriptor.path (f : FileDescriptor) : Raw := f.name.getD ""

def OneofDescriptor.title (o : OneofDescriptor) : String := o.name.getD ""

def FieldDescriptor.title (f : FieldDescriptor) : String := f.name.getD ""

def EnumDescriptor.title (e : EnumDescriptor) : String := e.name.getD ""

def EnumValueDescriptor.title (v : EnumValueDescriptor) : String := v.name.getD ""

def MessageParts.title (m : MessageParts) : String := m.name.getD ""

def MethodDescriptor.title (m : MethodDescriptor) : String := m.name.getD ""

def ServiceDescriptor.title (s : ServiceDescriptor) : String := s.name.getD ""

def FieldDescriptor.index (f : FieldDescriptor) : Int := f.number.getD 0

/-- The message of a map: its two fields are a key and a value. -/
def MessageParts.isMapEntry (m : MessageParts) : Bool := m.options.any (·.isMapEntry)

mutual

/-- The extensions declared in a message and in those inside it. -/
def MessageDescriptor.allExtensions : MessageDescriptor → List FieldDescriptor
  | ⟨m, messages⟩ => m.extensions ++ messagesExtensions messages

def messagesExtensions : List MessageDescriptor → List FieldDescriptor
  | [] => []
  | m :: rest => m.allExtensions ++ messagesExtensions rest

end

/-- What the extensions of a file extend, and their numbers. -/
def FileDescriptor.extensionNumbers (f : FileDescriptor) : List (Option String × Int) :=
  (f.extensions ++ messagesExtensions f.messages).map fun x => (x.extendee, x.index)

mutual

def MessageDescriptor.same : MessageDescriptor → MessageDescriptor → Bool
  | ⟨parts, messages⟩, ⟨otherParts, others⟩ => parts == otherParts && sameMessages messages others

def sameMessages : List MessageDescriptor → List MessageDescriptor → Bool
  | [], [] => true
  | m :: ms, n :: ns => m.same n && sameMessages ms ns
  | _, _ => false

end

def FileDescriptor.same (f g : FileDescriptor) : Bool :=
  f.name == g.name && f.package == g.package && f.dependencies == g.dependencies &&
    f.publicDependencies == g.publicDependencies && f.weakDependencies == g.weakDependencies &&
    f.optionDependencies == g.optionDependencies && sameMessages f.messages g.messages &&
    f.enums == g.enums && f.services == g.services && f.extensions == g.extensions &&
    f.options == g.options && f.dialect == g.dialect && f.edition == g.edition &&
    f.hasMore == g.hasMore

end RpcBindings.Schema
