import RpcBindings.Schema.Reference

/-! Descriptors written out: as a linked file reads with nothing left to defaults and to the scope
of names. What linking does not keep is gone. A file may join its pool twice only in this form. -/
namespace RpcBindings.Schema

/-- A name written as the full name that it stands for. -/
def fullyNamed (table : SymbolTable) (scope : String) (name : String) : String :=
  match resolve? table scope name with
  | some (fullName, _) => "." ++ fullName
  | none => name

/-- A flag that is written only if it is set. -/
def onlyTrue (flag : Option Bool) : Option Bool := if flag = some true then some true else none

/-- The label of a field; named editions leave required fields to their features. -/
def writtenLabel (c : Context) (cardinality : Cardinality) : Nat :=
  match cardinality with
  | .optional => 1
  | .required => if firstNamedEdition ≤ c.edition then 1 else 2
  | .repeated => 3

/-- The kind of a field; named editions leave delimited messages to their features. -/
def writtenKind (c : Context) (kind : Kind) : Kind :=
  if kind = .group ∧ firstNamedEdition ≤ c.edition then .message else kind

/-- A field or an extension written out, in its own surroundings. -/
def FieldDescriptor.writtenOut (f : FieldDescriptor) (table : SymbolTable) (c : Context) :
    FieldDescriptor :=
  match f.resolveType table c with
  | .error _ => f
  | .ok resolved =>
    { name := some f.title
      extendee := f.extendee.map (fullyNamed table c.scope)
      number := some f.index
      label := some (writtenLabel c (f.cardinality c))
      type := some (writtenKind c resolved.kind).number
      typeName := resolved.fullName.map ("." ++ ·)
      defaultValue := f.defaultValue.bind fun literal =>
        (settledDefault resolved.kind resolved.enum literal).toOption
      oneofIndex := f.oneofIndex
      jsonName := f.jsonName.map (·.beforeNul)
      isSynthetic := onlyTrue f.isSynthetic
      options := f.options }

def OneofDescriptor.writtenOut (o : OneofDescriptor) : OneofDescriptor :=
  { name := some o.title, options := o.options }

def RangeDescriptor.writtenOut (r : RangeDescriptor) : RangeDescriptor where
  first := some r.bounds.1
  last := some r.bounds.2
  options := r.options

/-- An enum with every name and number written out. -/
def EnumDescriptor.writtenOut (e : EnumDescriptor) : EnumDescriptor where
  name := some e.title
  values := e.values.map fun v =>
    { name := some v.title, number := some (v.number.getD 0), options := v.options }
  reservedRanges := e.reservedRanges.map (·.writtenOut)
  reservedNames := e.reservedNames
  options := e.options

/-- All of a message but the messages inside it written out. -/
def MessageParts.writtenOut (m : MessageParts) (table : SymbolTable) (c : Context) :
    MessageParts where
  name := some m.title
  fields := m.fields.map fun f => f.writtenOut table (c.ofField m.oneofs f)
  extensions := m.extensions.map fun f => f.writtenOut table (c.under f.options)
  enums := m.enums.map (·.writtenOut)
  extensionRanges := m.extensionRanges.map (·.writtenOut)
  oneofs := m.oneofs.map (·.writtenOut)
  options := m.options
  reservedRanges := m.reservedRanges.map (·.writtenOut)
  reservedNames := m.reservedNames

mutual

/-- A message with everything inside it written out. -/
def MessageDescriptor.writtenOut (table : SymbolTable) (c : Context) :
    MessageDescriptor → MessageDescriptor
  | ⟨m, messages⟩ =>
    let inner := c.inside m
    ⟨m.writtenOut table inner, messagesWrittenOut table inner messages⟩

def messagesWrittenOut (table : SymbolTable) (c : Context) :
    List MessageDescriptor → List MessageDescriptor
  | [] => []
  | m :: rest => m.writtenOut table c :: messagesWrittenOut table c rest

end

def ServiceDescriptor.writtenOut (s : ServiceDescriptor) (table : SymbolTable) (c : Context) :
    ServiceDescriptor where
  name := some s.title
  methods := s.methods.map fun m =>
    let scope := qualify (qualify c.scope s.title) m.title
    { name := some m.title
      input := some (fullyNamed table scope (m.input.getD ""))
      output := some (fullyNamed table scope (m.output.getD ""))
      clientStreaming := onlyTrue m.clientStreaming
      serverStreaming := onlyTrue m.serverStreaming
      options := m.options }
  options := s.options

def FileDescriptor.writtenOut (f : FileDescriptor) (table : SymbolTable) (c : Context) :
    FileDescriptor where
  name := some f.path
  package := if c.package = "" then none else some c.package
  dependencies := f.dependencies
  publicDependencies := f.publicDependencies
  weakDependencies := f.weakDependencies
  optionDependencies := f.optionDependencies
  messages := messagesWrittenOut table c f.messages
  enums := f.enums.map (·.writtenOut)
  services := f.services.map (·.writtenOut table c)
  extensions := f.extensions.map fun x => x.writtenOut table (c.under x.options)
  options := f.options
  dialect := if c.dialect = .proto2 then none else f.dialect
  edition := if c.dialect = .editions then some c.edition else none

end RpcBindings.Schema
