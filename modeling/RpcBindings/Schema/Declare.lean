import RpcBindings.Schema.Context

/-! Declaring: the names that a file declares join those declared before it, one declaration after
the other, and each declaration is checked by itself. What names refer to is not looked at yet,
except by the methods of services, which come last. -/
namespace RpcBindings.Schema

open Text (Raw)

/-- The greatest number of a field. -/
def greatestField : Int := 536870911

/-- A number as its 32 bits without sign. -/
def unsigned32 (n : Int) : Nat := (n % 0x100000000).toNat

/-! ### Enums -/

/-- An enum has constants; one that is open starts with zero. -/
def EnumDescriptor.checkStart (e : EnumDescriptor) (c : Context) : Except LinkError Unit :=
  let fullName := qualify c.scope e.title
  match e.values with
  | [] => .error (.emptyEnum fullName)
  | first :: _ =>
    if !(c.under e.options).features.closesEnums && first.number.getD 0 != 0 then
      .error (.openEnumStart fullName)
    else .ok ()

/-- Both bounds of a range that an enum reserves belong to it. -/
def RangeDescriptor.checkReservedByEnum (r : RangeDescriptor) (fullName : String) :
    Except LinkError Unit :=
  let (first, last) := r.bounds
  if last < first then .error (.reservedRange first last "enum" fullName) else .ok ()

/-- Declares an enum and its constants, all in the scope that holds the enum. -/
def EnumDescriptor.declare (e : EnumDescriptor) (c : Context) (table : SymbolTable) :
    Except LinkError SymbolTable := do
  c.checkFeatures e.options
  let table ← table.declare c.scope e.title (.enum (e.decl c))
  let table ← e.values.foldlM (fun table v => do
    c.checkFeatures v.options
    table.declare c.scope v.title .other) table
  e.checkStart c
  e.reservedRanges.forM (·.checkReservedByEnum (qualify c.scope e.title))
  return table

/-! ### Fields -/

/-- The name of a field in JSON documents if none is given: without underscores, the letter after
each of them in uppercase. -/
def defaultJsonName : List Char → List Char
  | [] => []
  | '_' :: c :: rest =>
    if c = '_' then defaultJsonName (c :: rest) else c.toUpper :: defaultJsonName rest
  | '_' :: [] => []
  | c :: rest => c :: defaultJsonName rest

def FieldDescriptor.json (f : FieldDescriptor) : Raw :=
  match f.jsonName with
  | some name => name.beforeNul
  | none => .text (String.ofList (defaultJsonName f.title.toList))

/-- Whether features of a field follow from the rest of it, so that it needs no edition. -/
def FieldDescriptor.infersFeatures (f : FieldDescriptor) (c : Context) : Bool :=
  c.dialect != .editions && (f.label == some 2 || f.type == some Kind.group.number ||
    (c.dialect == .proto3 && f.isSynthetic == some true))

/-- A type is named if and only if the field holds what is declared under a name. -/
def FieldDescriptor.checkTypeName (f : FieldDescriptor) (field : String) :
    Except LinkError Unit :=
  match f.type.bind Kind.ofNumber? with
  | none => .ok ()
  | some kind =>
    let named := kind = .group ∨ kind = .message ∨ kind = .enum
    if named ∧ f.typeName.isNone then .error (.typeNameRequired kind.number field)
    else if ¬named ∧ f.typeName.isSome then .error (.typeNameForbidden kind.number field)
    else .ok ()

/-- The place of a field in a oneof of its message, after the fields `before` it. -/
def FieldDescriptor.checkOneof (f : FieldDescriptor) (field : String)
    (oneofs : Option (List OneofDescriptor)) (before : List FieldDescriptor) :
    Except LinkError Unit :=
  match f.oneofIndex, oneofs with
  | none, _ => .ok ()
  | some _, none => .error (.oneofOutsideMessage field)
  | some index, some oneofs =>
    let members := before.filter fun g => g.oneofIndex == some index
    if index < 0 ∨ oneofs.length ≤ index then .error (.oneofOutOfRange field)
    else if members.any (·.index == f.index) then .error (.oneofNumberTwice f.index)
    else if members.any (·.title == f.title) then .error (.oneofNameTwice f.title)
    else .ok ()

/-- The rules for a field or an extension by itself. -/
def FieldDescriptor.check (f : FieldDescriptor) (c : Context)
    (oneofs : Option (List OneofDescriptor)) (before : List FieldDescriptor) :
    Except LinkError Unit := do
  let field := qualify c.scope f.title
  checkName f.title
  if c.dialect = .proto3 ∧ f.label = some 2 then throw (.requiredField field)
  f.checkOneof field oneofs before
  unless f.infersFeatures c do c.checkFeatures f.options
  f.checkTypeName field
  if f.oneofIndex.isSome ∧ f.cardinality (c.ofField (oneofs.getD []) f) ≠ .optional then
    throw (.oneofCardinality field)

/-- The place of a field in its message, after the fields `before` it: names, numbers and names in
JSON documents are distinct. -/
def FieldDescriptor.checkPlace (f : FieldDescriptor) (c : Context) (m : MessageParts)
    (before : List FieldDescriptor) : Except LinkError Unit := do
  if f.oneofIndex.isNone ∧ f.isSynthetic = some true then
    throw (.optionalOutsideOneof (qualify c.scope f.title))
  if f.index < 1 ∨ greatestField < f.index then throw (.fieldNumber (unsigned32 f.index))
  let names := m.oneofs.map (·.title) ++ before.map (·.title)
  if f.title ∈ names then throw (.duplicateFieldName f.title)
  unless m.options.any (·.sharesJsonNames) do
    if c.features.allowsJson ∧ f.json ≠ .text f.title ∧ f.json ∈ names.map Raw.text then
      throw (.jsonNameTaken f.title f.json.shown)
    if f.json ∈ before.map (·.json) then throw (.duplicateJsonName f.json.shown)
  if f.index ∈ before.map (·.index) then throw (.duplicateFieldNumber f.index)

/-- The rules for the fields of a message, one after the other. -/
def checkFields (c : Context) (m : MessageParts) (before : List FieldDescriptor) :
    List FieldDescriptor → Except LinkError Unit
  | [] => .ok ()
  | f :: rest => do
    f.check c (some m.oneofs) before
    f.checkPlace c m before
    checkFields c m (f :: before) rest

/-- Declares an extension inside a message, or outside of all. -/
def FieldDescriptor.declareExtension (f : FieldDescriptor) (c : Context)
    (m : Option MessageParts) (table : SymbolTable) : Except LinkError SymbolTable := do
  f.check c (m.map (·.oneofs)) ((m.map (·.fields)).getD [])
  if f.oneofIndex.isSome then throw (.oneofOfExtension (qualify c.scope f.title))
  table.declare c.scope f.title .other

/-! ### Messages -/

def checkOneofs (c : Context) (before : List String) : List OneofDescriptor → Except LinkError Unit
  | [] => .ok ()
  | oneof :: rest => do
    checkName oneof.title
    c.checkFeatures oneof.options
    if oneof.title ∈ before then throw (.duplicateOneof (qualify c.scope oneof.title))
    checkOneofs c (oneof.title :: before) rest

/-- A oneof that stands for the presence of an optional field holds that field alone, and comes
after all that do not. -/
def checkSynthetic (fields : List FieldDescriptor) (index : Nat) (afterSynthetic : Bool) :
    List OneofDescriptor → Except LinkError Unit
  | [] => .ok ()
  | oneof :: rest => do
    let members := fields.filter fun f => f.oneofIndex == some (index : Int)
    let synthetic := members.any (·.isSynthetic == some true)
    if synthetic && members.length != 1 then
      throw (.crowdedSyntheticOneof members.length oneof.title)
    if !synthetic && afterSynthetic then throw (.syntheticOneofFirst oneof.title)
    checkSynthetic fields (index + 1) synthetic rest

/-- The numbers that extensions of a message may have. -/
def MessageParts.checkExtensionRange (m : MessageParts) (c : Context) (r : RangeDescriptor) :
    Except LinkError Unit := do
  let (first, last) := r.bounds
  let limit := if m.options.any (·.isMessageSet) then 2147483647 else greatestField + 1
  if first < 1 ∨ last ≤ first ∨ limit < last then throw (.extensionRange first last c.scope)
  c.checkFeatures r.options

/-- The numbers that a message reserves; the last bound does not belong to them. -/
def MessageParts.checkReservedRange (m : MessageParts) (c : Context) (r : RangeDescriptor) :
    Except LinkError Unit :=
  let (first, last) := r.bounds
  let limit := if m.options.any (·.isMessageSet) then 2147483647 else greatestField + 1
  if first < 1 ∨ last ≤ first ∨ limit < last then
    .error (.reservedRange first last "message" c.scope)
  else .ok ()

/-- The rules for a message by itself, in the surroundings of what it holds. -/
def MessageParts.check (m : MessageParts) (c : Context) : Except LinkError Unit := do
  checkOneofs c [] m.oneofs
  checkFields c m [] m.fields
  if m.options.any (·.isMessageSet) ∧ m.fields ≠ [] then throw (.messageSetWithFields c.scope)
  m.extensionRanges.forM (m.checkExtensionRange c)
  m.reservedRanges.forM (m.checkReservedRange c)
  checkSynthetic m.fields 0 false m.oneofs

mutual

def MessageDescriptor.declare (c : Context) (table : SymbolTable) :
    MessageDescriptor → Except LinkError SymbolTable
  | ⟨m, messages⟩ => do
    let table ← table.declare c.scope m.title (.message (m.symbol c))
    c.checkFeatures m.options
    let inner := c.inside m
    m.check inner
    let table ← m.enums.foldlM (fun table e => e.declare inner table) table
    let table ← m.extensions.foldlM (fun table f => f.declareExtension inner (some m) table) table
    declareMessages inner table messages

def declareMessages (c : Context) (table : SymbolTable) :
    List MessageDescriptor → Except LinkError SymbolTable
  | [] => .ok table
  | m :: rest => do declareMessages c (← m.declare c table) rest

end

/-! ### Services -/

def MethodDescriptor.link (m : MethodDescriptor) (table : SymbolTable) (c : Context)
    (service : String) : Except LinkError MethodDecl := do
  c.checkFeatures m.options
  checkName m.title
  let scope := qualify service m.title
  let input ← resolveMessage table scope scope (m.input.getD "")
  let output ← resolveMessage table scope scope (m.output.getD "")
  return {
    name := m.title
    input := input.ref
    output := output.ref
    serverStreaming := m.serverStreaming.getD false }

/-- Declares a service and resolves the messages of its methods. -/
def ServiceDescriptor.declare (s : ServiceDescriptor) (c : Context) (table : SymbolTable) :
    Except LinkError (ServiceDecl × SymbolTable) := do
  let fullName := qualify c.scope s.title
  let table ← table.declare c.scope s.title .other
  let methods ← s.methods.mapM (·.link table c fullName)
  c.checkFeatures s.options
  return (⟨s.title, fullName, methods⟩, table)

def declareServices (c : Context) (table : SymbolTable) :
    List ServiceDescriptor → Except LinkError (List ServiceDecl × SymbolTable)
  | [] => .ok ([], table)
  | s :: rest => do
    let (service, table) ← s.declare c table
    let (services, table) ← declareServices c table rest
    return (service :: services, table)

end RpcBindings.Schema
