import RpcBindings.Schema.Declare

/-! References: what the types of fields name, among all that is declared, and what follows from it
for defaults, extensions and maps. -/
namespace RpcBindings.Schema

/-- What a field holds, with the declaration that its type names. -/
structure Resolved where
  kind : Kind
  fullName : Option String
  enum : Option EnumDecl
  message : Option MessageSymbol

/-- What a field holds of a message that its type names. Messages are delimited if the features say
so, but never those of maps. -/
def Resolved.ofMessage (fullName : String) (m : MessageSymbol) (isGroup : Bool) (c : Context) :
    Resolved :=
  let delimited := c.features.delimitsMessages && !m.isMapEntry && !c.inMapEntry
  ⟨if isGroup || delimited then .group else .message, some fullName, none, some m⟩

/-- Finds what a field holds, in the surroundings of the field. -/
def FieldDescriptor.resolveType (f : FieldDescriptor) (table : SymbolTable) (c : Context) :
    Except LinkError Resolved := do
  let field := qualify c.scope f.title
  let kind? := f.type.bind Kind.ofNumber?
  match f.typeName with
  | none => return ⟨kind?.getD .double, none, none, none⟩
  | some name =>
    let (fullName, symbol) ← resolve table c.scope name
    match symbol, kind? with
    | .message _, some .enum => throw (.wrongKind field (beforeNul name) 2)
    | .message m, kind => return .ofMessage fullName m (kind = some .group) c
    | .enum _, some .group => throw (.wrongKind field (beforeNul name) 1)
    | .enum e, _ => return ⟨.enum, some fullName, some e, none⟩
    | .other, some .group => throw (.wrongKind field (beforeNul name) 1)
    | .other, some .enum => throw (.wrongKind field (beforeNul name) 2)
    | .other, _ => throw (.unresolvedField field)

/-- A default is a literal of what the field holds. -/
def FieldDescriptor.checkDefault (f : FieldDescriptor) (c : Context) (r : Resolved) :
    Except LinkError Unit :=
  let field := qualify c.scope f.title
  match f.defaultValue with
  | none => .ok ()
  | some literal =>
    if c.dialect = .proto3 then .error (.explicitDefault field)
    else if r.message.isSome then .error (.messageDefault field)
    else match settledDefault r.kind r.enum literal with
      | .ok _ => .ok ()
      | .error cause => .error (.badDefault cause literal.beforeNul.shown field r.kind.number)

/-- A map is no value of another map, and none of its entries is delimited. -/
def Resolved.checkMap (r : Resolved) (c : Context) : Except LinkError Unit :=
  if r.message.any (·.isMapEntry) ∧ (c.inMapEntry ∨ r.kind = .group) then
    .error (.misplacedMap c.scope)
  else .ok ()

/-- A field with its type resolved, among the oneofs of its message. -/
def FieldDescriptor.link (f : FieldDescriptor) (table : SymbolTable) (c : Context)
    (oneofs : List OneofDescriptor) : Except LinkError FieldDecl := do
  let c := c.ofField oneofs f
  let resolved ← f.resolveType table c
  f.checkDefault c resolved
  resolved.checkMap c
  return {
    name := f.title
    number := f.index
    kind := some resolved.kind
    cardinality := f.cardinality c
    enum := resolved.enum
    message := resolved.message.map (·.ref) }

/-- An extension extends a message, under a number that the message leaves to extensions. -/
def FieldDescriptor.checkExtension (f : FieldDescriptor) (table : SymbolTable) (c : Context) :
    Except LinkError Unit := do
  let c := c.under f.options
  let field := qualify c.scope f.title
  f.checkDefault c (← f.resolveType table c)
  let some extendee := f.extendee | throw (.noExtendee field)
  let m ← resolveMessage table c.scope field extendee
  unless m.extensionRanges.any fun r => r.1 ≤ f.index ∧ f.index < r.2 do
    throw (.outsideExtensionRanges (unsigned32 f.index) field m.ref.fullName)

/-- What a part of a map may hold: a key has to be whole, true or false, or a text. -/
def MapPart.allows (part : MapPart) (kind : Kind) : Bool :=
  match part with
  | .key => !([.double, .float, .message, .group, .bytes, .enum].contains kind)
  | .value => kind != .group

def FieldDecl.checkMapPart (f : FieldDecl) (part : MapPart) : Except LinkError Unit := do
  if f.isList then throw (.mapPartRepeated part)
  if let some kind := f.kind then
    unless part.allows kind do throw (.mapPartType part kind.number)

def checkMapEntry : List FieldDecl → Except LinkError Unit
  | [key, value] => do
    key.checkMapPart .key
    value.checkMapPart .value
  | _ => .error .mapShape

end RpcBindings.Schema
