import RpcBindings.Schema.Descriptor

/-! Descriptors out of the contents of messages. What linking does not keep leaves a mark only:
fields that the layout does not know, places in the source, and who may see a declaration. -/
namespace RpcBindings.Wire

open Schema

namespace Content

def name? (c : Content) (field : Nat) : Option String := (c.text? field).map (·.shown)

def choice? (c : Content) (field : Nat) : Option Nat := (c.number? field).map Int.toNat

def flag? (c : Content) (field : Nat) : Option Bool := (c.number? field).map (· != 0)

end Content

def featuresOf (c : Content) : Features where
  fieldPresence := c.choice? 1
  enumType := c.choice? 2
  messageEncoding := c.choice? 5
  jsonFormat := c.choice? 6

def optionsOf (features : Nat) (c : Content) : DeclOptions where
  features := (c.message? features).map featuresOf
  content := c

def messageOptionsOf (c : Content) : DeclOptions :=
  { optionsOf 12 c with
    isMapEntry := c.isSet 7
    isMessageSet := c.isSet 1
    sharesJsonNames := c.isSet 11 }

def fieldOf (c : Content) : FieldDescriptor where
  name := c.name? 1
  extendee := c.name? 2
  number := c.number? 3
  label := c.choice? 4
  type := c.choice? 5
  typeName := c.name? 6
  defaultValue := c.text? 7
  oneofIndex := c.number? 9
  jsonName := c.text? 10
  isSynthetic := c.flag? 17
  options := (c.message? 8).map (optionsOf 21)
  hasMore := c.hasStrange

def oneofOf (c : Content) : OneofDescriptor where
  name := c.name? 1
  options := (c.message? 2).map (optionsOf 1)
  hasMore := c.hasStrange

def rangeOf (c : Content) : RangeDescriptor where
  first := c.number? 1
  last := c.number? 2
  options := (c.message? 3).map (optionsOf 50)
  hasMore := c.hasStrange

def enumValueOf (c : Content) : EnumValueDescriptor where
  name := c.name? 1
  number := c.number? 2
  options := (c.message? 3).map (optionsOf 2)
  hasMore := c.hasStrange

def enumOf (c : Content) : EnumDescriptor where
  name := c.name? 1
  values := (c.messages 2).map enumValueOf
  reservedRanges := (c.messages 4).map rangeOf
  reservedNames := c.texts 5
  options := (c.message? 3).map (optionsOf 7)
  hasMore := c.hasStrange || c.has 6

/-- A message without the messages declared inside it. -/
def messagePartsOf (c : Content) : MessageParts where
  name := c.name? 1
  fields := (c.messages 2).map fieldOf
  extensions := (c.messages 6).map fieldOf
  enums := (c.messages 4).map enumOf
  extensionRanges := (c.messages 5).map rangeOf
  oneofs := (c.messages 8).map oneofOf
  options := (c.message? 7).map messageOptionsOf
  reservedRanges := (c.messages 9).map rangeOf
  reservedNames := c.texts 10
  hasMore := c.hasStrange || c.has 11

/-- The messages in a field, each with those declared inside it. -/
def messagesOf (field : Nat) : Content → List MessageDescriptor
  | .empty => []
  | .message k inner rest =>
    if k = field then ⟨messagePartsOf inner, messagesOf 3 inner⟩ :: messagesOf field rest
    else messagesOf field rest
  | .number _ _ rest | .bytes _ _ rest | .strange _ rest => messagesOf field rest

def methodOf (c : Content) : MethodDescriptor where
  name := c.name? 1
  input := c.name? 2
  output := c.name? 3
  clientStreaming := c.flag? 5
  serverStreaming := c.flag? 6
  options := (c.message? 4).map (optionsOf 35)
  hasMore := c.hasStrange

def serviceOf (c : Content) : ServiceDescriptor where
  name := c.name? 1
  methods := (c.messages 2).map methodOf
  options := (c.message? 3).map (optionsOf 34)
  hasMore := c.hasStrange

def fileOf (c : Content) : FileDescriptor where
  name := c.text? 1
  package := c.name? 2
  dependencies := c.texts 3
  publicDependencies := c.numbers 10
  weakDependencies := c.numbers 11
  optionDependencies := c.texts 15
  messages := messagesOf 4 c
  enums := (c.messages 5).map enumOf
  services := (c.messages 6).map serviceOf
  extensions := (c.messages 7).map fieldOf
  options := (c.message? 8).map (optionsOf 50)
  dialect := c.name? 12
  edition := c.choice? 14
  hasMore := c.hasStrange || c.has 9
  missing := c.missing .file

def readFileSet (s : List UInt8) : Option (List FileDescriptor) :=
  (Content.read .fileSet s).map fun c => (c.messages 1).map fileOf

end RpcBindings.Wire
