import RpcBindings.Stub.Basic
import RpcBindings.Value

/-! Generated files as templates see them. -/
namespace RpcBindings.Stub

def object (type : String) (fields derived : List (String × Value)) : Value :=
  .record ("kalamgen.core.ir." ++ type) fields derived

def EnumValue.view (v : EnumValue) : Value :=
  object "EnumValue" [("name", .text v.name), ("number", .int v.number)] []

/-- An enum with its values in their order. -/
def Enum.view (e : Enum) : Value :=
  object "Enum" [("name", .text e.name), ("values", .tuple (e.values.map (·.view)))] []

/-- A field, its type and default written in the target language. -/
def Field.view (f : Field) : Value :=
  object "Field" [("name", .text f.name), ("type", .text f.type), ("proto_number", .int f.number),
    ("default_value", .text f.defaultValue)] []

/-- A message with its fields in their order. -/
def Message.view (m : Message) : Value :=
  object "Message" [("name", .text m.name), ("fields", .tuple (m.fields.map (·.view)))] []

def Method.view (m : Method) : Value :=
  object "Method" [("name", .text m.name), ("method_name", .text m.memberName),
    ("input", .text m.input), ("output", .text m.output),
    ("server_streaming", .bool m.serverStreaming)] []

/-- A service; its member `route` makes a route of a method. -/
def Service.view (s : Service) : Value :=
  object "Service" [("name", .text s.name), ("prefix", .text s.routeStem),
    ("methods", .tuple (s.methods.map (·.view)))]
    [("route", .method "route" (.routing s.routeStem) .null)]

/-- A type of another file, given what stands in for empty packages. -/
def TypeRef.view (standIn : Value) (t : TypeRef) : Value :=
  object "TypeRef" [("name", .text t.name), ("package", t.package.value standIn),
    ("proto_name", .text t.file)] []

/-- All of a file; its stem and depth follow from its names, and its member `for_service` makes the
part for one service. -/
def File.view (f : File) : Value :=
  object "FileData" [("file_name", .text f.schemaName), ("proto_name", .text f.baseName),
    ("package_name", f.package.value f.standIn), ("enums", .tuple (f.enums.map (·.view))),
    ("messages", .tuple (f.messages.map (·.view))),
    ("services", .tuple (f.services.map (·.view))),
    ("external_types", .tuple (f.externalTypes.map (·.view f.standIn)))]
    [("stem", .text f.stem), ("depth", .int f.depth),
      ("for_service",
        .method "for_service" (.selecting ["enums", "messages"] "services") .null)]

end RpcBindings.Stub
