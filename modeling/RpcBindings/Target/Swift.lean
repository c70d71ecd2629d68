import RpcBindings.Target.Basic
import RpcBindings.Target.SwiftRuntime
import RpcBindings.Target.SwiftTemplate

/-! Swift: clients, handlers and routers over message types of another generator, which all lie in
one namespace. -/
namespace RpcBindings.Target

open Schema

def swiftTypes : TypeTable where
  scalarTypes := [
    ([.bool], "Bool"), (signed32, "Int32"), (signed64, "Int64"), (unsigned32, "UInt32"),
    (unsigned64, "UInt64"), ([.float], "Float"), ([.double], "Double"), ([.string], "String"),
    ([.bytes], "Data")]
  defaultValues := [
    ([.bool], "false"), (signed32 ++ signed64 ++ unsigned32 ++ unsigned64, "0"),
    ([.float, .double], "0"), ([.string], "\"\""), ([.bytes], "Data()")]
  listType := .around "[" "]"
  emptyList := "[]"
  anyType := "Any"
  nullLiteral := "nil"

def swift : Target where
  name := "swift"
  fileSuffix := ".klm.swift"
  templateName := "file.klm.swift.j2"
  template := swiftTemplate
  types := swiftTypes
  flatNamespace := true
  support := some ⟨"kalam.swift", swiftRuntime⟩
  className := "SwiftGenerator"
  moduleName := "kalamgen.languages.swift.generator"

end RpcBindings.Target
