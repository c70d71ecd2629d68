import RpcBindings.Target.Basic
import RpcBindings.Target.KotlinTemplate

/-! Kotlin: serializable enums and data classes, clients, handlers and routers on coroutines. -/
namespace RpcBindings.Target

open Schema

def kotlinTypes : TypeTable where
  scalarTypes := [
    ([.bool], "Boolean"), (signed32, "Int"), (signed64, "Long"), (unsigned32, "UInt"),
    (unsigned64, "ULong"), ([.float], "Float"), ([.double], "Double"), ([.string], "String"),
    ([.bytes], "ByteArray")]
  defaultValues := [
    ([.bool], "false"), (signed32, "0"), (signed64, "0L"), (unsigned32, "0u"),
    (unsigned64, "0uL"), ([.float], "0f"), ([.double], "0.0"), ([.string], "\"\""),
    ([.bytes], "byteArrayOf()")]
  listType := .around "List<" ">"
  emptyList := "emptyList()"
  anyType := "Any"
  nullLiteral := "null"

def kotlin : Target where
  name := "kotlin"
  fileSuffix := ".klm.kt"
  templateName := "file.klm.kt.j2"
  template := kotlinTemplate
  types := kotlinTypes
  fallbackPackage := some "generated"
  emitsTypes := true
  imports := .qualifiedNames
  className := "KotlinGenerator"
  moduleName := "kalamgen.languages.kotlin.generator"

end RpcBindings.Target
