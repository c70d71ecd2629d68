import RpcBindings.Target.Basic
import RpcBindings.Target.DartRuntime
import RpcBindings.Target.DartTemplate

/-! Dart: clients, handlers and routers over message classes of another generator, which are found
under relative paths. -/
namespace RpcBindings.Target

open Schema

def dartTypes : TypeTable where
  scalarTypes := [
    ([.bool], "bool"), (signed32 ++ unsigned32, "int"), (signed64 ++ unsigned64, "Int64"),
    ([.float, .double], "double"), ([.string], "String"), ([.bytes], "List<int>")]
  defaultValues := [
    ([.bool], "false"), (signed32 ++ unsigned32, "0"), (signed64 ++ unsigned64, "Int64.ZERO"),
    ([.float, .double], "0.0"), ([.string], "''"), ([.bytes], "<int>[]")]
  listType := .around "List<" ">"
  emptyList := "const []"
  anyType := "dynamic"
  nullLiteral := "null"

def dart : Target where
  name := "dart"
  fileSuffix := ".klm.dart"
  templateName := "file.klm.dart.j2"
  template := dartTemplate
  types := dartTypes
  support := some ⟨"kalam.dart", dartRuntime⟩
  imports := .relativePaths ".pb.dart"
  className := "DartGenerator"
  moduleName := "kalamgen.languages.dart.generator"

end RpcBindings.Target
