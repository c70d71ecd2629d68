import RpcBindings.Proofs.Stub.Build
import RpcBindings.Proofs.Stub.Traversal

/-! How a generated file gets at the types of other files. All that a schema file refers to in another
one is among the external types of its stub, and is imported by its full name unless its package is
the one of the stub, or there is no package to import it from. -/
namespace RpcBindings

open Schema
open Text (CodePoints)

namespace Stub

theorem ofSchema_external {f : SchemaFile} {options : BuildOptions} {file : File}
    (built : ofSchema f options = .ok file) :
    externalTypes f options = .ok file.externalTypes ∧ file.standIn = options.fallbackPackage := by
  obtain ⟨_, _, -, found, rfl⟩ := ofSchema_ok built
  exact ⟨found, rfl⟩

/-- All that a file refers to in other files is among the external types of its stub. -/
theorem typeRef_mem_externalTypes {f : SchemaFile} {options : BuildOptions} {file : File}
    (built : ofSchema f options = .ok file) (emits : options.emitsTypes = true) {d : Declaration}
    (names : f.Names d) (foreign : d.file ≠ f.name) :
    typeRef options (.ofDeclaration d) ∈ file.externalTypes := by
  obtain ⟨found, -⟩ := ofSchema_external built
  rw [mem_externalTypes found, exists_foreignAt_iff emits]
  exact ⟨d, names, foreign, typeRef_ofDeclaration options d⟩

/-- A package has a name, unless it is empty and nothing stands in for it. -/
theorem resolvePackage_truthy {package : String} {fallback : Value}
    (named : package = "" → fallback.truthy = true) :
    ((resolvePackage package fallback).value fallback).truthy = true := by
  unfold resolvePackage
  split
  case isTrue replaced =>
    cases fallback with
    | text name => exact replaced.2
    | _ => exact replaced.2
  case isFalse kept =>
    have filled : package ≠ "" := fun empty => kept ⟨empty, named empty⟩
    simpa [Package.value, Value.truthy] using filled

end Stub

namespace Generator

/-- Whether a file can refer to a type of another file by its name alone: their packages are the
same, or it imports the type. -/
def Visible (file : Stub.File) (t : Stub.TypeRef) : Prop :=
  (t.package.value file.standIn).same (file.package.value file.standIn) = true ∨
    (t.package.value file.standIn).asText ++ .string ("." ++ t.name) ∈ typeImports file

theorem visible_of_mem {file : Stub.File} {t : Stub.TypeRef} (member : t ∈ file.externalTypes)
    (named : (t.package.value file.standIn).truthy = true) : Visible file t := by
  by_cases same : (t.package.value file.standIn).same (file.package.value file.standIn) = true
  · exact .inl same
  · have imported : isImported file t = true := by
      simp [isImported, named, same]
    exact .inr (mem_typeImports.mpr ⟨t, member, imported, rfl⟩)

/-- A type of another file that a schema file refers to is visible in the file generated from it,
unless its package is empty and nothing stands in for that. -/
theorem visible_of_names {g : Generator} (emits : g.target.emitsTypes = true) {f : SchemaFile}
    {file : Stub.File} (built : g.build f = .ok file) {d : Declaration} (names : f.Names d)
    (foreign : d.file ≠ f.name) (named : d.package = "" → g.fallbackPackage.truthy = true) :
    Visible file (Stub.typeRef g.buildOptions (.ofDeclaration d)) := by
  have member := Stub.typeRef_mem_externalTypes built emits names foreign
  obtain ⟨-, standIn⟩ := Stub.ofSchema_external built
  apply visible_of_mem member
  rw [standIn]
  apply Stub.resolvePackage_truthy
  cases d <;> exact named

end Generator

end RpcBindings
