import RpcBindings.Proofs.Stub.FirstOccurrences
import RpcBindings.Proofs.Stub.Shape

/-! When a schema file can be put into the terms of a language, and what the texts in it are made
from. It fails only where a value that is no text stands in for an empty package. -/
namespace RpcBindings

open Outcome Template
open Text (CodePoints)

def Value.NoText (v : Value) : Prop := ∀ s, v ≠ .text s

namespace Stub

/-! ### Packages -/

/-- A value stands in for a package that is empty, if it is no text and counts as true. -/
theorem resolvePackage_standIn_iff {package : String} {fallback : Value} :
    resolvePackage package fallback = .standIn ↔
      package = "" ∧ fallback.truthy = true ∧ fallback.NoText := by
  by_cases replaced : package = "" ∧ fallback.truthy = true
  · cases fallback <;> simp_all [resolvePackage, Value.NoText]
  · simp only [resolvePackage, replaced, if_false]
    constructor
    · nofun
    · rintro ⟨empty, holds, -⟩
      exact absurd ⟨empty, holds⟩ replaced

variable {good : CodePoints → Prop}

/-- What names a package is a text of the schema or the value that stands in for it. -/
theorem resolvePackage_fits (inherited : Inherited good) {fallback : Value}
    (fits : Shape.leaf.Fits good fallback) (package : String) :
    Shape.leaf.Fits good ((resolvePackage package fallback).value fallback) := by
  unfold resolvePackage
  split
  · cases fallback with
    | text name => exact fits
    | _ => exact fits
  · exact string_fits inherited package

/-! ### What can fail -/

theorem flatPrefix_error_iff {package : Package} {options : BuildOptions} {cause : Breakdown} :
    flatPrefix package options = .error cause ↔ options.flatNamespace = true ∧ package = .standIn ∧
      cause = .noMember options.fallbackPackage.typeName "split" := by
  cases flat : options.flatNamespace <;> cases package <;> simp [flatPrefix, flat, eq_comm]

theorem externalTypes_error_iff {f : Schema.SchemaFile} {options : BuildOptions}
    {cause : Breakdown} :
    externalTypes f options = .error cause ↔
      (∃ t ∈ foreignTypes f options, t.package = .standIn) ∧
        isHashable options.fallbackPackage = false ∧
        cause = .notHashable options.fallbackPackage.typeName := by
  by_cases stands : ∃ t ∈ foreignTypes f options, t.package = .standIn
  · have found : (foreignTypes f options).any (·.package = .standIn) = true := by simpa using stands
    cases hashable : isHashable options.fallbackPackage with
    | true => simp [externalTypes, found, hashable]
    | false =>
      simp only [externalTypes, found, hashable, Bool.not_false, Bool.and_self, if_true]
      constructor
      · rintro ⟨⟩
        exact ⟨stands, trivial, rfl⟩
      · rintro ⟨-, -, rfl⟩
        rfl
  · have absent : (foreignTypes f options).any (·.package = .standIn) = false := by
      simpa using stands
    simp [externalTypes, absent, stands]

theorem externalTypes_members {f : Schema.SchemaFile} {options : BuildOptions} {types : List TypeRef}
    (found : externalTypes f options = .ok types) {t : TypeRef} (member : t ∈ types) :
    ∃ package, t.package = resolvePackage package options.fallbackPackage := by
  simp only [externalTypes] at found
  split at found
  · cases found
  · cases found
    obtain ⟨r, -, rfl⟩ := List.mem_map.mp (mem_firstOccurrences member)
    exact ⟨r.package, rfl⟩

/-- Why a schema file cannot be put into the terms of a language: a value that is no text stands in
for its own package, where names are made from that, or for the package of a type that it refers to,
if the value cannot be looked up among others. -/
inductive BuildFailure (f : Schema.SchemaFile) (options : BuildOptions) : Breakdown → Prop where
  | noPrefix : options.flatNamespace = true →
      resolvePackage f.package options.fallbackPackage = .standIn →
      BuildFailure f options (.noMember options.fallbackPackage.typeName "split")
  | noLookup {t} : (options.flatNamespace = true →
        resolvePackage f.package options.fallbackPackage ≠ .standIn) →
      t ∈ foreignTypes f options → t.package = .standIn →
      isHashable options.fallbackPackage = false →
      BuildFailure f options (.notHashable options.fallbackPackage.typeName)

theorem ofSchema_error_iff {f : Schema.SchemaFile} {options : BuildOptions} {cause : Breakdown} :
    ofSchema f options = .error cause ↔ BuildFailure f options cause := by
  have steps : ofSchema f options = .error cause ↔
      flatPrefix (resolvePackage f.package options.fallbackPackage) options = .error cause ∨
      ∃ typePrefix,
        flatPrefix (resolvePackage f.package options.fallbackPackage) options = .ok typePrefix ∧
        externalTypes f options = .error cause := by
    simp [ofSchema, bind_error_iff]
  rw [steps, flatPrefix_error_iff, externalTypes_error_iff]
  constructor
  · rintro (⟨flat, stands, rfl⟩ | ⟨typePrefix, made, ⟨t, member, stands⟩, hashable, rfl⟩)
    · exact .noPrefix flat stands
    · refine .noLookup (fun flat here => ?_) member stands hashable
      rw [flatPrefix_error_iff.mpr ⟨flat, here, rfl⟩] at made
      cases made
  · intro failure
    cases failure with
    | noPrefix flat stands => exact .inl ⟨flat, stands, rfl⟩
    | noLookup own member stands hashable =>
      have prefixed (e : Breakdown) :
          flatPrefix (resolvePackage f.package options.fallbackPackage) options ≠ .error e := by
        intro failed
        obtain ⟨flat, here, -⟩ := flatPrefix_error_iff.mp failed
        exact own flat here
      obtain ⟨typePrefix, made⟩ := ok_of_not_error prefixed
      exact .inr ⟨typePrefix, made, ⟨_, member, stands⟩, hashable, rfl⟩

/-! ### What comes out -/

/-- A schema file in the terms of a language, part by part. -/
theorem ofSchema_ok {f : Schema.SchemaFile} {options : BuildOptions} {file : File}
    (built : ofSchema f options = .ok file) :
    ∃ typePrefix types,
      flatPrefix (resolvePackage f.package options.fallbackPackage) options = .ok typePrefix ∧
      externalTypes f options = .ok types ∧
      file = {
        schemaName := f.name
        baseName := stripExtension f.name
        package := resolvePackage f.package options.fallbackPackage
        standIn := options.fallbackPackage
        enums := if options.emitsTypes then f.enums.map buildEnum else []
        messages := if options.emitsTypes then f.messages.map (buildMessage options.types) else []
        services := f.services.map (buildService typePrefix)
        externalTypes := types } := by
  obtain ⟨typePrefix, made, rest⟩ := bind_ok_iff.mp built
  obtain ⟨types, found, done⟩ := bind_ok_iff.mp rest
  cases done
  exact ⟨typePrefix, types, made, found, rfl⟩

/-- A property that the prefix of type names inherits as well. -/
structure Inherited (good : CodePoints → Prop) : Prop extends Template.Inherited good where
  typePrefix : ∀ {s}, good s → good (Identifier.typePrefixOf s)

theorem flatPrefix_good (inherited : Inherited good) {package : Package} {options : BuildOptions}
    {typePrefix : CodePoints}
    (fits : Shape.leaf.Fits good (package.value options.fallbackPackage))
    (made : flatPrefix package options = .ok typePrefix) : good typePrefix := by
  unfold flatPrefix at made
  split at made
  · cases package with
    | text name =>
      cases made
      exact inherited.typePrefix fits.2
    | standIn => cases made
  · cases made
    exact inherited.string _

/-- The texts of a file are good if the value that stands in for empty packages can be printed as a
good text. -/
theorem ofSchema_good (inherited : Inherited good) {f : Schema.SchemaFile} {options : BuildOptions}
    {file : File} (fits : Shape.leaf.Fits good options.fallbackPackage)
    (built : ofSchema f options = .ok file) : file.Good good := by
  have own := resolvePackage_fits inherited.toInherited fits f.package
  obtain ⟨typePrefix, made, rest⟩ := bind_ok_iff.mp built
  obtain ⟨types, found, done⟩ := bind_ok_iff.mp rest
  cases done
  have prefixed := flatPrefix_good inherited own made
  refine ⟨own, ?_, ?_⟩
  · intro s service m method
    obtain ⟨declared, -, rfl⟩ := List.mem_map.mp service
    obtain ⟨declared, -, rfl⟩ := List.mem_map.mp method
    exact ⟨inherited.append prefixed (inherited.string _),
      inherited.append prefixed (inherited.string _)⟩
  · intro t member
    obtain ⟨package, resolved⟩ := externalTypes_members found member
    exact resolved ▸ resolvePackage_fits inherited.toInherited fits package

end Stub

end RpcBindings
