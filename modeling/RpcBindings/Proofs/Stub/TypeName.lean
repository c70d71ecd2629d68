import RpcBindings.Proofs.Schema.Declared
import RpcBindings.Proofs.Stub.Build
import RpcBindings.Proofs.Target.Template

/-! The names that generated code gives to the messages of methods. The prefix of a name comes from
the file that refers to the message, so two messages are told apart by their own names alone: those
that one scope declares always are, and those of different packages, or inside different messages,
are not if they share a name. -/
namespace RpcBindings

open Outcome Schema
open Text (CodePoints)

theorem Text.CodePoints.append_left_cancel (s : CodePoints) {t u : String}
    (same : s ++ .string t = s ++ .string u) : t = u := by
  have codes := congrArg codes same
  rw [codes_append, codes_append] at codes
  have chars := List.append_cancel_left codes
  exact String.toList_inj.mp ((List.map_injective_iff.mpr fun _ _ => Char.toNat_inj.mp) chars)

namespace Stub

/-- The services of a file are built with one prefix for all types. -/
theorem ofSchema_services {f : SchemaFile} {options : BuildOptions} {file : File}
    (built : ofSchema f options = .ok file) :
    ∃ typePrefix,
      flatPrefix (resolvePackage f.package options.fallbackPackage) options = .ok typePrefix ∧
      file.services = f.services.map (buildService typePrefix) := by
  obtain ⟨typePrefix, _, made, -, rfl⟩ := ofSchema_ok built
  exact ⟨typePrefix, made, rfl⟩

/-- The name of a message in a file whose type names have a prefix. -/
def typeName (typePrefix : CodePoints) (r : MessageRef) : CodePoints := typePrefix ++ .string r.name

theorem typeName_injective_iff {typePrefix : CodePoints} {a b : MessageRef} :
    typeName typePrefix a = typeName typePrefix b ↔ a.name = b.name :=
  ⟨CodePoints.append_left_cancel typePrefix, fun same => by rw [typeName, typeName, same]⟩

end Stub

/-- Whether a method of a file takes or gives a message. -/
def Schema.SchemaFile.Passes (f : SchemaFile) (r : MessageRef) : Prop :=
  ∃ s ∈ f.services, ∃ m ∈ s.methods, m.input = r ∨ m.output = r

theorem Schema.SchemaFile.Passes.names {f : SchemaFile} {r : MessageRef} (passes : f.Passes r) :
    f.Names (.message r) := by
  obtain ⟨s, service, m, method, rfl | rfl⟩ := passes
  · exact .input service method
  · exact .output service method

namespace Generator

/-- How generated code names the messages that methods pass: the file that refers to them gives one
prefix for all, so that two names differ if and only if the messages have different names of their
own. Every one of them is declared in some scope, and two that one scope declares are told apart. -/
theorem typeName_eq_iff (g : Generator) {descriptors : List FileDescriptor}
    {wanted : List Text.Raw} {stack : Stack} {files : List SchemaFile}
    (loaded : loadFiles descriptors wanted stack = .ok files) {f : SchemaFile} (member : f ∈ files)
    {stub : Stub.File} (built : g.build f = .ok stub) :
    ∃ typePrefix,
      Stub.flatPrefix (Stub.resolvePackage f.package g.fallbackPackage) g.buildOptions =
        .ok typePrefix ∧
      stub.services.map (fun s => s.methods.map fun m => (m.name, m.input, m.output)) =
        f.services.map (fun s => s.methods.map fun m =>
          (m.name, Stub.typeName typePrefix m.input, Stub.typeName typePrefix m.output)) ∧
      (∀ a b, f.Passes a → f.Passes b →
        (Stub.typeName typePrefix a = Stub.typeName typePrefix b ↔ a.name = b.name)) ∧
      (∀ a, f.Passes a → Homed files (.message a)) ∧
      ∀ a b, f.Passes a → f.Passes b → a.fullName ≠ b.fullName →
        ∀ scope, (∃ home ∈ files, home.Homes scope (.message a)) →
          (∃ home ∈ files, home.Homes scope (.message b)) →
          Stub.typeName typePrefix a ≠ Stub.typeName typePrefix b := by
  obtain ⟨typePrefix, made, services⟩ := Stub.ofSchema_services built
  refine ⟨typePrefix, made, ?_, fun a b _ _ => Stub.typeName_injective_iff, ?_, ?_⟩
  · simp [services, Stub.buildService, Stub.buildMethod, Stub.typeName, Function.comp_def]
  · intro a passes
    exact loadFiles_homed loaded f member _ passes.names
  · rintro a b - - distinct scope ⟨_, -, home⟩ ⟨_, -, other⟩ same
    have names : a.name = b.name := Stub.typeName_injective_iff.mp same
    have first : a.fullName = qualify scope a.name := home.qualified
    have second : b.fullName = qualify scope b.name := other.qualified
    apply distinct
    rw [first, second, names]

/-- Three files of three packages, where a method takes a message of the first and gives one of the
second that has the same name. -/
def namesakes : List FileDescriptor := [
  { name := some "a.proto", package := some "a", messages := [{ name := some "Foo" }] },
  { name := some "b.proto", package := some "b", messages := [{ name := some "Foo" }] },
  { name := some "c.proto", package := some "c", dependencies := ["a.proto", "b.proto"]
    services := [{ name := some "S", methods := [
      { name := some "Swap", input := some ".a.Foo", output := some ".b.Foo" }] }] }]

def swap : ServiceDecl where
  name := "S"
  fullName := "c.S"
  methods := [
    ⟨"Swap", ⟨"Foo", "a.Foo", "a.proto", "a"⟩, ⟨"Foo", "b.Foo", "b.proto", "b"⟩, false⟩]

/-- The messages of the swap differ, and get one name. -/
theorem namesakes_collide : ∃ files f stub,
    loadFiles namesakes [] = .ok files ∧ f ∈ files ∧ f.services = [swap] ∧
      ({ target := Target.swift, options := {} } : Generator).build f = .ok stub ∧
      ∃ s ∈ stub.services, ∃ m ∈ s.methods, m.name = "Swap" ∧ m.input = m.output := by
  have evaluated : ∃ files ∈ (loadFiles namesakes []).toOption,
      ∃ f ∈ files, f.services = [swap] ∧
        ∃ stub ∈ (({ target := Target.swift, options := {} } : Generator).build f).toOption,
          ∃ s ∈ stub.services, ∃ m ∈ s.methods, m.name = "Swap" ∧ m.input = m.output := by
    decide +kernel
  obtain ⟨files, loaded, f, listed, services, found⟩ := ok_of_toOption evaluated
  obtain ⟨stub, built, collision⟩ := ok_of_toOption found
  exact ⟨files, f, stub, loaded, listed, services, built, collision⟩

theorem typeName_eq_iff_swap : ∃ files f stub typePrefix,
    loadFiles namesakes [] = .ok files ∧ f ∈ files ∧
    ({ target := Target.swift, options := {} } : Generator).build f = .ok stub ∧
    stub.services.map (fun s => s.methods.map fun m => (m.name, m.input, m.output)) =
      [[("Swap", Stub.typeName typePrefix ⟨"Foo", "a.Foo", "a.proto", "a"⟩,
        Stub.typeName typePrefix ⟨"Foo", "b.Foo", "b.proto", "b"⟩)]] := by
  have evaluated : ∃ files ∈ (loadFiles namesakes []).toOption, ∃ f ∈ files, f.services = [swap] ∧
      ∃ stub ∈ (({ target := Target.swift, options := {} } : Generator).build f).toOption, True := by
    decide +kernel
  obtain ⟨files, loaded, f, listed, services, found⟩ := ok_of_toOption evaluated
  obtain ⟨stub, built, -⟩ := ok_of_toOption found
  obtain ⟨typePrefix, -, named, -⟩ := typeName_eq_iff _ loaded listed built
  refine ⟨files, f, stub, typePrefix, loaded, listed, built, named.trans ?_⟩
  rw [services]
  rfl

end Generator

end RpcBindings
