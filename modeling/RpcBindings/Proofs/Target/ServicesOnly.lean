import RpcBindings.Proofs.Schema.Graph
import RpcBindings.Proofs.Target.Dispatch

/-! Languages that generate services and no types. What they make of a schema file follows from the
name and the package of the file, from its services, and of each message that goes in or comes out
from its name, its file and its package. Two files that agree on these look the same to them, whatever
types they declare and whatever their messages hold. -/
namespace RpcBindings

open Outcome Schema Template

namespace Schema

/-! ### Agreement on services -/

/-- Whether methods look the same without a look into their messages. -/
structure MethodDecl.Agrees (m n : MethodDecl) : Prop where
  name : m.name = n.name
  input : Stub.Reference.ofMessage m.input = Stub.Reference.ofMessage n.input
  output : Stub.Reference.ofMessage m.output = Stub.Reference.ofMessage n.output
  serverStreaming : m.serverStreaming = n.serverStreaming

structure ServiceDecl.Agrees (s t : ServiceDecl) : Prop where
  name : s.name = t.name
  methods : List.Forall₂ MethodDecl.Agrees s.methods t.methods

/-- Whether files look the same without a look at the types that they declare. -/
structure SchemaFile.AgreesOnServices (f h : SchemaFile) : Prop where
  name : f.name = h.name
  package : f.package = h.package
  services : List.Forall₂ ServiceDecl.Agrees f.services h.services

/-- What there is to see of a message object from outside. -/
def View.reference? (v : View) (a : Address) : Option Stub.Reference :=
  v.messages[a]?.map fun node => ⟨node.name, node.file, node.package⟩

section

variable (v w : View)

structure MethodNode.Agrees (m n : MethodNode) : Prop where
  name : m.name = n.name
  input : v.reference? m.input = w.reference? n.input
  output : v.reference? m.output = w.reference? n.output
  serverStreaming : m.serverStreaming = n.serverStreaming

structure ServiceNode.Agrees (s t : ServiceNode) : Prop where
  name : s.name = t.name
  methods : List.Forall₂ (MethodNode.Agrees v w) s.methods t.methods

/-- Whether file objects, each in a graph of its own, look the same without a look at the types that
they declare. -/
structure FileNode.AgreesOnServices (node other : FileNode) : Prop where
  name : node.name = other.name
  package : node.package = other.package
  services : List.Forall₂ (ServiceNode.Agrees v w) node.services other.services

end

/-! ### Objects and what they stand for -/

section

variable {v w : View}

theorem View.RefersTo.reference? {r : MessageRef} {a : Address} (refers : v.RefersTo r a) :
    v.reference? a = some (Stub.Reference.ofMessage r) := by
  obtain ⟨node, here, rfl⟩ := refers
  rw [View.reference?, here]
  rfl

/-- References to objects that look the same agree. -/
theorem View.RefersTo.agrees {r s : MessageRef} {a b : Address} (refers : v.RefersTo r a)
    (other : w.RefersTo s b) (same : v.reference? a = w.reference? b) :
    Stub.Reference.ofMessage r = Stub.Reference.ofMessage s :=
  Option.some.inj (refers.reference?.symm.trans (same.trans other.reference?))

theorem MethodNode.agrees_iff {m n : MethodDecl} {node other : MethodNode}
    (own : View.MethodLike v.RefersTo m node) (its : View.MethodLike w.RefersTo n other) :
    node.Agrees v w other ↔ m.Agrees n := by
  constructor
  · intro agrees
    exact ⟨own.name.symm.trans (agrees.name.trans its.name), own.input.agrees its.input agrees.input,
      own.output.agrees its.output agrees.output,
      own.serverStreaming.symm.trans (agrees.serverStreaming.trans its.serverStreaming)⟩
  · intro agrees
    refine ⟨own.name.trans (agrees.name.trans its.name.symm), ?_, ?_,
      own.serverStreaming.trans (agrees.serverStreaming.trans its.serverStreaming.symm)⟩
    · rw [own.input.reference?, its.input.reference?, agrees.input]
    · rw [own.output.reference?, its.output.reference?, agrees.output]

/-- Rows agree if and only if the objects do that they stand for, item by item. -/
theorem forall₂_nodes_iff {α β γ δ : Type} {R : α → γ → Prop} {S : β → δ → Prop} {P : γ → δ → Prop}
    {Q : α → β → Prop} {row : List α} {others : List β} {nodes : List γ} {places : List δ}
    (own : List.Forall₂ R row nodes) (its : List.Forall₂ S others places)
    (each : ∀ a b c d, R a c → S b d → (P c d ↔ Q a b)) :
    List.Forall₂ P nodes places ↔ List.Forall₂ Q row others := by
  constructor
  · intro agrees
    have across : List.Forall₂ (fun a d => ∃ c, R a c ∧ P c d) row places :=
      Outcome.forall₂_trans (fun _ c _ here same => ⟨c, here, same⟩) own agrees
    exact Outcome.forall₂_trans
      (fun _ _ _ ⟨_, here, same⟩ there => (each _ _ _ _ here there).mp same) across its.flip
  · intro agrees
    have across : List.Forall₂ (fun c b => ∃ a, R a c ∧ Q a b) nodes others :=
      Outcome.forall₂_trans (fun _ a _ here same => ⟨a, here, same⟩) own.flip agrees
    exact Outcome.forall₂_trans
      (fun _ _ _ ⟨_, here, same⟩ there => (each _ _ _ _ here there).mpr same) across its

theorem ServiceNode.agrees_iff {s t : ServiceDecl} {node other : ServiceNode}
    (own : View.ServiceLike v.RefersTo s node) (its : View.ServiceLike w.RefersTo t other) :
    node.Agrees v w other ↔ s.Agrees t := by
  have methods : List.Forall₂ (MethodNode.Agrees v w) node.methods other.methods ↔
      List.Forall₂ MethodDecl.Agrees s.methods t.methods :=
    forall₂_nodes_iff own.methods its.methods fun _ _ _ _ => MethodNode.agrees_iff
  constructor
  · intro agrees
    exact ⟨own.name.symm.trans (agrees.name.trans its.name), methods.mp agrees.methods⟩
  · intro agrees
    exact ⟨own.name.trans (agrees.name.trans its.name.symm), methods.mpr agrees.methods⟩

/-- Files agree if and only if their objects do. -/
theorem FileNode.agreesOnServices_iff {f h : SchemaFile} {node other : FileNode}
    (own : v.HoldsFile f node) (its : w.HoldsFile h other) :
    node.AgreesOnServices v w other ↔ f.AgreesOnServices h := by
  have services : List.Forall₂ (ServiceNode.Agrees v w) node.services other.services ↔
      List.Forall₂ ServiceDecl.Agrees f.services h.services :=
    forall₂_nodes_iff own.services its.services fun _ _ _ _ => ServiceNode.agrees_iff
  constructor
  · intro agrees
    exact ⟨own.name.symm.trans (agrees.name.trans its.name),
      own.package.symm.trans (agrees.package.trans its.package), services.mp agrees.services⟩
  · intro agrees
    exact ⟨own.name.trans (agrees.name.trans its.name.symm),
      own.package.trans (agrees.package.trans its.package.symm), services.mpr agrees.services⟩

end

/-- Loaded files have a graph. -/
theorem loadFiles_graph {descriptors : List FileDescriptor} {wanted : List Text.Raw}
    {files : List SchemaFile} (loaded : loadFiles descriptors wanted = .ok files) :
    ∃ nodes v, List.Forall₂ (View.HoldsFile v) files nodes := by
  obtain ⟨linked, links, -, -, rfl⟩ := loadFiles_ok_iff.mp loaded
  obtain ⟨coherent, located⟩ := linkAll_coherent links
  obtain ⟨nodes, v, -, faithful⟩ := View.viewFiles_faithful
    (coherent.mark fun file => .text file.name ∈ wanted) (located.mark _)
  exact ⟨nodes, v, faithful.all⟩

end Schema

/-! ### Files that agree -/

namespace Stub

theorem map_eq_of_forall₂ {α β : Type} {R : α → α → Prop} (make : α → β)
    (each : ∀ x y, R x y → make x = make y) {row others : List α} (related : List.Forall₂ R row others) :
    row.map make = others.map make :=
  map_eq_map_iff_forall₂.mpr (related.imp each)

theorem buildMethod_eq {m n : MethodDecl} (agrees : m.Agrees n) (typePrefix : Text.CodePoints) :
    buildMethod typePrefix m = buildMethod typePrefix n := by
  have input : m.input.name = n.input.name := congrArg Reference.name agrees.input
  have output : m.output.name = n.output.name := congrArg Reference.name agrees.output
  rw [buildMethod, buildMethod, agrees.name, input, output, agrees.serverStreaming]

theorem buildService_eq {s t : ServiceDecl} (agrees : s.Agrees t) (typePrefix : Text.CodePoints) :
    buildService typePrefix s = buildService typePrefix t := by
  rw [buildService, buildService, agrees.name,
    map_eq_of_forall₂ (buildMethod typePrefix) (fun _ _ same => buildMethod_eq same typePrefix) agrees.methods]

variable {f h : SchemaFile} (agrees : f.AgreesOnServices h)
include agrees

theorem methodReferences_eq : methodReferences f = methodReferences h := by
  have ofMethod : ∀ m n : MethodDecl, m.Agrees n →
      [Reference.ofMessage m.input, Reference.ofMessage m.output] =
        [Reference.ofMessage n.input, Reference.ofMessage n.output] :=
    fun m n same => by rw [same.input, same.output]
  have ofService : ∀ s t : ServiceDecl, s.Agrees t →
      (s.methods.flatMap fun m => [Reference.ofMessage m.input, Reference.ofMessage m.output]) =
        t.methods.flatMap fun m => [Reference.ofMessage m.input, Reference.ofMessage m.output] := by
    intro s t same
    rw [List.flatMap_def, List.flatMap_def, map_eq_of_forall₂ _ ofMethod same.methods]
  rw [methodReferences, methodReferences, List.flatMap_def, List.flatMap_def,
    map_eq_of_forall₂ _ ofService agrees.services]

/-- Where no types are generated, files that agree on their services have the same stub. -/
theorem ofSchema_eq {options : BuildOptions} (services : options.emitsTypes = false) :
    ofSchema f options = ofSchema h options := by
  have references : references f false = references h false := by
    rw [Stub.references, Stub.references, methodReferences_eq agrees]
    rfl
  have external : externalTypes f options = externalTypes h options := by
    rw [externalTypes, externalTypes, foreignTypes, foreignTypes, services, references, agrees.name]
  have built (typePrefix : Text.CodePoints) :
      f.services.map (buildService typePrefix) = h.services.map (buildService typePrefix) :=
    map_eq_of_forall₂ (buildService typePrefix) (fun _ _ same => buildService_eq same typePrefix) agrees.services
  simp only [ofSchema, external, built, services, agrees.name, agrees.package, Bool.false_eq_true, if_false]

end Stub

namespace Generator

variable {g : Generator}

theorem generateFile_eq_of_build {f h : SchemaFile} (built : g.build f = g.build h) (template : Loaded) :
    g.generateFile template f = g.generateFile template h := by
  rw [generateFile, generateFile, built]

/-- Swift and Dart see nothing of a file but its services. Whatever two files declare besides, and
whatever the messages hold that their methods refer to, if the rest is the same then so is all that is
generated from them, or they fail alike. -/
theorem generateFile_services_only (services : g.target = .swift ∨ g.target = .dart)
    (template : Loaded) :
    (∀ f h : SchemaFile, f.AgreesOnServices h →
      g.generateFile template f = g.generateFile template h) ∧
    ∀ (v w : View) (node other : FileNode), node.AgreesOnServices v w other →
      ∀ f h, v.HoldsFile f node → w.HoldsFile h other →
        g.generateFile template f = g.generateFile template h := by
  have none : g.buildOptions.emitsTypes = false := by
    rw [buildOptions]
    rcases services with swift | dart
    · rw [swift]
      rfl
    · rw [dart]
      rfl
  have blind (f h : SchemaFile) (agrees : f.AgreesOnServices h) :
      g.generateFile template f = g.generateFile template h :=
    generateFile_eq_of_build (Stub.ofSchema_eq agrees none) template
  exact ⟨blind, fun v w node other agrees f h own its => blind f h ((FileNode.agreesOnServices_iff own its).mp agrees)⟩

/-- A service whose messages are called `Ask`, by a full name. -/
def desk (fullName : String) (messages : List MessageDescriptor) : List FileDescriptor := [
  { name := some "s.proto", package := some "s"
    messages := messages
    services := [
      { name := some "Desk"
        methods := [{ name := some "Serve", input := some fullName, output := some fullName }] }] }]

/-- The message by itself. -/
def plainDesk : List FileDescriptor := desk "s.Ask" [{ name := some "Ask" }]

/-- The message inside another one, and with a field. -/
def crowdedDesk : List FileDescriptor := desk "s.Outer.Ask" [
  { name := some "Outer"
    messages := [
      { name := some "Ask"
        fields := [{ name := some "what", number := some 7, label := some 1, type := some 9 }] }] }]

/-- The service as it is loaded. -/
def deskService (fullName : String) : ServiceDecl :=
  let ask : MessageRef := ⟨"Ask", fullName, "s.proto", "s"⟩
  ⟨"Desk", "s.Desk", [⟨"Serve", ask, ask, false⟩]⟩

theorem deskService_agrees (fullName other : String) :
    (deskService fullName).Agrees (deskService other) :=
  ⟨rfl, .cons ⟨rfl, rfl, rfl, rfl⟩ .nil⟩

def plainSwift : Generator where
  target := .swift
  options := {}

theorem plainSwift_builtin : plainSwift.Builtin := ⟨.tail _ (.head _), rfl⟩

/-- The two files have the same Swift code, though they declare nothing alike and their methods refer
to different messages. -/
theorem generateFile_services_only_desk : ∃ (f h : SchemaFile) (v w : View) (node other : FileNode)
    (template : Loaded) (outputs : List OutputFile),
    loadFiles plainDesk [] = .ok [f] ∧ loadFiles crowdedDesk [] = .ok [h] ∧
    f.messages.map (·.name) = ["Ask"] ∧ h.messages.map (·.name) = ["Outer"] ∧
    f.AgreesOnServices h ∧
    v.HoldsFile f node ∧ w.HoldsFile h other ∧ node.AgreesOnServices v w other ∧
    plainSwift.loadTemplate = .ok template ∧ plainSwift.generateFile template f = .ok outputs ∧
    plainSwift.generateFile template h = .ok outputs := by
  have plain : ∃ files ∈ (loadFiles plainDesk []).toOption, files.length = 1 ∧ ∃ f ∈ files,
      f.name = "s.proto" ∧ f.package = "s" ∧ f.services = [deskService "s.Ask"] ∧
      f.messages.map (·.name) = ["Ask"] := by decide +kernel
  have crowded : ∃ files ∈ (loadFiles crowdedDesk []).toOption, files.length = 1 ∧ ∃ f ∈ files,
      f.name = "s.proto" ∧ f.package = "s" ∧ f.services = [deskService "s.Outer.Ask"] ∧
      f.messages.map (·.name) = ["Outer"] := by decide +kernel
  obtain ⟨files, loaded, alone, f, member, name, package, services, messages⟩ := ok_of_toOption plain
  obtain ⟨others, read, single, h, inside, itsName, itsPackage, itsServices, itsMessages⟩ :=
    ok_of_toOption crowded
  obtain ⟨only, rfl⟩ := List.length_eq_one_iff.mp alone
  obtain rfl := List.mem_singleton.mp member
  obtain ⟨one, rfl⟩ := List.length_eq_one_iff.mp single
  obtain rfl := List.mem_singleton.mp inside
  obtain ⟨nodes, v, held⟩ := loadFiles_graph loaded
  obtain ⟨places, w, kept⟩ := loadFiles_graph read
  obtain ⟨node, -, own⟩ := forall₂_right held List.mem_cons_self
  obtain ⟨other, -, its⟩ := forall₂_right kept List.mem_cons_self
  have agrees : f.AgreesOnServices h := by
    refine ⟨name.trans itsName.symm, package.trans itsPackage.symm, ?_⟩
    rw [services, itsServices]
    exact .cons (deskService_agrees ..) .nil
  obtain ⟨template, acquired, -⟩ := plainSwift_builtin.load
  obtain ⟨outputs, made⟩ := plainSwift_builtin.generateFile_strings acquired f (.inl rfl) (.inl rfl)
  obtain ⟨-, alike⟩ := generateFile_services_only (g := plainSwift) (.inl rfl) template
  have objects := (FileNode.agreesOnServices_iff own its).mpr agrees
  have equal : plainSwift.generateFile template f = plainSwift.generateFile template h :=
    alike v w node other objects f h own its
  exact ⟨f, h, v, w, node, other, template, outputs, loaded, read, messages, itsMessages, agrees, own,
    its, objects, acquired, made, equal.symm.trans made⟩

end Generator

end RpcBindings
