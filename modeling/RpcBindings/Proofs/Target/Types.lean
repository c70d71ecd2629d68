import RpcBindings.Proofs.Code.Types
import RpcBindings.Proofs.Stub.External
import RpcBindings.Proofs.Target.Dispatch

/-! Whether the types that generated Kotlin refers to are there. Each of them is declared in a file of
the schema. The code for that file declares the types that lie in the file itself, and in plain
schemas no others: a type inside a message is left out, and code that refers to it does not compile.
Types of other files are imported or lie in the same package. -/
namespace RpcBindings

open Outcome Schema Template
open Code (DeclaresType TypeKind declared declarations readText typeFacts)
open Text (CodePoints)

namespace Schema

def Declaration.kind : Declaration → TypeKind
  | message _ => .message
  | enum _ => .enum

/-- Whether a type lies in a file itself, and in no message of it. -/
inductive SchemaFile.Lists (f : SchemaFile) : Declaration → Prop
  | enum {e} : e ∈ f.enums → f.Lists (.enum e)
  | message {m} : m ∈ f.messages → f.Lists (.message m.ref)

end Schema

theorem Stub.ofSchema_types {f : SchemaFile} {options : BuildOptions} {file : File}
    (built : ofSchema f options = .ok file) (emits : options.emitsTypes = true) :
    file.enums = f.enums.map buildEnum ∧
      file.messages = f.messages.map (buildMessage options.types) := by
  obtain ⟨_, _, -, -, rfl⟩ := ofSchema_ok built
  simp [emits]

namespace Generator

variable {g : Generator} {template : Loaded} {f : SchemaFile}

/-- Whether a generator has the Kotlin language with its own template, and makes one file of each
schema file. -/
structure IsKotlin (g : Generator) : Prop where
  target : g.target = .kotlin
  own : g.template = some g.target.template
  whole : g.granularity = .perFile

namespace IsKotlin

variable (kotlin : g.IsKotlin)
include kotlin

theorem builtin : g.Builtin where
  target := kotlin.target ▸ List.mem_cons_self
  template := kotlin.own

theorem emits : g.buildOptions.emitsTypes = true := by
  rw [buildOptions, kotlin.target]
  rfl

theorem unsupported : ¬ g.target.support.isSome = true := by
  rw [kotlin.target]
  nofun

/-- The template declares the types of a file. -/
theorem parts (acquired : g.loadTemplate = .ok template) :
    (∀ kind, Code.declaresEach template.content kind = true) ∧
      Code.outlineAll declarations Code.typeWording g.target.shapes [] template.content =
        some (Code.typesOutline, []) := by
  rw [loadTemplate, kotlin.own, kotlin.target] at acquired
  rw [kotlin.target]
  exact Code.parts_of_declaresTypes Code.kotlin_declaresTypes (parse_of_load acquired)

section

variable {stub : Stub.File} {names : Scope} {codes : CodePoints}

/-- The code for a schema file declares the types that lie in the file itself. -/
theorem declaresType_of_lists (acquired : g.loadTemplate = .ok template)
    (built : g.build f = .ok stub) (named : g.scope stub = .ok names)
    (rendered : renderAll names template.content = .ok codes) {d : Declaration} (lists : f.Lists d)
    (identified : checkName d.name = .ok ()) : DeclaresType codes.chars d.kind d.name := by
  have found := g.lookup_file named
  have word := (isIdentifier_of_checkName identified).isWord
  have declares := (kotlin.parts acquired).1
  obtain ⟨enums, messages⟩ := Stub.ofSchema_types built kotlin.emits
  cases lists with
  | @enum e member =>
    have listed : Stub.buildEnum e ∈ stub.enums := enums ▸ List.mem_map_of_mem member
    exact (Code.listed_enums found).declaresType (declares .enum) rendered listed word
  | @message m member =>
    have listed : Stub.buildMessage g.buildOptions.types m ∈ stub.messages :=
      messages ▸ List.mem_map_of_mem member
    exact (Code.listed_messages found).declaresType (declares .message) rendered listed word

/-- The code for a plain schema file declares the types that lie in the file itself and no others. -/
theorem readText_of_plain (acquired : g.loadTemplate = .ok template)
    (unset : g.options.fallbackPackage = .null) (plain : f.Plain) (built : g.build f = .ok stub)
    (named : g.scope stub = .ok names) (rendered : renderAll names template.content = .ok codes) :
    readText declarations codes.chars =
      f.enums.map (fun e => declared .enum e.name.toList) ++
        f.messages.map fun m => declared .message m.name.toList := by
  have language := kotlin.builtin.target
  have types : ∀ s ∈ g.buildOptions.types.texts, Text.OneLine s :=
    fun s member => Target.oneLine_of_types language member
  obtain ⟨file, typePrefix, made, lines, -, -, worded⟩ :=
    Stub.ofSchema_plain plain (fallbackPackage_plain language unset) types
  cases built.symm.trans made
  obtain ⟨enums, messages⟩ := Stub.ofSchema_types built kotlin.emits
  have own : g.Lines := lines_of_builtin language fun supported => absurd supported kotlin.unsupported
  have fit := own.scope_fit lines named
  have tells : Code.typesOutline.Tells Code.typeWording names (typeFacts stub) := by
    apply Code.tells_typesOutline (g.lookup_file named)
    · rw [enums, List.forall_mem_map]
      exact fun e member => (plain.enums e member).name.isWord
    · rw [messages, List.forall_mem_map]
      exact fun m member => (plain.messages m member).name.isWord
    · exact worded
  rw [Code.readText_renderAll Code.clear_declarations (kotlin.parts acquired).2 fit rendered tells,
    typeFacts, enums, messages, List.map_map, List.map_map]
  rfl

end

/-- What a file that is generated declares: the types that lie in its schema file, and no others if
that is plain. -/
theorem generateFile_types (acquired : g.loadTemplate = .ok template) {outputs : List OutputFile}
    (made : g.generateFile template f = .ok outputs) :
    ∃ name text, outputs = [⟨name, String.toUTF8 text⟩] ∧
      (∀ d, f.Lists d → checkName d.name = .ok () → DeclaresType text.toList d.kind d.name) ∧
      (f.Plain → g.options.fallbackPackage = .null → readText declarations text.toList =
        f.enums.map (fun e => declared .enum e.name.toList) ++
          f.messages.map fun m => declared .message m.name.toList) := by
  obtain ⟨stub, codes, text, built, filled, laid, rfl⟩ :=
    generateFile_perFile_ok g kotlin.whole made
  obtain ⟨names, named, rendered⟩ := (fillIn_ok_iff g).mp filled
  have whole := Loaded.render_ok_iff.mp rendered
  have same := Code.readText_tidyText Code.clear_declarations laid
  refine ⟨_, text, rfl, fun d lists identified => ?_, fun plain unset => ?_⟩
  · rw [DeclaresType, same]
    exact kotlin.declaresType_of_lists acquired built named whole lists identified
  · rw [same]
    exact kotlin.readText_of_plain acquired unset plain built named whole

end IsKotlin

/-- Whether a plain file declares a type, given all that its code declares. -/
theorem declaresType_iff_lists {text : List Char}
    (types : readText declarations text =
      f.enums.map (fun e => declared .enum e.name.toList) ++
        f.messages.map fun m => declared .message m.name.toList)
    {kind : TypeKind} {name : String} :
    DeclaresType text kind name ↔ ∃ d, f.Lists d ∧ d.kind = kind ∧ d.name = name := by
  rw [DeclaresType, types, List.mem_append, List.mem_map, List.mem_map]
  constructor
  · rintro (⟨e, member, same⟩ | ⟨m, member, same⟩)
    · obtain ⟨rfl, spelled⟩ := (Code.Fact.mk.injEq ..).mp same
      exact ⟨.enum e, .enum member, rfl, String.toList_inj.mp (List.head_eq_of_cons_eq spelled)⟩
    · obtain ⟨rfl, spelled⟩ := (Code.Fact.mk.injEq ..).mp same
      exact ⟨.message m.ref, .message member, rfl,
        String.toList_inj.mp (List.head_eq_of_cons_eq spelled)⟩
  · rintro ⟨d, lists, rfl, rfl⟩
    cases lists with
    | enum member => exact .inl ⟨_, member, rfl⟩
    | message member => exact .inr ⟨_, member, rfl⟩

/-- Every type that generated Kotlin refers to is declared in a file of the schema. If it lies in that
file itself, the code for the file declares it; the code for a plain file declares it only if a type
of its kind and name lies in the file itself. A type of another file can be referred to by its name,
unless its package is empty and nothing stands in for that. -/
theorem references_declared (g : Generator) (kotlin : g.IsKotlin)
    {descriptors : List FileDescriptor} {wanted : List Text.Raw} {stack : Stack}
    {files : List SchemaFile} (loaded : loadFiles descriptors wanted stack = .ok files)
    {template : Loaded}
    (acquired : g.loadTemplate = .ok template)
    (generated : ∀ f ∈ files, ∃ outputs, g.generateFile template f = .ok outputs)
    {f : SchemaFile} (member : f ∈ files) {d : Declaration} (names : f.Names d) :
    (∃ home ∈ files, ∃ scope, home.Homes scope d ∧ ∃ name text,
      g.generateFile template home = .ok [⟨name, String.toUTF8 text⟩] ∧
      (home.Lists d → DeclaresType text.toList d.kind d.name) ∧
      (home.Plain → g.options.fallbackPackage = .null →
        (DeclaresType text.toList d.kind d.name ↔
          ∃ other, home.Lists other ∧ other.kind = d.kind ∧ other.name = d.name))) ∧
    (d.file ≠ f.name → (d.package = "" → g.fallbackPackage.truthy = true) →
      ∃ stub, g.build f = .ok stub ∧
        Visible stub (Stub.typeRef g.buildOptions (.ofDeclaration d))) := by
  constructor
  · obtain ⟨home, listed, scope, homes⟩ := loadFiles_homed loaded f member d names
    obtain ⟨outputs, made⟩ := generated home listed
    obtain ⟨name, text, rfl, declares, types⟩ := kotlin.generateFile_types acquired made
    refine ⟨home, listed, scope, homes, name, text, made, ?_, ?_⟩
    · exact fun lists => declares d lists homes.named
    · exact fun plain unset => declaresType_iff_lists (types plain unset)
  · intro foreign named
    obtain ⟨outputs, made⟩ := generated f member
    obtain ⟨stub, codes, text, built, -⟩ := generateFile_perFile_ok g kotlin.whole made
    have emits : g.target.emitsTypes = true := kotlin.emits
    exact ⟨stub, built, visible_of_names emits built names foreign named⟩

/-- Kotlin without settings. -/
def plainKotlin : Generator where
  target := .kotlin
  options := {}

theorem plainKotlin_isKotlin : plainKotlin.IsKotlin := ⟨rfl, rfl, rfl⟩

theorem references_declared_namesakes : ∃ files f template,
    loadFiles namesakes [] = .ok files ∧ f ∈ files ∧
    f.Names (.message ⟨"Foo", "a.Foo", "a.proto", "a"⟩) ∧
    plainKotlin.loadTemplate = .ok template ∧
    (∃ home ∈ files, home.name = "a.proto" ∧ ∃ name text,
      plainKotlin.generateFile template home = .ok [⟨name, String.toUTF8 text⟩] ∧
      DeclaresType text.toList .message "Foo") ∧
    ∃ stub, plainKotlin.build f = .ok stub ∧ Visible stub ⟨"Foo", .text "a", "a"⟩ := by
  have evaluated : ∃ files ∈ (loadFiles namesakes []).toOption,
      (∀ home ∈ files, home.name = "a.proto" →
        ∃ m ∈ home.messages, m.ref = ⟨"Foo", "a.Foo", "a.proto", "a"⟩) ∧
      ∃ f ∈ files, f.name = "c.proto" ∧ f.services = [swap] := by decide +kernel
  obtain ⟨files, loaded, lists, f, member, own, services⟩ := ok_of_toOption evaluated
  obtain ⟨template, acquired, -⟩ := plainKotlin_isKotlin.builtin.load
  have generated (f : SchemaFile) : ∃ outputs, plainKotlin.generateFile template f = .ok outputs :=
    plainKotlin_isKotlin.builtin.generateFile_strings acquired f (.inl rfl) (.inl rfl)
  have names : f.Names (.message ⟨"Foo", "a.Foo", "a.proto", "a"⟩) := by
    have service : swap ∈ f.services := services ▸ List.mem_singleton_self _
    exact .input service (List.mem_singleton_self _)
  obtain ⟨⟨home, listed, scope, homes, name, text, made, declares, -⟩, visible⟩ :=
    references_declared plainKotlin plainKotlin_isKotlin loaded acquired (fun f _ => generated f)
      member names
  have here : home.name = "a.proto" := homes.file.symm
  obtain ⟨m, inside, same⟩ := lists home listed here
  have elsewhere : "a.proto" ≠ f.name := by
    rw [own]
    decide
  have stub := visible elsewhere fun empty => absurd empty (by decide)
  exact ⟨files, f, template, loaded, member, names, acquired,
    ⟨home, listed, here, name, text, made, declares (same ▸ .message inside)⟩, stub⟩

/-- A message with a field whose type it declares inside. -/
def nest : List FileDescriptor := [
  { name := some "o.proto", package := some "o"
    messages := [
      { name := some "Outer"
        fields := [
          { name := some "inner", number := some 1, label := some 1, type := some 11
            typeName := some ".o.Outer.Inner" }]
        messages := [{ name := some "Inner" }] }] }]

/-- The code for the message refers to the type inside, and the code for its file, which is all there
is, does not declare it. -/
theorem nest_undeclared : ∃ f template name text,
    loadFiles nest [] = .ok [f] ∧
    f.Names (.message ⟨"Inner", "o.Outer.Inner", "o.proto", "o"⟩) ∧ f.name = "o.proto" ∧
    plainKotlin.loadTemplate = .ok template ∧
    plainKotlin.generateFile template f = .ok [⟨name, String.toUTF8 text⟩] ∧
    ∀ kind, ¬ DeclaresType text.toList kind "Inner" := by
  have evaluated : ∃ files ∈ (loadFiles nest []).toOption, files.length = 1 ∧
      ∃ f ∈ files, f.Plain ∧ f.name = "o.proto" ∧
        (∃ m ∈ f.messages, ∃ field ∈ m.fields,
          field.message = some ⟨"Inner", "o.Outer.Inner", "o.proto", "o"⟩) ∧
        (∀ e ∈ f.enums, e.name ≠ "Inner") ∧ ∀ m ∈ f.messages, m.name ≠ "Inner" := by
    decide +kernel
  obtain ⟨files, loaded, alone, f, member, plain, own, ⟨m, message, field, inside, held⟩, enums,
    messages⟩ := ok_of_toOption evaluated
  obtain ⟨only, rfl⟩ := List.length_eq_one_iff.mp alone
  obtain rfl := List.mem_singleton.mp member
  obtain ⟨template, acquired, -⟩ := plainKotlin_isKotlin.builtin.load
  obtain ⟨outputs, made⟩ :=
    plainKotlin_isKotlin.builtin.generateFile_strings acquired f (.inl rfl) (.inl rfl)
  obtain ⟨name, text, rfl, -, types⟩ := plainKotlin_isKotlin.generateFile_types acquired made
  refine ⟨f, template, name, text, loaded, .field message inside (.message held), own, acquired, made,
    fun kind declares => ?_⟩
  obtain ⟨d, lists, -, named⟩ := (declaresType_iff_lists (types plain rfl)).mp declares
  cases lists with
  | enum member => exact enums _ member named
  | message member => exact messages _ member named

end Generator

end RpcBindings
