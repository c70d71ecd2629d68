import RpcBindings.Proofs.Stub.Plain
import RpcBindings.Proofs.Target.Generate

/-! Clients, handlers and routers of generated files meet: read line by line, the code that a language
generates for a plain schema passes the routes that it dispatches on, and treats a method in one way
in all three of them. -/
namespace RpcBindings

open Outcome Schema Template
open Text (CodePoints OneLine)

namespace Code

def Role.isPass : Role → Bool
  | passes _ => true
  | _ => false

def Role.isLabel : Role → Bool
  | label => true
  | _ => false

/-- The words of the facts with a role that is asked for, in order. -/
def wordsOf (role : Role → Bool) (facts : List (Fact Role (List Char))) : List (List Char) :=
  facts.flatMap fun fact => if role fact.role then fact.words else []

/-- The routes that clients pass to the runtime. -/
def passedRoutes : List (Fact Role (List Char)) → List (List Char) := wordsOf Role.isPass

/-- The routes that routers have cases for. -/
def labelledRoutes : List (Fact Role (List Char)) → List (List Char) := wordsOf Role.isLabel

theorem wordsOf_append (role : Role → Bool) (s t : List (Fact Role (List Char))) :
    wordsOf role (s ++ t) = wordsOf role s ++ wordsOf role t := List.flatMap_append

theorem wordsOf_flatMap {α : Type} (role : Role → Bool) (row : List α)
    (told : α → List (Fact Role (List Char))) :
    wordsOf role (row.flatMap told) = row.flatMap fun x => wordsOf role (told x) := by
  rw [wordsOf, List.flatMap_assoc]
  rfl

theorem wordsOf_aboutDeclared (role : Role → Bool) (typePrefix : String) (s : ServiceDecl)
    (told : Bool → List (Fact Role Slot)) :
    wordsOf role (aboutDeclared typePrefix s told) = s.methods.flatMap fun m =>
      wordsOf role ((told m.serverStreaming).map (Fact.map (Slot.declaredIn typePrefix s m))) :=
  wordsOf_flatMap role s.methods _

/-- The routes of a service are passed by its client and dispatched on by its router, and no others
are. -/
theorem Idiom.routes_declaredFacts (idiom : Idiom) (typePrefix : String) (s : ServiceDecl) :
    passedRoutes (idiom.declaredFacts typePrefix s) =
        s.methods.map (fun m => (s.name ++ "/" ++ m.name).toList) ∧
      labelledRoutes (idiom.declaredFacts typePrefix s) =
        s.methods.map fun m => (s.name ++ "/" ++ m.name).toList := by
  have none : (s.methods.flatMap fun _ => ([] : List (List Char))) = [] := by simp
  have route : (s.methods.flatMap fun m => [(s.name ++ "/" ++ m.name).toList]) =
      s.methods.map fun m => (s.name ++ "/" ++ m.name).toList :=
    List.flatMap_pure_eq_map _ _
  constructor
  · have client (m : MethodDecl) : wordsOf Role.isPass
        ((idiom.member m.serverStreaming).map (Fact.map (Slot.declaredIn typePrefix s m))) =
          [(s.name ++ "/" ++ m.name).toList] := by
      unfold member
      split <;> rfl
    have handler (m : MethodDecl) : wordsOf Role.isPass
        ((signature m.serverStreaming).map (Fact.map (Slot.declaredIn typePrefix s m))) = [] := rfl
    have router (m : MethodDecl) : wordsOf Role.isPass
        ((idiom.opening ++ answering m.serverStreaming).map
          (Fact.map (Slot.declaredIn typePrefix s m))) = [] := by
      cases m.serverStreaming <;>
        simp [opening, answering, wordsOf, Fact.map, Role.isPass]
    simp only [passedRoutes, declaredFacts, wordsOf_append, wordsOf_aboutDeclared, client, handler,
      router, none, route, List.append_nil]
  · have client (m : MethodDecl) : wordsOf Role.isLabel
        ((idiom.member m.serverStreaming).map (Fact.map (Slot.declaredIn typePrefix s m))) = [] := by
      unfold member
      split <;> rfl
    have handler (m : MethodDecl) : wordsOf Role.isLabel
        ((signature m.serverStreaming).map (Fact.map (Slot.declaredIn typePrefix s m))) = [] := rfl
    have router (m : MethodDecl) : wordsOf Role.isLabel
        ((idiom.opening ++ answering m.serverStreaming).map
          (Fact.map (Slot.declaredIn typePrefix s m))) = [(s.name ++ "/" ++ m.name).toList] := by
      cases m.serverStreaming <;>
        simp [opening, answering, wordsOf, Fact.map, Role.isLabel, Slot.declaredIn]
    simp only [labelledRoutes, declaredFacts, wordsOf_append, wordsOf_aboutDeclared, client, handler,
      router, none, route, List.nil_append]

end Code

/-- What a language puts before the names of types in the code for a schema file: where all types share
one namespace it comes from the package, or from the name that stands in for an empty one. -/
def Target.typePrefixIn (target : Target) (f : SchemaFile) : String :=
  if target.flatNamespace then
    Text.onString Identifier.typePrefix
      (if f.package = "" then target.fallbackPackage.getD "" else f.package)
  else ""

namespace Generator

open Code

variable {g : Generator}

theorem target_of_dialects {idiom : Idiom} (spoken : (g.target, idiom) ∈ dialects) :
    g.target ∈ Target.builtins := by
  rw [← targets_of_dialects]
  exact List.mem_map_of_mem spoken

/-- Without settings of its own a language stands a plain name in for empty packages, if any. -/
theorem fallbackPackage_plain (builtin : g.target ∈ Target.builtins)
    (unset : g.options.fallbackPackage = .null) : Stub.PlainFallback g.fallbackPackage := by
  cases own : g.target.fallbackPackage with
  | none => exact .inl (by simp [fallbackPackage, unset, own])
  | some s =>
    have plain : IsPathText s := (Target.builtins_plain g.target builtin).2 s own
    exact .inr ⟨s, by simp [fallbackPackage, unset, own, Value.string], plain⟩

/-- A language that comes with the program prints nothing but lines of its own, unless a text with line
feeds in it names its support file. -/
theorem lines_of_settings (builtin : g.target ∈ Target.builtins)
    (output : g.target.support.isSome = true → ∀ s, g.options.runtimeOutput = .text s → OneLine s) :
    g.Lines where
  language := Target.oneLine_of_texts builtin (by simp [Target.texts])
  support := by
    intro s name
    cases held : g.target.support with
    | none => simp [supportName, held] at name
    | some asset =>
      rw [supportName_of_support g held] at name
      split at name
      · exact output (by simp [held]) s name
      · cases name
        exact Target.oneLine_of_texts builtin (by simp [Target.texts, held])
  imports := by
    intro suffix style
    exact Target.oneLine_of_texts builtin (by simp [Target.texts, style])

theorem lines_of_builtin (builtin : g.target ∈ Target.builtins)
    (unnamed : g.target.support.isSome = true → g.options.runtimeOutput = .null) : g.Lines :=
  lines_of_settings builtin fun supported s text => by
    rw [unnamed supported] at text
    cases text

theorem clear_of_dialects {target : Target} {idiom : Idiom} (spoken : (target, idiom) ∈ dialects) :
    ∀ p ∈ idiom.phrases, p.isClear = true :=
  List.all_eq_true.mp (Bool.and_eq_true_iff.mp (fits_of_dialects spoken)).1

/-- A file written in an idiom says of its services what the idiom does. -/
theorem readText_fillIn {idiom : Idiom} {template : Loaded} {file : Stub.File} {text : CodePoints}
    (spoken : (g.target, idiom) ∈ dialects)
    (loaded : load g.target.templateName g.target.template = .ok template)
    (own : g.Lines) (lines : file.Lines) (worded : ∀ s ∈ file.services, Worded s)
    (filled : g.fillIn template file none = .ok text) :
    readText idiom.phrases text.chars = file.services.flatMap idiom.serviceFacts := by
  obtain ⟨names, named, rendered⟩ := (fillIn_ok_iff g).mp filled
  have outlined := (Bool.and_eq_true_iff.mp (fits_of_dialects spoken)).2
  rw [parse_of_load loaded] at outlined
  exact readText_renderAll (clear_of_dialects spoken) (of_decide_eq_true outlined)
    (own.scope_fit lines named) (Loaded.render_ok_iff.mp rendered)
    (tells_ofFile idiom (g.lookup_file named) worded)

theorem flatPrefix_unset (unset : g.options.fallbackPackage = .null) (f : SchemaFile) :
    Stub.flatPrefix (Stub.resolvePackage f.package g.fallbackPackage) g.buildOptions =
      .ok (.string (g.target.typePrefixIn f)) := by
  have flat : g.buildOptions.flatNamespace = g.target.flatNamespace := rfl
  have package : Stub.resolvePackage f.package g.fallbackPackage =
      .text (.string (if f.package = "" then g.target.fallbackPackage.getD "" else f.package)) := by
    by_cases empty : f.package = ""
    · cases own : g.target.fallbackPackage with
      | none => simp [Stub.resolvePackage, fallbackPackage, unset, own, empty, Value.truthy]
      | some s =>
        by_cases blank : s = "" <;>
          simp [Stub.resolvePackage, fallbackPackage, unset, own, empty, blank, Value.truthy, Value.string]
    · simp [Stub.resolvePackage, empty]
  rw [package, Target.typePrefixIn]
  unfold Stub.flatPrefix
  rw [flat]
  split <;> rfl

/-- The file that a language generates for a plain schema file says, for each declared service in order,
what the client, the handler and the router do with each declared method: whether they treat its answers
as a stream, under which name, with which types and on which route. The routes that clients pass are
those that routers dispatch on: all methods of all services, in the order of declaration. -/
theorem generateFile_services (g : Generator) {idiom : Idiom} (spoken : (g.target, idiom) ∈ dialects)
    (own : g.template = some g.target.template) (unset : g.options.fallbackPackage = .null)
    (unnamed : g.options.runtimeOutput = .null) (whole : g.granularity = .perFile)
    (f : SchemaFile) (plain : f.Plain) :
    ∃ (template : Loaded) (name : String) (text : String),
      g.loadTemplate = .ok template ∧
      g.generateFile template f = .ok [⟨name, text.toUTF8⟩] ∧
      readText idiom.phrases text.toList =
        f.services.flatMap (idiom.declaredFacts (g.target.typePrefixIn f)) ∧
      passedRoutes (readText idiom.phrases text.toList) =
        f.services.flatMap (fun s => s.methods.map fun m => (s.name ++ "/" ++ m.name).toList) ∧
      labelledRoutes (readText idiom.phrases text.toList) =
        f.services.flatMap fun s => s.methods.map fun m => (s.name ++ "/" ++ m.name).toList := by
  have builtin := target_of_dialects spoken
  have types : ∀ s ∈ g.buildOptions.types.texts, OneLine s :=
    fun s member => Target.oneLine_of_types builtin member
  obtain ⟨file, typePrefix, built, lines, made, services, worded⟩ :=
    Stub.ofSchema_plain plain (fallbackPackage_plain builtin unset) types
  obtain rfl : g.target.typePrefixIn f = typePrefix :=
    CodePoints.string.inj (Except.ok.inj ((flatPrefix_unset unset f).symm.trans made))
  have language : g.Builtin := ⟨builtin, own⟩
  obtain ⟨template, loaded, -⟩ := language.load
  obtain ⟨outputs, generated⟩ := language.generateFile_strings loaded f (.inl unset) (.inl unnamed)
  obtain ⟨_, codes, text, remade, filled, laid, rfl⟩ := generateFile_perFile_ok g whole generated
  cases built.symm.trans remade
  have read : load g.target.templateName g.target.template = .ok template := by
    rw [← loaded, loadTemplate, own]
  have oneLine := lines_of_builtin builtin fun _ => unnamed
  have told := readText_fillIn spoken read oneLine lines worded filled
  have facts : readText idiom.phrases text.toList =
      f.services.flatMap (idiom.declaredFacts (g.target.typePrefixIn f)) := by
    rw [services, List.flatMap_map] at told
    simp only [Idiom.serviceFacts_buildService] at told
    rw [← told]
    exact readText_tidyText (clear_of_dialects spoken) laid
  have routes (role : Role → Bool) (each : ∀ s : ServiceDecl,
      wordsOf role (idiom.declaredFacts (g.target.typePrefixIn f) s) =
        s.methods.map fun m => (s.name ++ "/" ++ m.name).toList) :
      wordsOf role (readText idiom.phrases text.toList) =
        f.services.flatMap fun s => s.methods.map fun m => (s.name ++ "/" ++ m.name).toList := by
    simp only [facts, wordsOf_flatMap, each]
  exact ⟨template, _, text, loaded, generated, facts,
    routes Role.isPass fun s => (idiom.routes_declaredFacts _ s).1,
    routes Role.isLabel fun s => (idiom.routes_declaredFacts _ s).2⟩

/-- A service with a method of either kind. -/
def greeter : SchemaFile :=
  let hello : MessageRef := ⟨"Hello", "acme.v1.Hello", "acme/greeter.proto", "acme.v1"⟩
  let reply : MessageRef := ⟨"Reply", "acme.v1.Reply", "acme/greeter.proto", "acme.v1"⟩
  { name := "acme/greeter.proto"
    package := "acme.v1"
    generate := true
    enums := []
    messages := [⟨"Hello", "acme.v1.Hello", "acme/greeter.proto", "acme.v1", false, [], [], []⟩,
      ⟨"Reply", "acme.v1.Reply", "acme/greeter.proto", "acme.v1", false, [], [], []⟩]
    services := [⟨"Greeter", "acme.v1.Greeter",
      [⟨"Greet", hello, reply, false⟩, ⟨"Watch", hello, reply, true⟩]⟩] }

/-- What Swift code says of the service: a call and a stream in the client, both signatures in the
handler, and in the router one answer, or chunks and an end. -/
def greeterFacts : List (Fact Role String) := [
  ⟨.client false, ["greet", "Acme_V1_Hello", "Acme_V1_Reply"]⟩, ⟨.passes false, ["Greeter/Greet"]⟩,
  ⟨.decodes, ["Acme_V1_Reply"]⟩,
  ⟨.client true, ["watch", "Acme_V1_Hello", "Acme_V1_Reply"]⟩, ⟨.passes true, ["Greeter/Watch"]⟩,
  ⟨.decodes, ["Acme_V1_Reply"]⟩,
  ⟨.handler false, ["greet", "Acme_V1_Hello", "Acme_V1_Reply"]⟩,
  ⟨.handler true, ["watch", "Acme_V1_Hello", "Acme_V1_Reply"]⟩,
  ⟨.label, ["Greeter/Greet"]⟩, ⟨.receives, ["Acme_V1_Hello"]⟩, ⟨.receives, ["Acme_V1_Hello"]⟩,
  ⟨.asks false, ["greet"]⟩, ⟨.answer, []⟩,
  ⟨.label, ["Greeter/Watch"]⟩, ⟨.receives, ["Acme_V1_Hello"]⟩, ⟨.receives, ["Acme_V1_Hello"]⟩,
  ⟨.asks true, ["watch"]⟩, ⟨.chunk, []⟩, ⟨.finish, []⟩]

theorem generateFile_services_greeter :
    greeter.Plain ∧ ∃ (template : Loaded) (name : String) (text : String),
      (⟨.swift, { language := "swift" }, some Target.swift.template⟩ : Generator).loadTemplate =
        .ok template ∧
      (⟨.swift, { language := "swift" }, some Target.swift.template⟩ : Generator).generateFile
        template greeter = .ok [⟨name, text.toUTF8⟩] ∧
      readText swift.phrases text.toList = greeterFacts.map (Fact.map String.toList) ∧
      passedRoutes (readText swift.phrases text.toList) =
        ["Greeter/Greet".toList, "Greeter/Watch".toList] ∧
      labelledRoutes (readText swift.phrases text.toList) =
        ["Greeter/Greet".toList, "Greeter/Watch".toList] := by
  have spoken : (Target.swift, swift) ∈ dialects := by simp [dialects]
  have plain : greeter.Plain := by decide +kernel
  obtain ⟨template, name, text, loaded, generated, facts, passed, labelled⟩ :=
    generateFile_services ⟨.swift, { language := "swift" }, some Target.swift.template⟩ spoken
      rfl rfl rfl rfl greeter plain
  have declared : greeter.services.flatMap
      (swift.declaredFacts (Target.swift.typePrefixIn greeter)) =
        greeterFacts.map (Fact.map String.toList) := by
    decide +kernel
  have routes : (greeter.services.flatMap fun s => s.methods.map fun m =>
      (s.name ++ "/" ++ m.name).toList) = ["Greeter/Greet".toList, "Greeter/Watch".toList] := by
    decide +kernel
  exact ⟨plain, template, name, text, loaded, generated, facts.trans declared,
    passed.trans routes, labelled.trans routes⟩

end Generator

end RpcBindings
