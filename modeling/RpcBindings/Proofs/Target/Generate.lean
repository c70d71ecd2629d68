import RpcBindings.Proofs.Run.Failure
import RpcBindings.Proofs.Stub.Build
import RpcBindings.Proofs.Target.Template

/-! What the languages generate with their own templates. No name or attribute that a template
reaches is undefined, so that a file can only fail where a value that is no text takes the place of
one, or where its text cannot be encoded. -/
namespace RpcBindings

open Outcome Schema Template
open Text (CodePoints)

/-- Whether a setting is left out or is a good text. -/
def Value.UnsetOr (good : CodePoints → Prop) (v : Value) : Prop :=
  v = .null ∨ ∃ s, v = .text s ∧ good s

instance Value.decidableNull : (v : Value) → Decidable (v = .null)
  | null => .isTrue rfl
  | bool _ | int _ | real _ | text _ | list _ | tuple _ | dict _ | record .. | method ..
  | builtin .. | type _ => .isFalse (by simp)

/-- Whether a row of code points is a string, so that it can be encoded. -/
def Text.IsString (s : CodePoints) : Prop := ∃ text, s = .string text

theorem Text.isString_inherited : Stub.Inherited Text.IsString where
  string s := ⟨s, rfl⟩
  append := by
    rintro _ _ ⟨s, rfl⟩ ⟨t, rfl⟩
    exact ⟨s ++ t, rfl⟩
  typePrefix := by
    rintro _ ⟨s, rfl⟩
    exact ⟨_, rfl⟩

theorem Text.any_inherited : Stub.Inherited fun _ => True where
  string _ := trivial
  append _ _ := trivial
  typePrefix _ := trivial

theorem Layout.tidyText_ok {codes : CodePoints} {text : String} (laid : tidyText codes = .ok text) :
    ∃ s, codes = .string s ∧ Text.onString tidy s = text := by
  cases codes with
  | string s => exact ⟨s, rfl, Except.ok.inj laid⟩
  | broken codes => cases laid

theorem Layout.tidyText_error {text : CodePoints} {fault : Text.EncodeFault}
    (failed : tidyText text = .error fault) : ¬ Text.IsString text := by
  rintro ⟨s, rfl⟩
  cases failed

theorem Template.Loaded.render_ok_iff {template : Loaded} {names : Scope} {text : CodePoints} :
    template.render names = .ok text ↔ renderAll names template.content = .ok text := by
  cases done : renderAll names template.content <;> simp [LoadedBy.render, done]

theorem Template.parse_of_load {name text : String} {template : Loaded}
    (loaded : load name text = .ok template) : parse text.toList = .ok template.content := by
  unfold load at loaded
  split at loaded
  case h_1 nodes parsed =>
    cases loaded
    exact parsed
  case h_2 => cases loaded

namespace Generator

variable (g : Generator)

/-- Whether a generator has one of the languages that come with the program and its template. -/
structure Builtin : Prop where
  target : g.target ∈ Target.builtins
  template : g.template = some g.target.template

/-! ### Settings -/

section

variable {good : CodePoints → Prop}

theorem fallbackPackage_unsetOr (inherited : Inherited good)
    (set : g.options.fallbackPackage.UnsetOr good) : g.fallbackPackage.UnsetOr good := by
  rcases set with unset | ⟨s, text, fine⟩
  · cases own : g.target.fallbackPackage with
    | none => exact .inl (by simp [fallbackPackage, unset, own])
    | some s => exact .inr ⟨.string s, by simp [fallbackPackage, unset, own, Value.string],
        inherited.string s⟩
  · exact .inr ⟨s, by simp [fallbackPackage, text], fine⟩

/-- Without a setting for it, the support file goes by a string. -/
theorem supportName_text (inherited : Inherited good) {asset : SupportFile}
    (held : g.target.support = some asset) (set : g.options.runtimeOutput.UnsetOr good) :
    ∃ s, g.supportName = .text s ∧ good s := by
  rw [supportName_of_support g held]
  rcases set with unset | ⟨s, text, fine⟩
  · exact ⟨.string asset.name, by simp [unset, Value.truthy], inherited.string _⟩
  · rw [text]
    by_cases named : (Value.text s).truthy = true
    · exact ⟨s, by simp [named], fine⟩
    · exact ⟨.string asset.name, by simp [named], inherited.string _⟩

theorem leaf_fits_of_unsetOr (inherited : Inherited good) {v : Value} (set : v.UnsetOr good) :
    Shape.leaf.Fits good v := by
  rcases set with rfl | ⟨s, rfl, fine⟩
  · exact ⟨inherited.string _, inherited.string _⟩
  · exact text_fits fine

/-- A text is all that can stand in for an empty package. -/
theorem resolvePackage_text {fallback : Value} (set : fallback.UnsetOr good) (package : String) :
    ∃ p, Stub.resolvePackage package fallback = .text p := by
  cases resolved : Stub.resolvePackage package fallback with
  | text p => exact ⟨p, rfl⟩
  | standIn =>
    obtain ⟨-, holds, noText⟩ := Stub.resolvePackage_standIn_iff.mp resolved
    rcases set with rfl | ⟨s, rfl, -⟩
    · cases holds
    · exact absurd rfl (noText s)

/-- With a text for empty packages every schema file can be put into the terms of a language. -/
theorem exists_build (set : g.fallbackPackage.UnsetOr good) (f : SchemaFile) :
    ∃ stub, g.build f = .ok stub := by
  refine ok_of_not_error fun cause failed => ?_
  have never (package : String) : Stub.resolvePackage package g.fallbackPackage ≠ .standIn := by
    obtain ⟨p, resolved⟩ := resolvePackage_text set package
    rw [resolved]
    nofun
  cases Stub.ofSchema_error_iff.mp failed with
  | noPrefix _ stands => exact never f.package stands
  | noLookup _ member stands _ =>
    obtain ⟨r, -, rfl⟩ := List.mem_map.mp member
    exact never r.package stands

/-! ### Names for the template -/

/-- Only a support file that is named by a value that is no text has no path. -/
theorem importScope_error_iff {f : Stub.File} {cause : Breakdown} :
    g.importScope f = .error cause ↔ (∃ suffix, g.target.imports = .relativePaths suffix) ∧
      g.supportName.NoText ∧ cause = .notAppendable g.supportName.typeName := by
  cases style : g.target.imports with
  | nothing => simp [importScope, style]
  | qualifiedNames => simp [importScope, style]
  | relativePaths suffix =>
    cases name : g.supportName <;>
      simp [importScope, style, name, supportImport, Value.NoText, eq_comm]

theorem scope_error_iff {f : Stub.File} {cause : Breakdown} :
    g.scope f = .error cause ↔ g.importScope f = .error cause := by
  simp [scope, surroundings, bind_error_iff]

theorem typeImports_good (inherited : Inherited good) {f : Stub.File} (fine : f.Good good) :
    ∀ s ∈ typeImports f, good s := by
  intro s member
  obtain ⟨t, listed, -, rfl⟩ := mem_typeImports.mp member
  exact inherited.append (fine.references t listed).2 (inherited.string _)

theorem importScope_fit (inherited : Inherited good) {f : Stub.File} {names : Scope}
    (fine : f.Good good) (named : ∀ s, g.supportName = .text s → good s)
    (made : g.importScope f = .ok names) : g.target.imports.shapes.Fit good names := by
  unfold importScope at made
  cases style : g.target.imports with
  | nothing =>
    rw [style] at made
    cases made
    exact Shapes.fit_nil _
  | qualifiedNames =>
    rw [style] at made
    cases made
    have imports : (Shape.row .leaf).Fits good (.list ((typeImports f).map Value.text)) :=
      row_fits rfl fun s member => text_fits (typeImports_good inherited fine s member)
    exact (Shapes.fit_nil _).cons imports "type_imports"
  | relativePaths suffix =>
    simp only [style] at made
    obtain ⟨path, found, rest⟩ := bind_ok_iff.mp made
    cases rest
    have support : good path := by
      cases name : g.supportName with
      | text s =>
        rw [name] at found
        cases found
        exact inherited.append (inherited.string _) (named s name)
      | _ => rw [name] at found; cases found
    have others :
        (Shape.row .leaf).Fits good (.list ((dependencyImports f suffix).map Value.string)) :=
      row_fits rfl fun s _ => Stub.string_fits inherited s
    exact (((Shapes.fit_nil _).cons others "dependency_imports").cons
      (Stub.string_fits inherited _) "messages_import").cons (text_fits support) "runtime_import"

/-- The template finds the file under its name. -/
theorem lookup_file {f : Stub.File} {names : Scope} (made : g.scope f = .ok names) :
    names.lookup "file" = some f.view := by
  obtain ⟨around, -, rest⟩ := bind_ok_iff.mp made
  cases rest
  rfl

theorem scope_fit (inherited : Inherited good) {f : Stub.File} {names : Scope}
    (fine : f.Good good) (named : ∀ s, g.supportName = .text s → good s)
    (made : g.scope f = .ok names) : g.target.shapes.Fit good names := by
  obtain ⟨around, surrounded, rest⟩ := bind_ok_iff.mp made
  cases rest
  obtain ⟨imports, imported, rest⟩ := bind_ok_iff.mp surrounded
  cases rest
  have others := g.importScope_fit inherited fine named imported
  exact (((others.cons (Stub.string_fits inherited _) "language").cons
    (bool_fits inherited _) "add_comments").cons (Stub.string_fits inherited _) "generator").cons
    (Stub.File.view_fits inherited fine) "file"

/-! ### Generating -/

variable {g} {template : Loaded}

theorem Builtin.load (builtin : g.Builtin) :
    ∃ template, g.loadTemplate = .ok template ∧ allPass g.target.shapes template.content = true := by
  obtain ⟨nodes, loaded, passes⟩ :=
    Target.load_of_accepts (Target.accepts_builtin builtin.target) g.target.templateName
  refine ⟨⟨g.target.templateName, nodes⟩, ?_, passes⟩
  rw [loadTemplate, builtin.template]
  exact loaded

/-- The template of a language never fails on a file, and what it gives is good if the texts of the
file and the name of the support file are. -/
theorem Builtin.render_good (builtin : g.Builtin) (inherited : Inherited good)
    (loaded : g.loadTemplate = .ok template) {f : Stub.File} {names : Scope} (fine : f.Good good)
    (named : ∀ s, g.supportName = .text s → good s) (made : g.scope f = .ok names) :
    ∃ text, template.render names = .ok text ∧ good text := by
  obtain ⟨own, read, passes⟩ := builtin.load
  cases read.symm.trans loaded
  have fit := g.scope_fit inherited fine named made
  obtain ⟨text, done, good⟩ := renderAll_good inherited template.content _ names fit passes
  exact ⟨text, by simp [LoadedBy.render, done], good⟩

/-- Why a part of a file gives no text: the support file has no path, or the text no bytes. -/
theorem Builtin.partFailure (builtin : g.Builtin) (inherited : Inherited good)
    (loaded : g.loadTemplate = .ok template) {name : String} {part : Stub.File}
    {service : Option String} {fault : FileFault} (fine : part.Good good)
    (named : ∀ s, g.supportName = .text s → good s)
    (failure : g.PartFailure template name part service fault) :
    (∃ cause, g.importScope part = .error cause ∧ fault = .broken cause) ∨
      ∃ text cause, good text ∧ Layout.tidyText text = .error cause ∧
        fault = .broken (.notBytes cause) := by
  cases failure with
  | names failed => exact .inl ⟨_, (scope_error_iff g).mp failed, rfl⟩
  | template made failed =>
    obtain ⟨text, done, -⟩ := builtin.render_good inherited loaded fine named made
    cases done.symm.trans failed
  | breakdown made failed =>
    obtain ⟨text, done, -⟩ := builtin.render_good inherited loaded fine named made
    cases done.symm.trans failed
  | bytes made rendered failed =>
    obtain ⟨_, done, good⟩ := builtin.render_good inherited loaded fine named made
    cases done.symm.trans rendered
    exact .inr ⟨_, _, good, failed, rfl⟩

theorem Builtin.fileFailure (builtin : g.Builtin) (inherited : Stub.Inherited good)
    (loaded : g.loadTemplate = .ok template) {f : SchemaFile} {fault : FileFault}
    (fits : Shape.leaf.Fits good g.fallbackPackage)
    (named : ∀ s, g.supportName = .text s → good s)
    (failed : g.generateFile template f = .error fault) :
    (∃ cause, Stub.BuildFailure f g.buildOptions cause ∧ fault = .broken cause) ∨
      (∃ part cause, g.importScope part = .error cause ∧ fault = .broken cause) ∨
      ∃ text cause, good text ∧ Layout.tidyText text = .error cause ∧
        fault = .broken (.notBytes cause) := by
  cases (generateFile_error_iff g).mp failed with
  | build unbuilt => exact .inl ⟨_, Stub.ofSchema_error_iff.mp unbuilt, rfl⟩
  | whole built _ failure =>
    have fine := Stub.ofSchema_good inherited fits built
    rcases builtin.partFailure inherited.toInherited loaded fine named failure with
      ⟨cause, unnamed, rfl⟩ | unencoded
    · exact .inr (.inl ⟨_, cause, unnamed, rfl⟩)
    · exact .inr (.inr unencoded)
  | @service file before s after _ built _ split _ failure =>
    have member : s ∈ file.services := by simp [split]
    have fine := (Stub.ofSchema_good inherited fits built).forService member
    rcases builtin.partFailure inherited.toInherited loaded fine named failure with
      ⟨cause, unnamed, rfl⟩ | unencoded
    · exact .inr (.inl ⟨_, cause, unnamed, rfl⟩)
    · exact .inr (.inr unencoded)

/-- A language whose files import the support file has one. -/
theorem Builtin.support_of_relativePaths (builtin : g.Builtin) {suffix : String}
    (style : g.target.imports = .relativePaths suffix) :
    ∃ asset, g.target.support = some asset := by
  have member := builtin.target
  simp only [Target.builtins, List.mem_cons, List.not_mem_nil, or_false] at member
  rcases member with same | same | same
  · rw [same] at style; cases style
  · rw [same] at style; cases style
  · exact ⟨_, by rw [same]; rfl⟩

/-- With texts for its settings a language fails on no file but where a text cannot be encoded. The name
of the support file only counts where there is one. -/
theorem Builtin.failure_unencoded (builtin : g.Builtin) (inherited : Stub.Inherited good)
    (loaded : g.loadTemplate = .ok template) {f : SchemaFile} {fault : FileFault}
    (fallback : g.options.fallbackPackage.UnsetOr good)
    (output : g.target.support.isSome = true → g.options.runtimeOutput.UnsetOr good)
    (failed : g.generateFile template f = .error fault) :
    ∃ text cause, good text ∧ Layout.tidyText text = .error cause ∧
      fault = .broken (.notBytes cause) := by
  have standIn := g.fallbackPackage_unsetOr inherited.toInherited fallback
  have fits := leaf_fits_of_unsetOr inherited.toInherited standIn
  have supported {asset : SupportFile} (held : g.target.support = some asset) :
      ∃ s, g.supportName = .text s ∧ good s :=
    g.supportName_text inherited.toInherited held (output (held ▸ rfl))
  have named : ∀ s, g.supportName = .text s → good s := by
    intro s name
    cases held : g.target.support with
    | none => simp [supportName, held] at name
    | some asset =>
      obtain ⟨t, text, fine⟩ := supported held
      cases name.symm.trans text
      exact fine
  rcases builtin.fileFailure inherited loaded fits named failed with
    ⟨cause, unbuilt, rfl⟩ | ⟨part, cause, unnamed, rfl⟩ | unencoded
  · obtain ⟨stub, built⟩ := g.exists_build standIn f
    cases built.symm.trans (Stub.ofSchema_error_iff.mpr unbuilt)
  · obtain ⟨⟨suffix, style⟩, noText, rfl⟩ := (importScope_error_iff g).mp unnamed
    obtain ⟨asset, held⟩ := builtin.support_of_relativePaths style
    obtain ⟨s, text, -⟩ := supported held
    exact absurd text (noText s)
  · exact unencoded

/-- With texts for its settings a language fails on no file but where a text cannot be encoded, and
there is none of those if the settings are strings. -/
theorem Builtin.encoding_failure (builtin : g.Builtin) (inherited : Stub.Inherited good)
    (loaded : g.loadTemplate = .ok template) {f : SchemaFile} {fault : FileFault}
    (fallback : g.options.fallbackPackage.UnsetOr good)
    (output : g.options.runtimeOutput.UnsetOr good)
    (failed : g.generateFile template f = .error fault) :
    ∃ text cause, good text ∧ Layout.tidyText text = .error cause ∧
      fault = .broken (.notBytes cause) :=
  builtin.failure_unencoded inherited loaded fallback (fun _ => output) failed

/-- With strings for its settings a language fails on no file. -/
theorem Builtin.generateFile_strings (builtin : g.Builtin) (loaded : g.loadTemplate = .ok template)
    (f : SchemaFile) (fallback : g.options.fallbackPackage.UnsetOr Text.IsString)
    (output : g.options.runtimeOutput.UnsetOr Text.IsString) :
    ∃ outputs, g.generateFile template f = .ok outputs := by
  refine ok_of_not_error fun fault failed => ?_
  obtain ⟨text, cause, string, unencoded, -⟩ :=
    builtin.encoding_failure Text.isString_inherited loaded fallback output failed
  exact Layout.tidyText_error unencoded string

end

/-- A language with its own template generates every schema file, as a whole or by its services,
whatever is declared in it. It can only fail where a text of the settings is no string. -/
theorem generateFile_builtin (g : Generator) (builtin : g.Builtin) (f : SchemaFile)
    (fallback : g.options.fallbackPackage.UnsetOr fun _ => True)
    (output : g.options.runtimeOutput.UnsetOr fun _ => True) :
    ∃ template, g.loadTemplate = .ok template ∧
      (∀ fault, g.generateFile template f = .error fault → ∃ cause, fault = .broken (.notBytes cause)) ∧
      (g.options.fallbackPackage.UnsetOr Text.IsString →
        g.options.runtimeOutput.UnsetOr Text.IsString →
        ∃ outputs, g.generateFile template f = .ok outputs) := by
  obtain ⟨template, loaded, -⟩ := builtin.load
  refine ⟨template, loaded, ?_, ?_⟩
  · intro fault failed
    obtain ⟨-, cause, -, -, rfl⟩ :=
      builtin.encoding_failure Text.any_inherited loaded fallback output failed
    exact ⟨cause, rfl⟩
  · exact builtin.generateFile_strings loaded f

/-- A schema file without a package that declares an enum with values and one without, messages with
fields of all cardinalities, of an enum, of messages here and in another file and of no known type, a
message without fields, a service with methods of both kinds and one without methods. -/
def bazaar : SchemaFile :=
  let color : EnumDecl := ⟨"Color", "Color", "shop/bazaar.proto", "", [⟨"RED", 0⟩, ⟨"GREEN", -7⟩]⟩
  let ware : MessageRef := ⟨"Ware", "Ware", "shop/bazaar.proto", ""⟩
  let price : MessageRef := ⟨"Price", "base.Price", "shop/base/money.proto", "base"⟩
  { name := "shop/bazaar.proto"
    package := ""
    generate := true
    enums := [color, ⟨"Void", "Void", "shop/bazaar.proto", "", []⟩]
    messages := [
      ⟨"Ware", "Ware", "shop/bazaar.proto", "", false, [
        ⟨"name", 1, some .string, .required, none, none⟩,
        ⟨"color", 2, some .enum, .optional, some color, none⟩,
        ⟨"prices", 3, some .message, .repeated, none, some price⟩,
        ⟨"spare", 4, some .message, .optional, none, some ware⟩,
        ⟨"lost", 5, some .enum, .repeated, none, none⟩,
        ⟨"unknown", 6, none, .optional, none, none⟩], [], []⟩,
      ⟨"Nothing", "Nothing", "shop/bazaar.proto", "", false, [], [], []⟩]
    services := [
      ⟨"Stall", "Stall", [⟨"Buy", ware, price, false⟩, ⟨"Watch", price, ware, true⟩]⟩,
      ⟨"Idle", "Idle", []⟩] }

/-- A language with strings for the package of files without one and for the name of its support file. -/
def trader (target : Target) (granularity : Granularity) : Generator where
  target := target
  options := {
    fallbackPackage := .text "market.place"
    granularity := some granularity
    runtimeOutput := .text "lib/support.rt" }

/-- Whether a generator has a template and generates a file with it. -/
def Generates (g : Generator) (f : SchemaFile) : Prop :=
  ∃ template outputs, g.loadTemplate = .ok template ∧ g.generateFile template f = .ok outputs

theorem generateFile_builtin_bazaar :
    (trader Target.kotlin .perFile).Generates bazaar ∧
    (trader Target.swift .perService).Generates bazaar ∧
    (trader Target.dart .perFile).Generates bazaar := by
  have each (target : Target) (own : target ∈ Target.builtins) (granularity : Granularity) :
      (trader target granularity).Generates bazaar := by
    have fallback : Text.IsString "market.place" := ⟨_, rfl⟩
    have output : Text.IsString "lib/support.rt" := ⟨_, rfl⟩
    obtain ⟨template, loaded, -, done⟩ := generateFile_builtin (trader target granularity)
      ⟨own, rfl⟩ bazaar (.inr ⟨_, rfl, trivial⟩) (.inr ⟨_, rfl, trivial⟩)
    obtain ⟨outputs, generated⟩ := done (.inr ⟨_, rfl, fallback⟩) (.inr ⟨_, rfl, output⟩)
    exact ⟨template, outputs, loaded, generated⟩
  exact ⟨each _ (by simp [Target.builtins]) _, each _ (by simp [Target.builtins]) _,
    each _ (by simp [Target.builtins]) _⟩

/-- A schema file that declares nothing, not even a package. -/
def blank : SchemaFile := ⟨"a.proto", "", true, [], [], []⟩

/-- Kotlin with half of a surrogate pair for the package of files without one. -/
def surrogate : Generator where
  target := Target.kotlin
  options := { language := "kotlin", fallbackPackage := .text (.broken [0xD800]) }

/-- Whether a part of a template prints the package of its file. -/
def printsPackage : Template.Node → Bool
  | .print (.member (.var "file") "package_name") => true
  | _ => false

set_option maxRecDepth 100000 in
theorem kotlin_printsPackage :
    (parse Target.kotlin.template.toList).toOption.any (·.any printsPackage) = true := by
  have text : Target.kotlin.template.toList = _ := Target.toList_ofLines _
  rw [text]
  simp only [List.flatMap_cons, List.flatMap_nil]
  repeat rw [String.toList_ofList]
  decide +kernel

theorem printsPackage_iff {node : Template.Node} :
    printsPackage node = true ↔ node = .print (.member (.var "file") "package_name") := by
  unfold printsPackage
  split <;> simp_all

/-- Where a template prints the package of a file, its code points stand in the text. -/
theorem package_written {template : Loaded} {f : Stub.File} {package text : CodePoints} {names : Scope}
    (own : f.package = .text package) (prints : template.content.any printsPackage = true)
    (named : g.scope f = .ok names) (rendered : template.render names = .ok text) {code : Nat}
    (member : code ∈ package.codes) : code ∈ text.codes := by
  obtain ⟨node, part, printed⟩ := List.any_eq_true.mp prints
  cases printsPackage_iff.mp printed
  obtain ⟨around, -, rest⟩ := bind_ok_iff.mp named
  cases rest
  have held := f.held_package
  rw [own] at held
  have here : Node.render (("file", f.view) :: around)
      (.print (.member (.var "file") "package_name")) = .ok package := by
    have value : attributeOf f.view "package_name" = .ok (.text package) := attributeOf_held held
    simp [Node.render, Expr.eval, value, shown, Value.asText]
  exact codes_renderAll part (Loaded.render_ok_iff.mp rendered) here member

/-- A text that is no string is a text all the same, and a file that has it in its package is not
generated. -/
theorem generateFile_surrogate_fails : surrogate.Builtin ∧
    surrogate.options.fallbackPackage = .text (.broken [0xD800]) ∧
    ∃ template cause, surrogate.loadTemplate = .ok template ∧
      surrogate.generateFile template blank = .error (.broken (.notBytes cause)) := by
  have builtin : surrogate.Builtin := ⟨List.mem_cons_self, rfl⟩
  obtain ⟨template, loaded, -⟩ := builtin.load
  refine ⟨builtin, rfl, template, ?_⟩
  rcases ok_or_error (surrogate.generateFile template blank) with
    ⟨outputs, generated⟩ | ⟨fault, failed⟩
  · -- The surrogate of the package would stand in the text of the output, which is a string.
    obtain ⟨file, built, package⟩ : ∃ file, surrogate.build blank = .ok file ∧
        file.package = .text (.broken [0xD800]) := ⟨_, rfl, rfl⟩
    rw [generateFile_perFile surrogate built rfl] at generated
    obtain ⟨output, made, -⟩ := map_ok_iff.mp generated
    obtain ⟨text, s, filled, laid, -⟩ := (output_ok_iff surrogate).mp made
    obtain ⟨names, named, rendered⟩ := (fillIn_ok_iff surrogate).mp filled
    have read : load Target.kotlin.templateName Target.kotlin.template = .ok template := loaded
    have parsed := Template.parse_of_load read
    have prints : template.content.any printsPackage = true := by
      have prints := kotlin_printsPackage
      rwa [parsed] at prints
    have inside : 0xD800 ∈ (CodePoints.broken [0xD800]).codes := List.mem_cons_self
    have written := surrogate.package_written package prints named rendered inside
    cases text with
    | string s => exact absurd (Text.CodePoints.isValidChar_of_string written) (by decide)
    | broken codes => cases laid
  · obtain ⟨-, cause, -, -, rfl⟩ := builtin.encoding_failure Text.any_inherited loaded
      (.inr ⟨_, rfl, trivial⟩) (.inl rfl) failed
    exact ⟨cause, loaded, failed⟩

end Generator

end RpcBindings
