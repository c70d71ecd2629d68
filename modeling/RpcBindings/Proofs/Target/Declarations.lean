import RpcBindings.Proofs.Code.TypeSection
import RpcBindings.Proofs.Target.Granularity
import RpcBindings.Proofs.Target.Types
import RpcBindings.Proofs.TypeTable

/-! What generated Kotlin declares, line by line. The types of a schema file come one after the other,
the enums first, with their constants and fields in order and by their numbers; a field has the type
and the default of the type table. The default of an enum is the constant that the declaration of the
enum lists first, in whatever file that is. -/
namespace RpcBindings

open Outcome Schema Template
open Code (DeclaresTypes Unmarked behind bareHeading constantLine declarationMark enumClasses enumHeading filledLines
  isNumbered laid listedConstant messageHeading propertyLine)
open Text (CodePoints OneLine split)

namespace Schema.SchemaFile

/-! ### Lines for what a schema file declares -/

/-- The lines with the numbers of all constants and then of all fields of the types in a file. -/
def numberedLines (types : TypeTable) (f : SchemaFile) : List String :=
  (f.enums.flatMap fun e => e.values.map fun v => constantLine v.number v.name) ++
    f.messages.flatMap fun m => m.fields.map fun d =>
      propertyLine d.number (Text.onString Identifier.lowerCamel d.name) (types.fieldType d)
        (types.defaultValue d)

/-- The lines that open the enums and then the messages of a file. -/
def typeHeadings (f : SchemaFile) : List String :=
  f.enums.map (fun e => enumHeading e.name) ++
    f.messages.map fun m => if m.fields.isEmpty then bareHeading m.name else messageHeading m.name

/-- The lines of the types in a file, each in its block. -/
def typeBlocks (types : TypeTable) (f : SchemaFile) : List String :=
  f.enums.flatMap (fun e => (Stub.buildEnum e).code) ++
    f.messages.flatMap fun m => (Stub.buildMessage types m).code

end Schema.SchemaFile

section

variable {f : SchemaFile} {options : Stub.BuildOptions} {stub : Stub.File}
  (built : Stub.ofSchema f options = .ok stub) (emits : options.emitsTypes = true)
include built emits

theorem Stub.ofSchema_typeCode : stub.typeCode = f.typeBlocks options.types := by
  obtain ⟨enums, messages⟩ := ofSchema_types built emits
  rw [Stub.File.typeCode, enums, messages, List.flatMap_map, List.flatMap_map]
  rfl

theorem Stub.ofSchema_numbered : (stub.enums.flatMap fun e => e.values.map fun v => v.line.toList) ++
    (stub.messages.flatMap fun m => m.fields.map fun d => d.line.toList) =
      (f.numberedLines options.types).map (·.toList) := by
  obtain ⟨enums, messages⟩ := ofSchema_types built emits
  rw [enums, messages, SchemaFile.numberedLines]
  simp only [List.map_append, List.map_flatMap, List.flatMap_map, Stub.buildEnum, Stub.buildMessage,
    Stub.buildField, Stub.EnumValue.line, Stub.Field.line, List.map_map, Function.comp_def]

theorem Stub.ofSchema_headings : stub.enums.map (fun e => laid (enumHeading e.name)) ++
    stub.messages.map (fun m => laid m.heading) = f.typeHeadings.map laid := by
  obtain ⟨enums, messages⟩ := ofSchema_types built emits
  rw [enums, messages, SchemaFile.typeHeadings]
  simp only [List.map_append, List.map_map, Function.comp_def, Stub.Message.heading, Stub.buildEnum,
    Stub.buildMessage, List.map_eq_nil_iff, List.isEmpty_iff]

/-- The class of an enum stands at its place among the classes of its file, with all its constants. -/
theorem Stub.ofSchema_enumClass {text : List Char} (declares : DeclaresTypes text stub) {i : Nat}
    {e : EnumDecl} (listed : f.enums[i]? = some e) : (enumClasses (filledLines text))[i]? =
      some ((enumHeading e.name).toList, (Stub.buildEnum e).constants.map laid) := by
  rw [declares.enumClasses, (ofSchema_types built emits).1]
  simp [listed, Stub.buildEnum]

end

/-- What the class of an enum lists first. -/
theorem Stub.listedConstant_buildEnum {e : EnumDecl} (words : ∀ v ∈ e.values, ' ' ∉ v.name.toList) :
    ((buildEnum e).constants.map laid).head?.map listedConstant =
      some ((e.values.head?.map (·.name)).getD "UNKNOWN").toList := by
  have own : ∀ v ∈ (buildEnum e).values, ' ' ∉ v.name.toList := List.forall_mem_map.mpr words
  have head : (buildEnum e).values.head?.map (·.name) = e.values.head?.map (·.name) := by
    rw [buildEnum, List.head?_map, Option.map_map]
    rfl
  rw [Code.listedConstant_first own, head]

namespace Generator

variable {g : Generator} {template : Loaded} {f : SchemaFile}

namespace IsKotlin

variable (kotlin : g.IsKotlin)
include kotlin

/-- With a string for empty packages a Kotlin file is generated from every schema file. -/
theorem exists_output (loaded : g.loadTemplate = .ok template) (f : SchemaFile)
    (fallback : g.options.fallbackPackage.UnsetOr Text.IsString) :
    ∃ output, g.generateFile template f = .ok [output] := by
  obtain ⟨outputs, made⟩ : ∃ outputs, g.generateFile template f = .ok outputs := by
    refine ok_of_not_error fun fault failed => ?_
    obtain ⟨text, cause, string, unencoded, -⟩ := kotlin.builtin.failure_unencoded
      Text.isString_inherited loaded fallback (fun supported => absurd supported kotlin.unsupported) failed
    exact Layout.tidyText_error unencoded string
  obtain ⟨_, _, _, -, -, -, rfl⟩ := generateFile_perFile_ok g kotlin.whole made
  exact ⟨_, made⟩

/-- The template of a Kotlin generator declares types. -/
theorem sections (loaded : g.loadTemplate = .ok template) :
    ∃ s : Code.Sections, template.content = s.whole ∧ s.declaresTypes g.target.shapes = true := by
  rw [loadTemplate, kotlin.own, kotlin.target] at loaded
  rw [kotlin.target]
  exact Code.sections_of_hasTypes Code.kotlin_hasTypes (parse_of_load loaded)

/-- A Kotlin file declares the types of its schema file. -/
theorem generateFile_declares (loaded : g.loadTemplate = .ok template)
    (fallback : g.options.fallbackPackage.PrintsLine) (lines : f.Lines) {outputs : List OutputFile}
    (made : g.generateFile template f = .ok outputs) : ∃ stub name text, g.build f = .ok stub ∧
      outputs = [⟨name, String.toUTF8 text⟩] ∧ DeclaresTypes text.toList stub := by
  have language := kotlin.builtin.target
  obtain ⟨stub, codes, text, built, filled, laid, rfl⟩ := generateFile_perFile_ok g kotlin.whole made
  obtain ⟨names, named, rendered⟩ := (fillIn_ok_iff g).mp filled
  obtain ⟨s, nodes, declares⟩ := kotlin.sections loaded
  have own : g.Lines := lines_of_settings language fun supported => absurd supported kotlin.unsupported
  have printed : stub.Printed := Stub.ofSchema_printed lines (fallbackPackage_printsLine language fallback)
    (fun s member => Target.oneLine_of_types language member) built
  obtain ⟨whole, rfl, rfl⟩ := Layout.tidyText_ok laid
  obtain ⟨front, back, written, above, below⟩ := Code.Sections.exists_typeLines declares
    (own.printed_fit printed named) (routesOneLine_scope named) (g.lookup_file named)
    (fun service member => serviceShapes_fit (printed.services service member))
    (nodes ▸ Loaded.render_ok_iff.mp rendered)
  refine ⟨stub, _, _, built, rfl, ?_⟩
  rw [Text.toList_onString]
  exact Code.declaresTypes_tidy printed written above below

end IsKotlin

/-- Kotlin declares what a schema file does, if no name has a line feed in it. The lines that begin as
those with a number are one for each value of each enum of the file, and then one for each field of each
of its messages, in order: each has the number and the name, that of a field in lower camel case, and
for a field its type and its default by the type table of the language. The lines behind marks of
declarations open each enum and then each message once, in order, be there anything in them or not. All
types stand together in their blocks, and no line before or behind them looks like one of theirs. -/
theorem types_declared (g : Generator) (kotlin : g.IsKotlin)
    (fallback : g.options.fallbackPackage.PrintsLine) (f : SchemaFile) (lines : f.Lines) :
    ∃ template, g.loadTemplate = .ok template ∧
      (g.options.fallbackPackage.UnsetOr Text.IsString →
        ∃ output, g.generateFile template f = .ok [output]) ∧
      ∀ outputs, g.generateFile template f = .ok outputs →
        ∃ name text, outputs = [⟨name, String.toUTF8 text⟩] ∧
          (split '\n' text.toList).filter isNumbered =
            (f.numberedLines g.target.types).map (·.toList) ∧
          behind declarationMark.toList (filledLines text.toList) = f.typeHeadings.map laid ∧
          ∃ front back,
            filledLines text.toList = front ++ (f.typeBlocks g.target.types).map laid ++ back ∧
            (∀ l ∈ front, Unmarked l) ∧ ∀ l ∈ back, Unmarked l := by
  obtain ⟨template, loaded, -⟩ := kotlin.builtin.load
  refine ⟨template, loaded, kotlin.exists_output loaded f, fun outputs made => ?_⟩
  obtain ⟨stub, name, text, built, rfl, declares⟩ :=
    kotlin.generateFile_declares loaded fallback lines made
  have numbered := declares.numbered
  have headings := declares.headings
  obtain ⟨front, back, code, above, below⟩ := declares
  rw [Stub.ofSchema_numbered built kotlin.emits] at numbered
  rw [Stub.ofSchema_headings built kotlin.emits] at headings
  rw [Stub.ofSchema_typeCode built kotlin.emits] at code
  exact ⟨name, text, rfl, numbered, headings, front, back, code, above, below⟩

/-- An enum without values. -/
def mood : EnumDecl := ⟨"Mood", "lib.Mood", "lib/shelf.proto", "lib", []⟩

/-- A file with an enum and a message that have something in them, and with one of each that has not. -/
def shelf : SchemaFile where
  name := "lib/shelf.proto"
  package := "lib"
  generate := true
  enums := [⟨"Genre", "lib.Genre", "lib/shelf.proto", "lib", [⟨"POETRY", 0⟩, ⟨"LOST", -1⟩]⟩, mood]
  messages := [
    { name := "Book", fullName := "lib.Book", file := "lib/shelf.proto", package := "lib"
      isMapEntry := false
      fields := [
        ⟨"page_count", 7, some .int32, .optional, none, none⟩,
        ⟨"tags", 2, some .string, .repeated, none, none⟩]
      messages := [], enums := [] },
    { name := "Nothing", fullName := "lib.Nothing", file := "lib/shelf.proto", package := "lib"
      isMapEntry := false, fields := [], messages := [], enums := [] }]
  services := []

theorem types_declared_shelf : ∃ template name text,
    plainKotlin.loadTemplate = .ok template ∧
    plainKotlin.generateFile template shelf = .ok [⟨name, String.toUTF8 text⟩] ∧
    (split '\n' text.toList).filter isNumbered = [
      "    @ProtoNumber(0) POETRY,", "    @ProtoNumber(-1) LOST,",
      "    @ProtoNumber(7) val pageCount: Int = 0,",
      "    @ProtoNumber(2) val tags: List<String> = emptyList(),"].map (·.toList) ∧
    behind declarationMark.toList (filledLines text.toList) = [
      "enum class Genre \x7b", "enum class Mood \x7b", "data class Book(",
      "class Nothing"].map (·.toList) := by
  have plain : shelf.Plain := by decide +kernel
  obtain ⟨template, loaded, generated, declared⟩ :=
    types_declared plainKotlin plainKotlin_isKotlin .null shelf plain.lines
  obtain ⟨output, made⟩ := generated (.inl rfl)
  obtain ⟨name, text, only, numbered, headings, -⟩ := declared _ made
  cases only
  refine ⟨template, name, text, loaded, made, numbered.trans ?_, headings.trans ?_⟩
  · decide +kernel
  · decide +kernel

/-! ### Defaults of enums -/

/-- The line of a field that holds an enum says so, with the default of that enum. -/
theorem propertyLine_of_enum (types : TypeTable) {m : MessageDecl} {d : FieldDecl} {e : EnumDecl}
    (message : m ∈ f.messages) (field : d ∈ m.fields) (single : d.isList = false)
    (kind : d.kind = some .enum) (refers : d.enum = some e) :
    propertyLine d.number (Text.onString Identifier.lowerCamel d.name) e.name (types.enumDefault e) ∈
      f.numberedLines types := by
  obtain ⟨type, value⟩ := TypeTable.single_of_enum (t := types) kind refers single
  refine List.mem_append_right _ (List.mem_flatMap.mpr ⟨m, message, List.mem_map.mpr ⟨d, field, ?_⟩⟩)
  rw [type, value]

/-- The default of a field that holds an enum is a constant of the enum in generated Kotlin: the first
one that the class of the enum lists, in the file of the schema file that has the enum. If the enum has
no values, both go by the same constant, that stands in for one. -/
theorem enum_default_listed (g : Generator) (kotlin : g.IsKotlin)
    (fallback : g.options.fallbackPackage.PrintsLine) (f home : SchemaFile) (lines : f.Lines)
    (linesHome : home.Lines) {m : MessageDecl} (message : m ∈ f.messages) {d : FieldDecl}
    (field : d ∈ m.fields) (single : d.isList = false) (kind : d.kind = some .enum) {e : EnumDecl}
    (refers : d.enum = some e) {i : Nat} (listed : home.enums[i]? = some e)
    (words : ∀ v ∈ e.values, ' ' ∉ v.name.toList) :
    ∃ template, g.loadTemplate = .ok template ∧
      (g.options.fallbackPackage.UnsetOr Text.IsString →
        (∃ output, g.generateFile template f = .ok [output]) ∧
        ∃ output, g.generateFile template home = .ok [output]) ∧
      ∀ outputs outputsHome, g.generateFile template f = .ok outputs →
        g.generateFile template home = .ok outputsHome →
        ∃ name nameHome text textHome, outputs = [⟨name, String.toUTF8 text⟩] ∧
          outputsHome = [⟨nameHome, String.toUTF8 textHome⟩] ∧
          ∃ constants first,
            (enumClasses (filledLines textHome.toList))[i]? =
              some ((enumHeading e.name).toList, constants) ∧
            constants.head?.map listedConstant = some first.toList ∧
            first = (e.values.head?.map (·.name)).getD g.target.types.enumFallback ∧
            g.target.types.defaultValue d = e.name ++ "." ++ first ∧
            (propertyLine d.number (Text.onString Identifier.lowerCamel d.name) e.name
              (e.name ++ "." ++ first)).toList ∈ split '\n' text.toList := by
  obtain ⟨template, loaded, -⟩ := kotlin.builtin.load
  refine ⟨template, loaded, fun unset => ?_, fun outputs outputsHome made madeHome => ?_⟩
  · exact ⟨kotlin.exists_output loaded f unset, kotlin.exists_output loaded home unset⟩
  obtain ⟨stub, name, text, built, rfl, declares⟩ :=
    kotlin.generateFile_declares loaded fallback lines made
  obtain ⟨stubHome, nameHome, textHome, builtHome, rfl, declaresHome⟩ :=
    kotlin.generateFile_declares loaded fallback linesHome madeHome
  have unknown : g.target.types.enumFallback = "UNKNOWN" := by rw [kotlin.target]; rfl
  have inside := Stub.ofSchema_enumClass builtHome kotlin.emits declaresHome listed
  have line := propertyLine_of_enum g.target.types message field single kind refers
  have numbered := declares.numbered
  rw [Stub.ofSchema_numbered built kotlin.emits] at numbered
  have written := (List.mem_filter.mp (numbered ▸ List.mem_map_of_mem line)).1
  have value := (TypeTable.single_of_enum (t := g.target.types) kind refers single).2
  rw [TypeTable.enumDefault_eq] at value written
  refine ⟨name, nameHome, text, textHome, rfl, rfl, _, _, inside, ?_, rfl, value, written⟩
  rw [Stub.listedConstant_buildEnum words, unknown]

/-- A file with a field for the enum without values, that is in another file. -/
def loan : SchemaFile where
  name := "loan.proto"
  package := "loans"
  generate := true
  enums := []
  messages := [
    { name := "Loan", fullName := "loans.Loan", file := "loan.proto", package := "loans"
      isMapEntry := false
      fields := [⟨"reader_mood", 3, some .enum, .optional, some mood, none⟩]
      messages := [], enums := [] }]
  services := []

theorem enum_default_listed_loan : ∃ template name nameHome text textHome constants,
    plainKotlin.loadTemplate = .ok template ∧
    plainKotlin.generateFile template loan = .ok [⟨name, String.toUTF8 text⟩] ∧
    plainKotlin.generateFile template shelf = .ok [⟨nameHome, String.toUTF8 textHome⟩] ∧
    (enumClasses (filledLines textHome.toList))[1]? = some ("enum class Mood \x7b".toList, constants) ∧
    constants.head?.map listedConstant = some "UNKNOWN".toList ∧
    "    @ProtoNumber(3) val readerMood: Mood = Mood.UNKNOWN,".toList ∈ split '\n' text.toList := by
  have plain : loan.Plain := by decide +kernel
  have plainHome : shelf.Plain := by decide +kernel
  obtain ⟨template, loaded, generated, agree⟩ :=
    enum_default_listed plainKotlin plainKotlin_isKotlin .null loan shelf plain.lines plainHome.lines
      List.mem_cons_self List.mem_cons_self rfl rfl rfl (show shelf.enums[1]? = some mood from rfl) nofun
  obtain ⟨⟨output, made⟩, outputHome, madeHome⟩ := generated (.inl rfl)
  obtain ⟨name, nameHome, text, textHome, only, onlyHome, constants, first, inside, lists, same, -, line⟩ :=
    agree _ _ made madeHome
  cases only
  cases onlyHome
  have unknown : first = "UNKNOWN" := same
  subst unknown
  exact ⟨template, name, nameHome, text, textHome, constants, loaded, made, madeHome, inside, lists, line⟩

end Generator

end RpcBindings
