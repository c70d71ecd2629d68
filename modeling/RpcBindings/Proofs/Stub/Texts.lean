import RpcBindings.Proofs.Stub.OneLine
import RpcBindings.Schema.Basic

/-! Schemas whose names have no line feeds in them. What is generated from them has none either but
those of its template: putting a name into another case, before a type or into a pattern of the
language keeps it on its line, and so does a setting that stands in for empty packages. -/
namespace RpcBindings

open Outcome Schema Template
open Text (CodePoints OneLine)

namespace Schema

structure EnumDecl.Lines (e : EnumDecl) : Prop where
  name : OneLine e.name
  file : OneLine e.file
  package : OneLine e.package
  values : ∀ v ∈ e.values, OneLine v.name

structure MessageRef.Lines (m : MessageRef) : Prop where
  name : OneLine m.name
  file : OneLine m.file
  package : OneLine m.package

structure FieldDecl.Lines (f : FieldDecl) : Prop where
  name : OneLine f.name
  enum : ∀ e ∈ f.enum, e.Lines
  message : ∀ m ∈ f.message, m.Lines

structure MessageDecl.Lines (m : MessageDecl) : Prop where
  name : OneLine m.name
  fields : ∀ f ∈ m.fields, f.Lines

structure MethodDecl.Lines (m : MethodDecl) : Prop where
  name : OneLine m.name
  input : m.input.Lines
  output : m.output.Lines

structure ServiceDecl.Lines (s : ServiceDecl) : Prop where
  name : OneLine s.name
  methods : ∀ m ∈ s.methods, m.Lines

/-- Whether the names of a file, of its package and of all that it declares and refers to have no line
feeds in them. -/
structure SchemaFile.Lines (f : SchemaFile) : Prop where
  name : OneLine f.name
  package : OneLine f.package
  enums : ∀ e ∈ f.enums, e.Lines
  messages : ∀ m ∈ f.messages, m.Lines
  services : ∀ s ∈ f.services, s.Lines

end Schema

/-! ### Texts of the languages -/

def Pattern.texts : Pattern → List String
  | constant text => [text]
  | around before after => [before, after]

def TypeTable.texts (t : TypeTable) : List String :=
  t.scalarTypes.map (·.2) ++ t.defaultValues.map (·.2) ++ t.listType.texts ++ t.messageDefault.texts ++
    [t.emptyList, t.anyType, t.nullLiteral, t.enumFallback]

/-- The short texts that a language puts into generated files. -/
def Target.texts (target : Target) : List String :=
  target.name :: target.types.texts ++ (target.support.map (·.name)).toList ++
    match target.imports with
    | .relativePaths suffix => [suffix]
    | _ => []

namespace Target

/-- The languages put no line feeds into generated files but by their templates. -/
theorem builtins_texts : ∀ target ∈ builtins,
    (∀ s ∈ target.texts, '\n' ∉ s.toList) ∧ ∀ s ∈ target.fallbackPackage, '\n' ∉ s.toList := by
  decide +kernel

variable {target : Target}

theorem oneLine_of_texts (builtin : target ∈ builtins) {s : String} (member : s ∈ target.texts) :
    OneLine s :=
  Text.oneLine_string.mpr ((builtins_texts target builtin).1 s member)

theorem oneLine_of_types (builtin : target ∈ builtins) {s : String}
    (member : s ∈ target.types.texts) : OneLine s :=
  oneLine_of_texts builtin (by simp [texts, member])

end Target

/-! ### Types and defaults of fields -/

theorem Pattern.fill_oneLine {p : Pattern} (own : ∀ s ∈ p.texts, OneLine s) {name : String}
    (line : OneLine name) : OneLine (p.fill name) := by
  cases p with
  | constant text => exact own text List.mem_cons_self
  | around before after =>
    have start := own before List.mem_cons_self
    have ending := own after (List.mem_cons_of_mem _ List.mem_cons_self)
    exact (start.append line).append ending

theorem KindTexts.get?_mem {texts : KindTexts} {kind : Kind} {s : String}
    (found : texts.get? kind = some s) : s ∈ texts.map (·.2) := by
  obtain ⟨group, first, rfl⟩ := Option.map_eq_some_iff.mp found
  exact List.mem_map_of_mem (List.mem_reverse.mp (List.mem_of_find?_eq_some first))

namespace TypeTable

variable {t : TypeTable} {f : FieldDecl}

theorem scalar_oneLine {texts : KindTexts} {otherwise : String}
    (listed : ∀ s : String, s ∈ texts.map (·.2) → OneLine s) (other : OneLine otherwise)
    (f : FieldDecl) :
    OneLine ((f.kind.bind texts.get?).getD otherwise) := by
  cases found : f.kind.bind texts.get? with
  | none => exact other
  | some s =>
    obtain ⟨kind, -, text⟩ := Option.bind_eq_some_iff.mp found
    exact listed s (KindTexts.get?_mem text)

theorem enumOf?_lines (lines : f.Lines) {e : EnumDecl} (found : enumOf? f = some e) : e.Lines := by
  unfold enumOf? at found
  split at found
  · exact lines.enum e found
  · cases found

theorem messageOf?_lines (lines : f.Lines) {m : MessageRef} (found : messageOf? f = some m) :
    m.Lines := by
  unfold messageOf? at found
  split at found
  · exact lines.message m found
  · cases found

theorem elementType_oneLine (own : ∀ s ∈ t.texts, OneLine s) (lines : f.Lines) :
    OneLine (t.elementType f) := by
  unfold elementType
  split
  case h_1 e _ _ found => exact (enumOf?_lines lines found).name
  case h_2 m _ found => exact (messageOf?_lines lines found).name
  case h_3 =>
    exact scalar_oneLine (fun s member => own s (by simp only [texts, List.mem_append, member, true_or]))
      (own _ (by simp [texts])) f

theorem fieldType_oneLine (own : ∀ s ∈ t.texts, OneLine s) (lines : f.Lines) :
    OneLine (t.fieldType f) := by
  have element := elementType_oneLine own lines
  unfold fieldType
  split
  · refine Pattern.fill_oneLine (fun s member => own s ?_) element
    simp only [texts, List.mem_append, member, true_or, or_true]
  · exact element

theorem enumDefault_oneLine (own : ∀ s ∈ t.texts, OneLine s) {e : EnumDecl} (lines : e.Lines) :
    OneLine (t.enumDefault e) := by
  have dot : OneLine "." := Text.oneLine_string.mpr (by decide)
  have stem : OneLine (e.name ++ "." : String) := lines.name.append dot
  unfold enumDefault
  split
  case h_1 first rest values =>
    have constant := lines.values first (values ▸ List.mem_cons_self)
    exact stem.append constant
  case h_2 => exact stem.append (own _ (by simp [texts]))

theorem defaultValue_oneLine (own : ∀ s ∈ t.texts, OneLine s) (lines : f.Lines) :
    OneLine (t.defaultValue f) := by
  unfold defaultValue
  split
  · exact own _ (by simp [texts])
  · split
    case h_1 e _ _ found => exact enumDefault_oneLine own (enumOf?_lines lines found)
    case h_2 m _ found =>
      refine Pattern.fill_oneLine (fun s member => own s ?_) (messageOf?_lines lines found).name
      simp only [texts, List.mem_append, member, true_or, or_true]
    case h_3 =>
      refine scalar_oneLine (fun s member => own s ?_) (own _ (by simp [texts])) f
      simp only [texts, List.mem_append, member, true_or, or_true]

end TypeTable

/-! ### Settings -/

/-- Whether a setting can come from a document and is printed on one line. -/
structure Value.PrintsLine (v : Value) : Prop where
  document : v.isDocument = true
  text : ∀ s, v = .text s → OneLine s

theorem Value.PrintsLine.string {s : String} (line : OneLine s) : (Value.string s).PrintsLine where
  document := rfl
  text := by
    rintro _ ⟨⟩
    exact line

theorem Value.PrintsLine.null : Value.null.PrintsLine := ⟨rfl, nofun⟩

/-- Only a text can bring line feeds with it. -/
theorem Value.PrintsLine.fits {v : Value} (lines : v.PrintsLine) : Shape.leaf.Fits OneLine v := by
  have literal : OneLine v.literal := Text.oneLine_string.mpr (v.feed_literal lines.document)
  cases v with
  | text s => exact text_fits (lines.text s rfl)
  | tuple | record | method | builtin | type => cases lines.document
  | _ => exact ⟨literal, literal⟩

theorem ownedBy_of_document {v : Value} (document : v.isDocument = true) (owner : Value) :
    ownedBy owner v = v := by
  cases v with
  | method => cases document
  | _ => rfl

/-! ### What is generated -/

namespace Stub

theorem stripExtension_oneLine {name : String} (line : OneLine name) :
    OneLine (stripExtension name) := by
  unfold stripExtension
  split
  · rw [Text.oneLine_string] at line ⊢
    rw [String.toList_ofList]
    exact fun member => line (List.mem_of_mem_take member)
  · exact line

/-- What names a package is printed on one line. -/
theorem resolvePackage_prints {package : String} (line : OneLine package) {fallback : Value}
    (standIn : fallback.PrintsLine) :
    ((resolvePackage package fallback).value fallback).PrintsLine := by
  unfold resolvePackage
  split
  · cases fallback with
    | text s => exact standIn
    | _ => exact standIn
  · exact .string line

theorem buildEnum_lines {e : EnumDecl} (lines : e.Lines) : (buildEnum e).Lines where
  name := lines.name
  values := by
    intro v member
    obtain ⟨declared, listed, rfl⟩ := List.mem_map.mp member
    exact lines.values declared listed

theorem buildField_lines {types : TypeTable} (own : ∀ s ∈ types.texts, OneLine s) {f : FieldDecl}
    (lines : f.Lines) : (buildField types f).Lines where
  name := by
    rw [Text.oneLine_string, buildField, Text.toList_onString]
    exact Identifier.feed_lowerCamel (Text.oneLine_string.mp lines.name)
  type := TypeTable.fieldType_oneLine own lines
  defaultValue := TypeTable.defaultValue_oneLine own lines

theorem buildMessage_lines {types : TypeTable} (own : ∀ s ∈ types.texts, OneLine s) {m : MessageDecl}
    (lines : m.Lines) : (buildMessage types m).Lines where
  name := lines.name
  fields := by
    intro f member
    obtain ⟨declared, listed, rfl⟩ := List.mem_map.mp member
    exact buildField_lines own (lines.fields declared listed)

theorem buildMethod_lines {typePrefix : CodePoints} (line : OneLine typePrefix) {m : MethodDecl}
    (lines : m.Lines) : (buildMethod typePrefix m).Lines where
  name := lines.name
  memberName := by
    rw [Text.oneLine_string, buildMethod, Text.toList_onString]
    exact Identifier.feed_lowerFirst (Text.oneLine_string.mp lines.name)
  input := line.append lines.input.name
  output := line.append lines.output.name

theorem buildService_lines {typePrefix : CodePoints} (line : OneLine typePrefix) {s : ServiceDecl}
    (lines : s.Lines) : (buildService typePrefix s).Lines where
  name := lines.name
  methods := by
    intro m member
    obtain ⟨declared, listed, rfl⟩ := List.mem_map.mp member
    exact buildMethod_lines line (lines.methods declared listed)

/-- The prefix that a package gives to names is a line if the name of the package is one. -/
theorem typePrefixOf_oneLine {package : CodePoints} (line : OneLine package) :
    OneLine (Identifier.typePrefixOf package) := by
  cases package with
  | string package =>
    rw [Text.oneLine_string] at line
    rw [Identifier.typePrefixOf, Text.oneLine_string, Text.toList_onString]
    exact Identifier.feed_typePrefix line
  | broken codes =>
    rw [OneLine, CodePoints.chars, CodePoints.codes, List.mem_map] at line
    rw [OneLine, CodePoints.chars, Identifier.typePrefixOf, CodePoints.codes_ofCodes, List.mem_map]
    rintro ⟨code, member, feed⟩
    exact Identifier.feed_prefixCodes (fun code member feed => line ⟨code, member, feed⟩) true code
      member feed

theorem flatPrefix_oneLine {package : Package} {options : BuildOptions} {typePrefix : CodePoints}
    (line : ∀ name, package = .text name → OneLine name)
    (made : flatPrefix package options = .ok typePrefix) : OneLine typePrefix := by
  unfold flatPrefix at made
  split at made
  · split at made
    · cases made
      exact typePrefixOf_oneLine (line _ rfl)
    · cases made
  · cases made
    exact Text.oneLine_string.mpr List.not_mem_nil

structure Reference.Lines (r : Reference) : Prop where
  name : OneLine r.name
  file : OneLine r.file
  package : OneLine r.package

theorem references_lines {f : SchemaFile} (lines : f.Lines) {emits : Bool} {r : Reference}
    (member : r ∈ references f emits) : r.Lines := by
  have message {m : MessageRef} (own : m.Lines) : (Reference.ofMessage m).Lines :=
    ⟨own.name, own.file, own.package⟩
  rcases List.mem_append.mp member with method | field
  · obtain ⟨s, service, inside⟩ := List.mem_flatMap.mp method
    obtain ⟨m, listed, passed⟩ := List.mem_flatMap.mp inside
    have own := (lines.services s service).methods m listed
    rcases List.mem_cons.mp passed with rfl | passed
    · exact message own.input
    · cases List.mem_singleton.mp passed
      exact message own.output
  · split at field
    case isTrue =>
      obtain ⟨m, declared, inside⟩ := List.mem_flatMap.mp field
      obtain ⟨d, listed, named⟩ := List.mem_flatMap.mp inside
      have own := (lines.messages m declared).fields d listed
      rcases List.mem_append.mp named with enum | other
      · obtain ⟨e, found, rfl⟩ := List.mem_map.mp ((Option.toList_map ..) ▸ enum)
        have here := own.enum e (Option.mem_toList.mp found)
        exact ⟨here.name, here.file, here.package⟩
      · obtain ⟨m, found, rfl⟩ := List.mem_map.mp ((Option.toList_map ..) ▸ other)
        exact message (own.message m (Option.mem_toList.mp found))
    case isFalse => cases field

theorem foreignTypes_printed {f : SchemaFile} (lines : f.Lines) {options : BuildOptions}
    (standIn : options.fallbackPackage.PrintsLine) :
    ∀ t ∈ foreignTypes f options, t.Printed options.fallbackPackage := by
  intro t member
  obtain ⟨r, kept, rfl⟩ := List.mem_map.mp member
  have reference := references_lines lines (List.mem_filter.mp kept).1
  exact ⟨reference.name, (resolvePackage_prints reference.package standIn).fits,
    stripExtension_oneLine reference.file⟩

theorem externalTypes_foreign {f : SchemaFile} {options : BuildOptions} {types : List TypeRef}
    (found : externalTypes f options = .ok types) : ∀ t ∈ types, t ∈ foreignTypes f options := by
  simp only [externalTypes] at found
  split at found
  · cases found
  · cases found
    exact fun t member => mem_firstOccurrences member

/-- All that can be printed of what is built from names without line feeds stays on its line. -/
theorem ofSchema_printed {f : SchemaFile} (lines : f.Lines) {options : BuildOptions}
    (standIn : options.fallbackPackage.PrintsLine) (own : ∀ s ∈ options.types.texts, OneLine s)
    {file : File} (built : ofSchema f options = .ok file) : file.Printed := by
  obtain ⟨typePrefix, types, made, found, rfl⟩ := ofSchema_ok built
  have package := resolvePackage_prints lines.package standIn
  have line : OneLine typePrefix := by
    refine flatPrefix_oneLine (fun name text => ?_) made
    rw [text] at package
    exact package.text name rfl
  exact {
    schemaName := lines.name
    baseName := stripExtension_oneLine lines.name
    package := by
      rw [ownedBy_of_document package.document]
      exact package.fits
    enums := by
      intro e member
      dsimp only at member
      split at member
      · obtain ⟨declared, listed, rfl⟩ := List.mem_map.mp member
        exact buildEnum_lines (lines.enums declared listed)
      · cases member
    messages := by
      intro m member
      dsimp only at member
      split at member
      · obtain ⟨declared, listed, rfl⟩ := List.mem_map.mp member
        exact buildMessage_lines own (lines.messages declared listed)
      · cases member
    services := by
      intro s member
      obtain ⟨declared, listed, rfl⟩ := List.mem_map.mp member
      exact buildService_lines line (lines.services declared listed)
    references := fun t member => foreignTypes_printed lines standIn t (externalTypes_foreign found t member) }

end Stub

end RpcBindings
