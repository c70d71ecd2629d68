import Mathlib.Tactic.MkIffOfInductiveProp
import RpcBindings.Proofs.Code.Service
import RpcBindings.Proofs.Stub.Texts
import RpcBindings.Proofs.Stub.TypeName

/-! Schemas whose declarations have plain names. What is generated from them has no line feeds in its
texts, and the names of services, methods and messages in it are words: changing the case of a letter
and putting a prefix before a name keeps them so. -/
namespace RpcBindings

open Outcome Schema Template
open Text (CodePoints OneLine)
open Code (IsWord isWordChar)

namespace Schema

def isPathChar (c : Char) : Bool := isNamePart c || c == '-' || c == '.' || c == '/'

/-- Whether a text is an identifier: letters, digits and underscores. -/
@[mk_iff]
structure IsIdentifier (s : String) : Prop where
  nonEmpty : s ≠ ""
  chars : ∀ c ∈ s.toList, isNamePart c = true

/-- Whether a text can name a package or a file: it may be empty, and dots, dashes and slashes are
allowed as well. -/
def IsPathText (s : String) : Prop := ∀ c ∈ s.toList, isPathChar c = true

@[mk_iff]
structure EnumDecl.Plain (e : EnumDecl) : Prop where
  name : IsIdentifier e.name
  file : IsPathText e.file
  package : IsPathText e.package
  values : ∀ v ∈ e.values, IsIdentifier v.name

@[mk_iff]
structure MessageRef.Plain (m : MessageRef) : Prop where
  name : IsIdentifier m.name
  file : IsPathText m.file
  package : IsPathText m.package

@[mk_iff]
structure FieldDecl.Plain (f : FieldDecl) : Prop where
  name : IsIdentifier f.name
  enum : ∀ e ∈ f.enum, e.Plain
  message : ∀ m ∈ f.message, m.Plain

@[mk_iff]
structure MessageDecl.Plain (m : MessageDecl) : Prop where
  name : IsIdentifier m.name
  fields : ∀ f ∈ m.fields, f.Plain

@[mk_iff]
structure MethodDecl.Plain (m : MethodDecl) : Prop where
  name : IsIdentifier m.name
  input : m.input.Plain
  output : m.output.Plain

@[mk_iff]
structure ServiceDecl.Plain (s : ServiceDecl) : Prop where
  name : IsIdentifier s.name
  methods : ∀ m ∈ s.methods, m.Plain

/-- Whether all names that a file declares and refers to are identifiers, and all packages and files
have plain names. -/
@[mk_iff]
structure SchemaFile.Plain (f : SchemaFile) : Prop where
  name : IsPathText f.name
  package : IsPathText f.package
  enums : ∀ e ∈ f.enums, e.Plain
  messages : ∀ m ∈ f.messages, m.Plain
  services : ∀ s ∈ f.services, s.Plain

/-- Whether all characters of a text pass a test is decided by going through them. -/
instance decidableForallChars (s : String) (test : Char → Bool) :
    Decidable (∀ c ∈ s.toList, test c = true) :=
  List.decidableBAll _ _

instance (s : String) : Decidable (IsIdentifier s) := decidable_of_iff' _ (isIdentifier_iff s)

instance (s : String) : Decidable (IsPathText s) :=
  inferInstanceAs (Decidable (∀ c ∈ s.toList, isPathChar c = true))

instance (e : EnumDecl) : Decidable e.Plain := decidable_of_iff' _ (EnumDecl.plain_iff e)

instance (m : MessageRef) : Decidable m.Plain := decidable_of_iff' _ (MessageRef.plain_iff m)

instance (f : FieldDecl) : Decidable f.Plain := decidable_of_iff' _ (FieldDecl.plain_iff f)

instance (m : MessageDecl) : Decidable m.Plain := decidable_of_iff' _ (MessageDecl.plain_iff m)

instance (m : MethodDecl) : Decidable m.Plain := decidable_of_iff' _ (MethodDecl.plain_iff m)

instance (s : ServiceDecl) : Decidable s.Plain := decidable_of_iff' _ (ServiceDecl.plain_iff s)

instance (f : SchemaFile) : Decidable f.Plain := decidable_of_iff' _ (SchemaFile.plain_iff f)

theorem isNamePart_of_isNameStart {c : Char} (start : isNameStart c = true) : isNamePart c = true := by
  simp only [isNameStart, isNamePart, Char.isAlphanum, Bool.or_eq_true] at start ⊢
  rcases start with letter | underscore
  · exact .inl (.inl letter)
  · exact .inr underscore

theorem checkParts_ok {shown : String} {atStart : Bool} {s : List Char}
    (checked : checkParts shown false atStart s = .ok ()) :
    (∀ c ∈ s, isNamePart c = true) ∧ (atStart = true → s ≠ []) := by
  induction s generalizing atStart with
  | nil =>
    refine ⟨nofun, fun start => ?_⟩
    subst start
    cases checked
  | cons c rest ih =>
    refine ⟨?_, fun _ => List.cons_ne_nil _ _⟩
    rw [checkParts] at checked
    split at checked
    · simp at checked
    · rw [List.forall_mem_cons]
      split at checked
      · split at checked
        case isTrue start => exact ⟨isNamePart_of_isNameStart start, (ih checked).1⟩
        case isFalse => cases checked
      · split at checked
        case isTrue part => exact ⟨part, (ih checked).1⟩
        case isFalse => cases checked

/-- What is accepted as a name is an identifier. -/
theorem isIdentifier_of_checkName {s : String} (named : checkName s = .ok ()) : IsIdentifier s := by
  obtain ⟨chars, filled⟩ := checkParts_ok named
  refine ⟨fun empty => filled rfl ?_, chars⟩
  rw [empty]
  rfl

end Schema

/-! ### Words -/

namespace Code

/-- Another form of the first character of a word makes a word, if each form of a character does. -/
theorem Wordy.recaseFirst {form : Char → List Char}
    (keeps : ∀ c, isWordChar c = true → isWordChar (match form c with | [d] => d | _ => c) = true)
    {s : List Char} (wordy : Wordy s) : Wordy (Identifier.recaseFirst form s) := by
  cases s with
  | nil => exact wordy
  | cons c s =>
    obtain ⟨here, later⟩ := List.forall_mem_cons.mp wordy
    exact List.forall_mem_cons.mpr ⟨keeps c here, later⟩

theorem Wordy.lowerFirst {s : List Char} (wordy : Wordy s) : Wordy (Identifier.lowerFirst s) :=
  wordy.recaseFirst fun c here => by
    rw [(Text.ascii_cases (isWordChar_ascii here)).1]
    exact isWordChar_forall (P := fun c => isWordChar c.toLower = true) (by decide +kernel) here

theorem Wordy.upperFirst {s : List Char} (wordy : Wordy s) : Wordy (Identifier.upperFirst s) :=
  wordy.recaseFirst fun c here => by
    rw [(Text.ascii_cases (isWordChar_ascii here)).2.1]
    exact isWordChar_forall (P := fun c => isWordChar c.toUpper = true) (by decide +kernel) here

theorem Wordy.lowerCamel {s : List Char} (wordy : Wordy s) : Wordy (Identifier.lowerCamel s) := by
  have part (p : List Char) (member : p ∈ Text.split '_' s) : Wordy p :=
    fun c inside => wordy c (Text.mem_of_mem_split member inside)
  unfold Identifier.lowerCamel
  split
  case h_1 => nofun
  case h_2 first later split =>
    rw [split] at part
    refine (part first List.mem_cons_self).append fun c member => ?_
    obtain ⟨p, listed, inside⟩ := List.mem_flatMap.mp member
    exact (part p (List.mem_cons_of_mem _ listed)).upperFirst c inside

end Code

namespace Schema

open Code (Wordy)

theorem IsIdentifier.wordy {s : String} (plain : IsIdentifier s) : Wordy s.toList := by
  intro c member
  have char := plain.chars c member
  simp only [isNamePart, Bool.or_eq_true] at char
  simp only [isWordChar, Bool.or_eq_true]
  exact .inl (.inl char)

theorem IsIdentifier.isWord {s : String} (plain : IsIdentifier s) : IsWord s.toList :=
  ⟨mt String.toList_eq_nil_iff.mp plain.nonEmpty, plain.wordy⟩

theorem IsIdentifier.oneLine {s : String} (plain : IsIdentifier s) : OneLine s :=
  Text.oneLine_string.mpr plain.wordy.oneLine

theorem IsPathText.oneLine {s : String} (plain : IsPathText s) : OneLine s :=
  Text.oneLine_string.mpr fun member => by
    have feed := plain _ member
    cases feed

/-- The prefix that a package gives to names is made of the characters of words. -/
theorem IsPathText.wordy_typePrefix {s : String} (plain : IsPathText s) :
    Wordy (Identifier.typePrefix s.toList) := by
  have underscore : Wordy ['_'] := by simp [Wordy, isWordChar]
  unfold Identifier.typePrefix
  split
  case h_1 =>
    intro c member
    cases member
  case h_2 =>
    refine Wordy.append (fun d member => ?_) underscore
    rcases Text.mem_join member with between | ⟨_, listed, inside⟩
    · exact underscore d between
    · obtain ⟨part, segment, rfl⟩ := List.mem_map.mp listed
      have wordy : Wordy part := by
        intro e here
        have char := plain e (Text.mem_of_mem_split segment here)
        have other : e ≠ '.' := fun same => Text.not_mem_of_mem_split segment (same ▸ here)
        simp only [isPathChar, isNamePart, Bool.or_eq_true, beq_iff_eq, other, or_false] at char
        simpa only [isWordChar, Bool.or_eq_true, beq_iff_eq] using char
      exact wordy.upperFirst d inside

theorem EnumDecl.Plain.lines {e : EnumDecl} (plain : e.Plain) : e.Lines :=
  ⟨plain.name.oneLine, plain.file.oneLine, plain.package.oneLine,
    fun v member => (plain.values v member).oneLine⟩

theorem MessageRef.Plain.lines {m : MessageRef} (plain : m.Plain) : m.Lines :=
  ⟨plain.name.oneLine, plain.file.oneLine, plain.package.oneLine⟩

theorem FieldDecl.Plain.lines {f : FieldDecl} (plain : f.Plain) : f.Lines :=
  ⟨plain.name.oneLine, fun e found => (plain.enum e found).lines,
    fun m found => (plain.message m found).lines⟩

theorem MessageDecl.Plain.lines {m : MessageDecl} (plain : m.Plain) : m.Lines :=
  ⟨plain.name.oneLine, fun f member => (plain.fields f member).lines⟩

theorem MethodDecl.Plain.lines {m : MethodDecl} (plain : m.Plain) : m.Lines :=
  ⟨plain.name.oneLine, plain.input.lines, plain.output.lines⟩

theorem ServiceDecl.Plain.lines {s : ServiceDecl} (plain : s.Plain) : s.Lines :=
  ⟨plain.name.oneLine, fun m member => (plain.methods m member).lines⟩

/-- Plain names have no line feeds in them. -/
theorem SchemaFile.Plain.lines {f : SchemaFile} (plain : f.Plain) : f.Lines :=
  ⟨plain.name.oneLine, plain.package.oneLine, fun e member => (plain.enums e member).lines,
    fun m member => (plain.messages m member).lines, fun s member => (plain.services s member).lines⟩

end Schema

namespace Target

/-- The languages put no line feeds into generated files but by their templates, and stand a plain
name in for an empty package. -/
theorem builtins_plain : ∀ target ∈ builtins,
    (∀ s ∈ target.texts, '\n' ∉ s.toList) ∧
      ∀ s ∈ target.fallbackPackage, ∀ c ∈ s.toList, isPathChar c = true := by
  have plain : ∀ target ∈ builtins, ∀ s ∈ target.fallbackPackage, ∀ c ∈ s.toList,
      isPathChar c = true := by decide +kernel
  exact fun target builtin => ⟨(builtins_texts target builtin).1, plain target builtin⟩

end Target

/-! ### What is generated from a plain schema -/

namespace Stub

/-- Whether a value that stands in for empty packages is missing or a plain name. -/
def PlainFallback (fallback : Value) : Prop :=
  fallback = .null ∨ ∃ s : String, fallback = .text s ∧ IsPathText s

theorem PlainFallback.printsLine {fallback : Value} (standIn : PlainFallback fallback) :
    fallback.PrintsLine := by
  rcases standIn with rfl | ⟨s, rfl, plain⟩
  · exact .null
  · exact .string plain.oneLine

theorem resolvePackage_plain {package : String} (plain : IsPathText package) {fallback : Value}
    (standIn : PlainFallback fallback) :
    ∃ name : String, resolvePackage package fallback = .text name ∧ IsPathText name := by
  unfold resolvePackage
  split
  case isTrue replaced =>
    rcases standIn with rfl | ⟨s, rfl, named⟩
    · cases replaced.2
    · exact ⟨s, rfl, named⟩
  case isFalse => exact ⟨package, rfl, plain⟩

/-- The words in the code for a method of a plain schema. -/
theorem buildMethod_worded {typePrefix : String} (wordy : Code.Wordy typePrefix.toList)
    {s : ServiceDecl} (plain : s.Plain) {m : MethodDecl} (member : m ∈ s.methods) (slot : Code.Slot) :
    IsWord (slot.wordIn (buildService typePrefix s) (buildMethod typePrefix m)) := by
  have method := plain.methods m member
  have typed {r : MessageRef} (reference : r.Plain) :
      IsWord (CodePoints.string typePrefix ++ .string r.name).chars := by
    have name := reference.name.isWord
    rw [CodePoints.chars_append, CodePoints.chars_string, CodePoints.chars_string]
    exact ⟨fun empty => name.nonEmpty (List.append_eq_nil_iff.mp empty).2, wordy.append name.chars⟩
  cases slot with
  | service => exact plain.name.isWord
  | name =>
    have name := method.name.isWord
    simp only [Code.Slot.wordIn, buildMethod, Text.toList_onString]
    refine ⟨fun empty => name.nonEmpty (List.length_eq_zero_iff.mp ?_), method.name.wordy.lowerFirst⟩
    rw [← Identifier.length_recaseFirst Text.lowerOf]
    exact congrArg List.length empty
  | input => exact typed method.input
  | output => exact typed method.output
  | route =>
    have name := method.name.isWord
    have slash : Code.Wordy ['/'] := by simp [Code.Wordy, isWordChar]
    have route : Code.Slot.wordIn (buildService typePrefix s) (buildMethod typePrefix m) .route =
        s.name.toList ++ ['/'] ++ m.name.toList := by
      simp [Code.Slot.wordIn, Service.route, Service.routeStem, buildService, buildMethod]
    rw [route]
    exact ⟨fun empty => name.nonEmpty (List.append_eq_nil_iff.mp empty).2,
      (plain.name.wordy.append slash).append name.chars⟩

theorem buildService_worded {typePrefix : String} (wordy : Code.Wordy typePrefix.toList)
    {s : ServiceDecl} (plain : s.Plain) : Code.Worded (buildService typePrefix s) where
  name := plain.name.isWord
  methods := by
    intro m member slot
    obtain ⟨declared, listed, rfl⟩ := List.mem_map.mp member
    exact buildMethod_worded wordy plain listed slot

structure Reference.Plain (r : Reference) : Prop where
  name : IsIdentifier r.name
  file : IsPathText r.file
  package : IsPathText r.package

theorem references_plain {f : SchemaFile} (plain : f.Plain) {emits : Bool} {r : Reference}
    (member : r ∈ references f emits) : r.Plain := by
  have message {m : MessageRef} (own : m.Plain) : (Reference.ofMessage m).Plain :=
    ⟨own.name, own.file, own.package⟩
  rcases List.mem_append.mp member with method | field
  · obtain ⟨s, service, inside⟩ := List.mem_flatMap.mp method
    obtain ⟨m, listed, passed⟩ := List.mem_flatMap.mp inside
    have own := (plain.services s service).methods m listed
    rcases List.mem_cons.mp passed with rfl | passed
    · exact message own.input
    · cases List.mem_singleton.mp passed
      exact message own.output
  · split at field
    case isTrue =>
      obtain ⟨m, declared, inside⟩ := List.mem_flatMap.mp field
      obtain ⟨d, listed, named⟩ := List.mem_flatMap.mp inside
      have own := (plain.messages m declared).fields d listed
      rcases List.mem_append.mp named with enum | other
      · obtain ⟨e, found, rfl⟩ := List.mem_map.mp ((Option.toList_map ..) ▸ enum)
        have here := own.enum e (Option.mem_toList.mp found)
        exact ⟨here.name, here.file, here.package⟩
      · obtain ⟨m, found, rfl⟩ := List.mem_map.mp ((Option.toList_map ..) ▸ other)
        exact message (own.message m (Option.mem_toList.mp found))
    case isFalse => cases field

theorem typeRef_lines {options : BuildOptions} (standIn : PlainFallback options.fallbackPackage)
    {r : Reference} (plain : r.Plain) : (typeRef options r).Lines where
  name := plain.name.oneLine
  package := by
    obtain ⟨name, resolved, named⟩ := resolvePackage_plain plain.package standIn
    exact ⟨name, resolved, named.oneLine⟩
  file := stripExtension_oneLine plain.file.oneLine

theorem foreignTypes_lines {f : SchemaFile} (plain : f.Plain) {options : BuildOptions}
    (standIn : PlainFallback options.fallbackPackage) :
    ∀ t ∈ foreignTypes f options, t.Lines := by
  intro t member
  obtain ⟨r, kept, rfl⟩ := List.mem_map.mp member
  exact typeRef_lines standIn (references_plain plain (List.mem_filter.mp kept).1)

/-- The prefix of a plain package is made of the characters of words. -/
theorem flatPrefix_wordy {package : String} (plain : IsPathText package) {options : BuildOptions}
    {typePrefix : CodePoints} (made : flatPrefix (.text package) options = .ok typePrefix) :
    ∃ name : String, typePrefix = .string name ∧ Code.Wordy name.toList := by
  unfold flatPrefix at made
  split at made
  · cases made
    refine ⟨_, rfl, ?_⟩
    rw [Text.toList_onString]
    exact plain.wordy_typePrefix
  · cases made
    exact ⟨"", rfl, nofun⟩

/-- A plain schema file is built, its texts are lines, and its services have words for names. -/
theorem ofSchema_plain {f : SchemaFile} (plain : f.Plain) {options : BuildOptions}
    (standIn : PlainFallback options.fallbackPackage) (own : ∀ s ∈ options.types.texts, OneLine s) :
    ∃ (file : File) (typePrefix : String), ofSchema f options = .ok file ∧ file.Lines ∧
      flatPrefix (resolvePackage f.package options.fallbackPackage) options = .ok typePrefix ∧
      file.services = f.services.map (buildService typePrefix) ∧
      ∀ s ∈ file.services, Code.Worded s := by
  obtain ⟨package, resolved, named⟩ := resolvePackage_plain plain.package standIn
  have built : ∃ file, ofSchema f options = .ok file := by
    refine ok_of_not_error fun cause failed => ?_
    cases ofSchema_error_iff.mp failed with
    | noPrefix _ stands =>
      rw [resolved] at stands
      cases stands
    | noLookup _ member stands _ =>
      obtain ⟨_, text, -⟩ := (foreignTypes_lines plain standIn _ member).package
      rw [text] at stands
      cases stands
  obtain ⟨file, built⟩ := built
  obtain ⟨codes, made, services⟩ := ofSchema_services built
  rw [resolved] at made
  obtain ⟨typePrefix, rfl, wordy⟩ := flatPrefix_wordy named made
  have worded : ∀ s ∈ file.services, Code.Worded s := by
    intro s member
    rw [services] at member
    obtain ⟨declared, listed, rfl⟩ := List.mem_map.mp member
    exact buildService_worded wordy (plain.services declared listed)
  have printed := ofSchema_printed plain.lines standIn.printsLine own built
  have lines : file.Lines := by
    obtain ⟨_, _, -, found, rfl⟩ := ofSchema_ok built
    exact {
      schemaName := printed.schemaName
      baseName := printed.baseName
      package := ⟨package, resolved, named.oneLine⟩
      enums := printed.enums
      messages := printed.messages
      services := printed.services
      references := fun t member =>
        foreignTypes_lines plain standIn t (externalTypes_foreign found t member) }
  exact ⟨file, typePrefix, built, lines, resolved ▸ made, services, worded⟩

end Stub

end RpcBindings
